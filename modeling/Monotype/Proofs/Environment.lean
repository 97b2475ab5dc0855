import Monotype.Environment.Program
import Mathlib.Tactic.Common

namespace Monotype.Environment

theorem depth_extend (env : Environment) (name : String) (t : Ty) : (env.extend name t).depth = env.depth := by
  rw [extend]
  split
  next h => rw [depth, depth, h]
  next h => rw [depth, depth, h, List.length_cons, List.length_cons]

theorem length_scopes (env : Environment) : env.scopes.length = env.depth := by
  rw [scopes, depth, List.length_append, List.length_singleton]

theorem pop_of_depth_one {env : Environment} (h : env.depth = 1) : env.pop = .error .baseScope := by
  have hinner : env.inner = [] := List.eq_nil_of_length_eq_zero (Nat.succ.inj h)
  rw [pop, hinner]

theorem exists_pop {env : Environment} {n : Nat} (h : env.depth = n + 2) :
    ∃ env', env.pop = .ok env' ∧ env'.scopes = env.scopes.tail ∧ env'.depth = n + 1 := by
  obtain ⟨scope, inner, hinner⟩ := List.exists_cons_of_length_eq_add_one (Nat.succ.inj h)
  refine ⟨{ env with inner }, by rw [pop, hinner], by rw [scopes, scopes, hinner]; rfl, ?_⟩
  rw [depth, hinner] at h
  exact Nat.succ.inj h

/-- What a step can do to an environment. -/
inductive Moves (env : Environment) : Environment → Prop
  | stay : Moves env env
  | push : Moves env env.push
  | pop {env'} (h : env.pop = .ok env') : Moves env env'
  | extend (name : String) (t : Ty) : Moves env (env.extend name t)

section

variable (leaves : Failure → Bool)

theorem runStep_cases (env : Environment) {step : Step} (h : ∀ body, step ≠ .block body) :
    ∃ answer, (runStep leaves env step).records = [⟨answer, (runStep leaves env step).env⟩] ∧
      Moves env (runStep leaves env step).env := by
  cases step with
  | block body => exact absurd rfl (h body)
  | push => exact ⟨_, rfl, .push⟩
  | pop =>
      rw [runStep]
      cases hpop : env.pop with
      | ok env' => exact ⟨_, rfl, .pop hpop⟩
      | error e => exact ⟨_, rfl, .stay⟩
  | extend name t =>
      cases t with
      | ok t => exact ⟨_, rfl, .extend name t⟩
      | error e => exact ⟨_, rfl, .stay⟩
  | extendOrigin name t => cases t <;> exact ⟨_, rfl, .stay⟩
  | lookup | contains | base | render | raise => exact ⟨_, rfl, .stay⟩

theorem runBody_of_left {env : Environment} {step : Step} (h : (runStep leaves env step).left.isSome = true)
    (steps : List Step) : runBody leaves env (step :: steps) = runStep leaves env step := by
  rw [runBody]
  exact if_pos h

theorem runBody_of_ended {env : Environment} {step : Step} (h : ¬ (runStep leaves env step).left.isSome = true)
    (steps : List Step) :
    runBody leaves env (step :: steps) =
      let first := runStep leaves env step
      let rest := runBody leaves first.env steps
      { rest with records := first.records ++ rest.records } := by
  rw [runBody]
  exact if_neg h

theorem close_cases (body : Run) :
    ∃ answer, (body.close leaves).records = body.records ++ [⟨answer, (body.close leaves).env⟩] ∧
      Moves body.env (body.close leaves).env := by
  rw [Run.close]
  cases hpop : body.env.pop with
  | ok env => exact ⟨_, rfl, .pop hpop⟩
  | error e => exact ⟨_, rfl, .stay⟩

theorem close_of_pop {body : Run} {env : Environment} (h : body.env.pop = .ok env) :
    (body.close leaves).env = env ∧ (body.close leaves).left = body.left := by
  rw [Run.close, h]
  exact ⟨rfl, rfl⟩

end

structure Run.All (P : Environment → Prop) (r : Run) : Prop where
  records : ∀ s ∈ r.records, P s.env
  env : P r.env

section

variable {leaves : Failure → Bool} {P : Environment → Prop}

theorem all_single (hmoves : ∀ {env env'}, Moves env env' → P env → P env') {env : Environment} (h : P env)
    {step : Step} (hstep : ∀ body, step ≠ .block body) : (runStep leaves env step).All P := by
  obtain ⟨answer, hrecords, hmove⟩ := runStep_cases leaves env hstep
  have hend := hmoves hmove h
  exact ⟨hrecords ▸ List.forall_mem_singleton.2 hend, hend⟩

mutual

theorem all_runStep (hmoves : ∀ {env env'}, Moves env env' → P env → P env') {env : Environment} (h : P env)
    (step : Step) : (runStep leaves env step).All P := by
  match step with
  | .block body =>
      have hbody := all_runBody hmoves (hmoves .push h) body
      obtain ⟨answer, hrecords, hmove⟩ := close_cases leaves (runBody leaves env.push body)
      have hend := hmoves hmove hbody.env
      rw [runStep]
      refine ⟨?_, hend⟩
      rw [hrecords, List.forall_mem_append]
      exact ⟨hbody.records, List.forall_mem_singleton.2 hend⟩
  | .push | .pop | .extend _ _ | .extendOrigin _ _ | .lookup _ | .contains _ | .base | .render | .raise =>
      exact all_single hmoves h nofun

theorem all_runBody (hmoves : ∀ {env env'}, Moves env env' → P env → P env') {env : Environment} (h : P env)
    (body : List Step) : (runBody leaves env body).All P := by
  match body with
  | [] => exact ⟨nofun, h⟩
  | step :: steps =>
      have hfirst := all_runStep hmoves h step
      by_cases hleft : (runStep leaves env step).left.isSome = true
      · rw [runBody_of_left leaves hleft]
        exact hfirst
      · have hrest := all_runBody hmoves hfirst.env steps
        rw [runBody_of_ended leaves hleft]
        exact ⟨List.forall_mem_append.2 ⟨hfirst.records, hrest.records⟩, hrest.env⟩

end

theorem all_runWith (hmoves : ∀ {env env'}, Moves env env' → P env → P env') {env : Environment} (h : P env)
    (steps : List Step) : ∀ r ∈ runWith leaves env steps, P r.env := by
  induction steps generalizing env with
  | nil => exact nofun
  | cons step steps ih =>
      have hfirst : (runStep leaves env step).All P := all_runStep hmoves h step
      exact List.forall_mem_append.2 ⟨hfirst.records, ih hfirst.env⟩

end

/-- Types were put under names, and nothing else happened. -/
def Grows (s s' : Scope) : Prop := ∃ named : Scope, s' = named.foldl (fun s e => Entries.put s e.1 e.2) s

theorem Grows.put {s s' : Scope} (h : Grows s s') (name : String) (t : Ty) : Grows s (Entries.put s' name t) := by
  obtain ⟨named, rfl⟩ := h
  exact ⟨named ++ [(name, t)], by rw [List.foldl_append]; rfl⟩

theorem Moves.grows {env env' : Environment} (h : Moves env env') {s : Scope} (hs : Grows s env.base) :
    Grows s env'.base := by
  cases h with
  | stay | push => exact hs
  | pop hpop =>
      rw [Environment.pop] at hpop
      split at hpop <;> cases hpop
      exact hs
  | extend name t =>
      rw [Environment.extend]
      split
      · exact hs.put name t
      · exact hs

theorem getLast?_scopes (env : Environment) : env.scopes.getLast? = some env.base := List.getLast?_concat

/-- The scopes of an environment are those of `outer`, with one or more above them. -/
structure Above (outer env : Environment) : Prop where
  base : env.base = outer.base
  inner : ∃ scope top, env.inner = scope :: top ++ outer.inner

namespace Above

variable {outer env env' : Environment}

theorem push_self (env : Environment) : Above env env.push := ⟨rfl, [], [], rfl⟩

theorem depth_lt (h : Above outer env) : outer.depth < env.depth := by
  obtain ⟨scope, top, hinner⟩ := h.inner
  rw [depth, depth, hinner, List.length_append, List.length_cons]
  omega

theorem moves (h : Above outer env) (hmoves : Moves env env') (hdepth : outer.depth < env'.depth) :
    Above outer env' := by
  -- A step keeps what is below, unless it brings the depth down.
  obtain ⟨hbase, scope, top, hinner⟩ := h
  cases hmoves with
  | stay => exact ⟨hbase, scope, top, hinner⟩
  | push => exact ⟨hbase, [], scope :: top, by rw [push, hinner]; rfl⟩
  | pop hpop =>
      rw [pop, hinner] at hpop
      cases hpop
      cases top with
      | nil => exact absurd hdepth (Nat.lt_irrefl _)
      | cons next top => exact ⟨hbase, next, top, rfl⟩
  | extend name t =>
      rw [extend, hinner]
      exact ⟨hbase, Entries.put scope name t, top, rfl⟩

theorem pop_eq (h : Above outer env) (hdepth : env.depth = outer.depth + 1) : env.pop = .ok outer := by
  obtain ⟨hbase, scope, top, hinner⟩ := h
  have htop : top = [] := by
    rw [depth, depth, hinner, List.length_append, List.length_cons] at hdepth
    exact List.eq_nil_of_length_eq_zero (by omega)
  subst htop
  rw [pop, hinner, hbase]
  rfl

variable {leaves : Failure → Bool}

theorem after_single (h : Above outer env) {step : Step} (hstep : ∀ body, step ≠ .block body)
    (hdeep : ∀ r ∈ (runStep leaves env step).records, outer.depth < r.env.depth) :
    Above outer (runStep leaves env step).env := by
  obtain ⟨answer, hrecords, hmoves⟩ := runStep_cases leaves env hstep
  rw [hrecords, List.forall_mem_singleton] at hdeep
  exact h.moves hmoves hdeep

mutual

theorem after_step {env : Environment} (h : Above outer env) (step : Step)
    (hdeep : ∀ r ∈ (runStep leaves env step).records, outer.depth < r.env.depth) :
    Above outer (runStep leaves env step).env := by
  match step with
  | .block body =>
      rw [runStep] at hdeep ⊢
      obtain ⟨answer, hrecords, hmoves⟩ := close_cases leaves (runBody leaves env.push body)
      rw [hrecords, List.forall_mem_append, List.forall_mem_singleton] at hdeep
      -- Opening the scope of the block leaves no record, but it only goes up; closing it is the last record.
      have hpush : Above outer env.push := h.moves .push (Nat.lt_succ_of_lt h.depth_lt)
      exact (hpush.after_body body hdeep.1).moves hmoves hdeep.2
  | .push | .pop | .extend _ _ | .extendOrigin _ _ | .lookup _ | .contains _ | .base | .render | .raise =>
      exact h.after_single nofun hdeep

theorem after_body {env : Environment} (h : Above outer env) (body : List Step)
    (hdeep : ∀ r ∈ (runBody leaves env body).records, outer.depth < r.env.depth) :
    Above outer (runBody leaves env body).env := by
  match body with
  | [] => exact h
  | step :: steps =>
      by_cases hleft : (runStep leaves env step).left.isSome = true
      · rw [runBody_of_left leaves hleft] at hdeep ⊢
        exact h.after_step step hdeep
      · rw [runBody_of_ended leaves hleft] at hdeep ⊢
        rw [List.forall_mem_append] at hdeep
        exact (h.after_step step hdeep.1).after_body steps hdeep.2

end

end Above

namespace Step

mutual

def structured : Step → Bool
  | push => false
  | pop => false
  | block body => structuredIn body
  | _ => true

def structuredIn : List Step → Bool
  | [] => true
  | step :: steps => step.structured && structuredIn steps

end

end Step

/-- A run neither goes below a depth nor ends elsewhere. -/
structure Run.Level (r : Run) (n : Nat) : Prop where
  records : ∀ s ∈ r.records, n ≤ s.env.depth
  env : r.env.depth = n

section

variable {leaves : Failure → Bool}

theorem Run.Level.close {body : Run} {n : Nat} (h : body.Level (n + 2)) : (body.close leaves).Level (n + 1) := by
  obtain ⟨env, hpop, -, hdepth⟩ := exists_pop h.env
  obtain ⟨answer, hrecords, -⟩ := close_cases leaves body
  have henv := (close_of_pop leaves hpop).1
  rw [henv] at hrecords
  refine ⟨?_, henv ▸ hdepth⟩
  rw [hrecords, List.forall_mem_append, List.forall_mem_singleton]
  exact ⟨fun r hr => Nat.le_of_succ_le (h.records r hr), Nat.le_of_eq hdepth.symm⟩

theorem Run.level_single (answer : Answer) (env : Environment) : (Run.single answer env).Level env.depth :=
  ⟨by simp [Run.single], rfl⟩

theorem Run.level_failed (f : Failure) (env : Environment) : (Run.failed leaves f env).Level env.depth :=
  ⟨by simp [Run.failed], rfl⟩

mutual

theorem level_runStep (step : Step) (h : step.structured = true) (env : Environment) :
    (runStep leaves env step).Level env.depth := by
  match step with
  | .push | .pop => cases h
  | .block body =>
      rw [runStep]
      exact (level_runBody body h env.push).close
  | .extend name (.ok t) =>
      have hextend := Run.level_single .done (env.extend name t)
      rwa [depth_extend] at hextend
  | .extend _ (.error _) | .extendOrigin _ (.error _) | .raise => exact Run.level_failed _ env
  | .extendOrigin _ (.ok _) | .lookup _ | .contains _ | .base | .render => exact Run.level_single _ env

theorem level_runBody (body : List Step) (h : Step.structuredIn body = true) (env : Environment) :
    (runBody leaves env body).Level env.depth := by
  match body with
  | [] => exact ⟨by simp [runBody], rfl⟩
  | step :: steps =>
      rw [Step.structuredIn, Bool.and_eq_true] at h
      have hstep := level_runStep step h.1 env
      by_cases hleft : (runStep leaves env step).left.isSome = true
      · rw [runBody_of_left leaves hleft]
        exact hstep
      · have hsteps := level_runBody steps h.2 (runStep leaves env step).env
        rw [hstep.env] at hsteps
        rw [runBody_of_ended leaves hleft]
        exact ⟨List.forall_mem_append.2 ⟨hstep.records, hsteps.records⟩, hsteps.env⟩

end

end

section

variable {leaves : Failure → Bool} {env : Environment} {body : List Step}

theorem runStep_pop_of_depth_one (h : env.depth = 1) :
    runStep leaves env .pop = .failed leaves (.scope .baseScope) env := by
  rw [runStep, pop_of_depth_one h]

theorem scopes_runStep_pop (h : 1 < env.depth) : (runStep leaves env .pop).env.scopes = env.scopes.tail := by
  obtain ⟨n, hn⟩ := Nat.exists_eq_add_of_le h
  have hdepth : env.depth = n + 2 := by omega
  obtain ⟨env', hpop, hscopes, -⟩ := exists_pop hdepth
  rw [runStep, hpop]
  exact hscopes

theorem block_of_depth_one (h : (runBody leaves env.push body).env.depth = 1) :
    runStep leaves env (.block body) =
      let r := runBody leaves env.push body
      ⟨r.records ++ [⟨.failed (.scope .baseScope), r.env⟩], r.env, Option.guard leaves (.scope .baseScope)⟩ := by
  rw [runStep, Run.close, pop_of_depth_one h]

theorem block_of_level (h : (runBody leaves env.push body).Level (env.depth + 1)) :
    (runStep leaves env (.block body)).env = env ∧
      (runStep leaves env (.block body)).left = (runBody leaves env.push body).left := by
  have habove : Above env (runBody leaves env.push body).env := (Above.push_self env).after_body body h.records
  rw [runStep]
  exact close_of_pop leaves (habove.pop_eq h.env)

end

/-- The scope at the bottom is there at all times, and names are only put into it: closing it fails and changes nothing,
and any other scope that is closed is the innermost. A block whose body keeps the block's scope and leaves nothing above
it gives back the scopes that it found, and is left as its body was. The bodies in which blocks alone open and close
scopes are of this kind. -/
theorem scopes_disciplined (leaves : Failure → Bool) (env : Environment) :
    (∀ steps, ∀ r ∈ runWith leaves env steps, 0 < r.env.scopes.length ∧
      ∃ bottom, r.env.scopes.getLast? = some bottom ∧ Grows env.base bottom) ∧
    (env.scopes.length = 1 → runStep leaves env .pop = .failed leaves (.scope .baseScope) env) ∧
    (1 < env.scopes.length → (runStep leaves env .pop).env.scopes = env.scopes.tail) ∧
    ∀ body r, runBody leaves env.push body = r →
      (r.env.scopes.length = 1 →
        runStep leaves env (.block body) =
          ⟨r.records ++ [⟨.failed (.scope .baseScope), r.env⟩], r.env, Option.guard leaves (.scope .baseScope)⟩) ∧
      (r.Level (env.depth + 1) →
        (runStep leaves env (.block body)).env.scopes = env.scopes ∧
        (∀ name, (runStep leaves env (.block body)).env.lookup name = env.lookup name) ∧
        (runStep leaves env (.block body)).left = r.left) ∧
      (Step.structuredIn body = true → r.Level (env.depth + 1)) := by
  simp only [length_scopes]
  refine ⟨fun steps r hr => ?_, runStep_pop_of_depth_one, scopes_runStep_pop, ?_⟩
  · have hbase : Grows env.base r.env.base :=
      all_runWith (P := fun env' => Grows env.base env'.base) (fun h hs => h.grows hs) ⟨[], rfl⟩ steps r hr
    exact ⟨Nat.succ_pos _, r.env.base, getLast?_scopes r.env, hbase⟩
  rintro body _ rfl
  refine ⟨block_of_depth_one, fun h => ?_, fun h => level_runBody body h env.push⟩
  obtain ⟨henv, hleft⟩ := block_of_level h
  rw [henv]
  exact ⟨rfl, fun name => rfl, hleft⟩

theorem scopes_disciplined_raise :
    let leaves : Failure → Bool := fun _ => true
    let env : Environment := { base := [("x", .con "Int" [])] }
    let shadow : Step := .extend "x" (.ok (.con "Bool" []))
    let body : List Step := [.push, shadow, .pop, shadow, .block [.lookup "x", .block [shadow, .raise]], .pop]
    let last : Record := ⟨.failed (.scope .baseScope), { base := [("x", .con "Bool" [])] }⟩
    (last ∈ runWith leaves env [.block [.pop, shadow]] ∧ 0 < last.env.scopes.length ∧
      ∃ bottom, last.env.scopes.getLast? = some bottom ∧ Grows env.base bottom) ∧
    (env.scopes.length = 1 ∧ runStep leaves env .pop = .failed leaves (.scope .baseScope) env) ∧
    (1 < env.push.scopes.length ∧ (runStep leaves env.push .pop).env.scopes = env.push.scopes.tail) ∧
    ((runBody leaves env.push [.pop]).env.scopes.length = 1 ∧
      (runStep leaves env (.block [.pop])).left = some (.scope .baseScope)) ∧
    ((runBody leaves env.push body).Level (env.depth + 1) ∧
      (runStep leaves env (.block body)).env.scopes = env.scopes ∧
      (runStep leaves env (.block body)).left = some .raised) ∧
    (Step.structuredIn [shadow, .block [.raise]] = true ∧
      (runBody leaves env.push [shadow, .block [.raise]]).Level (env.depth + 1)) := by
  intro leaves env shadow body last
  obtain ⟨hbottom, hbase, -, hblock⟩ := scopes_disciplined leaves env
  have hlast : last ∈ runWith leaves env [.block [.pop, shadow]] := by decide
  obtain ⟨-, -, hinner, -⟩ := scopes_disciplined leaves env.push
  have hclosed := (hblock [.pop] _ rfl).1 (by decide)
  have hlevel : (runBody leaves env.push body).Level (env.depth + 1) := ⟨by decide, by decide⟩
  obtain ⟨hscopes, -, hleft⟩ := (hblock body _ rfl).2.1 hlevel
  refine ⟨⟨hlast, hbottom _ last hlast⟩, ⟨rfl, hbase rfl⟩, ⟨by decide, hinner (by decide)⟩, ⟨by decide, ?_⟩,
    ⟨hlevel, hscopes, ?_⟩, by decide, ?_⟩
  · rw [hclosed]
    rfl
  · rw [hleft]
    decide
  · exact (hblock _ _ rfl).2.2 (by decide)

end Monotype.Environment
