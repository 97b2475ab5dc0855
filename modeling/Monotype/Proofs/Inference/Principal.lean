import Monotype.Proofs.Entries
import Monotype.Proofs.Inference.Typing
import Monotype.Proofs.Store.Solutions

namespace Monotype

open Store

namespace Session

theorem substitute_ok {s : Session} {t u : Ty} (h : s.store.substitute t = .ok u) : substitute t s = .ok u s := by
  rw [substitute, h]

theorem substitute_error {s : Session} {t : Ty} {e : StoreError} (h : s.store.substitute t = .error e) :
    substitute t s = .error (.unify (.store e)) s := by
  rw [substitute, h]

theorem lookup_start (base : Scope) : (start base).env.lookup = Entries.get? base := by
  funext x
  simp only [start, Environment.lookup, Environment.scopes, List.nil_append, List.findSome?_cons, List.findSome?_nil]
  cases Entries.get? base x <;> rfl

end Session

namespace Expr

def emissionIn (e : Expr) (base : Scope) : Emission := e.emission (Entries.get? base) 0

/-- The session in which the equations of an expression are gathered. -/
def gathered (e : Expr) (base : Scope) : Session := (Session.start base).add (e.emissionIn base)

theorem toList_equations_gathered (e : Expr) (base : Scope) :
    (e.gathered base).equations.toList = (e.emissionIn base).equations := by
  simp [gathered, Session.add, Session.start]

def solving (e : Expr) (base : Scope) : Unifier :=
  { store := (e.gathered base).store, trace := (e.gathered base).trace.push (.solving (e.gathered base).equations.size) }

def solved (e : Expr) (base : Scope) (u : Unifier) : Session :=
  { e.gathered base with
    store := u.store
    trace := u.trace.push (.solved u.steps)
    equations := #[]
    solved := true }

theorem inferIn_eq (e : Expr) (base : Scope) :
    e.inferIn base =
      match (e.emissionIn base).outcome with
      | .ok unsolved =>
          match (e.emissionIn base).equations.forM Unifier.solve (e.solving base) with
          | .ok _ u =>
              match u.store.substitute unsolved with
              | .ok resolved =>
                  .ok ⟨unsolved, resolved, (e.emissionIn base).equations, u.store.slots.toList⟩
                    (e.solved base u)
              | .error err => .error (.unify (.store err)) (e.solved base u)
          | .error err u => .error (.unify err) { e.gathered base with store := u.store, trace := u.trace }
      | .error err => .error err (e.gathered base) := by
  have hinfer := Session.infer_eq_emit e (Session.start base)
  rw [Session.lookup_start] at hinfer
  change Session.infer e (Session.start base) = Session.emit (e.emissionIn base) (Session.start base) at hinfer
  unfold Session.emit at hinfer
  rw [← toList_equations_gathered]
  cases hr : (e.emissionIn base).outcome with
  | error err =>
      rw [hr] at hinfer
      exact bind_of_error hinfer
  | ok unsolved =>
      rw [hr] at hinfer
      refine (bind_of_ok hinfer).trans ((bind_of_ok rfl).trans ?_)
      have hsolve := Session.solve_eq (e.gathered base)
      change _ = (match (e.gathered base).equations.toList.forM Unifier.solve (e.solving base) with
        | .ok _ u => _
        | .error err u => _) at hsolve
      cases hs : (e.gathered base).equations.toList.forM Unifier.solve (e.solving base) with
      | error err u =>
          rw [hs] at hsolve
          exact bind_of_error hsolve
      | ok a u =>
          rw [hs] at hsolve
          refine (bind_of_ok hsolve).trans ?_
          dsimp only
          cases ht : u.store.substitute unsolved with
          | error err => exact bind_of_error (Session.substitute_error (s := e.solved base u) ht)
          | ok resolved => exact bind_of_ok (Session.substitute_ok (s := e.solved base u) ht)

theorem wellFormed_solving (e : Expr) (base : Scope) : (e.solving base).store.WellFormed :=
  WellFormed.empty.allocate _

theorem solves_solving (e : Expr) (base : Scope) (σ : Int → Ty) : (e.solving base).store.Solves σ := by
  refine Store.solves_allocate.2 fun i t ht => ?_
  simp [Session.start, Store.slot?] at ht

theorem covers_solving {e : Expr} {base : Scope} {t : Ty} (h : t.Below (0 + (e.emissionIn base).slots)) :
    (e.solving base).store.Covers t := by
  have hsize : (e.solving base).store.size = 0 + (e.emissionIn base).slots :=
    Session.size_add (Session.start base) _
  change t.Below (e.solving base).store.size
  rwa [hsize]

theorem inferIn_ok {e : Expr} {base : Scope} {res : Inferred} {s : Session} (h : e.inferIn base = .ok res s) :
    ∃ u, (e.emissionIn base).outcome = .ok res.unsolved ∧
      (e.emissionIn base).equations.forM Unifier.solve (e.solving base) = .ok () u ∧
      u.store.substitute res.unsolved = .ok res.resolved := by
  rw [inferIn_eq] at h
  split at h
  · next unsolved ho =>
      split at h
      · next u hs =>
          split at h
          · next resolved ht =>
              cases h
              exact ⟨u, ho, hs, ht⟩
          · cases h
      · cases h
  · cases h

end Expr

def Scope.Ground (base : Scope) : Prop := ∀ entry ∈ base, entry.2.vars = []

instance (base : Scope) : Decidable (Scope.Ground base) :=
  inferInstanceAs (Decidable (∀ entry ∈ base, entry.2.vars = []))

namespace Scope.Ground

variable {base : Scope}

theorem vars_eq_nil (hbase : Ground base) {x : String} {t : Ty} (h : Entries.get? base x = some t) : t.vars = [] := by
  obtain ⟨y, hy⟩ := Entries.mem_of_get? h
  exact hbase (y, t) hy

theorem below (hbase : Ground base) (n : Nat) : Context.Below (Entries.get? base) n := by
  intro x t ht i hi
  rw [hbase.vars_eq_nil ht] at hi
  cases hi

theorem apply_get? (hbase : Ground base) (σ : Int → Ty) :
    Context.apply (Entries.get? base) σ = Entries.get? base := by
  funext x
  unfold Context.apply
  cases hx : Entries.get? base x with
  | none => rfl
  | some t =>
      refine congrArg some (Ty.apply_eq_self fun i hi => ?_)
      rw [hbase.vars_eq_nil hx] at hi
      cases hi

end Scope.Ground

namespace Expr

variable {e : Expr} {base : Scope}

def answer (e : Expr) (base : Scope) : Except InferError Ty :=
  match e.inferIn base with
  | .ok res _ => .ok res.resolved
  | .error err _ => .error err

theorem inferIn_of_answer_ok {t : Ty} (h : e.answer base = .ok t) :
    ∃ res s, e.inferIn base = .ok res s ∧ res.resolved = t := by
  unfold answer at h
  split at h
  · next res s hres =>
      cases h
      exact ⟨res, s, hres, rfl⟩
  · cases h

theorem inferIn_of_answer_error {err : InferError} (h : e.answer base = .error err) :
    ∃ s, e.inferIn base = .error err s := by
  unfold answer at h
  split at h
  · cases h
  · next err' s hres =>
      cases h
      exact ⟨s, hres⟩

/-- Every instance of an inferred type is a type of the expression. -/
theorem hasType_of_inferIn (hbase : Scope.Ground base) {res : Inferred} {s : Session}
    (h : e.inferIn base = .ok res s) (σ : Int → Ty) : HasType (Entries.get? base) e (res.resolved.apply σ) := by
  obtain ⟨u, ho, hs, ht⟩ := inferIn_ok h
  obtain ⟨hext, hwf, hsol⟩ := Unifier.solveAll_ok (wellFormed_solving e base) hs
  have hcov := hext.covers_iff.2 (covers_solving (emission_below (hbase.below 0) ho).1)
  rw [substitute_eq hwf hcov] at ht
  have hσ := solves_value hwf σ
  have htype := emission_sound ho ((hsol _).1 hσ).2
  rwa [hbase.apply_get?, ← Ty.apply_apply, Except.ok.inj ht] at htype

theorem hasType_of_inferIn_twice :
    let base : Scope := [("x", .con "Int" [])]
    let e : Expr := .abs "f" (.abs "x" (.app (.var "f") (.app (.var "f") (.var "x"))))
    Scope.Ground base ∧ ∃ res s, e.inferIn base = .ok res s ∧
      res.resolved = .fn (.fn (.var 3) (.var 3)) (.fn (.var 3) (.var 3)) ∧
      ∀ σ, HasType (Entries.get? base) e (res.resolved.apply σ) := by
  intro base e
  have hbase : Scope.Ground base := by decide
  have hans : e.answer base = .ok (.fn (.fn (.var 3) (.var 3)) (.fn (.var 3) (.var 3))) := by decide +kernel
  obtain ⟨res, s, h, ht⟩ := inferIn_of_answer_ok hans
  exact ⟨hbase, res, s, h, ht, hasType_of_inferIn hbase h⟩

theorem covers_emission (hbase : Scope.Ground base) {t : Ty} (ho : (e.emissionIn base).outcome = .ok t) :
    (e.solving base).store.Covers t ∧ ∀ q ∈ (e.emissionIn base).equations,
      (e.solving base).store.Covers q.left ∧ (e.solving base).store.Covers q.right := by
  obtain ⟨ht, hq⟩ := emission_below (hbase.below 0) ho
  exact ⟨covers_solving ht, fun q h => ⟨covers_solving (hq q h).1, covers_solving (hq q h).2⟩⟩

/-- Solving succeeds as soon as one assignment satisfies all equations. -/
theorem exists_solved (hbase : Scope.Ground base) {t : Ty} (ho : (e.emissionIn base).outcome = .ok t)
    {σ : Int → Ty} (hσ : ∀ q ∈ (e.emissionIn base).equations, q.Holds σ) :
    ∃ u, (e.emissionIn base).equations.forM Unifier.solve (e.solving base) = .ok () u := by
  cases hs : (e.emissionIn base).equations.forM Unifier.solve (e.solving base) with
  | ok a u => exact ⟨u, rfl⟩
  | error err u =>
      have hno := (Unifier.solveAll_error (wellFormed_solving e base) (covers_emission hbase ho).2 hs).2
      exact absurd hσ (hno σ (solves_solving e base σ))

theorem exists_assignment (hbase : Scope.Ground base) {t : Ty} (h : HasType (Entries.get? base) e t) :
    ∃ u τ, (e.emissionIn base).outcome = .ok u ∧
      (∀ q ∈ (e.emissionIn base).equations, q.Holds τ) ∧ u.apply τ = t := by
  rw [← hbase.apply_get? Ty.var] at h
  obtain ⟨u, τ, hu, _, hq, ht⟩ := emission_complete (hbase.below 0) h
  exact ⟨u, τ, hu, hq, ht⟩

theorem exists_inferIn (hbase : Scope.Ground base) {t : Ty} (h : HasType (Entries.get? base) e t) :
    ∃ res s, e.inferIn base = .ok res s ∧
      ∀ t, HasType (Entries.get? base) e t → ∃ σ, res.resolved.apply σ = t := by
  obtain ⟨unsolved, σ, ho, hσ, _⟩ := exists_assignment hbase h
  obtain ⟨u, hs⟩ := exists_solved hbase ho hσ
  obtain ⟨hext, hwf, hsol⟩ := Unifier.solveAll_ok (wellFormed_solving e base) hs
  have hcov := hext.covers_iff.2 (covers_emission hbase ho).1
  have hres := inferIn_eq e base
  simp only [ho, hs, substitute_eq hwf hcov] at hres
  refine ⟨_, _, hres, fun t ht => ?_⟩
  obtain ⟨v, τ, hv, hτ, rfl⟩ := exists_assignment hbase ht
  obtain rfl : unsolved = v := Except.ok.inj (ho.symm.trans hv)
  -- the assignment behind a typing solves the final store, and so cannot tell the unsolved type from the answer
  have hτsol : u.store.Solves τ := (hsol τ).2 ⟨solves_solving e base τ, hτ⟩
  exact ⟨τ, hτsol.apply_resolved hwf unsolved⟩

/-- An expression with a type is accepted, and all its types are instances of the inferred one. A type error is
reported only if there is no type at all. -/
theorem inferIn_principal (hbase : Scope.Ground base) (e : Expr) :
    ((∃ t, HasType (Entries.get? base) e t) →
      ∃ res s, e.inferIn base = .ok res s ∧
        ∀ t, HasType (Entries.get? base) e t → ∃ σ, res.resolved.apply σ = t) ∧
      ∀ err s, e.inferIn base = .error (.unify err) s → ∀ t, ¬ HasType (Entries.get? base) e t := by
  refine ⟨fun ⟨t, ht⟩ => exists_inferIn hbase ht, fun err s herr t ht => ?_⟩
  obtain ⟨res, s', hok, _⟩ := exists_inferIn hbase ht
  rw [herr] at hok
  cases hok

theorem inferIn_principal_identity :
    let base : Scope := [("one", .con "Int" [])]
    let e : Expr := .abs "x" (.var "x")
    Scope.Ground base ∧
      (∃ res s, e.inferIn base = .ok res s ∧ ∃ σ, res.resolved.apply σ = .fn (.con "Int" []) (.con "Int" [])) ∧
      ∀ t, ¬ HasType (Entries.get? base) (.abs "x" (.app (.var "x") (.var "x"))) t := by
  intro base e
  have hbase : Scope.Ground base := by decide
  have htype : HasType (Entries.get? base) e (.fn (.con "Int" []) (.con "Int" [])) := .abs (.var rfl)
  obtain ⟨res, s, h, hall⟩ := (inferIn_principal hbase e).1 ⟨_, htype⟩
  have hans : (Expr.abs "x" (.app (.var "x") (.var "x"))).answer base =
      .error (.unify (.infinite 0 (.fn (.var 0) (.var 1)))) := by decide +kernel
  obtain ⟨s', h'⟩ := inferIn_of_answer_error hans
  exact ⟨hbase, ⟨res, s, h, hall _ htype⟩, (inferIn_principal hbase _).2 _ s' h'⟩

end Expr

end Monotype
