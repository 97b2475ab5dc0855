import Monotype.Proofs.Store.Comparison

namespace Monotype.Unifier

open Relation Store

abbrev Outcome := EStateM.Result UnifyError Unifier Unit

/-- The pairs are compared from the front. What a pair leads to comes before the pairs behind it. -/
inductive Run : Unifier → List (Ty × Ty) → Outcome → Prop
  | done (u) : Run u [] (.ok () u)
  | next {u l r ps rest res} (h : Compares u.store l r (.next ps)) (hrun : Run u.ticked (ps ++ rest) res) :
      Run u ((l, r) :: rest) res
  | bind {u l r i t rest res} (h : Compares u.store l r (.bind i t))
      (hrun : Run (u.ticked.assigned i t) rest res) : Run u ((l, r) :: rest) res
  | fail {u l r event e rest} (h : Compares u.store l r (.fail event e)) :
      Run u ((l, r) :: rest) (.error e (u.ticked.told event))

theorem Compares.bind_inv {s : Store} {l r : Ty} {i : Int} {t : Ty} (h : Compares s l r (.bind i t)) :
    s.slot? i = some (.var i) ∧ s.occurs i t = .ok false ∧ (l = .var i ∧ r = t ∨ l = t ∧ r = .var i) := by
  cases h with
  | left hne h =>
      cases h with
      | bind hi hh hn ho => exact ⟨hi, ho, .inl ⟨rfl, rfl⟩⟩
  | right h =>
      cases h with
      | bind hi hh hn ho => exact ⟨hi, ho, .inr ⟨rfl, rfl⟩⟩

theorem Compares.wellFormed_assign {s : Store} (hs : s.WellFormed) {l r : Ty} {i : Int} {t : Ty}
    (h : Compares s l r (.bind i t)) : (s.assign i t).WellFormed := by
  -- The occurs check looks at everything that is reached, so a binding that passes it closes no cycle.
  obtain ⟨hi, ho, _⟩ := h.bind_inv
  have hcov := covers_of_occurs_false ho
  refine hs.assign hi hcov fun j hj hpath => ?_
  have hmem : i ∈ (t.apply s.value).vars := Ty.mem_vars_apply.2 ⟨j, hj, mem_vars_value_of_path hs hi hpath⟩
  rw [occurs_eq hs i hcov, decide_eq_true hmem] at ho
  cases ho

theorem Run.wellFormed {u : Unifier} {ps : List (Ty × Ty)} {res : Outcome} (h : Run u ps res)
    (hu : u.store.WellFormed) : (final res).store.WellFormed := by
  induction h with
  | done u => exact hu
  | next h _ ih => exact ih hu
  | bind h _ ih => exact ih (h.wellFormed_assign hu)
  | fail h => simpa [final] using hu

theorem Run.extends {u : Unifier} {ps : List (Ty × Ty)} {res : Outcome} (h : Run u ps res) :
    u.store.Extends (final res).store := by
  induction h with
  | done u => exact .refl _
  | next h _ ih => exact ih
  | bind h _ ih => exact (Extends.assign h.bind_inv.1 _).trans ih
  | fail h => simpa [final] using Extends.refl _

def Resumes (first : Outcome) (rest : List (Ty × Ty)) (res : Outcome) : Prop :=
  match first with
  | .ok _ u => Run u rest res
  | .error e u => res = .error e u

theorem resumes_self (res : Outcome) : Resumes res [] res := by
  cases res with
  | ok a u => exact .done u
  | error e u => rfl

/-- The bound is enough for a pair: each hop goes up in one of the two heights, and neither exceeds the size. -/
def Enough (n : Nat) (s : Store) (l r : Ty) : Prop := 2 * s.size ≤ n + s.height l + s.height r

theorem Enough.extends {n : Nat} {s s' : Store} {l r : Ty} (h : Enough n s l r) (hext : s.Extends s') :
    Enough n s' l r := by
  have hl := hext.height_le l
  have hr := hext.height_le r
  unfold Enough at h ⊢
  rw [hext.size]
  omega

theorem Enough.symm {n : Nat} {s : Store} {l r : Ty} (h : Enough n s l r) : Enough n s r l := by
  unfold Enough at h ⊢
  omega

theorem Enough.args {n : Nat} {s : Store} {f g : String} {as bs : List Ty} (h : Enough n s (.con f as) (.con g bs))
    {p : Ty × Ty} (hp : p ∈ as.zip bs) : Enough n s p.1 p.2 := by
  obtain ⟨a, b⟩ := p
  obtain ⟨ha, hb⟩ := List.of_mem_zip hp
  have hl : s.height (.con f as) ≤ s.height a := height_con_le ha
  have hr : s.height (.con g bs) ≤ s.height b := height_con_le hb
  unfold Enough at h
  change 2 * s.size ≤ n + s.height a + s.height b
  omega

theorem Enough.follow {n : Nat} {s : Store} (hs : s.WellFormed) {i : Int} {t other : Ty}
    (ht : s.slot? i = some t) (hne : t ≠ .var i) (h : Enough n s (.var i) other) :
    ∃ m, n = m + 1 ∧ Enough m s t other := by
  -- A bound variable can only be met while hops are left.
  have hi := height_var_lt_size hs ⟨t, ht, hne⟩
  have hlt := height_var_lt_slot hs ht hne
  have hother := s.height_le_size other
  unfold Enough at h ⊢
  exact ⟨n - 1, by omega, by omega⟩

def Simulates (n : Nat) (f : Ty → Ty → UnifyM Unit) (l r : Ty) : Prop :=
  ∀ u rest res, u.store.WellFormed → Enough n u.store l r → Resumes (f l r u) rest res → Run u ((l, r) :: rest) res

theorem run_forM {n : Nat} {f : Ty → Ty → UnifyM Unit} {ps : List (Ty × Ty)}
    (hf : ∀ p ∈ ps, Simulates n f p.1 p.2) {u : Unifier} {rest : List (Ty × Ty)} {res : Outcome}
    (hu : u.store.WellFormed) (hn : ∀ p ∈ ps, Enough n u.store p.1 p.2)
    (h : Resumes (ps.forM (fun p => f p.1 p.2) u) rest res) : Run u (ps ++ rest) res := by
  induction ps generalizing u with
  | nil => exact h
  | cons p ps ih =>
      have hp := hf p List.mem_cons_self u
      have hnp := hn p List.mem_cons_self
      change Resumes ((f p.1 p.2 >>= fun _ => ps.forM fun p => f p.1 p.2) u) rest res at h
      cases hfirst : f p.1 p.2 u with
      | error e u' =>
          rw [bind_of_error hfirst] at h
          exact hp _ _ hu hnp (hfirst ▸ h)
      | ok a u' =>
          rw [bind_of_ok hfirst] at h
          -- the pairs behind start from what the first pair leaves
          have hrun : Run u [p] (.ok a u') := hp [] _ hu hnp (hfirst ▸ resumes_self _)
          have hrest := ih (fun q hq => hf q (List.mem_cons_of_mem p hq)) (hrun.wellFormed hu)
            (fun q hq => (hn q (List.mem_cons_of_mem p hq)).extends hrun.extends) h
          exact hp _ _ hu hnp (by rw [hfirst]; exact hrest)

theorem run_of_varMove {n : Nat} {next : Ty → Ty → UnifyM Unit} (hnext : ∀ m, n = m + 1 → ∀ l r, Simulates m next l r)
    {u : Unifier} {i : Int} {other l r : Ty} {m : Move} (hm : VarMove u.store i other m)
    (hcmp : Compares u.store l r m) {rest : List (Ty × Ty)} {res : Outcome} (hu : u.store.WellFormed)
    (hn : Enough n u.store (.var i) other) (h : Resumes (m.act next u.ticked) rest res) :
    Run u ((l, r) :: rest) res := by
  cases hm with
  | unallocated | headFault | occursFault | infinite | infiniteFault =>
      cases h
      exact .fail hcmp
  | chain => exact .next hcmp h
  | bind => exact .bind hcmp h
  | follow ht hne =>
      obtain ⟨m, rfl, hm⟩ := hn.follow hu ht hne
      rw [act_follow] at h
      exact .next hcmp (hnext m rfl _ _ u.ticked rest res hu hm h)

theorem simulates_unifyStep {n : Nat} {next : Ty → Ty → UnifyM Unit}
    (hnext : ∀ m, n = m + 1 → ∀ l r, Simulates m next l r) (l r : Ty) : Simulates n (unifyStep next) l r := by
  induction l generalizing r with
  | var i =>
      intro u rest res hu hn h
      rw [unifyStep_var] at h
      split at h
      · next he =>
          subst he
          exact .next (.same i) h
      · next he =>
          obtain ⟨m, hm, hact⟩ := unifyVar_act next i r u.ticked
          rw [hact] at h
          exact run_of_varMove (u := u) hnext hm (.left he hm) hu hn h
  | con f as ih =>
      intro u rest res hu hn h
      cases r with
      | var j =>
          rw [unifyStep_con_var] at h
          obtain ⟨m, hm, hact⟩ := unifyVar_act next j (.con f as) u.ticked
          rw [hact] at h
          exact run_of_varMove (u := u) hnext hm (.right hm) hu hn.symm h
      | con g bs =>
          rw [unifyStep_con_con] at h
          split at h
          · next he =>
              obtain ⟨rfl, hlen⟩ := he
              rw [unifyStepArgs_eq next hlen] at h
              refine .next (.args hlen) (run_forM (fun p hp => ?_) hu (fun p hp => hn.args hp) h)
              exact ih p.1 (List.of_mem_zip hp).1 p.2
          · next he =>
              obtain ⟨e, hcmp, hact⟩ := mismatch_fail he u.ticked
              rw [hact] at h
              cases h
              exact .fail (u := u) hcmp

theorem simulates_unifyWithin (n : Nat) (l r : Ty) : Simulates n (unifyWithin n) l r := by
  induction n generalizing l r with
  | zero => exact simulates_unifyStep (fun m hm => by omega) l r
  | succ n ih =>
      refine simulates_unifyStep (fun m hm => ?_) l r
      obtain rfl : n = m := by omega
      exact ih

/-- Twice the number of slots is enough for every pair of types. -/
theorem run_unify (l r : Ty) {u : Unifier} (hu : u.store.WellFormed) : Run u [(l, r)] (unify l r u) := by
  have hn : Enough (2 * u.store.size) u.store l r := by
    unfold Enough
    omega
  exact simulates_unifyWithin (2 * u.store.size) l r u [] _ hu hn (resumes_self _)

end Monotype.Unifier

namespace Monotype.Store

/-- The stores that new variables and unifications lead to, whether the unifications succeed or fail. -/
inductive Reachable : Store → Prop
  | empty : Reachable {}
  | fresh {s} (h : Reachable s) : Reachable s.fresh
  | unify {u : Unifier} (h : Reachable u.store) (l r : Ty) : Reachable (final (Unifier.unify l r u)).store

theorem Reachable.solveAll (es : List Equation) {u : Unifier} (h : u.store.Reachable) :
    (final (es.forM Unifier.solve u)).store.Reachable := by
  induction es generalizing u with
  | nil => exact h
  | cons e es ih =>
      have hfirst : (final (Unifier.solve e u)).store.Reachable := h.unify e.left e.right
      change (final ((Unifier.solve e >>= fun _ => es.forM Unifier.solve) u)).store.Reachable
      cases he : Unifier.solve e u with
      | error err v =>
          rw [he] at hfirst
          rwa [bind_of_error he]
      | ok a v =>
          rw [he] at hfirst
          rw [bind_of_ok he]
          exact ih hfirst

theorem Reachable.wellFormed {s : Store} (h : s.Reachable) : s.WellFormed := by
  induction h with
  | empty => exact .empty
  | fresh _ ih => exact ih.fresh
  | unify _ l r ih => exact (Unifier.run_unify l r ih).wellFormed ih

end Monotype.Store
