import Monotype.Proofs.Inference.Schedule
import Monotype.Proofs.Store.Conflict
import Mathlib.Logic.Function.Iterate

namespace Monotype.Session

open Store

variable {s s' : Session} {err : InferError}

theorem solve_error (h : solve s = .error err s') :
    ∃ e u, s.equations.toList.forM Unifier.solve s.unifier = .error e u ∧ err = .unify e ∧
      s' = { s with store := u.store, trace := u.trace } := by
  rw [solve_eq, ← unifier] at h
  split at h
  · cases h
  · next e u hu =>
      cases h
      exact ⟨e, u, hu, rfl, rfl⟩

theorem solve_again (hs : s.store.WellFormed)
    (hcov : ∀ q ∈ s.equations.toList, s.store.Covers q.left ∧ s.store.Covers q.right) (h : solve s = .error err s')
    (trace : Trace) : ∃ trace', solve { s' with trace } = .error err { s' with trace := trace' } := by
  obtain ⟨e, u, hu, rfl, rfl⟩ := solve_error h
  let retried : Session := { s with store := u.store, trace }
  obtain ⟨w, hw, hstore⟩ := Unifier.solveAll_again (v := retried.unifier) hs hcov hu rfl
  have hagain : solve retried = .error (.unify e) { retried with store := w.store, trace := w.trace } := by
    rw [solve_eq, ← unifier, hw]
  rw [hstore] at hagain
  exact ⟨w.trace, hagain⟩

theorem iterate_solve (hs : s.store.WellFormed)
    (hcov : ∀ q ∈ s.equations.toList, s.store.Covers q.left ∧ s.store.Covers q.right) (h : solve s = .error err s')
    (n : Nat) : ∃ trace, (fun s => final (solve s))^[n] s' = { s' with trace } := by
  induction n with
  | zero => exact ⟨s'.trace, rfl⟩
  | succ n ih =>
      obtain ⟨trace, ih⟩ := ih
      obtain ⟨trace', hagain⟩ := solve_again hs hcov h trace
      refine ⟨trace', ?_⟩
      rw [Function.iterate_succ_apply', ih, hagain]
      rfl

/-- Where two types resolve to one, unifying them changes nothing; where they could not be unified, a second attempt
ends with the same error and changes nothing. So a session whose equations could not be solved keeps them, its
environment and its mark. The equations in front of the one that failed hold in the store that is left, and every
further attempt fails with the same error and leaves the store as it is. -/
theorem solving_repeats :
    (∀ s : Store, s.Reachable → ∀ l r, s.Covers l → s.Covers r → ∀ steps trace,
      (s.substitute l = s.substitute r → ∃ u, Unifier.unify l r ⟨s, steps, trace⟩ = .ok () u ∧ u.store = s) ∧
        ∀ e u, Unifier.unify l r ⟨s, steps, trace⟩ = .error e u → ∀ v : Unifier, v.store = u.store →
          ∃ w, Unifier.unify l r v = .error e w ∧ w.store = u.store) ∧
    ∀ s : Session, s.store.Reachable →
      (∀ q ∈ s.equations.toList, s.store.Covers q.left ∧ s.store.Covers q.right) → ∀ err s', solve s = .error err s' →
        s'.equations = s.equations ∧ s'.solved = s.solved ∧ s'.env = s.env ∧
        (∃ done q rest e u v, s.equations.toList = done ++ q :: rest ∧ done.forM Unifier.solve s.unifier = .ok () u ∧
          Unifier.solve q u = .error e v ∧ err = .unify e ∧ s'.store = v.store ∧
          ∀ p ∈ done, ∃ t, s'.store.substitute p.left = .ok t ∧ s'.store.substitute p.right = .ok t) ∧
        ∀ n, ∃ trace, solve ((fun s => final (solve s))^[n] s') = .error err { s' with trace } := by
  constructor
  · intro s hs l r hl hr steps trace
    have hwf := hs.wellFormed
    constructor
    · exact fun h => Unifier.unify_settled hwf hl hr ((Unifier.settled_iff hwf hl hr).2 h)
    · intro e u h v hv
      obtain ⟨w, hw, hstore⟩ := Unifier.unify_again (u := ⟨s, steps, trace⟩) hwf hl hr h hv
      exact ⟨w, hw, hstore.trans hv⟩
  · intro s hs hcov err s' h
    have hwf := hs.wellFormed
    have hrepeat (n : Nat) : ∃ trace, solve ((fun s => final (solve s))^[n] s') = .error err { s' with trace } := by
      obtain ⟨trace, hn⟩ := iterate_solve hwf hcov h n
      rw [hn]
      exact solve_again hwf hcov h trace
    obtain ⟨e, v, hv, rfl, rfl⟩ := solve_error h
    refine ⟨rfl, rfl, rfl, ?_, hrepeat⟩
    obtain ⟨done, q, rest, u, hes, hdone, hq⟩ := Unifier.exists_failing hv
    refine ⟨done, q, rest, e, u, v, hes, hdone, hq, rfl, rfl, fun p hp => ?_⟩
    obtain ⟨hext, hend, hsettled⟩ := Unifier.settled_of_failing hwf hdone hq
    obtain ⟨hl, hr⟩ := hcov p (by simp [hes, hp])
    have hl' := hext.covers_iff.2 hl
    have hr' := hext.covers_iff.2 hr
    have hsame := (Unifier.settled_iff hend hl' hr').1 (hsettled p hp)
    exact ⟨_, substitute_eq hend hl', hsame.symm.trans (substitute_eq hend hl')⟩

theorem solving_repeats_mismatch :
    let int : Ty := .con "Int" []
    let bool : Ty := .con "Bool" []
    let first : Equation := ⟨.var 0, .fn (.var 1) int⟩
    let second : Equation := ⟨.con "Pair" [.var 1, .var 0], .con "Pair" [bool, bool]⟩
    let s : Session := { store := ({} : Store).fresh.fresh.fresh, equations := #[first, second, ⟨.var 2, int⟩] }
    let e : UnifyError := .mismatch "Fun" [bool, int] "Bool" []
    let left : Store := ⟨#[.fn (.var 1) int, bool, .var 2]⟩
    s.store.Reachable ∧ (∀ q ∈ s.equations.toList, s.store.Covers q.left ∧ s.store.Covers q.right) ∧
      (∃ s', solve s = .error (.unify e) s' ∧ s'.store = left ∧
        ∀ n, ∃ trace, solve ((fun s => final (solve s))^[n] s') = .error (.unify e) { s' with trace }) ∧
      left.Reachable ∧ left.substitute first.left = left.substitute first.right ∧
      (∃ u, Unifier.unify first.left first.right ⟨left, 0, #[]⟩ = .ok () u ∧ u.store = left) ∧
      ∃ u w, Unifier.unify second.left second.right ⟨left, 0, #[]⟩ = .error e u ∧
        Unifier.unify second.left second.right u = .error e w ∧ w.store = u.store := by
  intro int bool first second s e left
  have hs : s.store.Reachable := .fresh (.fresh (.fresh .empty))
  have hcov : ∀ q ∈ s.equations.toList, s.store.Covers q.left ∧ s.store.Covers q.right := by decide
  have hsolve : solve s = .error (.unify e) _ := rfl
  have hleft : left.Reachable :=
    .unify (u := ⟨_, 0, #[]⟩) (.unify (u := ⟨_, 0, #[]⟩) hs first.left first.right) (.var 1) bool
  have heq : left.substitute first.left = left.substitute first.right := rfl
  have hfail : Unifier.unify second.left second.right ⟨left, 0, #[]⟩ = .error e _ := rfl
  obtain ⟨hunify, hsession⟩ := solving_repeats
  obtain ⟨hsame, -⟩ := hunify left hleft first.left first.right (by decide) (by decide) 0 #[]
  obtain ⟨-, hagain⟩ := hunify left hleft second.left second.right (by decide) (by decide) 0 #[]
  obtain ⟨w, hw, hstore⟩ := hagain e _ hfail _ rfl
  obtain ⟨-, -, -, -, hrepeat⟩ := hsession s hs hcov _ _ hsolve
  exact ⟨hs, hcov, ⟨_, hsolve, rfl, hrepeat⟩, hleft, heq, hsame heq, _, w, hfail, hw, hstore⟩

end Monotype.Session
