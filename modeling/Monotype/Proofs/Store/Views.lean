import Monotype.Proofs.Store.Rearrangement
import Monotype.Proofs.Store.Termination

namespace Monotype.Store

variable {s : Store} {t : Ty}

theorem isBound_eq_false_iff {i : Int} : s.isBound i = .ok false ↔ s.Unbound i := by
  unfold isBound Unbound
  rw [← slot_eq_ok_iff]
  cases s.slot i <;> simp [Except.map]

theorem isBound_eq_true_iff {i : Int} : s.isBound i = .ok true ↔ s.Bound i := by
  unfold isBound Bound
  simp only [← slot_eq_ok_iff]
  cases s.slot i <;> simp [Except.map]

theorem Bound.not_unbound {i : Int} (h : s.Bound i) : ¬ s.Unbound i := by
  obtain ⟨u, hu, hne⟩ := h
  intro hi
  exact hne (Option.some.inj (hu.symm.trans hi))

theorem covers_of_unbound {u : Ty} (h : ∀ i ∈ u.vars, s.Unbound i) : s.Covers u :=
  fun i hi => allocated_of_slot? (h i hi)

theorem substitute_eq_self (hs : s.WellFormed) {u : Ty} (h : ∀ i ∈ u.vars, s.Unbound i) :
    s.substitute u = .ok u := by
  rw [substitute_eq hs (covers_of_unbound h), Ty.apply_eq_self fun i hi => value_unbound (h i hi)]

theorem Heads.covers {res : Except StoreError Ty} (h : Heads s t res) (hs : s.Closed) (ht : s.Covers t) {u : Ty}
    (hu : res = .ok u) : s.Covers u := by
  induction h with
  | con f args | unbound h =>
      cases hu
      exact ht
  | unallocated h => cases hu
  | bound h _ _ ih => exact ih (hs _ _ h) hu

theorem exists_head (hs : s.WellFormed) (ht : s.Covers t) : ∃ h, s.head t = .ok h ∧ s.IsHead t h ∧ s.Covers h := by
  rcases head_cases hs t with ⟨h, hh, hhead⟩ | ⟨i, hi, hn, _⟩
  · have hwalk : Heads s t (.ok h) := ((ends_head hs t).1 _).2 hh
    exact ⟨h, hh, hhead, hwalk.covers hs.covers ht rfl⟩
  · exact absurd (ht i hi) hn

theorem IsHead.substitute_eq (hs : s.WellFormed) {h : Ty} (hhead : s.IsHead t h) (ht : s.Covers t) (hh : s.Covers h) :
    s.substitute h = s.substitute t :=
  hs.substitute_eq_of_solved hh ht hhead.1

theorem substitute_slot (hs : s.WellFormed) {i : Int} {a : Ty} (h : s.slot? i = some a) :
    s.substitute a = s.substitute (.var i) := by
  refine hs.substitute_eq_of_solved (hs.covers i a h) (Covers.var.2 (allocated_of_slot? h)) fun σ hσ => ?_
  rw [Ty.apply_var, hσ i a h]

/-- Resolving a type, following it to its head and searching it for a variable agree. Resolving leaves only unbound
variables, so that it has nothing to do a second time; a variable resolves as its slot does and a type as its head does;
and the variables that the search finds are those of the resolved type. -/
theorem Reachable.views_agree (hs : s.Reachable) (ht : s.Covers t) :
    ∃ u, s.substitute t = .ok u ∧ (∀ i ∈ u.vars, s.isBound i = .ok false) ∧ s.substitute u = .ok u ∧
      (∀ i, s.Allocated i → ∃ a v, s.slot i = .ok a ∧ s.substitute a = .ok v ∧ s.substitute (.var i) = .ok v) ∧
      (∃ h, s.head t = .ok h ∧ ((∃ i, h = .var i ∧ s.isBound i = .ok false) ∨ ∃ f args, h = .con f args) ∧
        s.substitute h = .ok u) ∧
      (∀ v, s.occurs v t = .ok (decide (v ∈ u.vars))) ∧ ∀ v, s.isBound v = .ok true → s.occurs v t = .ok false := by
  have hwf := hs.wellFormed
  have hu : s.substitute t = .ok (t.apply s.value) := substitute_eq hwf ht
  have hfree : ∀ i ∈ (t.apply s.value).vars, s.Unbound i := fun i => unbound_of_substitute hwf ht hu
  refine ⟨t.apply s.value, hu, ?_, substitute_eq_self hwf hfree, ?_, ?_, ?_, ?_⟩
  · exact fun i hi => isBound_eq_false_iff.2 (hfree i hi)
  · intro i hi
    obtain ⟨a, ha⟩ := allocated_iff.1 hi
    have hv := substitute_eq hwf (Covers.var.2 hi)
    exact ⟨a, _, slot_eq_ok_iff.2 ha, (substitute_slot hwf ha).trans hv, hv⟩
  · obtain ⟨h, hh, hhead, hcov⟩ := exists_head hwf ht
    refine ⟨h, hh, ?_, (hhead.substitute_eq hwf ht hcov).trans hu⟩
    cases h with
    | var i => exact .inl ⟨i, rfl, isBound_eq_false_iff.2 (hhead.2 i rfl)⟩
    | con f args => exact .inr ⟨f, args, rfl⟩
  · exact fun v => occurs_eq hwf v ht
  · intro v hv
    have hn : v ∉ (t.apply s.value).vars := fun hmem => (isBound_eq_true_iff.1 hv).not_unbound (hfree v hmem)
    rw [occurs_eq hwf v ht, decide_eq_false hn]

theorem Reachable.views_agree_chain :
    let s : Store := ⟨#[.fn (.var 1) (.con "Int" []), .var 2, .var 2]⟩
    let t : Ty := .con "Pair" [.var 0, .var 1]
    let u : Ty := .con "Pair" [.fn (.var 2) (.con "Int" []), .var 2]
    s.Reachable ∧ s.Covers t ∧ s.substitute t = .ok u ∧ s.substitute u = .ok u ∧ s.head t = .ok t ∧
      s.occurs 2 t = .ok true ∧ s.occurs 1 t = .ok false := by
  intro s t u
  have hs : s.Reachable := by
    have hfresh : (({} : Store).fresh.fresh.fresh).Reachable := .fresh (.fresh (.fresh .empty))
    have hfirst := Reachable.unify (u := ⟨_, 0, #[]⟩) hfresh (.var 0) (.fn (.var 1) (.con "Int" []))
    exact .unify (u := ⟨_, 0, #[]⟩) hfirst (.var 1) (.var 2)
  have ht : s.Covers t := by decide
  obtain ⟨v, hv, _, hagain, _, ⟨h, hh, _, _⟩, hoccurs, hbound⟩ := hs.views_agree ht
  obtain rfl : u = v := Except.ok.inj hv
  obtain rfl : t = h := Except.ok.inj hh
  exact ⟨hs, ht, hv, hagain, hh, hoccurs 2, hbound 1 rfl⟩

end Monotype.Store
