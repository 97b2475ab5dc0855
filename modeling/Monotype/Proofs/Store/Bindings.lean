import Monotype.Proofs.Ty.Assignment
import Monotype.Store.Basic
import Mathlib.Data.Finset.Card
import Mathlib.Logic.Relation

namespace Monotype.Store

open Relation

variable {s : Store}

def Allocated (s : Store) (i : Int) : Prop := 0 ≤ i ∧ i < s.nextId

instance (s : Store) (i : Int) : Decidable (s.Allocated i) := inferInstanceAs (Decidable (_ ∧ _))

def Covers (s : Store) (t : Ty) : Prop := ∀ i ∈ t.vars, s.Allocated i

instance (s : Store) (t : Ty) : Decidable (s.Covers t) :=
  inferInstanceAs (Decidable (∀ i ∈ t.vars, s.Allocated i))

/-- The variable `i` is bound, and `j` occurs in its slot. -/
def Binds (s : Store) (i j : Int) : Prop := ∃ t, s.slot? i = some t ∧ t ≠ .var i ∧ j ∈ t.vars

structure WellFormed (s : Store) : Prop where
  covers : ∀ i t, s.slot? i = some t → s.Covers t
  acyclic : ∀ i, ¬ TransGen s.Binds i i

/-- Nothing but unbound variables of `s` differs in `s'`. -/
structure Extends (s s' : Store) : Prop where
  size : s'.size = s.size
  kept : ∀ i t, s.slot? i = some t → t ≠ .var i → s'.slot? i = some t

theorem allocated_iff {i : Int} : s.Allocated i ↔ ∃ t, s.slot? i = some t := by
  unfold Allocated slot? nextId
  constructor
  · rintro ⟨h0, hi⟩
    have hlt : i.toNat < s.slots.size := by omega
    exact ⟨s.slots[i.toNat], by rw [if_neg (by omega), Array.getElem?_eq_getElem hlt]⟩
  · rintro ⟨t, ht⟩
    split at ht
    · cases ht
    · obtain ⟨hlt, _⟩ := Array.getElem?_eq_some_iff.1 ht
      omega

theorem allocated_congr {t : Store} (h : t.size = s.size) {i : Int} : t.Allocated i ↔ s.Allocated i := by
  have hsize : t.slots.size = s.slots.size := h
  simp [Allocated, nextId, hsize]

theorem allocated_of_slot? {i : Int} {t : Ty} (h : s.slot? i = some t) : s.Allocated i :=
  allocated_iff.2 ⟨t, h⟩

theorem slot?_eq_none {i : Int} (h : ¬ s.Allocated i) : s.slot? i = none := by
  cases ht : s.slot? i with
  | none => rfl
  | some t => exact absurd (allocated_of_slot? ht) h

theorem slot_eq_ok_iff {i : Int} {t : Ty} : s.slot i = .ok t ↔ s.slot? i = some t := by
  unfold slot
  cases s.slot? i <;> simp

theorem slot_eq_error_iff {i : Int} {e : StoreError} :
    s.slot i = .error e ↔ ¬ s.Allocated i ∧ e = .unallocated i := by
  rw [allocated_iff]
  unfold slot
  cases s.slot? i <;> simp [eq_comm]

theorem Covers.var {i : Int} : s.Covers (.var i) ↔ s.Allocated i := by simp [Covers]

theorem Covers.arg {f : String} {args : List Ty} {a : Ty} (h : s.Covers (.con f args)) (ha : a ∈ args) :
    s.Covers a :=
  fun i hi => h i (Ty.mem_vars_con.2 ⟨a, ha, hi⟩)

theorem slot?_fresh (s : Store) (i : Int) :
    s.fresh.slot? i = if i = s.nextId then some (.var i) else s.slot? i := by
  unfold slot? fresh nextId
  by_cases h0 : i < 0
  · have hne : i ≠ (s.slots.size : Int) := by omega
    simp [h0, hne]
  · simp only [h0, if_false, Array.getElem?_push]
    by_cases hi : i = s.slots.size
    · simp [hi]
    · have hne : i.toNat ≠ s.slots.size := by omega
      simp [hi, hne]

theorem allocated_fresh {i : Int} : s.fresh.Allocated i ↔ s.Allocated i ∨ i = s.nextId := by
  simp only [Allocated, nextId, fresh, Array.size_push]
  omega

theorem binds_fresh {i j : Int} : s.fresh.Binds i j ↔ s.Binds i j := by
  unfold Binds
  by_cases hi : i = s.nextId
  · have hn : s.slot? i = none := slot?_eq_none fun h => by simp [Allocated, hi] at h
    simp only [slot?_fresh, hi, if_true, Option.some.injEq]
    rw [hi] at hn
    constructor
    · rintro ⟨t, rfl, hne, _⟩
      exact absurd rfl hne
    · rintro ⟨t, ht, _⟩
      rw [hn] at ht
      cases ht
  · simp only [slot?_fresh, hi, if_false]

theorem WellFormed.empty : WellFormed {} := by
  have hn (i : Int) : slot? {} i = none := by simp [slot?]
  constructor
  · intro i t ht
    rw [hn] at ht
    cases ht
  · intro i h
    obtain ⟨j, ⟨t, ht, _⟩, _⟩ := TransGen.head'_iff.1 h
    rw [hn] at ht
    cases ht

theorem WellFormed.fresh (hs : s.WellFormed) : s.fresh.WellFormed := by
  constructor
  · intro i t ht j hj
    rw [slot?_fresh] at ht
    rw [allocated_fresh]
    split at ht
    · next hi =>
        cases ht
        rw [Ty.mem_vars_var.1 hj]
        exact .inr hi
    · exact .inl (hs.covers i t ht j hj)
  · intro i h
    exact hs.acyclic i (TransGen.mono (fun _ _ h => binds_fresh.1 h) i i h)

def assign (s : Store) (i : Int) (t : Ty) : Store := ⟨s.slots.setIfInBounds i.toNat t⟩

@[simp] theorem size_assign (s : Store) (i : Int) (t : Ty) : (s.assign i t).size = s.size := by
  simp [assign, size]

theorem allocated_assign {i j : Int} {t : Ty} : (s.assign i t).Allocated j ↔ s.Allocated j := by
  simp [Allocated, nextId, assign]

theorem bind_eq {i : Int} (h : s.Allocated i) (t : Ty) : s.bind i t = .ok (s.assign i t) := by
  obtain ⟨u, hu⟩ := allocated_iff.1 h
  rw [bind, slot_eq_ok_iff.2 hu]
  rfl

theorem slot?_assign {i : Int} (h : s.Allocated i) (t : Ty) (j : Int) :
    (s.assign i t).slot? j = if j = i then some t else s.slot? j := by
  unfold slot? assign
  unfold Allocated nextId at h
  by_cases h0 : j < 0
  · have hne : j ≠ i := by omega
    simp [h0, hne]
  · simp only [h0, if_false, Array.getElem?_setIfInBounds]
    by_cases hj : j = i
    · have hlt : i.toNat < s.slots.size := by omega
      simp [hj, hlt]
    · have hne : i.toNat ≠ j.toNat := by omega
      simp [hj, hne]

theorem binds_assign {i : Int} (h : s.slot? i = some (.var i)) {t : Ty} {a b : Int}
    (hab : (s.assign i t).Binds a b) : s.Binds a b ∨ a = i ∧ b ∈ t.vars := by
  obtain ⟨u, hu, hne, hb⟩ := hab
  rw [slot?_assign (allocated_of_slot? h)] at hu
  split at hu
  · next ha =>
      cases hu
      exact .inr ⟨ha, hb⟩
  · exact .inl ⟨u, hu, hne, hb⟩

/-- A path of the new graph is one of the old graph, or it passes the new edges once on its way. -/
theorem transGen_assign {i : Int} (h : s.slot? i = some (.var i)) {t : Ty} {a b : Int}
    (hab : TransGen (s.assign i t).Binds a b) :
    TransGen s.Binds a b ∨ ReflTransGen s.Binds a i ∧ ∃ j ∈ t.vars, ReflTransGen s.Binds j b := by
  induction hab using TransGen.head_induction_on with
  | single hab =>
      rcases binds_assign h hab with hab | ⟨rfl, hb⟩
      · exact .inl (.single hab)
      · exact .inr ⟨.refl, b, hb, .refl⟩
  | head hac _ ih =>
      rcases binds_assign h hac with hac | ⟨rfl, hc⟩
      · rcases ih with hcb | ⟨hci, hjb⟩
        · exact .inl (.head hac hcb)
        · exact .inr ⟨.head hac hci, hjb⟩
      · rcases ih with hcb | ⟨_, hjb⟩
        · exact .inr ⟨.refl, _, hc, hcb.to_reflTransGen⟩
        · exact .inr ⟨.refl, hjb⟩

/-- Binding an unbound variable to a type that does not lead back to it. -/
theorem WellFormed.assign (hs : s.WellFormed) {i : Int} (h : s.slot? i = some (.var i)) {t : Ty}
    (ht : s.Covers t) (hfree : ∀ j ∈ t.vars, ¬ ReflTransGen s.Binds j i) : (s.assign i t).WellFormed := by
  constructor
  · intro j u hu k hk
    rw [allocated_assign]
    rw [slot?_assign (allocated_of_slot? h)] at hu
    split at hu
    · cases hu
      exact ht k hk
    · exact hs.covers j u hu k hk
  · intro a ha
    rcases transGen_assign h ha with ha | ⟨hai, j, hj, hja⟩
    · exact hs.acyclic a ha
    · exact hfree j hj (hja.trans hai)

namespace Extends

theorem refl (s : Store) : s.Extends s := ⟨rfl, fun _ _ h _ => h⟩

theorem trans {s t u : Store} (h : s.Extends t) (h' : t.Extends u) : s.Extends u :=
  ⟨h'.size.trans h.size, fun i a ha hne => h'.kept i a (h.kept i a ha hne) hne⟩

theorem assign {i : Int} (h : s.slot? i = some (.var i)) (t : Ty) : s.Extends (s.assign i t) := by
  refine ⟨size_assign s i t, fun j u hu hne => ?_⟩
  rw [slot?_assign (allocated_of_slot? h), if_neg, hu]
  rintro rfl
  rw [h] at hu
  exact hne (Option.some.inj hu).symm

theorem binds {s' : Store} (h : s.Extends s') {i j : Int} (hij : s.Binds i j) : s'.Binds i j := by
  obtain ⟨t, ht, hne, hj⟩ := hij
  exact ⟨t, h.kept i t ht hne, hne, hj⟩

theorem allocated_iff {s' : Store} (h : s.Extends s') {i : Int} : s'.Allocated i ↔ s.Allocated i :=
  allocated_congr h.size

theorem covers_iff {s' : Store} (h : s.Extends s') {t : Ty} : s'.Covers t ↔ s.Covers t := by
  simp [Covers, h.allocated_iff]

end Extends

end Monotype.Store
