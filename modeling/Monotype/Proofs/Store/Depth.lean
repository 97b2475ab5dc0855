import Monotype.Proofs.Store.Bindings

namespace Monotype.Store

open Relation

variable {s : Store}

def Bound (s : Store) (i : Int) : Prop := ∃ t, s.slot? i = some t ∧ t ≠ .var i

theorem Bound.allocated {i : Int} (h : s.Bound i) : s.Allocated i :=
  let ⟨_, ht, _⟩ := h
  allocated_of_slot? ht

theorem Binds.bound {i j : Int} (h : s.Binds i j) : s.Bound i :=
  let ⟨t, ht, hne, _⟩ := h
  ⟨t, ht, hne⟩

theorem Allocated.exists_nat {i : Int} (h : s.Allocated i) : ∃ n : Nat, n < s.size ∧ (n : Int) = i := by
  obtain ⟨h0, hi⟩ := h
  refine ⟨i.toNat, ?_, Int.toNat_of_nonneg h0⟩
  unfold nextId at hi
  unfold size
  omega

open Classical in
/-- The number of bound variables that are reached from a variable, itself among them. -/
noncomputable def depth (s : Store) (i : Int) : Nat :=
  ((Finset.range s.size).filter fun n : Nat => s.Bound n ∧ ReflTransGen s.Binds i n).card

theorem depth_le_size (s : Store) (i : Int) : s.depth i ≤ s.size := by
  classical
  exact (Finset.card_filter_le _ _).trans (Finset.card_range _).le

theorem depth_pos {i : Int} (h : s.Bound i) : 0 < s.depth i := by
  classical
  obtain ⟨n, hn, rfl⟩ := h.allocated.exists_nat
  exact Finset.card_pos.2 ⟨n, Finset.mem_filter.2 ⟨Finset.mem_range.2 hn, h, .refl⟩⟩

theorem depth_lt (hs : s.WellFormed) {i j : Int} (h : s.Binds i j) : s.depth j < s.depth i := by
  classical
  obtain ⟨n, hn, rfl⟩ := h.bound.allocated.exists_nat
  apply Finset.card_lt_card
  refine Finset.ssubset_iff.2 ⟨n, ?_, ?_⟩
  · -- a way back from `j` would close a cycle
    intro hmem
    obtain ⟨_, _, hj⟩ := Finset.mem_filter.1 hmem
    exact hs.acyclic n (TransGen.head' h hj)
  · intro m hm
    rw [Finset.mem_insert] at hm
    rcases hm with rfl | hm
    · exact Finset.mem_filter.2 ⟨Finset.mem_range.2 hn, h.bound, .refl⟩
    · obtain ⟨hr, hb, hj⟩ := Finset.mem_filter.1 hm
      exact Finset.mem_filter.2 ⟨hr, hb, .head h hj⟩

theorem WellFormed.induction (hs : s.WellFormed) {P : Int → Prop}
    (step : ∀ i, (∀ j, s.Binds i j → P j) → P i) (i : Int) : P i := by
  induction hd : s.depth i using Nat.strong_induction_on generalizing i with
  | _ d ih =>
      subst hd
      exact step i fun j hj => ih (s.depth j) (depth_lt hs hj) j rfl

open Classical in
noncomputable def height (s : Store) (t : Ty) : Nat :=
  ((Finset.range s.size).filter fun n : Nat => ∀ j ∈ t.vars, TransGen s.Binds n j).card

theorem height_le_size (s : Store) (t : Ty) : s.height t ≤ s.size := by
  classical
  exact (Finset.card_filter_le _ _).trans (Finset.card_range _).le

theorem height_le_of_subset {t u : Ty} (h : u.vars ⊆ t.vars) : s.height t ≤ s.height u := by
  classical
  apply Finset.card_le_card
  intro n hn
  obtain ⟨hr, ht⟩ := Finset.mem_filter.1 hn
  exact Finset.mem_filter.2 ⟨hr, fun j hj => ht j (h hj)⟩

theorem height_con_le {f : String} {args : List Ty} {a : Ty} (ha : a ∈ args) :
    s.height (.con f args) ≤ s.height a :=
  height_le_of_subset fun _ hi => Ty.mem_vars_con.2 ⟨a, ha, hi⟩

theorem height_var_lt_size (hs : s.WellFormed) {i : Int} (h : s.Bound i) : s.height (.var i) < s.size := by
  classical
  obtain ⟨n, hn, rfl⟩ := h.allocated.exists_nat
  rw [height]
  conv_rhs => rw [← Finset.card_range s.size]
  apply Finset.card_lt_card
  refine Finset.ssubset_iff.2 ⟨n, ?_, ?_⟩
  · intro hmem
    exact hs.acyclic n ((Finset.mem_filter.1 hmem).2 n (by simp))
  · exact Finset.insert_subset (Finset.mem_range.2 hn) (Finset.filter_subset _ _)

theorem height_var_lt_slot (hs : s.WellFormed) {i : Int} {t : Ty} (ht : s.slot? i = some t) (hne : t ≠ .var i) :
    s.height (.var i) < s.height t := by
  classical
  obtain ⟨n, hn, rfl⟩ := (allocated_of_slot? ht).exists_nat
  have hedge (j : Int) (hj : j ∈ t.vars) : s.Binds n j := ⟨t, ht, hne, hj⟩
  apply Finset.card_lt_card
  refine Finset.ssubset_iff.2 ⟨n, ?_, ?_⟩
  · intro hmem
    exact hs.acyclic n ((Finset.mem_filter.1 hmem).2 n (by simp))
  · intro m hm
    rw [Finset.mem_insert] at hm
    rcases hm with rfl | hm
    · exact Finset.mem_filter.2 ⟨Finset.mem_range.2 hn, fun j hj => .single (hedge j hj)⟩
    · obtain ⟨hr, hm⟩ := Finset.mem_filter.1 hm
      exact Finset.mem_filter.2 ⟨hr, fun j hj => .tail (hm n (by simp)) (hedge j hj)⟩

/-- New bindings only add ways, so the count never falls while a store is extended. -/
theorem Extends.height_le {s' : Store} (h : s.Extends s') (t : Ty) : s.height t ≤ s'.height t := by
  classical
  apply Finset.card_le_card
  intro n hn
  obtain ⟨hr, ht⟩ := Finset.mem_filter.1 hn
  rw [Finset.mem_filter, h.size]
  exact ⟨hr, fun j hj => TransGen.mono (fun _ _ => h.binds) _ _ (ht j hj)⟩

end Monotype.Store
