import Monotype.Proofs.Store.Solutions
import Mathlib.Algebra.Group.End
import Mathlib.Logic.Equiv.Fintype

namespace Monotype

open Store

namespace Store

variable {s t : Store}

def Unbound (s : Store) (i : Int) : Prop := s.slot? i = some (.var i)

instance (s : Store) (i : Int) : Decidable (s.Unbound i) :=
  inferInstanceAs (Decidable (s.slot? i = some (.var i)))

theorem unbound_of_mem_value (hs : s.WellFormed) {i j : Int} (hi : s.Allocated i) (hj : j ∈ (s.value i).vars) :
    s.Unbound j := by
  induction i using hs.induction with
  | step i ih =>
      obtain ⟨u, hu⟩ := allocated_iff.1 hi
      by_cases hne : u = .var i
      · subst hne
        rw [value_unbound hu, Ty.mem_vars_var] at hj
        rw [hj]
        exact hu
      · rw [value_eq hs hu, Ty.mem_vars_apply] at hj
        obtain ⟨k, hk, hj⟩ := hj
        exact ih k ⟨u, hu, hne, hk⟩ (hs.covers i u hu k hk) hj

theorem unbound_of_substitute (hs : s.WellFormed) {t u : Ty} (ht : s.Covers t) (h : s.substitute t = .ok u) {i : Int}
    (hi : i ∈ u.vars) : s.Unbound i := by
  rw [substitute_eq hs ht] at h
  rw [← Except.ok.inj h] at hi
  obtain ⟨j, hj, hi⟩ := Ty.mem_vars_apply.1 hi
  exact unbound_of_mem_value hs (ht j hj) hi

theorem exists_partner (hs : s.WellFormed) (ht : t.WellFormed) (hsize : t.size = s.size)
    (h : ∀ σ, s.Solves σ ↔ t.Solves σ) {i : Int} (hi : s.Unbound i) :
    ∃ j, t.Unbound j ∧ t.value i = .var j ∧ s.value j = .var i := by
  -- The values in `s` solve `t`, and there `i` keeps itself, so that `t` cannot have bound it to a constructor.
  have hback := ((h _).1 (value_solves hs)).apply_value ht i
  rw [value_unbound hi] at hback
  cases hv : t.value i with
  | con f args =>
      rw [hv, Ty.apply_con] at hback
      cases hback
  | var j =>
      rw [hv, Ty.apply_var] at hback
      have hit : t.Allocated i := (allocated_congr hsize).2 (allocated_of_slot? hi)
      exact ⟨j, unbound_of_mem_value ht hit (by simp [hv]), rfl, hback⟩

instance (s : Store) : Finite {i // s.Allocated i} := by
  refine Finite.of_injective (fun i => (⟨i.1.toNat, ?_⟩ : Fin s.size)) ?_
  · obtain ⟨n, hn, hi⟩ := i.2.exists_nat
    omega
  · rintro ⟨i, hi⟩ ⟨j, hj⟩ hij
    have hnat : i.toNat = j.toNat := congrArg Fin.val hij
    obtain ⟨hi0, _⟩ := hi
    obtain ⟨hj0, _⟩ := hj
    exact Subtype.ext (by change i = j; omega)

/-- The unbound variables of two stores with the same solutions correspond, and so do the bound ones, as there are
finitely many. -/
theorem exists_perm (hs : s.WellFormed) (ht : t.WellFormed) (hsize : t.size = s.size)
    (h : ∀ σ, s.Solves σ ↔ t.Solves σ) :
    ∃ π : Equiv.Perm Int, (∀ i, ¬ s.Allocated i → π i = i) ∧ ∀ i, s.Unbound i → t.value i = .var (π i) := by
  have hthere (i : {i : {i // s.Allocated i} // s.Unbound i}) :
      ∃ j : {j : {j // s.Allocated j} // t.Unbound j}, t.value i = .var j ∧ s.value j = .var i := by
    obtain ⟨j, hj, hij, hji⟩ := exists_partner hs ht hsize h i.2
    exact ⟨⟨⟨j, (allocated_congr hsize).1 (allocated_of_slot? hj)⟩, hj⟩, hij, hji⟩
  have hback (j : {j : {j // s.Allocated j} // t.Unbound j}) :
      ∃ i : {i : {i // s.Allocated i} // s.Unbound i}, s.value j = .var i ∧ t.value i = .var j := by
    obtain ⟨i, hi, hji, hij⟩ := exists_partner ht hs hsize.symm (fun σ => (h σ).symm) j.2
    exact ⟨⟨⟨i, allocated_of_slot? hi⟩, hi⟩, hji, hij⟩
  choose there hthere using hthere
  choose back hback using hback
  let e : {i : {i // s.Allocated i} // s.Unbound i} ≃ {j : {j // s.Allocated j} // t.Unbound j} :=
    { toFun := there
      invFun := back
      left_inv := fun i => by
        have hi := (hthere i).2.symm.trans (hback (there i)).1
        exact Subtype.ext (Subtype.ext (Ty.var.inj hi).symm)
      right_inv := fun j => by
        have hj := (hback j).2.symm.trans (hthere (back j)).1
        exact Subtype.ext (Subtype.ext (Ty.var.inj hj).symm) }
  refine ⟨Equiv.Perm.ofSubtype e.extendSubtype, fun i hi => ?_, fun i hi => ?_⟩
  · exact Equiv.Perm.ofSubtype_apply_of_not_mem _ hi
  · rw [Equiv.Perm.ofSubtype_apply_of_mem _ (allocated_of_slot? hi), e.extendSubtype_apply_of_mem ⟨i, _⟩ hi]
    exact (hthere ⟨⟨i, _⟩, hi⟩).1

theorem exists_renaming (hs : s.WellFormed) (ht : t.WellFormed) (hsize : t.size = s.size)
    (h : ∀ σ, s.Solves σ ↔ t.Solves σ) :
    ∃ π : Equiv.Perm Int, (∀ i, ¬ s.Allocated i → π i = i) ∧
      ∀ a, s.Covers a → (a.apply s.value).apply (fun i => .var (π i)) = a.apply t.value := by
  obtain ⟨π, hfix, hπ⟩ := exists_perm hs ht hsize h
  refine ⟨π, hfix, fun a ha => ?_⟩
  rw [Ty.apply_apply]
  refine Ty.apply_congr fun i hi => ?_
  have hvars : (s.value i).apply (fun j => .var (π j)) = (s.value i).apply t.value :=
    Ty.apply_congr fun j hj => (hπ j (unbound_of_mem_value hs (ha i hi) hj)).symm
  rw [hvars]
  exact ((h _).2 (value_solves ht)).apply_value hs i

end Store

def Equation.swap (e : Equation) : Equation := ⟨e.right, e.left⟩

/-- The second list has the equations of the first in any order, each as it was or with its sides exchanged. -/
def Rearranged (es fs : List Equation) : Prop :=
  ∃ gs, es.Perm gs ∧ List.Forall₂ (fun e f => f = e ∨ f = e.swap) gs fs

theorem Rearranged.forall_iff {es fs : List Equation} (h : Rearranged es fs) {P : Equation → Prop}
    (hP : ∀ e, P e.swap ↔ P e) : (∀ e ∈ es, P e) ↔ ∀ f ∈ fs, P f := by
  obtain ⟨gs, hperm, hswap⟩ := h
  have hgs : (∀ e ∈ es, P e) ↔ ∀ g ∈ gs, P g := by simp only [hperm.mem_iff]
  rw [hgs]
  clear hperm hgs
  induction hswap with
  | nil => simp
  | cons hef _ ih =>
      rw [List.forall_mem_cons, List.forall_mem_cons]
      refine and_congr ?_ ih
      rcases hef with rfl | rfl
      · exact Iff.rfl
      · exact (hP _).symm

theorem Equation.holds_swap (e : Equation) (σ : Int → Ty) : e.swap.Holds σ ↔ e.Holds σ := eq_comm

theorem Unifier.solveAll_ne_error {s : Store} (hs : s.WellFormed) {es fs : List Equation}
    (hcov : ∀ f ∈ fs, s.Covers f.left ∧ s.Covers f.right)
    (h : ∀ σ, (∀ e ∈ es, e.Holds σ) → ∀ f ∈ fs, f.Holds σ) {m n : Nat} {trace log : Trace} {u v : Unifier}
    {err : UnifyError} (hu : es.forM Unifier.solve ⟨s, m, trace⟩ = .ok () u) :
    fs.forM Unifier.solve ⟨s, n, log⟩ ≠ .error err v := by
  -- The solution that one list finds refutes the failure of a list that asks for no more.
  intro hv
  obtain ⟨_, hwf, hsolves⟩ := Unifier.solveAll_ok hs hu
  obtain ⟨hsol, hall⟩ := (hsolves _).1 (value_solves hwf)
  exact (Unifier.solveAll_error hs hcov hv).2 _ hsol (h _ hall)

/-- Equations in another order or direction fail together, or their stores resolve every type to the same type up to
one renaming of the allocated variables. -/
theorem Store.Reachable.solve_rearranged {s : Store} (hs : s.Reachable) {es fs : List Equation}
    (hcov : ∀ e ∈ es, s.Covers e.left ∧ s.Covers e.right) (h : Rearranged es fs) (m n : Nat) (trace log : Trace) :
    match es.forM Unifier.solve ⟨s, m, trace⟩, fs.forM Unifier.solve ⟨s, n, log⟩ with
    | .ok _ u, .ok _ v =>
        ∃ π : Equiv.Perm Int, (∀ i, ¬ s.Allocated i → π i = i) ∧
          ∀ t, s.Covers t → ∃ a, u.store.substitute t = .ok a ∧
            v.store.substitute t = .ok (a.apply fun i => .var (π i))
    | .ok _ _, .error _ _ => False
    | .error _ _, .ok _ _ => False
    | .error e _, .error f _ => Unifier.Refutes e ∧ Unifier.Refutes f := by
  have hwf := hs.wellFormed
  have hholds (σ : Int → Ty) : (∀ e ∈ es, e.Holds σ) ↔ ∀ f ∈ fs, f.Holds σ :=
    h.forall_iff fun e => e.holds_swap σ
  have hcov' : ∀ f ∈ fs, s.Covers f.left ∧ s.Covers f.right := (h.forall_iff fun _ => and_comm).1 hcov
  split
  · next u _ v hu hv =>
      obtain ⟨hext, hwfu, hsolu⟩ := Unifier.solveAll_ok hwf hu
      obtain ⟨hext', hwfv, hsolv⟩ := Unifier.solveAll_ok hwf hv
      have hsame (σ : Int → Ty) : u.store.Solves σ ↔ v.store.Solves σ := by rw [hsolu, hsolv, hholds]
      obtain ⟨π, hfix, hπ⟩ := exists_renaming hwfu hwfv (hext'.size.trans hext.size.symm) hsame
      refine ⟨π, fun i hi => hfix i fun ha => hi (hext.allocated_iff.1 ha), fun t ht => ?_⟩
      have htu := hext.covers_iff.2 ht
      refine ⟨t.apply u.store.value, substitute_eq hwfu htu, ?_⟩
      rw [hπ t htu]
      exact substitute_eq hwfv (hext'.covers_iff.2 ht)
  · next hu hv => exact Unifier.solveAll_ne_error hwf hcov' (fun σ => (hholds σ).1) hu hv
  · next hu hv => exact Unifier.solveAll_ne_error hwf hcov (fun σ => (hholds σ).2) hv hu
  · next hu hv => exact ⟨(Unifier.solveAll_error hwf hcov hu).1, (Unifier.solveAll_error hwf hcov' hv).1⟩

theorem Store.Reachable.solve_rearranged_chain :
    let s : Store := ⟨#[.var 0, .var 1, .var 2]⟩
    let es : List Equation := [⟨.var 0, .var 1⟩, ⟨.var 1, .var 2⟩]
    let fs : List Equation := [⟨.var 2, .var 1⟩, ⟨.var 1, .var 0⟩]
    s.Reachable ∧ (∀ e ∈ es, s.Covers e.left ∧ s.Covers e.right) ∧ Rearranged es fs ∧
      ∃ π : Equiv.Perm Int, (∀ i, ¬ s.Allocated i → π i = i) ∧
        ∀ t, s.Covers t → ∃ a, Store.substitute ⟨#[.var 1, .var 2, .var 2]⟩ t = .ok a ∧
          Store.substitute ⟨#[.var 0, .var 0, .var 1]⟩ t = .ok (a.apply fun i => .var (π i)) := by
  intro s es fs
  have hs : s.Reachable := .fresh (.fresh (.fresh .empty))
  have hcov : ∀ e ∈ es, s.Covers e.left ∧ s.Covers e.right := by decide
  have h : Rearranged es fs :=
    ⟨[⟨.var 1, .var 2⟩, ⟨.var 0, .var 1⟩], .swap _ _ _, .cons (.inr rfl) (.cons (.inr rfl) .nil)⟩
  exact ⟨hs, hcov, h, hs.solve_rearranged hcov h 0 0 #[] #[]⟩

end Monotype
