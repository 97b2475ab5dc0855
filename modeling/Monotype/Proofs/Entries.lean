import Monotype.Value.Basic
import Mathlib.Tactic.Common

namespace Monotype.Entries

variable {κ ν : Type} [BEq κ]

/-- A key that is equal to no other one. -/
def Exact (k : κ) : Prop := ∀ j : κ, ((j == k) = true ↔ j = k) ∧ ((k == j) = true ↔ j = k)

/-- Every key has one entry. -/
def Distinct (es : List (κ × ν)) : Prop := es.Pairwise fun a b => (a.1 == b.1) = false

theorem get?_eq_none_iff {es : List (κ × ν)} {k : κ} : get? es k = none ↔ ∀ e ∈ es, (e.1 == k) = false := by
  induction es with
  | nil => simp [get?]
  | cons e es ih => cases hk : e.1 == k <;> simp [get?, hk, ih]

theorem mem_of_get? {es : List (κ × ν)} {k : κ} {v : ν} (h : get? es k = some v) : ∃ j, (j, v) ∈ es := by
  induction es with
  | nil => cases h
  | cons e es ih =>
      rw [get?] at h
      split at h
      · cases h
        exact ⟨e.1, List.mem_cons_self⟩
      · obtain ⟨j, hj⟩ := ih h
        exact ⟨j, List.mem_cons_of_mem e hj⟩

theorem put_of_get?_eq_none {es : List (κ × ν)} {k : κ} (h : get? es k = none) (v : ν) : put es k v = es ++ [(k, v)] := by
  induction es with
  | nil => rfl
  | cons e es ih =>
      obtain ⟨hk, hes⟩ := List.forall_mem_cons.1 (get?_eq_none_iff.1 h)
      simp [put, hk, ih (get?_eq_none_iff.2 hes)]

theorem Exact.beq_congr {i j k : κ} (hk : Exact k) (hij : (i == j) = true) : (i == k) = (j == k) := by
  rw [Bool.eq_iff_iff]
  constructor
  · intro hik
    obtain rfl := (hk i).1.1 hik
    exact (hk j).1.2 ((hk j).2.1 hij)
  · intro hjk
    obtain rfl := (hk j).1.1 hjk
    exact hij

theorem Exact.not_both {i j k : κ} (hk : Exact k) (hij : (i == j) = false) (hik : (i == k) = true) :
    (j == k) = false := by
  rw [Bool.eq_false_iff]
  intro hjk
  rw [(hk i).1.1 hik, (hk j).1.1 hjk, (hk k).1.2 rfl] at hij
  cases hij

theorem get?_put {k : κ} (hk : Exact k) (es : List (κ × ν)) (j : κ) (v : ν) :
    get? (put es j v) k = if j == k then some v else get? es k := by
  induction es with
  | nil => rfl
  | cons e es ih =>
      obtain ⟨i, w⟩ := e
      cases hij : i == j with
      | true => cases hjk : j == k <;> simp [put, get?, hij, hk.beq_congr hij, hjk]
      | false =>
          cases hik : i == k with
          | true => simp [put, get?, hij, hik, hk.not_both hij hik]
          | false => simp [put, get?, hij, hik, ih]

theorem Distinct.get?_tail {k : κ} (hk : Exact k) {v : ν} {es : List (κ × ν)} (h : Distinct ((k, v) :: es)) :
    get? es k = none := by
  rw [get?_eq_none_iff]
  intro e he
  have hne : (k == e.1) = false := (List.pairwise_cons.1 h).1 e he
  rw [Bool.eq_false_iff] at hne ⊢
  intro heq
  exact hne ((hk e.1).2.2 ((hk e.1).1.1 heq))

end Monotype.Entries

namespace Monotype.Value

theorem exact_text (s : String) : Entries.Exact (text s) := by
  intro j
  cases j <;> simp [BEq.beq, same, number?, eq_comm]

end Monotype.Value
