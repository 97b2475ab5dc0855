import Monotype.Proofs.Inference.Principal

namespace Monotype

/-- A leaf of an expression. A name comes with the parameters of the abstractions around it. -/
inductive Leaf where
  | name (x : String) (params : List String)
  | const (value : Constant)
  deriving DecidableEq

namespace Leaf

/-- A name that is free in its expression and has no type in the context. -/
def Unbound (Γ : Context) : Leaf → Prop
  | name x params => x ∉ params ∧ Γ x = none
  | const _ => False

instance (Γ : Context) (leaf : Leaf) : Decidable (leaf.Unbound Γ) :=
  match leaf with
  | name x params => inferInstanceAs (Decidable (x ∉ params ∧ Γ x = none))
  | const _ => inferInstanceAs (Decidable False)

def fault? (Γ : Context) : Leaf → Option InferError
  | name x params => if (name x params).Unbound Γ then some (.unbound x) else none
  | const c => some (.untyped c)

variable {Γ : Context} {leaf : Leaf}

theorem fault?_cases {err : InferError} (h : leaf.fault? Γ = some err) :
    (∃ x params, leaf = name x params ∧ leaf.Unbound Γ ∧ err = .unbound x) ∨ ∃ c, leaf = const c ∧ err = .untyped c := by
  cases leaf with
  | const c => exact .inr ⟨c, rfl, (Option.some.inj h).symm⟩
  | name x params =>
      rw [fault?] at h
      split at h
      · next hx => exact .inl ⟨x, params, rfl, hx, (Option.some.inj h).symm⟩
      · cases h

theorem fault?_of_unbound {x : String} {params : List String} (h : (name x params).Unbound Γ) :
    (name x params).fault? Γ = some (.unbound x) :=
  if_pos h

theorem fault?_eq_none_iff (hleaf : ∀ c, leaf ≠ const c) : leaf.fault? Γ = none ↔ ¬ leaf.Unbound Γ := by
  cases leaf with
  | const c => exact absurd rfl (hleaf c)
  | name x params => simp [fault?]

theorem fault?_mono {Δ : Context} (hdom : ∀ x, (Γ x).isSome → (Δ x).isSome) (h : leaf.fault? Γ = none) :
    leaf.fault? Δ = none := by
  cases leaf with
  | const c => cases h
  | name x params =>
      have hname : ∀ c, name x params ≠ const c := nofun
      rw [fault?_eq_none_iff hname] at h ⊢
      rintro ⟨hx, hnone⟩
      refine h ⟨hx, ?_⟩
      cases hΓ : Γ x with
      | none => rfl
      | some t => simpa [hnone] using hdom x (by simp [hΓ])

variable {leaves : List Leaf}

theorem first_fault_cases {err : InferError} (h : leaves.findSome? (fault? Γ) = some err) :
    (∃ x, err = .unbound x) ∨ ∃ c, const c ∈ leaves ∧ err = .untyped c := by
  obtain ⟨leaf, hleaf, hfault⟩ := List.exists_of_findSome?_eq_some h
  obtain ⟨x, _, _, _, rfl⟩ | ⟨c, rfl, rfl⟩ := fault?_cases hfault
  · exact .inl ⟨x, rfl⟩
  · exact .inr ⟨c, hleaf, rfl⟩

section

variable (hleaves : ∀ c, const c ∉ leaves)

include hleaves

theorem first_unbound_iff {x : String} :
    leaves.findSome? (fault? Γ) = some (.unbound x) ↔
      ∃ before params after, leaves = before ++ name x params :: after ∧ (name x params).Unbound Γ ∧
        ∀ leaf ∈ before, ¬ leaf.Unbound Γ := by
  have hname {leaf : Leaf} (hleaf : leaf ∈ leaves) : ∀ c, leaf ≠ const c := by
    rintro c rfl
    exact hleaves c hleaf
  rw [List.findSome?_eq_some_iff]
  constructor
  · rintro ⟨before, leaf, after, rfl, hleaf, hbefore⟩
    obtain ⟨y, params, rfl, hunbound, he⟩ | ⟨c, _, he⟩ := fault?_cases hleaf
    · cases he
      refine ⟨before, params, after, rfl, hunbound, fun leaf h => ?_⟩
      exact (fault?_eq_none_iff (hname (List.mem_append_left _ h))).1 (hbefore leaf h)
    · cases he
  · rintro ⟨before, params, after, rfl, hunbound, hbefore⟩
    refine ⟨before, name x params, after, rfl, fault?_of_unbound hunbound, fun leaf h => ?_⟩
    exact (fault?_eq_none_iff (hname (List.mem_append_left _ h))).2 (hbefore leaf h)

theorem exists_unbound_iff :
    (∃ x, leaves.findSome? (fault? Γ) = some (.unbound x)) ↔ ∃ leaf ∈ leaves, leaf.Unbound Γ := by
  constructor
  · rintro ⟨x, h⟩
    obtain ⟨before, params, after, rfl, hunbound, _⟩ := (first_unbound_iff hleaves).1 h
    exact ⟨name x params, by simp, hunbound⟩
  · rintro ⟨leaf, hleaf, hunbound⟩
    cases h : leaves.findSome? (fault? Γ) with
    | none =>
        have hnone := List.findSome?_eq_none_iff.1 h leaf hleaf
        have hname : ∀ c, leaf ≠ const c := by
          rintro c rfl
          exact hunbound
        exact absurd hunbound ((fault?_eq_none_iff hname).1 hnone)
    | some err =>
        obtain ⟨x, rfl⟩ | ⟨c, hc, _⟩ := first_fault_cases h
        · exact ⟨x, rfl⟩
        · exact absurd hc (hleaves c)

end

end Leaf

def Expr.leaves (params : List String) : Expr → List Leaf
  | var x => [.name x params]
  | app f a => f.leaves params ++ a.leaves params
  | abs x b => b.leaves (x :: params)
  | const c => [.const c]

namespace Emission

def fault? (r : Emission) : Option InferError :=
  match r.outcome with
  | .ok _ => none
  | .error err => some err

theorem fault?_eq_some_iff {r : Emission} {err : InferError} : r.fault? = some err ↔ r.outcome = .error err := by
  unfold fault?
  cases r.outcome <;> simp

theorem fault?_eq_none_iff {r : Emission} : r.fault? = none ↔ ∃ t, r.outcome = .ok t := by
  unfold fault?
  cases r.outcome <;> simp

theorem fault?_andThen {r : Emission} {g : Ty → Emission} {next : Option InferError} (h : ∀ t, (g t).fault? = next) :
    (r.andThen g).fault? = r.fault?.or next := by
  unfold andThen
  cases hr : r.outcome with
  | ok t =>
      have hfirst : r.fault? = none := by rw [fault?, hr]
      rw [hfirst, Option.none_or, ← h t]
      rfl
  | error err =>
      have hfirst : r.fault? = some err := by rw [fault?, hr]
      rw [hfirst, Option.some_or]

end Emission

namespace Expr

theorem fault?_emission (e : Expr) {Γ Δ : Context} {params : List String}
    (hΔ : ∀ x, Δ x = none ↔ x ∉ params ∧ Γ x = none) (n : Nat) :
    (e.emission Δ n).fault? = (e.leaves params).findSome? (Leaf.fault? Γ) := by
  induction e generalizing Δ params n with
  | var x =>
      rw [emission, leaves, List.findSome?_singleton]
      cases hx : Δ x with
      | some t =>
          have hleaf : ¬ (Leaf.name x params).Unbound Γ := by
            intro h
            cases hx.symm.trans ((hΔ x).2 h)
          exact (if_neg hleaf).symm
      | none => exact (Leaf.fault?_of_unbound ((hΔ x).1 hx)).symm
  | app f a ihf iha =>
      rw [leaves, List.findSome?_append, ← ihf hΔ n]
      refine Emission.fault?_andThen fun t => ?_
      have hlast (u : Ty) (result : Nat) : (Emission.application t u result).fault? = none := rfl
      rw [← iha hΔ (n + (f.emission Δ n).slots), Emission.fault?_andThen fun u => hlast u _, Option.or_none]
  | abs x b ih =>
      have hparams (y : String) :
          Function.update Δ x (some (.var n)) y = none ↔ y ∉ x :: params ∧ Γ y = none := by
        by_cases hy : y = x
        · simp [hy]
        · simpa [hy] using hΔ y
      rw [leaves, ← ih hparams (n + 1)]
      simp only [emission, Emission.fault?]
      cases (b.emission (Function.update Δ x (some (.var n))) (n + 1)).outcome <;> rfl
  | const c => rfl

theorem first_fault (e : Expr) (Γ : Context) (n : Nat) :
    (e.emission Γ n).fault? = (e.leaves []).findSome? (Leaf.fault? Γ) :=
  fault?_emission e (by simp) n

theorem emission_error_iff {e : Expr} {Γ : Context} {n : Nat} {err : InferError} :
    (e.emission Γ n).outcome = .error err ↔ (e.leaves []).findSome? (Leaf.fault? Γ) = some err := by
  rw [← Emission.fault?_eq_some_iff, first_fault]

theorem emission_ok_of_named {e : Expr} {Γ Δ : Context} (hdom : ∀ x, (Γ x).isSome → (Δ x).isSome) {n : Nat} {t : Ty}
    (h : (e.emission Γ n).outcome = .ok t) (m : Nat) : ∃ u, (e.emission Δ m).outcome = .ok u := by
  have hnone := Emission.fault?_eq_none_iff.2 ⟨t, h⟩
  rw [first_fault, List.findSome?_eq_none_iff] at hnone
  rw [← Emission.fault?_eq_none_iff, first_fault, List.findSome?_eq_none_iff]
  exact fun leaf hleaf => Leaf.fault?_mono hdom (hnone leaf hleaf)

variable {e : Expr} {base : Scope} {x : String}

theorem inferIn_unbound_iff :
    (∃ s, e.inferIn base = .error (.unbound x) s) ↔ (e.emissionIn base).outcome = .error (.unbound x) := by
  rw [inferIn_eq]
  constructor
  · rintro ⟨s, h⟩
    split at h
    -- Solving and substituting fail with errors of their own.
    · split at h
      · split at h <;> cases h
      · cases h
    · next ho =>
        cases h
        exact ho
  · intro ho
    rw [ho]
    exact ⟨_, rfl⟩

/-- An expression without constants fails over a name if and only if one of its free names has no type, whatever
equations it leads to. The name is then that of the first such leaf. -/
theorem inferIn_first_unbound (he : ∀ c, .const c ∉ e.leaves []) (base : Scope) :
    ((∃ x s, e.inferIn base = .error (.unbound x) s) ↔ ∃ leaf ∈ e.leaves [], leaf.Unbound (Entries.get? base)) ∧
      ∀ x, (∃ s, e.inferIn base = .error (.unbound x) s) ↔
        ∃ before params after, e.leaves [] = before ++ .name x params :: after ∧
          (Leaf.name x params).Unbound (Entries.get? base) ∧ ∀ leaf ∈ before, ¬ leaf.Unbound (Entries.get? base) := by
  simp only [inferIn_unbound_iff, emissionIn, emission_error_iff]
  exact ⟨Leaf.exists_unbound_iff he, fun x => Leaf.first_unbound_iff he⟩

theorem inferIn_first_unbound_mismatch :
    let base : Scope := [("one", .con "Int" [])]
    let mismatch : Expr := .app (.var "one") (.var "one")
    let infinite : Expr := .abs "y" (.app (.var "y") (.var "y"))
    let e : Expr := .app (.app mismatch infinite) (.app (.abs "one" (.var "y")) (.var "z"))
    (∀ c, .const c ∉ e.leaves []) ∧ (∃ s, e.inferIn base = .error (.unbound "y") s) ∧
      (∀ c, .const c ∉ (app mismatch infinite).leaves []) ∧
      ¬ ∃ x s, (app mismatch infinite).inferIn base = .error (.unbound x) s := by
  intro base mismatch infinite e
  have he : ∀ c, .const c ∉ e.leaves [] := by
    intro c
    simp [e, mismatch, infinite, leaves]
  have hmismatch : ∀ c, .const c ∉ (app mismatch infinite).leaves [] := by
    intro c
    simp [mismatch, infinite, leaves]
  refine ⟨he, ((inferIn_first_unbound he base).2 "y").2 ?_, hmismatch, ?_⟩
  · exact ⟨(app mismatch infinite).leaves [], ["one"], [.name "z" []], rfl, by decide, by decide⟩
  · rw [(inferIn_first_unbound hmismatch base).1]
    decide

end Expr

end Monotype
