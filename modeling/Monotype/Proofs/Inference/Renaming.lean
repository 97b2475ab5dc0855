import Monotype.Proofs.Inference.Principal

namespace Monotype

inductive Nameless where
  | bound (index : Nat)
  | free (name : String)
  | app (function argument : Nameless)
  | abs (body : Nameless)
  | const (value : Constant)
  deriving DecidableEq

namespace Expr

/-- Forget the names of the parameters, where `scope` has those of the abstractions around, the innermost first. -/
def nameless (scope : List String) : Expr → Nameless
  | var x =>
      match scope.idxOf? x with
      | some k => .bound k
      | none => .free x
  | app f a => .app (f.nameless scope) (a.nameless scope)
  | abs x b => .abs (b.nameless (x :: scope))
  | const c => .const c

/-- Equal up to a renaming of parameters that keeps every variable with its abstraction. -/
def AlphaEq (e e' : Expr) : Prop := e.nameless [] = e'.nameless []

instance (e e' : Expr) : Decidable (e.AlphaEq e') := inferInstanceAs (Decidable (e.nameless [] = e'.nameless []))

example : AlphaEq (.abs "x" (.abs "y" (.var "x"))) (.abs "y" (.abs "x" (.var "y"))) := by decide

example : ¬ AlphaEq (.abs "x" (.abs "y" (.var "x"))) (.abs "y" (.abs "y" (.var "y"))) := by decide

def free : Expr → List String
  | var x => [x]
  | app f a => f.free ++ a.free
  | abs x b => b.free.filter (· ≠ x)
  | const _ => []

section

variable {xs ys : List String} {e : Expr}

theorem nameless_var_cases (scope : List String) (x : String) :
    (∃ k, scope.idxOf? x = some k ∧ (var x).nameless scope = .bound k) ∨
      scope.idxOf? x = none ∧ (var x).nameless scope = .free x := by
  rw [nameless]
  cases h : scope.idxOf? x with
  | some k => exact .inl ⟨k, rfl, rfl⟩
  | none => exact .inr ⟨rfl, rfl⟩

theorem nameless_var_inv {x : String} (h : (var x).nameless xs = e.nameless ys) :
    ∃ y, e = .var y ∧ ((∃ k, xs.idxOf? x = some k ∧ ys.idxOf? y = some k) ∨
      xs.idxOf? x = none ∧ ys.idxOf? y = none ∧ x = y) := by
  have hx := nameless_var_cases xs x
  rw [h] at hx
  cases e with
  | var y =>
      refine ⟨y, rfl, ?_⟩
      rcases hx with ⟨k, hk, hx⟩ | ⟨hk, hx⟩ <;> rcases nameless_var_cases ys y with ⟨l, hl, hy⟩ | ⟨hl, hy⟩
      · obtain rfl : l = k := Nameless.bound.inj (hy.symm.trans hx)
        exact .inl ⟨l, hk, hl⟩
      · cases hy.symm.trans hx
      · cases hy.symm.trans hx
      · exact .inr ⟨hk, hl, (Nameless.free.inj (hy.symm.trans hx)).symm⟩
  | app | abs | const => simp [nameless] at hx

theorem nameless_app_inv {f a : Expr} (h : (app f a).nameless xs = e.nameless ys) :
    ∃ g b, e = .app g b ∧ f.nameless xs = g.nameless ys ∧ a.nameless xs = b.nameless ys := by
  cases e with
  | var y => rcases nameless_var_cases ys y with ⟨_, _, hy⟩ | ⟨_, hy⟩ <;> cases h.trans hy
  | app g b => exact ⟨g, b, rfl, by simpa [nameless] using h⟩
  | abs | const => simp [nameless] at h

theorem nameless_abs_inv {x : String} {b : Expr} (h : (abs x b).nameless xs = e.nameless ys) :
    ∃ y c, e = .abs y c ∧ b.nameless (x :: xs) = c.nameless (y :: ys) := by
  cases e with
  | var y => rcases nameless_var_cases ys y with ⟨_, _, hy⟩ | ⟨_, hy⟩ <;> cases h.trans hy
  | abs y c => exact ⟨y, c, rfl, by simpa [nameless] using h⟩
  | app | const => simp [nameless] at h

theorem nameless_const_inv {c : Constant} (h : (const c).nameless xs = e.nameless ys) : e = .const c := by
  cases e with
  | var y => rcases nameless_var_cases ys y with ⟨_, _, hy⟩ | ⟨_, hy⟩ <;> cases h.trans hy
  | const d => simpa [nameless, eq_comm] using h
  | app | abs => simp [nameless] at h

end

end Expr

def Context.hidden (Γ : Context) (params : List (String × Ty)) : Context :=
  params.foldr (fun p Δ => Function.update Δ p.1 (some p.2)) Γ

theorem Context.hidden_apply (Γ : Context) (params : List (String × Ty)) (x : String) :
    Γ.hidden params x =
      match (params.map Prod.fst).idxOf? x with
      | some k => (params.map Prod.snd)[k]?
      | none => Γ x := by
  induction params with
  | nil => rfl
  | cons p params ih =>
      have hcons : Γ.hidden (p :: params) x = if x = p.1 then some p.2 else Γ.hidden params x :=
        Function.update_apply ..
      rw [hcons, List.map_cons, List.map_cons, List.idxOf?_cons]
      by_cases h : x = p.1
      · simp [h]
      · have hne : (p.1 == x) = false := by simpa using fun he : p.1 = x => h he.symm
        rw [if_neg h, ih, hne]
        cases (params.map Prod.fst).idxOf? x <;> rfl

namespace Expr

theorem emission_alpha {e e' : Expr} {Γ Δ : Context} (ps qs : List (String × Ty))
    (htypes : ps.map Prod.snd = qs.map Prod.snd) (h : e.nameless (ps.map Prod.fst) = e'.nameless (qs.map Prod.fst))
    (hfree : ∀ x ∈ e.free, x ∉ ps.map Prod.fst → Γ x = Δ x) (n : Nat) :
    e.emission (Γ.hidden ps) n = e'.emission (Δ.hidden qs) n := by
  induction e generalizing e' ps qs n with
  | var x =>
      obtain ⟨y, rfl, ⟨k, hk, hl⟩ | ⟨hk, hl, rfl⟩⟩ := nameless_var_inv h
      · have hlt : k < (ps.map Prod.snd).length := by
          obtain ⟨hlt, _⟩ := List.idxOf?_eq_some_iff.1 hk
          simpa using hlt
        have hx : Γ.hidden ps x = some (ps.map Prod.snd)[k] := by
          rw [Γ.hidden_apply, hk]
          exact List.getElem?_eq_getElem hlt
        have hy : Δ.hidden qs y = some (ps.map Prod.snd)[k] := by
          rw [Δ.hidden_apply, hl, ← htypes]
          exact List.getElem?_eq_getElem hlt
        rw [emission, emission, hx, hy]
      · have hx := hfree x (by simp [free]) (List.idxOf?_eq_none_iff.1 hk)
        rw [emission, emission, Γ.hidden_apply, Δ.hidden_apply, hk, hl]
        simp only [hx]
  | app f a ihf iha =>
      obtain ⟨g, b, rfl, hfg, hab⟩ := nameless_app_inv h
      have hf := ihf ps qs htypes hfg fun x hx => hfree x (by simp [free, hx])
      have ha := iha ps qs htypes hab fun x hx => hfree x (by simp [free, hx])
      simp only [emission, hf, ha]
  | abs x b ih =>
      obtain ⟨y, c, rfl, hbc⟩ := nameless_abs_inv h
      have hb : b.emission (Γ.hidden ((x, .var n) :: ps)) (n + 1) =
          c.emission (Δ.hidden ((y, .var n) :: qs)) (n + 1) := by
        refine ih ((x, .var n) :: ps) ((y, .var n) :: qs) (by simp [htypes]) hbc (fun z hz hzs => ?_) (n + 1)
        rw [List.map_cons, List.mem_cons, not_or] at hzs
        exact hfree z (by simp [free, hz, hzs.1]) hzs.2
      change b.emission (Function.update (Γ.hidden ps) x (some (.var n))) (n + 1) =
        c.emission (Function.update (Δ.hidden qs) y (some (.var n))) (n + 1) at hb
      simp only [emission, hb]
  | const c =>
      obtain rfl := nameless_const_inv h
      rfl

def inferred (e : Expr) (base : Scope) : Except InferError Inferred :=
  match e.inferIn base with
  | .ok res _ => .ok res
  | .error err _ => .error err

theorem inferred_congr {e e' : Expr} {base base' : Scope} (h : e.emissionIn base = e'.emissionIn base') :
    e.inferred base = e'.inferred base' := by
  have hsolving : e.solving base = e'.solving base' := by
    unfold solving gathered
    rw [h]
    rfl
  unfold inferred
  rw [inferIn_eq, inferIn_eq, h, hsolving]
  cases (e'.emissionIn base').outcome with
  | error err => rfl
  | ok unsolved =>
      dsimp only
      cases (e'.emissionIn base').equations.forM Unifier.solve (e'.solving base') with
      | error err u => rfl
      | ok a u =>
          dsimp only
          cases u.store.substitute unsolved <;> rfl

/-- Neither the names of parameters nor entries for names that are not free in the expression make a difference: the
result, with all its variables, or the error is the same. -/
theorem AlphaEq.inferred_eq {e e' : Expr} (h : e.AlphaEq e') {base base' : Scope}
    (hfree : ∀ x ∈ e.free, Entries.get? base x = Entries.get? base' x) : e.inferred base = e'.inferred base' :=
  inferred_congr (emission_alpha [] [] rfl h (fun x hx _ => hfree x hx) 0)

theorem AlphaEq.inferred_eq_shadowing :
    let e : Expr := .abs "x" (.app (.var "apply") (.abs "y" (.app (.var "x") (.var "y"))))
    let e' : Expr := .abs "y" (.app (.var "apply") (.abs "one" (.app (.var "y") (.var "one"))))
    let apply : String × Ty := ("apply", .fn (.fn (.con "Int" []) (.con "Int" [])) (.con "Int" []))
    let base : Scope := [("one", .con "Int" []), apply]
    let base' : Scope := [apply, ("x", .con "Bool" [])]
    e.AlphaEq e' ∧ (∀ x ∈ e.free, Entries.get? base x = Entries.get? base' x) ∧
      e.inferred base = e'.inferred base' := by
  intro e e' apply base base'
  have h : e.AlphaEq e' := by decide
  have hfree : ∀ x ∈ e.free, Entries.get? base x = Entries.get? base' x := by decide
  exact ⟨h, hfree, h.inferred_eq hfree⟩

end Expr

end Monotype
