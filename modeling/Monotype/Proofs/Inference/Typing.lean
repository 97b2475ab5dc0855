import Monotype.Proofs.Entries
import Monotype.Proofs.Inference.Emission

namespace Monotype

abbrev Context := String → Option Ty

namespace Context

def apply (Γ : Context) (σ : Int → Ty) : Context := fun x => (Γ x).map (Ty.apply σ)

/-- The types mention only the first `n` variables. -/
def Below (Γ : Context) (n : Nat) : Prop := ∀ x t, Γ x = some t → ∀ i ∈ t.vars, 0 ≤ i ∧ i < n

end Context

/-- The name of a parameter hides what the name was before. Everything but `Ty.fn` is opaque. -/
inductive HasType : Context → Expr → Ty → Prop
  | var {Γ x t} (h : Γ x = some t) : HasType Γ (.var x) t
  | app {Γ f a p r} (hf : HasType Γ f (.fn p r)) (ha : HasType Γ a p) : HasType Γ (.app f a) r
  | abs {Γ x b p r} (hb : HasType (Function.update Γ x (some p)) b r) : HasType Γ (.abs x b) (.fn p r)

def Ty.Below (t : Ty) (n : Nat) : Prop := ∀ i ∈ t.vars, 0 ≤ i ∧ i < n

def Equation.Below (e : Equation) (n : Nat) : Prop := e.left.Below n ∧ e.right.Below n

theorem Ty.Below.mono {t : Ty} {m n : Nat} (h : t.Below m) (hmn : m ≤ n) : t.Below n := by
  intro i hi
  have hlt := h i hi
  omega

theorem Equation.Below.mono {e : Equation} {m n : Nat} (h : e.Below m) (hmn : m ≤ n) : e.Below n :=
  ⟨h.1.mono hmn, h.2.mono hmn⟩

theorem Context.Below.mono {Γ : Context} {m n : Nat} (h : Γ.Below m) (hmn : m ≤ n) : Γ.Below n :=
  fun x t ht => Ty.Below.mono (h x t ht) hmn

theorem Ty.below_var (n : Nat) : (Ty.var n).Below (n + 1) := by
  intro i hi
  rw [Ty.mem_vars_var] at hi
  omega

theorem Ty.below_fn {p r : Ty} {n : Nat} : (Ty.fn p r).Below n ↔ p.Below n ∧ r.Below n := by
  unfold Ty.Below
  simp only [Ty.mem_vars_fn]
  exact ⟨fun h => ⟨fun i hi => h i (.inl hi), fun i hi => h i (.inr hi)⟩, fun h i hi => hi.elim (h.1 i) (h.2 i)⟩

theorem Context.Below.update {Γ : Context} {n : Nat} (h : Γ.Below n) (x : String) :
    Context.Below (Function.update Γ x (some (.var n))) (n + 1) := by
  intro y t ht
  by_cases hy : y = x
  · subst hy
    rw [Function.update_self] at ht
    cases ht
    exact Ty.below_var n
  · rw [Function.update_of_ne hy] at ht
    exact Ty.Below.mono (h y t ht) (Nat.le_succ n)

def Agree (n : Nat) (σ τ : Int → Ty) : Prop := ∀ i : Int, i < n → σ i = τ i

theorem Agree.mono {m n : Nat} {σ τ : Int → Ty} (h : Agree n σ τ) (hmn : m ≤ n) : Agree m σ τ :=
  fun i hi => h i (by omega)

theorem Agree.trans {n : Nat} {σ τ ρ : Int → Ty} (h : Agree n σ τ) (h' : Agree n τ ρ) : Agree n σ ρ :=
  fun i hi => (h i hi).trans (h' i hi)

theorem agree_update (n : Nat) (σ : Int → Ty) (t : Ty) : Agree n (Function.update σ n t) σ := by
  intro i hi
  have hne : i ≠ n := by omega
  exact Function.update_of_ne hne t σ

theorem Agree.apply_ty {n : Nat} {σ τ : Int → Ty} (h : Agree n σ τ) {t : Ty} (ht : t.Below n) :
    t.apply σ = t.apply τ :=
  Ty.apply_congr fun i hi => h i (ht i hi).2

theorem Agree.holds_iff {n : Nat} {σ τ : Int → Ty} (h : Agree n σ τ) {e : Equation} (he : e.Below n) :
    e.Holds σ ↔ e.Holds τ := by
  rw [Equation.Holds, Equation.Holds, h.apply_ty he.1, h.apply_ty he.2]

theorem Context.apply_congr {Γ : Context} {σ τ : Int → Ty} (h : ∀ x t, Γ x = some t → ∀ i ∈ t.vars, σ i = τ i) :
    Γ.apply σ = Γ.apply τ := by
  funext x
  unfold Context.apply
  cases hx : Γ x with
  | none => rfl
  | some t => exact congrArg some (Ty.apply_congr (h x t hx))

theorem Agree.apply_context {n : Nat} {σ τ : Int → Ty} (h : Agree n σ τ) {Γ : Context} (hΓ : Γ.Below n) :
    Γ.apply σ = Γ.apply τ :=
  Context.apply_congr fun x t hx i hi => h i (hΓ x t hx i hi).2

theorem Context.apply_update (Γ : Context) (x : String) (t : Ty) (σ : Int → Ty) :
    Context.apply (Function.update Γ x (some t)) σ = Function.update (Γ.apply σ) x (some (t.apply σ)) := by
  funext y
  by_cases hy : y = x
  · subst hy
    simp [Context.apply]
  · simp [Context.apply, hy]

namespace Expr

theorem emission_app {f a : Expr} {Γ : Context} {n : Nat} {p u : Ty} (hf : (f.emission Γ n).outcome = .ok p)
    (ha : (a.emission Γ (n + (f.emission Γ n).slots)).outcome = .ok u) :
    (Expr.app f a).emission Γ n =
      (f.emission Γ n).followedBy ((a.emission Γ (n + (f.emission Γ n).slots)).followedBy
        (.application p u (n + (f.emission Γ n).slots + (a.emission Γ (n + (f.emission Γ n).slots)).slots))) := by
  simp only [emission, Emission.andThen, hf, ha]

theorem emission_app_ok {f a : Expr} {Γ : Context} {n : Nat} {t : Ty}
    (h : ((Expr.app f a).emission Γ n).outcome = .ok t) :
    ∃ p u, (f.emission Γ n).outcome = .ok p ∧
      (a.emission Γ (n + (f.emission Γ n).slots)).outcome = .ok u := by
  simp only [emission, Emission.andThen] at h
  cases hf : (f.emission Γ n).outcome with
  | error e => simp [hf] at h
  | ok p =>
      cases ha : (a.emission Γ (n + (f.emission Γ n).slots)).outcome with
      | error e => simp [hf, ha, Emission.followedBy] at h
      | ok u => exact ⟨p, u, rfl, rfl⟩

theorem emission_abs_ok {x : String} {b : Expr} {Γ : Context} {n : Nat} {t : Ty}
    (h : ((Expr.abs x b).emission Γ n).outcome = .ok t) :
    ∃ r, (b.emission (Function.update Γ x (some (.var n))) (n + 1)).outcome = .ok r ∧ t = .fn (.var n) r := by
  rw [emission] at h
  cases hb : (b.emission (Function.update Γ x (some (.var n))) (n + 1)).outcome with
  | error e => simp [hb, Except.map] at h
  | ok r => exact ⟨r, rfl, by simpa [hb, Except.map, eq_comm] using h⟩

theorem emission_abs {x : String} {b : Expr} {Γ : Context} {n : Nat} {r : Ty}
    (hb : (b.emission (Function.update Γ x (some (.var n))) (n + 1)).outcome = .ok r) :
    ((Expr.abs x b).emission Γ n).outcome = .ok (.fn (.var n) r) := by
  rw [emission, hb]
  rfl

theorem emission_below {e : Expr} {Γ : Context} {n : Nat} (hΓ : Γ.Below n) {t : Ty}
    (h : (e.emission Γ n).outcome = .ok t) :
    t.Below (n + (e.emission Γ n).slots) ∧
      ∀ q ∈ (e.emission Γ n).equations, q.Below (n + (e.emission Γ n).slots) := by
  induction e generalizing Γ n t with
  | var x =>
      rw [emission] at h ⊢
      cases hx : Γ x with
      | none => simp [hx] at h
      | some u =>
          simp only [hx, Except.ok.injEq] at h
          subst h
          exact ⟨hΓ x u hx, by simp⟩
  | const c => simp [emission] at h
  | abs x b ih =>
      obtain ⟨r, hb, rfl⟩ := emission_abs_ok h
      obtain ⟨hr, hq⟩ := ih (hΓ.update x) hb
      have hle : n + 1 + (b.emission (Function.update Γ x (some (.var n))) (n + 1)).slots =
          n + ((Expr.abs x b).emission Γ n).slots := by
        simp only [emission]
        omega
      rw [hle] at hr hq
      exact ⟨Ty.below_fn.2 ⟨(Ty.below_var n).mono (by omega), hr⟩, hq⟩
  | app f a ihf iha =>
      obtain ⟨p, u, hf, ha⟩ := emission_app_ok h
      obtain ⟨hp, hqf⟩ := ihf hΓ hf
      obtain ⟨hu, hqa⟩ := iha (hΓ.mono (Nat.le_add_right _ _)) ha
      rw [emission_app hf ha] at h ⊢
      generalize f.emission Γ n = rf at *
      generalize a.emission Γ (n + rf.slots) = ra at *
      simp only [Emission.followedBy, Emission.application, Except.ok.injEq] at h ⊢
      subst h
      have hsum : n + (rf.slots + (ra.slots + 1)) = n + rf.slots + ra.slots + 1 := by omega
      have hvar := Ty.below_var (n + rf.slots + ra.slots)
      rw [hsum]
      refine ⟨hvar, fun q hq => ?_⟩
      simp only [List.mem_append, List.mem_singleton] at hq
      rcases hq with hq | hq | rfl
      · exact (hqf q hq).mono (by omega)
      · exact (hqa q hq).mono (by omega)
      · exact ⟨hp.mono (by omega), Ty.below_fn.2 ⟨hu.mono (by omega), hvar⟩⟩

/-- An assignment that satisfies the equations types the expression. -/
theorem emission_sound {e : Expr} {Γ : Context} {n : Nat} {t : Ty} (h : (e.emission Γ n).outcome = .ok t)
    {σ : Int → Ty} (hσ : ∀ q ∈ (e.emission Γ n).equations, q.Holds σ) : HasType (Γ.apply σ) e (t.apply σ) := by
  induction e generalizing Γ n t with
  | var x =>
      rw [emission] at h
      cases hx : Γ x with
      | none => simp [hx] at h
      | some u =>
          simp only [hx, Except.ok.injEq] at h
          subst h
          exact .var (by rw [Context.apply, hx]; rfl)
  | const c => simp [emission] at h
  | abs x b ih =>
      obtain ⟨r, hb, rfl⟩ := emission_abs_ok h
      have hbody := ih hb hσ
      rw [Context.apply_update] at hbody
      rw [Ty.apply_fn]
      exact .abs hbody
  | app f a ihf iha =>
      obtain ⟨p, u, hf, ha⟩ := emission_app_ok h
      rw [emission_app hf ha] at h hσ
      simp only [Emission.followedBy, Emission.application, List.mem_append, List.mem_singleton, or_imp,
        forall_and, forall_eq, Except.ok.injEq] at h hσ
      obtain ⟨hqf, hqa, hnew⟩ := hσ
      subst h
      have hfun := ihf hf hqf
      -- the equation of the application turns the function's type into an arrow
      rw [Equation.Holds, Ty.apply_fn] at hnew
      rw [hnew] at hfun
      exact .app hfun (iha ha hqa)

/-- Every typing of the expression comes from an assignment that satisfies the equations. -/
theorem emission_complete {e : Expr} {Γ : Context} {n : Nat} (hΓ : Γ.Below n) {σ : Int → Ty} {t : Ty}
    (h : HasType (Γ.apply σ) e t) :
    ∃ u τ, (e.emission Γ n).outcome = .ok u ∧ Agree n τ σ ∧
      (∀ q ∈ (e.emission Γ n).equations, q.Holds τ) ∧ u.apply τ = t := by
  induction e generalizing Γ n σ t with
  | var x =>
      cases h with
      | var hx =>
          obtain ⟨u, hu, rfl⟩ := Option.map_eq_some_iff.1 hx
          refine ⟨u, σ, ?_, fun _ _ => rfl, ?_, rfl⟩
          · rw [emission, hu]
          · rw [emission, hu]
            simp
  | const c => cases h
  | abs x b ih =>
      cases h with
      | @abs _ _ _ p r hb =>
          have hagree := agree_update n σ p
          have hctx : Context.apply (Function.update Γ x (some (.var n))) (Function.update σ n p) =
              Function.update (Γ.apply σ) x (some p) := by
            rw [Context.apply_update, hagree.apply_context hΓ, Ty.apply_var, Function.update_self]
          rw [← hctx] at hb
          obtain ⟨u, τ, hu, hτ, hq, rfl⟩ := ih (hΓ.update x) hb
          refine ⟨.fn (.var n) u, τ, emission_abs hu, (hτ.mono (Nat.le_succ n)).trans hagree, hq, ?_⟩
          rw [Ty.apply_fn, Ty.apply_var, hτ n (by omega), Function.update_self]
  | app f a ihf iha =>
      cases h with
      | @app _ _ _ p _ hf ha =>
          obtain ⟨tf, σf, hf, hσf, hqf, htf⟩ := ihf hΓ hf
          rw [← hσf.apply_context hΓ] at ha
          obtain ⟨ta, σa, ha, hσa, hqa, hta⟩ := iha (hΓ.mono (Nat.le_add_right _ _)) ha
          obtain ⟨hbf, hbqf⟩ := emission_below hΓ hf
          obtain ⟨hba, hbqa⟩ := emission_below (hΓ.mono (Nat.le_add_right _ _)) ha
          rw [emission_app hf ha]
          generalize f.emission Γ n = rf at *
          generalize a.emission Γ (n + rf.slots) = ra at *
          -- the last variable stands for the result of the application
          have hlast := agree_update (n + rf.slots + ra.slots) σa t
          have hmid := (hlast.mono (Nat.le_add_right (n + rf.slots) ra.slots)).trans hσa
          refine ⟨.var (n + rf.slots + ra.slots : Nat), Function.update σa (n + rf.slots + ra.slots : Nat) t, rfl,
            (hmid.mono (Nat.le_add_right n rf.slots)).trans hσf, fun q hq => ?_, ?_⟩
          · simp only [Emission.followedBy, Emission.application, List.mem_append, List.mem_singleton] at hq
            rcases hq with hq | hq | rfl
            · exact (hmid.holds_iff (hbqf q hq)).2 (hqf q hq)
            · exact (hlast.holds_iff (hbqa q hq)).2 (hqa q hq)
            · rw [Equation.Holds, Ty.apply_fn, Ty.apply_var, Function.update_self, hmid.apply_ty hbf, htf,
                hlast.apply_ty hba, hta]
          · rw [Ty.apply_var, Function.update_self]

end Expr

theorem Store.covers_of_below {s : Store} {t : Ty} {n : Nat} (h : t.Below n) (hn : s.size = n) : s.Covers t := by
  subst hn
  exact h

namespace Session

def Scoped (s : Session) : Prop := ∀ scope ∈ s.env.scopes, ∀ entry ∈ scope, s.store.Covers entry.2

instance (s : Session) : Decidable s.Scoped :=
  inferInstanceAs (Decidable (∀ scope ∈ s.env.scopes, ∀ entry ∈ scope, s.store.Covers entry.2))

theorem Scoped.below {s : Session} (hs : s.Scoped) : Context.Below s.env.lookup s.store.size := by
  intro x t h
  obtain ⟨scope, hscope, hx⟩ := List.exists_of_findSome?_eq_some h
  obtain ⟨y, hy⟩ := Entries.mem_of_get? hx
  exact hs scope hscope (y, t) hy

/-- The equations that inferring adds are exact. Under any types for the variables so far, the types of the expression
are those of its unsolved type where the new variables are chosen so that all new equations hold. -/
theorem infer_exact {s s' : Session} (hs : s.Scoped) {e : Expr} {u : Ty} (h : infer e s = .ok u s') :
    ∃ new : List Equation, s'.equations.toList = s.equations.toList ++ new ∧
      s'.store.Covers u ∧ (∀ q ∈ new, s'.store.Covers q.left ∧ s'.store.Covers q.right) ∧
      ∀ σ t, HasType (Context.apply s.env.lookup σ) e t ↔
        ∃ τ, (∀ i, s.store.Allocated i → τ i = σ i) ∧ (∀ q ∈ new, q.Holds τ) ∧ u.apply τ = t := by
  obtain ⟨ho, rfl⟩ := infer_ok_iff.1 h
  have hbelow := Expr.emission_below hs.below ho
  have hsize := s.size_add (e.emission s.env.lookup s.store.size)
  refine ⟨(e.emission s.env.lookup s.store.size).equations, by simp [add], Store.covers_of_below hbelow.1 hsize,
    fun q hq => ⟨Store.covers_of_below (hbelow.2 q hq).1 hsize, Store.covers_of_below (hbelow.2 q hq).2 hsize⟩,
    fun σ t => ⟨fun ht => ?_, ?_⟩⟩
  · obtain ⟨v, τ, hv, hagree, hq, htτ⟩ := Expr.emission_complete hs.below ht
    obtain rfl : u = v := Except.ok.inj (ho.symm.trans hv)
    exact ⟨τ, fun i hi => hagree i hi.2, hq, htτ⟩
  · rintro ⟨τ, hagree, hq, rfl⟩
    have hctx : Context.apply s.env.lookup τ = Context.apply s.env.lookup σ :=
      Context.apply_congr fun x t hx i hi => hagree i (hs.below x t hx i hi)
    rw [← hctx]
    exact Expr.emission_sound ho hq

theorem infer_exact_bound :
    let s : Session :=
      { store := ⟨#[.fn (.var 1) (.con "Int" []), .var 1]⟩, env := ⟨[("f", .var 0)], [[("y", .var 1)]]⟩ }
    let e : Expr := .abs "x" (.app (.var "f") (.var "x"))
    s.Scoped ∧ ∃ s', infer e s = .ok (.fn (.var 2) (.var 3)) s' ∧
      ∀ σ t, HasType (Context.apply s.env.lookup σ) e t ↔
        ∃ τ : Int → Ty, (∀ i, s.store.Allocated i → τ i = σ i) ∧ τ 0 = .fn (τ 2) (τ 3) ∧ .fn (τ 2) (τ 3) = t := by
  intro s e
  have hs : s.Scoped := by decide
  have h : infer e s = .ok (.fn (.var 2) (.var 3)) _ := rfl
  obtain ⟨new, hnew, _, _, hexact⟩ := infer_exact hs h
  obtain rfl : new = [⟨.var 0, .fn (.var 2) (.var 3)⟩] := hnew.symm
  exact ⟨hs, _, h, by simpa [Equation.Holds] using hexact⟩

end Session

end Monotype
