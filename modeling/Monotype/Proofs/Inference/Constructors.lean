import Monotype.Proofs.Inference.Principal

namespace Monotype

namespace Ty

mutual

def rename (ρ : String → String) : Ty → Ty
  | var i => var i
  | con f args => con (ρ f) (renameArgs ρ args)

def renameArgs (ρ : String → String) : List Ty → List Ty
  | [] => []
  | a :: as => rename ρ a :: renameArgs ρ as

end

variable {ρ : String → String}

theorem renameArgs_eq_map (args : List Ty) : renameArgs ρ args = args.map (rename ρ) := by
  induction args with
  | nil => rfl
  | cons a as ih => rw [renameArgs, ih, List.map_cons]

@[simp] theorem rename_con (f : String) (args : List Ty) : (con f args).rename ρ = con (ρ f) (args.map (rename ρ)) := by
  rw [rename, renameArgs_eq_map]

theorem rename_fn (hfn : ρ "Fun" = "Fun") (p r : Ty) : (fn p r).rename ρ = fn (p.rename ρ) (r.rename ρ) := by
  simp [fn, hfn]

theorem Over.rename_eq {P : String → Prop} (hρ : ∀ f, P f → ρ f = f) {t : Ty} (h : t.Over P) : t.rename ρ = t := by
  induction h with
  | var i => rw [rename]
  | con hf _ ih => rw [rename_con, hρ _ hf, List.map_congr_left ih, List.map_id']

/-- Replacing variables leaves the constructors in place, so they are those that the renaming keeps. -/
theorem over_of_apply_eq_rename {σ : Int → Ty} {t : Ty} (h : t.apply σ = t.rename ρ) : t.Over fun f => ρ f = f := by
  induction t with
  | var i => exact .var i
  | con f args ih =>
      rw [apply_con, rename_con] at h
      obtain ⟨hf, hargs⟩ := con.inj h
      exact .con hf.symm fun a ha => ih a ha (List.map_inj_left.1 hargs a ha)

end Ty

def Context.rename (Γ : Context) (ρ : String → String) : Context := fun x => (Γ x).map (Ty.rename ρ)

theorem Context.rename_update (Γ : Context) (ρ : String → String) (x : String) (t : Ty) :
    Context.rename (Function.update Γ x (some t)) ρ = Function.update (Γ.rename ρ) x (some (t.rename ρ)) := by
  funext y
  by_cases hy : y = x
  · subst hy
    simp [Context.rename]
  · simp [Context.rename, hy]

theorem HasType.rename {ρ : String → String} (hfn : ρ "Fun" = "Fun") {Γ : Context} {e : Expr} {t : Ty}
    (h : HasType Γ e t) : HasType (Γ.rename ρ) e (t.rename ρ) := by
  induction h with
  | var h => exact .var (by rw [Context.rename, h]; rfl)
  | app _ _ ihf iha =>
      rw [Ty.rename_fn hfn] at ihf
      exact .app ihf iha
  | abs _ ih =>
      rw [Context.rename_update] at ih
      rw [Ty.rename_fn hfn]
      exact .abs ih

namespace Expr

variable {base : Scope} {e : Expr}

theorem hasType_resolved (hbase : Scope.Ground base) {res : Inferred} {s : Session} (h : e.inferIn base = .ok res s) :
    HasType (Entries.get? base) e res.resolved := by
  obtain ⟨u, ho, hs, ht⟩ := inferIn_ok h
  obtain ⟨hext, hwf, hsol⟩ := Unifier.solveAll_ok (wellFormed_solving e base) hs
  have hcov := hext.covers_iff.2 (covers_emission hbase ho).1
  have htype := emission_sound ho ((hsol _).1 (Store.solves_value hwf Ty.var)).2
  rw [Store.substitute_eq hwf hcov] at ht
  rwa [hbase.apply_get?, ← Ty.apply_apply, Ty.apply_id, Except.ok.inj ht] at htype

theorem over_of_inferIn (hbase : Scope.Ground base) {P : String → Prop} (hfn : P "Fun")
    (hP : ∀ x t, Entries.get? base x = some t → t.Over P) {res : Inferred} {s : Session}
    (h : e.inferIn base = .ok res s) : res.resolved.Over P := by
  classical
  have htype := hasType_resolved hbase h
  -- all other constructors become the one of functions
  let ρ : String → String := fun f => if P f then f else "Fun"
  have hρ (f : String) (hf : P f) : ρ f = f := if_pos hf
  have hfix (f : String) (hf : ρ f = f) : P f := by
    by_contra hnot
    have hother : ρ f = "Fun" := if_neg hnot
    exact hnot (hf ▸ hother ▸ hfn)
  have hctx : Context.rename (Entries.get? base) ρ = Entries.get? base := by
    funext x
    rw [Context.rename]
    cases hx : Entries.get? base x with
    | none => rfl
    | some t => exact congrArg some ((hP x t hx).rename_eq hρ)
  have hrenamed := htype.rename (hρ _ hfn)
  rw [hctx] at hrenamed
  obtain ⟨res', s', h', hall⟩ := exists_inferIn hbase htype
  obtain ⟨rfl, _⟩ := EStateM.Result.ok.inj (h.symm.trans h')
  obtain ⟨σ, hσ⟩ := hall _ hrenamed
  exact (Ty.over_of_apply_eq_rename hσ).mono hfix

end Expr

end Monotype
