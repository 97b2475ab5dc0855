import Monotype.Proofs.Ty.Reading
import Mathlib.Data.List.GetD
import Mathlib.Logic.Equiv.Fintype

namespace Monotype.Ty

theorem eq_of_toString_eq {m n : Nat} (h : (toString m).toList = (toString n).toList) : m = n := by
  have hdigits (n : Nat) : Nat.ofDigitChars 10 (toString n).toList 0 = n := by simp
  rw [← hdigits m, h, hdigits]

theorem varName_ofNat_ne_negSucc (m n : Nat) : varName m ≠ varName (.negSucc n) := by
  intro h
  have htail : (toString m).toList = '-' :: (toString (n + 1)).toList := by
    simpa only [varName_ofNat, varName_negSucc, List.cons.injEq, true_and] using congrArg String.toList h
  have hmem : '-' ∈ (toString m).toList := htail ▸ List.mem_cons_self
  have hdigit : '-'.isDigit = true := isDigit_of_mem_toString hmem
  exact absurd hdigit (by decide)

theorem varName_injective : Function.Injective varName := by
  intro i j h
  cases i with
  | ofNat m =>
      cases j with
      | ofNat n =>
          have htail : (toString m).toList = (toString n).toList := by
            simpa only [Int.ofNat_eq_natCast, varName_ofNat, List.cons.injEq, true_and] using congrArg String.toList h
          rw [eq_of_toString_eq htail]
      | negSucc n => exact absurd h (varName_ofNat_ne_negSucc m n)
  | negSucc m =>
      cases j with
      | ofNat n => exact absurd h.symm (varName_ofNat_ne_negSucc n m)
      | negSucc n =>
          have htail : (toString (m + 1)).toList = (toString (n + 1)).toList := by
            simpa only [varName_negSucc, List.cons.injEq, true_and] using congrArg String.toList h
          rw [Nat.succ.inj (eq_of_toString_eq htail)]

theorem displayName_ne_of_lt {m n : Nat} (hm : m < 26) (hn : 26 ≤ n) : displayName m ≠ displayName n := by
  intro h
  obtain ⟨c, hc, -⟩ := displayName_of_lt hm
  rw [h, displayName_of_le hn, varName_ofNat] at hc
  simp at hc

theorem displayName_injective : Function.Injective displayName := by
  intro m n h
  rcases Nat.lt_or_ge m 26 with hm | hm <;> rcases Nat.lt_or_ge n 26 with hn | hn
  · have hall : ∀ m < 26, ∀ n < 26, displayName m = displayName n → m = n := by decide +kernel
    exact hall m hm n hn h
  · exact absurd h (displayName_ne_of_lt hm hn)
  · exact absurd h.symm (displayName_ne_of_lt hn hm)
  · rw [displayName_of_le hm, displayName_of_le hn] at h
    exact Int.ofNat.inj (varName_injective h)

def IsLabel (w : String) : Prop := ∀ c ∈ w.toList, punctuation? c = none

inductive Labelled : Ty → Prop
  | con {f args} (hf : IsLabel f) (hargs : ∀ a ∈ args, Labelled a) : Labelled (.con f args)

def Stops (cs : List Char) : Prop := ∀ c ∈ cs.head?, c = ']' ∨ c = ','

theorem stops_tail (k : Int → String) (as : List Ty) (cs : List Char) :
    Stops ((renderTail k as).toList ++ ']' :: cs) := by
  cases as <;> simp [renderTail, Stops]

theorem label_inj {xs ys us vs : List Char} (hx : ∀ c ∈ xs, punctuation? c = none)
    (hy : ∀ c ∈ ys, punctuation? c = none) (hu : ∀ c ∈ us.head?, punctuation? c ≠ none)
    (hv : ∀ c ∈ vs.head?, punctuation? c ≠ none) (h : xs ++ us = ys ++ vs) : xs = ys ∧ us = vs := by
  induction xs generalizing ys with
  | nil =>
      cases ys with
      | nil => exact ⟨rfl, h⟩
      | cons y ys =>
          rw [List.nil_append] at h
          exact absurd (hy y List.mem_cons_self) (hu y (by simp [h]))
  | cons x xs ih =>
      obtain ⟨hxs, hall⟩ := List.forall_mem_cons.1 hx
      cases ys with
      | nil =>
          rw [List.nil_append] at h
          exact absurd hxs (hv x (by simp [← h]))
      | cons y ys =>
          obtain ⟨rfl, hrest⟩ := List.cons.inj h
          obtain ⟨rfl, rfl⟩ := ih hall (List.forall_mem_cons.1 hy).2 hrest
          exact ⟨rfl, rfl⟩

theorem Stops.punctuation {cs : List Char} (h : Stops cs) : ∀ c ∈ cs.head?, punctuation? c ≠ none := by
  intro c hc
  rcases h c hc with rfl | rfl <;> decide

mutual

/-- A written type tells the type and where it ends. -/
theorem renderWith_inj {k : Int → String} (a b : Ty) (ha : a.Labelled) (hb : b.Labelled) {us vs : List Char}
    (hu : Stops us) (hv : Stops vs) (h : (a.renderWith k).toList ++ us = (b.renderWith k).toList ++ vs) :
    a = b ∧ us = vs := by
  have hopen (cs : List Char) : ∀ c ∈ ('[' :: cs).head?, punctuation? c ≠ none := by simp [punctuation?]
  -- The names are as long as they can be, so a bracket behind one of them stands behind both.
  match a, b, ha, hb with
  | .con f [], .con g [], .con hf _, .con hg _ =>
      rw [renderWith, renderWith] at h
      obtain ⟨hfg, rfl⟩ := label_inj hf hg hu.punctuation hv.punctuation h
      rw [String.toList_inj.1 hfg]
      exact ⟨rfl, rfl⟩
  | .con f [], .con g (b :: bs), .con hf _, .con hg _ =>
      simp only [renderWith, String.toList_append, List.append_assoc] at h
      obtain ⟨-, rfl⟩ := label_inj hf hg hu.punctuation (hopen _) h
      simp [Stops] at hu
  | .con f (a :: as), .con g [], .con hf _, .con hg _ =>
      simp only [renderWith, String.toList_append, List.append_assoc] at h
      obtain ⟨-, rfl⟩ := label_inj hf hg (hopen _) hv.punctuation h
      simp [Stops] at hv
  | .con f (a :: as), .con g (b :: bs), .con hf has, .con hg hbs =>
      simp only [renderWith, String.toList_append, List.append_assoc] at h
      obtain ⟨hfg, hargs⟩ := label_inj hf hg (hopen _) (hopen _) h
      obtain ⟨ha, hrest⟩ := List.forall_mem_cons.1 has
      obtain ⟨hb, hrest'⟩ := List.forall_mem_cons.1 hbs
      obtain ⟨rfl, htail⟩ := renderWith_inj a b ha hb (stops_tail k as us) (stops_tail k bs vs) (List.cons.inj hargs).2
      obtain ⟨rfl, rfl⟩ := renderTail_inj as bs hrest hrest' htail
      rw [String.toList_inj.1 hfg]
      exact ⟨rfl, rfl⟩

theorem renderTail_inj {k : Int → String} (as bs : List Ty) (has : ∀ a ∈ as, a.Labelled) (hbs : ∀ b ∈ bs, b.Labelled)
    {us vs : List Char} (h : (renderTail k as).toList ++ ']' :: us = (renderTail k bs).toList ++ ']' :: vs) :
    as = bs ∧ us = vs := by
  match as, bs with
  | [], [] => simpa [renderTail] using h
  | [], b :: bs => simp [renderTail] at h
  | a :: as, [] => simp [renderTail] at h
  | a :: as, b :: bs =>
      simp only [renderTail, String.toList_append, List.append_assoc] at h
      obtain ⟨ha, hrest⟩ := List.forall_mem_cons.1 has
      obtain ⟨hb, hrest'⟩ := List.forall_mem_cons.1 hbs
      obtain ⟨rfl, htail⟩ :=
        renderWith_inj a b ha hb (stops_tail k as us) (stops_tail k bs vs) (List.append_cancel_left h)
      obtain ⟨rfl, rfl⟩ := renderTail_inj as bs hrest hrest' htail
      exact ⟨rfl, rfl⟩

end

mutual

theorem renderWith_apply (k : Int → String) (σ : Int → Ty) (t : Ty) :
    (t.apply σ).renderWith k = t.renderWith fun i => (σ i).renderWith k := by
  match t with
  | .var i => rw [apply_var, renderWith]
  | .con f [] => rw [apply_con, List.map_nil, renderWith, renderWith]
  | .con f (a :: as) =>
      rw [apply_con, List.map_cons, renderWith, renderWith, renderWith_apply k σ a, renderTail_map k σ as]

theorem renderTail_map (k : Int → String) (σ : Int → Ty) (as : List Ty) :
    renderTail k (as.map (apply σ)) = renderTail (fun i => (σ i).renderWith k) as := by
  match as with
  | [] => rfl
  | a :: as => rw [List.map_cons, renderTail, renderTail, renderWith_apply k σ a, renderTail_map k σ as]

end

/-- The type with constructors in the place of its variables, named like them. -/
def named (k : Int → String) (t : Ty) : Ty := t.apply fun i => con (k i) []

theorem renderWith_named (k l : Int → String) (t : Ty) : (t.named k).renderWith l = t.renderWith k := by
  rw [named, renderWith_apply]
  simp only [renderWith]

theorem labelled_named {k : Int → String} (hk : ∀ i, IsLabel (k i)) {t : Ty} (h : t.Over IsLabel) :
    (t.named k).Labelled := by
  induction h with
  | var i => exact .con (hk i) (by simp)
  | con hf _ ih =>
      rw [named, apply_con]
      exact .con hf (List.forall_mem_map.2 ih)

theorem named_eq_of_renderWith {k l : Int → String} (hk : ∀ i, IsLabel (k i)) (hl : ∀ i, IsLabel (l i)) {t u : Ty}
    (ht : t.Over IsLabel) (hu : u.Over IsLabel) (h : t.renderWith k = u.renderWith l) : t.named k = u.named l := by
  have hend : Stops [] := by simp [Stops]
  rw [← renderWith_named k l t, ← renderWith_named l l u] at h
  exact (renderWith_inj _ _ (labelled_named hk ht) (labelled_named hl hu) hend hend (congrArg (·.toList ++ []) h)).1

theorem apply_eq_of_named {k l : Int → String} {f : Int → Int} {t u : Ty} (ht : t.Over fun g => ∀ j, g ≠ l j)
    (hu : u.Over fun g => ∀ i, g ≠ k i) (hf : ∀ i, ∀ j ∈ u.vars, k i = l j → f i = j) (h : t.named k = u.named l) :
    t.apply (fun i => .var (f i)) = u := by
  -- Where one type has a variable the other has one too, since no constructor has its name.
  induction ht generalizing u with
  | var i =>
      cases hu with
      | var j =>
          obtain ⟨hij, -⟩ := con.inj h
          rw [apply_var, hf i j (by simp) hij]
      | con hg _ =>
          rw [named, named, apply_var, apply_con] at h
          exact absurd (con.inj h).1.symm (hg i)
  | @con g as hg has ih =>
      cases hu with
      | var j =>
          rw [named, named, apply_var, apply_con] at h
          exact absurd (con.inj h).1 (hg j)
      | @con g' bs _ hbs =>
          rw [named, named, apply_con, apply_con] at h
          obtain ⟨rfl, hargs⟩ := con.inj h
          rw [apply_con]
          refine congrArg (con g) (List.ext_getElem (by simpa using congrArg List.length hargs) fun n hn hn' => ?_)
          have hmem : bs[n] ∈ bs := List.getElem_mem hn'
          have hn : n < as.length := by simpa using hn
          have hname : as[n].named k = bs[n].named l := by
            have hat := List.getElem_of_eq hargs (by simpa using hn)
            rw [List.getElem_map, List.getElem_map] at hat
            exact hat
          rw [List.getElem_map]
          exact ih as[n] (List.getElem_mem hn) (hbs _ hmem) (fun i j hj => hf i j (mem_vars_con.2 ⟨_, hmem, hj⟩)) hname

theorem eq_of_apply_eq {σ τ : Int → Ty} {t : Ty} (h : t.apply σ = t.apply τ) : ∀ i ∈ t.vars, σ i = τ i := by
  induction t with
  | var j =>
      intro i hi
      rw [mem_vars_var] at hi
      subst hi
      simpa using h
  | con f args ih =>
      intro i hi
      obtain ⟨a, ha, hia⟩ := mem_vars_con.1 hi
      rw [apply_con, apply_con] at h
      exact ih a ha (List.map_inj_left.1 (con.inj h).2 a ha) i hia

def shown (t : Ty) (i : Int) : String := displayName (t.vars.eraseDups.idxOf i)

theorem display_eq (t : Ty) : t.display = t.renderWith t.shown := rfl

theorem vars_apply_var (f : Int → Int) (t : Ty) : (t.apply fun i => .var (f i)).vars = t.vars.map f := by
  induction t with
  | var i => simp [vars]
  | con g args ih =>
      rw [apply_con, vars, vars, varsArgs_eq_flatMap, varsArgs_eq_flatMap, List.flatMap_map, List.map_flatMap]
      exact List.flatMap_congr ih

theorem eraseDups_map {f : Int → Int} (hf : Function.Injective f) (is : List Int) :
    (is.map f).eraseDups = is.eraseDups.map f := by
  match is with
  | [] => rfl
  | i :: is =>
      have hother : (fun j => !j == f i) ∘ f = fun j => !j == i := by
        funext j
        simp [beq_eq_decide, hf.eq_iff]
      rw [List.map_cons, List.eraseDups_cons, List.eraseDups_cons, List.map_cons, List.filter_map, hother]
      exact congrArg (f i :: ·) (eraseDups_map hf _)
termination_by is.length
decreasing_by exact Nat.lt_succ_of_le (List.length_filter_le _ _)

theorem idxOf_map {f : Int → Int} (hf : Function.Injective f) (is : List Int) (i : Int) :
    (is.map f).idxOf (f i) = is.idxOf i := by
  induction is with
  | nil => rfl
  | cons j is ih => simp [List.idxOf_cons, ih, hf.eq_iff, beq_eq_decide]

theorem display_apply {f : Int → Int} (hf : Function.Injective f) (t : Ty) :
    (t.apply fun i => .var (f i)).display = t.display := by
  rw [display_eq, display_eq, renderWith_apply]
  congr 1
  funext i
  rw [renderWith, shown, shown, vars_apply_var, eraseDups_map hf, idxOf_map hf]

theorem shown_inj {t : Ty} {i j : Int} (hi : i ∈ t.vars) (h : t.shown i = t.shown j) : i = j :=
  (List.idxOf_inj (List.mem_eraseDups.2 hi)).1 (displayName_injective h)

/-- The variable of a type that has the rank of `i` in another one. -/
def partner (t u : Ty) (i : Int) : Int := u.vars.eraseDups.getD (t.vars.eraseDups.idxOf i) 0

theorem partner_eq {t u : Ty} {i j : Int} (hj : j ∈ u.vars) (h : t.shown i = u.shown j) : partner t u i = j := by
  have hlt := List.idxOf_lt_length_of_mem (List.mem_eraseDups.2 hj)
  rw [partner, displayName_injective h, List.getD_eq_getElem _ _ hlt, List.getElem_idxOf]

theorem exists_perm_of_inj {f : Int → Int} {is : List Int} (hf : ∀ i ∈ is, ∀ j ∈ is, f i = f j → i = j) :
    ∃ π : Equiv.Perm Int, ∀ i ∈ is, π i = f i := by
  obtain ⟨π, hπ⟩ := Equiv.Perm.exists_extending_pair (fun i : {i // i ∈ is} => i.1) (fun i => f i.1)
    Subtype.val_injective fun i j h => Subtype.ext (hf i.1 i.2 j.1 j.2 h)
  exact ⟨π, fun i hi => hπ ⟨i, hi⟩⟩

theorem name_eq_of_named {k l : Int → String} {f : Int → Int} {t u : Ty} (hu : (t.apply fun i => .var (f i)) = u)
    (h : t.named k = u.named l) : ∀ i ∈ t.vars, k i = l (f i) := by
  subst hu
  rw [named, named, apply_apply] at h
  intro i hi
  simpa using eq_of_apply_eq h i hi

theorem exists_perm_of_named {t u : Ty} (ht : t.Over fun g => ∀ j, g ≠ u.shown j)
    (hu : u.Over fun g => ∀ i, g ≠ t.shown i) (h : t.named t.shown = u.named u.shown) :
    ∃ π : Equiv.Perm Int, (t.apply fun i => .var (π i)) = u := by
  have hpartner := apply_eq_of_named ht hu (fun i j hj hij => partner_eq hj hij) h
  have hshown := name_eq_of_named hpartner h
  have hinj : ∀ i ∈ t.vars, ∀ j ∈ t.vars, partner t u i = partner t u j → i = j := by
    intro i hi j hj hij
    exact shown_inj hi (by rw [hshown i hi, hshown j hj, hij])
  -- A variable that is not in `t` may have any partner, so the permutation is not `partner` itself.
  obtain ⟨π, hπ⟩ := exists_perm_of_inj hinj
  exact ⟨π, (apply_congr fun i hi => by rw [hπ i hi]).trans hpartner⟩

def IsVariableName (f : String) : Prop := ∃ ds, f.toList = 't' :: ds ∧ ds ≠ [] ∧ ∀ d ∈ ds, d.isDigit = true

/-- A name that can be read in the text of a type, and that no variable has. -/
def IsConstructorName (f : String) : Prop := IsName f ∧ ¬ IsVariableName f

theorem IsConstructorName.ne_varName {f : String} (hf : IsConstructorName f) (i : Int) : f ≠ varName i := by
  rintro rfl
  cases i with
  | ofNat n =>
      have hdigits : (toString n).toList ≠ [] := by
        rw [Nat.toString_eq_ofList_toDigits, String.toList_ofList]
        exact Nat.toDigits_ne_nil
      exact hf.2 ⟨(toString n).toList, varName_ofNat n, hdigits, fun d => isDigit_of_mem_toString⟩
  | negSucc n => exact hf.1.not_mem (c := '-') (by decide) (by simp [varName_negSucc])

theorem IsConstructorName.ne_displayName {f : String} (hf : IsConstructorName f) (n : Nat) : f ≠ displayName n := by
  rcases Nat.lt_or_ge n 26 with hn | hn
  · rintro rfl
    obtain ⟨c, hc, -⟩ := displayName_of_lt hn
    exact hf.1.not_mem (c := '\'') (by decide) (by simp [hc])
  · rw [displayName_of_le hn]
    exact hf.ne_varName n

theorem isLabel_of_not_mem {w : String} (h : ∀ c, c = '[' ∨ c = ']' ∨ c = ',' → c ∉ w.toList) : IsLabel w := by
  intro c hc
  by_contra hne
  obtain ⟨kind, hkind⟩ := Option.ne_none_iff_exists'.1 hne
  exact h c (by rcases punctuation?_cases hkind with h | h | h <;> simp [h.1]) hc

theorem IsName.isLabel {f : String} (hf : IsName f) : IsLabel f := by
  refine isLabel_of_not_mem fun c hc => hf.not_mem ?_
  rcases hc with rfl | rfl | rfl <;> decide

theorem isLabel_varName (i : Int) : IsLabel (varName i) := by
  refine isLabel_of_not_mem fun c hc hmem => ?_
  have hcases := mem_varName hmem
  rcases hc with rfl | rfl | rfl <;> revert hcases <;> decide

theorem isLabel_displayName (n : Nat) : IsLabel (displayName n) := by
  refine isLabel_of_not_mem fun c hc hmem => ?_
  have hcases := mem_displayName hmem
  rcases hc with rfl | rfl | rfl <;> revert hcases <;> decide

theorem Over.isLabel {t : Ty} (h : t.Over IsConstructorName) : t.Over IsLabel := h.mono fun _ hf => hf.1.isLabel

/-- A display shows a type up to a renaming of its variables, and the written form shows it as it is. -/
theorem display_canonical (t u : Ty) :
    ((∃ π : Equiv.Perm Int, (t.apply fun i => .var (π i)) = u) → t.display = u.display) ∧
      (t.Over IsConstructorName → u.Over IsConstructorName →
        (t.display = u.display → ∃ π : Equiv.Perm Int, (t.apply fun i => .var (π i)) = u) ∧
          (t.render = u.render → t = u)) := by
  refine ⟨?_, fun ht hu => ⟨fun h => ?_, fun h => ?_⟩⟩
  · rintro ⟨π, rfl⟩
    exact (display_apply π.injective t).symm
  · have hnamed := named_eq_of_renderWith (fun i => isLabel_displayName _) (fun i => isLabel_displayName _)
      ht.isLabel hu.isLabel h
    have hfresh {t u : Ty} (ht : t.Over IsConstructorName) : t.Over fun g => ∀ j, g ≠ u.shown j :=
      ht.mono fun g hg j => hg.ne_displayName _
    exact exists_perm_of_named (hfresh ht) (hfresh hu) hnamed
  · have hnamed := named_eq_of_renderWith isLabel_varName isLabel_varName ht.isLabel hu.isLabel h
    have heq := apply_eq_of_named (ht.mono fun g hg => hg.ne_varName) (hu.mono fun g hg => hg.ne_varName)
      (fun i j _ hij => varName_injective hij) hnamed
    rwa [apply_id] at heq

theorem display_canonical_shared :
    let t := con "t" [var 5, con "t" [var (-2)], var 5]
    let u := con "t" [var 0, con "t" [var 7], var 0]
    t.Over IsConstructorName ∧ u.Over IsConstructorName ∧ t.display = u.display ∧
      ∃ π : Equiv.Perm Int, (t.apply fun i => .var (π i)) = u := by
  intro t u
  have hname : IsConstructorName "t" := by
    refine ⟨⟨'t', [], rfl, by decide, by simp⟩, ?_⟩
    rintro ⟨ds, hds, hne, -⟩
    exact hne (by simpa using hds.symm)
  have hover (i j : Int) : (con "t" [var i, con "t" [var j], var i]).Over IsConstructorName := by
    have hinner : (con "t" [var j]).Over IsConstructorName := .con hname (by simp [Over.var])
    exact .con hname (by simp [Over.var, hinner])
  have hdisplay : t.display = u.display := by decide +kernel
  exact ⟨hover _ _, hover _ _, hdisplay, ((display_canonical t u).2 (hover _ _) (hover _ _)).1 hdisplay⟩

end Monotype.Ty
