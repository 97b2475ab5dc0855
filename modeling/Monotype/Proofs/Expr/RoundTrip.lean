import Monotype.Proofs.Expr.Parsing
import Monotype.Proofs.Expr.Scanning

namespace Monotype

open Grammar Lexer Text

namespace Expr

/-- All names can be written as names, and there are no constants. -/
def Named : Expr → Prop
  | var x => IsName x
  | app f a => f.Named ∧ a.Named
  | abs x b => IsName x ∧ b.Named
  | const _ => False

def enclosed (b : Bool) (us : List Terminal) : List Terminal :=
  if b then .leftParen :: us ++ [.rightParen] else us

def writtenAt (afterParameters : Bool) : Expr → List Terminal
  | var x => (if afterParameters then [.arrow] else []) ++ [.name x]
  | app f a =>
      (if afterParameters then [.arrow] else []) ++ enclosed f.isAbs (writtenAt false f) ++
        enclosed (a.isAbs || a.isApp) (writtenAt false a)
  | abs x b => (if afterParameters then [] else [.function]) ++ .name x :: writtenAt true b
  | const _ => []

theorem lexes_parenthesize {b : Bool} {s : String} {us : List Terminal}
    (hs : ∀ {cs vs}, NameEnds cs → Lexes cs vs → Lexes (s.toList ++ cs) (us ++ vs)) {cs : List Char}
    {vs : List Terminal} (hcs : NameEnds cs) (h : Lexes cs vs) :
    Lexes ((parenthesize b s).toList ++ cs) (enclosed b us ++ vs) := by
  cases b with
  | false => exact hs hcs h
  | true =>
      have hclose : NameEnds (')' :: cs) := by simp [NameEnds, NameChar, NameStart]
      have hopen := (hs hclose h.rightParen).leftParen
      simpa [parenthesize, enclosed] using hopen

theorem lexes_arrow {b : Bool} {cs : List Char} {us : List Terminal} (h : Lexes cs us) :
    Lexes ((arrow b).toList ++ cs) ((if b then [.arrow] else []) ++ us) := by
  cases b with
  | false => exact h
  | true => exact ((h.blank (by decide)).arrow).blank (by decide)

theorem nameEnds_renderAt (e : Expr) (cs : List Char) : NameEnds ((renderAt true e).toList ++ cs) := by
  cases e <;> simp [renderAt, arrow, NameEnds, NameChar, NameStart]

theorem lexes_renderAt {e : Expr} (he : e.Named) (b : Bool) {cs : List Char} {us : List Terminal} (hcs : NameEnds cs)
    (h : Lexes cs us) : Lexes ((renderAt b e).toList ++ cs) (writtenAt b e ++ us) := by
  induction e generalizing b cs us with
  | var x =>
      have hx := lexes_arrow (b := b) (Lexes.name he hcs h)
      simpa [renderAt, writtenAt] using hx
  | app f a ihf iha =>
      have ha := lexes_parenthesize (b := a.isAbs || a.isApp) (iha he.2 false) hcs h
      have hblank : NameEnds (' ' :: ((parenthesize (a.isAbs || a.isApp) (renderAt false a)).toList ++ cs)) := by
        simp [NameEnds, NameChar, NameStart]
      have hf := lexes_parenthesize (b := f.isAbs) (ihf he.1 false) hblank (ha.blank (by decide))
      have happ := lexes_arrow (b := b) hf
      simpa [renderAt, writtenAt] using happ
  | abs x body ih =>
      have hbody := ih he.2 true hcs h
      have hx := Lexes.name he.1 (nameEnds_renderAt body cs) hbody
      cases b with
      | false => simpa [renderAt, writtenAt] using hx.function
      | true => simpa [renderAt, writtenAt] using hx.blank (c := ' ') (by decide)
  | const c => exact he.elim

/-- The terminals derive `e` in front of any rest of a row. -/
def Leads (us : List Terminal) (e : Expr) (rest : Option Phrase) : Prop :=
  ∃ d : Phrase, d.yield = us ++ restYield rest ∧ d.tree = restTree e rest

def LeadsBody (us : List Terminal) (e : Expr) : Prop :=
  ∃ (xs : List String) (d : Phrase), us = xs.map .name ++ .arrow :: d.yield ∧ xs.foldr .abs d.tree = e

theorem leads_simple (s : Simple) (rest : Option Phrase) : Leads s.yield s.tree rest :=
  ⟨joined s rest, yield_joined s rest, treeAfter_joined none s rest⟩

theorem exists_group {us : List Terminal} {e : Expr} (h : Leads us e none) :
    ∃ s : Simple, s.yield = enclosed true us ∧ s.tree = e := by
  obtain ⟨d, hd, htree⟩ := h
  rw [restYield, List.append_nil] at hd
  exact ⟨.group d, by simp [Simple.yield, enclosed, hd], htree⟩

theorem exists_argument {a : Expr} (ha : a.Named) (h : Leads (writtenAt false a) a none) :
    ∃ s : Simple, s.yield = enclosed (a.isAbs || a.isApp) (writtenAt false a) ∧ s.tree = a := by
  cases a with
  | var x => exact ⟨.name x, rfl, rfl⟩
  | app f b => exact exists_group h
  | abs x b => exact exists_group h
  | const c => exact ha.elim

theorem Leads.arrow {us : List Terminal} {e : Expr} (h : Leads us e none) : LeadsBody (.arrow :: us) e := by
  obtain ⟨d, hd, htree⟩ := h
  rw [restYield, List.append_nil] at hd
  exact ⟨[], d, by simp [hd], htree⟩

theorem Leads.apply {f a : Expr} {us vs : List Terminal} {rest : Option Phrase} {s : Simple} (hs : s.yield = vs)
    (ha : s.tree = a) (h : Leads us f (some (joined s rest))) : Leads (us ++ vs) (.app f a) rest := by
  obtain ⟨d, hd, htree⟩ := h
  refine ⟨d, ?_, ?_⟩
  · rw [hd, restYield, yield_joined, hs, List.append_assoc]
  · rw [htree, restTree, treeAfter_joined, ha, applied]

theorem leads_written {e : Expr} (he : e.Named) :
    (∀ rest, (e.isAbs = true → rest = none) → Leads (writtenAt false e) e rest) ∧ LeadsBody (writtenAt true e) e := by
  induction e with
  | var x =>
      have h (rest : Option Phrase) := leads_simple (.name x) rest
      exact ⟨fun rest _ => h rest, (h none).arrow⟩
  | app f a ihf iha =>
      obtain ⟨s, hs, htree⟩ := exists_argument he.2 ((iha he.2).1 none fun _ => rfl)
      have hhead (rest : Option Phrase) : Leads (enclosed f.isAbs (writtenAt false f)) f rest := by
        cases hf : f.isAbs with
        | false => exact (ihf he.1).1 rest (by simp [hf])
        | true =>
            obtain ⟨g, hg, rfl⟩ := exists_group ((ihf he.1).1 none fun _ => rfl)
            rw [← hg]
            exact leads_simple g rest
      have happ (rest : Option Phrase) := (hhead (some (joined s rest))).apply hs htree
      exact ⟨fun rest _ => happ rest, (happ none).arrow⟩
  | abs x b ih =>
      obtain ⟨xs, d, hd, htree⟩ := (ih he.2).2
      refine ⟨fun rest hrest => ?_, x :: xs, d, ?_, ?_⟩
      · rw [hrest rfl]
        refine ⟨.abs x xs d, ?_, ?_⟩
        · simp [Phrase.yield, writtenAt, restYield, hd]
        · rw [Phrase.tree, Phrase.treeAfter, applied, List.foldr_cons, ← Phrase.tree, htree, restTree]
      · simp [writtenAt, hd]
      · rw [List.foldr_cons, htree]
  | const c => exact he.elim

theorem parse_ok_iff {file source : String} {e : Expr} :
    Expr.parse file source = .ok e ↔
      ∃ ts x, lexFrom .origin source.toList = .ok ts ∧ Parser.parseTokens ts = .ok x ∧ x.erase = e := by
  rw [Expr.parse, SpannedExpr.parse, tokenize]
  cases lexFrom .origin source.toList with
  | error fault => simp [Except.mapError, Except.map, bind, Except.bind]
  | ok ts =>
      cases hx : Parser.parseTokens ts <;> simp [Except.mapError, Except.map, bind, Except.bind, hx]

theorem parse_of_lexes {source : String} {us : List Terminal} {e : Expr} (h : Lexes source.toList us)
    (he : Leads us e none) (file : String) : Expr.parse file source = .ok e := by
  obtain ⟨ts, hts, hus⟩ := h .origin
  obtain ⟨d, hd, htree⟩ := he
  rw [restYield, List.append_nil] at hd
  obtain ⟨x, hx, hxe⟩ := Parser.parseTokens_phrase d (hus.trans hd.symm)
  exact parse_ok_iff.2 ⟨ts, x, hts, hx, hxe.trans htree⟩

theorem parse_render {e : Expr} (he : e.Named) (file : String) : Expr.parse file e.render = .ok e := by
  have hlex := lexes_renderAt he false (by simp [NameEnds]) Lexes.nil
  rw [List.append_nil, List.append_nil] at hlex
  exact parse_of_lexes hlex ((leads_written he).1 none fun _ => rfl) file

theorem named_applied {f : Option Expr} {e : Expr} (hf : ∀ g ∈ f, g.Named) (he : e.Named) : (applied f e).Named := by
  cases f with
  | none => exact he
  | some f => exact ⟨hf f rfl, he⟩

theorem named_foldr_abs {xs : List String} {e : Expr} (hxs : ∀ x ∈ xs, IsName x) (he : e.Named) :
    (xs.foldr Expr.abs e).Named := by
  induction xs with
  | nil => exact he
  | cons x xs ih => exact ⟨hxs x List.mem_cons_self, ih fun y hy => hxs y (List.mem_cons_of_mem x hy)⟩

mutual

theorem named_treeAfter (d : Phrase) (h : ∀ x, .name x ∈ d.yield → IsName x) {f : Option Expr}
    (hf : ∀ g ∈ f, g.Named) : (d.treeAfter f).Named := by
  match d with
  | .last s =>
      rw [Phrase.treeAfter]
      exact named_applied hf (named_tree s h)
  | .abs x xs b =>
      rw [Phrase.treeAfter]
      refine named_applied hf (named_foldr_abs (fun y hy => h y ?_) (named_treeAfter b (fun y hy => h y ?_) (by simp)))
      · rcases List.mem_cons.1 hy with rfl | hy
        · simp [Phrase.yield]
        · simp [Phrase.yield, hy]
      · simp [Phrase.yield, hy]
  | .cons s r =>
      rw [Phrase.treeAfter]
      have hs := named_tree s fun x hx => h x (by simp [Phrase.yield, hx])
      refine named_treeAfter r (fun x hx => h x (by simp [Phrase.yield, hx])) fun g hg => ?_
      obtain rfl : applied f s.tree = g := by simpa using hg
      exact named_applied hf hs

theorem named_tree (s : Simple) (h : ∀ x, .name x ∈ s.yield → IsName x) : s.tree.Named := by
  match s with
  | .name x => exact h x (by simp [Simple.yield])
  | .group d =>
      rw [Simple.tree]
      exact named_treeAfter d (fun x hx => h x (by simp [Simple.yield, hx])) (by simp)

end

theorem named_of_parse {file source : String} {e : Expr} (h : Expr.parse file source = .ok e) : e.Named := by
  obtain ⟨ts, x, hts, hx, rfl⟩ := parse_ok_iff.1 h
  rcases Parser.parseTokens_cases ts with ⟨y, d, hy, hd, htree⟩ | ⟨fault, hfault, _⟩
  · obtain rfl : x = y := Except.ok.inj (hx.symm.trans hy)
    rw [htree]
    refine named_treeAfter d (fun z hz => ?_) (by simp)
    rw [hd] at hz
    obtain ⟨t, ht, hterm⟩ := List.mem_map.1 hz
    rw [← Token.text_of_terminal hterm]
    exact isName_of_lexFrom hts t ht (Token.kind_of_terminal hterm)
  · rw [hx] at hfault
    cases hfault

/-- Reading undoes writing wherever the names can be written, and that is the case for whatever was read. -/
theorem parse_render_cycle (file : String) :
    (∀ e : Expr, e.Named → Expr.parse file e.render = .ok e) ∧
      ∀ source e, Expr.parse file source = .ok e → e.Named ∧ Expr.parse file e.render = .ok e := by
  refine ⟨fun e he => parse_render he file, fun source e h => ?_⟩
  have he := named_of_parse h
  exact ⟨he, parse_render he file⟩

theorem parse_render_cycle_nested :
    let argument : Expr := .abs "y" (.abs "z_1" (.app (.var "y") (.var "f")))
    let e : Expr := .abs "f" (.app (.app (.abs "x" (.var "x")) (.var "f")) argument)
    let source := "g # first\n ((fun x => x))"
    let r : Expr := .app (.var "g") (.abs "x" (.var "x"))
    (e.Named ∧ Expr.parse "<expr>" e.render = .ok e) ∧
      Expr.parse "<expr>" source = .ok r ∧ r.Named ∧ Expr.parse "<expr>" r.render = .ok r := by
  intro argument e source r
  have he : e.Named := by
    simp [e, argument, Named, IsName, NameStart, NameChar]
  have hr : Expr.parse "<expr>" source = .ok r := by decide +kernel
  exact ⟨⟨he, (parse_render_cycle "<expr>").1 e he⟩, hr, (parse_render_cycle "<expr>").2 source r hr⟩

end Expr

end Monotype
