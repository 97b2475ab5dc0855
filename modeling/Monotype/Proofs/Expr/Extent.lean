import Monotype.Proofs.Expr.RoundTrip

namespace Monotype

open Grammar

namespace Parser

open Monotype.Expr (Leads)

def startOf (ts : List Token) : Option Position := ts.head?.map fun t => t.span.start

def stopOf (ts : List Token) : Option Position := ts.getLast?.map fun t => t.span.stop

theorem startOf_append {us : List Token} {p : Position} (h : startOf us = some p) (vs : List Token) :
    startOf (us ++ vs) = some p := by
  cases us with
  | nil => cases h
  | cons t us => exact h

theorem stopOf_append {vs : List Token} {p : Position} (h : stopOf vs = some p) (us : List Token) :
    stopOf (us ++ vs) = some p := by
  rw [stopOf, List.getLast?_append, ← h, stopOf]
  cases hlast : vs.getLast? with
  | none => simp [stopOf, hlast] at h
  | some t => rfl

structure Spells (us : List Token) (s : Span) (e : Expr) : Prop where
  start : startOf us = some s.start
  stop : stopOf us = some s.stop
  leads : Leads (us.map Token.terminal) e none

/-- The part `n` is read from `us`, which are a text of `o`: of `n` itself, or of the outermost of the abstractions
that share a `fun` with `n`. -/
inductive Fits : SpannedExpr → List Token → SpannedExpr → Prop
  | var {o us s x} (h : Spells us s o.erase) : Fits o us (.var s x)
  | app {o s f a vs ws fs as} (h : Spells (vs ++ ws) s o.erase) (hfs : fs <:+: vs) (hf : Fits f fs f) (has : as <:+: ws)
      (ha : Fits a as a) : Fits o (vs ++ ws) (.app s f a)
  | abs {o us s x b bs} (h : Spells us s o.erase) (hbs : bs <:+: us) (hb : Fits b bs b) : Fits o us (.abs s x b)
  | parameter {o us s x y b} (h : Spells us s o.erase) (hb : Fits o us (.abs s y b)) : Fits o us (.abs s x (.abs s y b))

theorem Fits.spells {us : List Token} {o n : SpannedExpr} (h : Fits o us n) : Spells us n.span o.erase := by
  cases h <;> assumption

def Encloses (us : List Token) (x : SpannedExpr) : Prop := ∃ ws, ws <:+: us ∧ Fits x ws x

structure Whole (us : List Token) (p : Position) (x : SpannedExpr) : Prop where
  start : startOf us = some p
  leads : Leads (us.map Token.terminal) x.erase none
  encloses : Encloses us x

def RowFits (us : List Token) : Row → Prop
  | none => us = []
  | some (p, x) => Whole us p x ∧ ∀ rest, Leads (us.map Token.terminal) x.erase rest

inductive FramesFit : List Token → List Frame → Prop
  | nil : FramesFit [] []
  | group {pre us outer l frames} (h : FramesFit pre frames) (houter : RowFits us outer) (hl : l.terminal = .leftParen) :
      FramesFit (pre ++ (us ++ [l])) (.group outer l.span.start :: frames)
  | body {pre us outer f params a x names frames} (h : FramesFit pre frames) (houter : RowFits us outer)
      (hf : f.terminal = .function) (hparams : params.map Token.terminal = (x :: names).reverse.map .name)
      (ha : a.terminal = .arrow) :
      FramesFit (pre ++ (us ++ (f :: params ++ [a]))) (.body outer f.span.start (x :: names) :: frames)

/-- What the tokens read so far have to do with a state. -/
def StateFits (ts : List Token) : State → Prop
  | .expression frames row last =>
      ∃ pre us, ts = pre ++ us ∧ FramesFit pre frames ∧ RowFits us row ∧ (row ≠ none → stopOf us = some last)
  | .parameters frames outer start names =>
      ∃ pre us f params, ts = pre ++ (us ++ f :: params) ∧ FramesFit pre frames ∧ RowFits us outer ∧
        f.terminal = .function ∧ start = f.span.start ∧ params.map Token.terminal = names.reverse.map .name

theorem stateFits_initial : StateFits [] .initial := ⟨[], [], rfl, .nil, rfl, by simp⟩

variable {us vs : List Token} {row : Row} {start stop : Position} {x : SpannedExpr}

theorem fits_app {p : Position} {f : SpannedExpr} (hf : Whole us p f) (hx : Encloses vs x) (hstop : stopOf vs = some stop)
    (hleads : Leads ((us ++ vs).map Token.terminal) (.app f.erase x.erase) none) :
    Fits (.app ⟨p, stop⟩ f x) (us ++ vs) (.app ⟨p, stop⟩ f x) := by
  obtain ⟨fs, hfs, hf'⟩ := hf.encloses
  obtain ⟨xs, hxs, hx'⟩ := hx
  exact .app ⟨startOf_append hf.start vs, stopOf_append hstop us, hleads⟩ hfs hf' hxs hx'

theorem RowFits.add (hrow : RowFits us row) {s : Simple} (hs : s.yield = vs.map Token.terminal) (htree : s.tree = x.erase)
    (hstart : startOf vs = some start) (hstop : stopOf vs = some stop) (hx : Encloses vs x) :
    RowFits (us ++ vs) (row.add start stop x) := by
  cases row with
  | none =>
      obtain rfl : us = [] := hrow
      have hleads (rest : Option Phrase) : Leads (vs.map Token.terminal) x.erase rest := by
        rw [← hs, ← htree]
        exact Expr.leads_simple s rest
      exact ⟨⟨hstart, hleads none, hx⟩, hleads⟩
  | some r =>
      obtain ⟨p, f⟩ := r
      obtain ⟨hf, hrest⟩ := hrow
      have hleads (rest : Option Phrase) : Leads ((us ++ vs).map Token.terminal) (.app f.erase x.erase) rest := by
        rw [List.map_append]
        exact (hrest (some (joined s rest))).apply hs htree
      exact ⟨⟨startOf_append hf.start vs, hleads none, us ++ vs, List.infix_rfl, fits_app hf hx hstop (hleads none)⟩, hleads⟩

theorem fits_curry {o : SpannedExpr} {s : Span} {y : String} {b : SpannedExpr} (names : List String)
    (h : Spells us s o.erase) (hb : Fits o us (.abs s y b)) : Fits o us (curry s names (.abs s y b)) := by
  induction names generalizing y b with
  | nil => exact hb
  | cons z names ih => exact ih (.parameter h hb)

theorem erase_curry_cons {s : Span} {y z : String} {names zs : List String} (h : (y :: names).reverse = z :: zs)
    (x : SpannedExpr) : (curry s (y :: names) x).erase = (z :: zs).foldr .abs x.erase := by
  rw [← h, ← erase_curry s, List.reverse_reverse]

theorem Whole.body {p last : Position} {outer : Row} {f a : Token} {params : List Token} {y : String} {names : List String}
    (hx : Whole vs p x) (hstop : stopOf vs = some last) (houter : RowFits us outer) (hf : f.terminal = .function)
    (hparams : params.map Token.terminal = (y :: names).reverse.map .name) (ha : a.terminal = .arrow)
    (frames : List Frame) :
    ∃ q z, closeBodies last (.body outer f.span.start (y :: names) :: frames) p x = closeBodies last frames q z ∧
      Whole (us ++ (f :: params ++ [a] ++ vs)) q z := by
  obtain ⟨d, hd, htree⟩ := hx.leads
  obtain ⟨z, zs, hz⟩ := List.exists_cons_of_ne_nil (by simp : (y :: names).reverse ≠ [])
  let e := curry ⟨f.span.start, last⟩ (y :: names) x
  have he : e.erase = (z :: zs).foldr .abs d.tree := (erase_curry_cons hz x).trans (by rw [htree]; rfl)
  have hyield : Phrase.yield (.abs z zs d) = (f :: params ++ [a] ++ vs).map Token.terminal := by
    rw [hz] at hparams
    simp [Phrase.yield, hf, ha, hparams, hd, restYield]
  have hleads : Leads ((f :: params ++ [a] ++ vs).map Token.terminal) e.erase none := by
    refine ⟨.abs z zs d, by rw [hyield, restYield, List.append_nil], ?_⟩
    rw [he, restTree]
    rfl
  have hspan : stopOf (f :: params ++ [a] ++ vs) = some last := stopOf_append hstop _
  have hfits : Fits e (f :: params ++ [a] ++ vs) e := by
    obtain ⟨bs, hbs, hb⟩ := hx.encloses
    have hbs' := hbs.trans (List.suffix_append (f :: params ++ [a]) vs).isInfix
    exact fits_curry names ⟨rfl, hspan, hleads⟩ (.abs ⟨rfl, hspan, hleads⟩ hbs' hb)
  cases outer with
  | none =>
      obtain rfl : us = [] := houter
      exact ⟨f.span.start, e, by rw [closeBodies], rfl, hleads, _, List.infix_rfl, hfits⟩
  | some r =>
      obtain ⟨q, g⟩ := r
      obtain ⟨hg, hrest⟩ := houter
      have happ : Leads ((us ++ (f :: params ++ [a] ++ vs)).map Token.terminal) (.app g.erase e.erase) none := by
        obtain ⟨d', hd', htree'⟩ := hrest (some (.abs z zs d))
        refine ⟨d', ?_, ?_⟩
        · rw [hd', List.map_append, ← hyield]
          simp [restYield]
        · rw [htree', restTree, restTree, Phrase.treeAfter, he]
          rfl
      exact ⟨q, .app ⟨q, last⟩ g e, by rw [closeBodies], startOf_append hg.start _, happ, _, List.infix_rfl,
        fits_app hg ⟨_, List.infix_rfl, hfits⟩ hspan happ⟩

theorem Whole.closeBodies {p q last : Position} {pre : List Token} {frames frames' : List Frame} {y : SpannedExpr}
    (hframes : FramesFit pre frames) (hx : Whole vs p x) (hstop : stopOf vs = some last)
    (h : closeBodies last frames p x = (frames', q, y)) :
    ∃ pre' ws, pre ++ vs = pre' ++ ws ∧ FramesFit pre' frames' ∧ Whole ws q y := by
  induction hframes generalizing vs p x with
  | nil =>
      rw [closeBodies_nil] at h
      cases h
      exact ⟨[], vs, rfl, .nil, hx⟩
  | group hpre houter hl =>
      rw [closeBodies_group] at h
      cases h
      exact ⟨_, vs, rfl, .group hpre houter hl, hx⟩
  | @body pre us outer f params a y' names frames hpre houter hf hparams ha ih =>
      obtain ⟨q', z, hclose, hz⟩ := hx.body hstop houter hf hparams ha frames
      have hstop' : stopOf (us ++ (f :: params ++ [a] ++ vs)) = some last := stopOf_append (stopOf_append hstop _) us
      obtain ⟨pre', ws, heq, hpre', hws⟩ := ih hz hstop' (hclose.symm.trans h)
      exact ⟨pre', ws, by simpa only [List.append_assoc] using heq, hpre', hws⟩

theorem StateFits.step {s s' : State} {ts : List Token} {t : Token} (h : Steps s t s') (hs : StateFits ts s) :
    StateFits (ts ++ [t]) s' := by
  cases h with
  | name ht =>
      obtain ⟨pre, us, rfl, hpre, hrow, -⟩ := hs
      have hterm : t.terminal = .name t.text := by simp [Token.terminal, ht]
      have hvar : Fits (.var t.span t.text) [t] (.var t.span t.text) := by
        refine .var ⟨rfl, rfl, ?_⟩
        rw [List.map_singleton, hterm]
        exact Expr.leads_simple (.name t.text) none
      refine ⟨pre, us ++ [t], List.append_assoc .., hpre, ?_, fun _ => stopOf_append rfl us⟩
      exact hrow.add (s := .name t.text) (by simp [Simple.yield, hterm]) rfl rfl rfl ⟨[t], List.infix_rfl, hvar⟩
  | function ht =>
      obtain ⟨pre, us, rfl, hpre, hrow, -⟩ := hs
      exact ⟨pre, us, t, [], List.append_assoc .., hpre, hrow, by simp [Token.terminal, ht], rfl, rfl⟩
  | opening ht =>
      obtain ⟨pre, us, rfl, hpre, hrow, -⟩ := hs
      refine ⟨pre ++ (us ++ [t]), [], by simp, .group hpre hrow (by simp [Token.terminal, ht]), rfl, by simp⟩
  | @closing _ _ _ _ _ _ _ _ _ y ht hclose =>
      obtain ⟨pre, us, rfl, hpre, hrow, hstop⟩ := hs
      obtain ⟨pre', ws, heq, hpre', hws⟩ := hrow.1.closeBodies hpre (hstop (by simp)) hclose
      rw [heq]
      cases hpre' with
      | @group pre us outer l frames hpre houter hl =>
          obtain ⟨d, hd, htree⟩ := Expr.exists_group hws.leads
          have hr : t.terminal = .rightParen := by simp [Token.terminal, ht]
          have hyield : d.yield = (l :: ws ++ [t]).map Token.terminal := by simp [hd, Expr.enclosed, hl, hr]
          have hinside : Encloses (l :: ws ++ [t]) y := by
            obtain ⟨fs, hfs, hfit⟩ := hws.encloses
            exact ⟨fs, hfs.trans ⟨[l], [t], rfl⟩, hfit⟩
          refine ⟨pre, us ++ (l :: ws ++ [t]), by simp, hpre, ?_, fun _ => stopOf_append (stopOf_append rfl _) us⟩
          exact houter.add hyield htree rfl (stopOf_append rfl _) hinside
  | parameter ht =>
      obtain ⟨pre, us, f, params, rfl, hpre, houter, hf, rfl, hparams⟩ := hs
      refine ⟨pre, us, f, params ++ [t], by simp, hpre, houter, hf, rfl, ?_⟩
      simp [hparams, Token.terminal, ht]
  | arrow ht =>
      obtain ⟨pre, us, f, params, rfl, hpre, houter, hf, rfl, hparams⟩ := hs
      refine ⟨pre ++ (us ++ (f :: params ++ [t])), [], by simp, .body hpre houter hf hparams ?_, rfl, by simp⟩
      simp [Token.terminal, ht]

theorem StateFits.reads {s s' : State} {us ts : List Token} (h : Reads s ts s') (hs : StateFits us s) :
    StateFits (us ++ ts) s' := by
  induction h generalizing us with
  | nil => rwa [List.append_nil]
  | cons first _ ih =>
      rw [List.append_cons]
      exact ih (hs.step first)

/-- Every tree that is read fits the tokens of its text. -/
theorem encloses_of_parseTokens {ts : Lexer.Tokens} {e : SpannedExpr} (h : parseTokens ts = .ok e) :
    Encloses ts.tokens e := by
  rcases foldlM_cases State.initial ts.tokens with ⟨s, hfold, hreads⟩ | ⟨_, _, _, _, _, -, -, -, hfold⟩
  · have hfits := stateFits_initial.reads hreads
    have hparse : parseTokens ts = finish ts.stop s := by rw [parseTokens, hfold]; rfl
    rcases finish_cases ts.stop s with ⟨frames, p, x, last, q, y, rfl, hclose, hok⟩ | hfin
    · obtain rfl : y = e := Except.ok.inj (hok.symm.trans (hparse.symm.trans h))
      obtain ⟨pre, us, heq, hpre, hrow, hstop⟩ := hfits
      obtain ⟨pre', ws, heq', hpre', hws⟩ := hrow.1.closeBodies hpre (hstop (by simp)) hclose
      cases hpre'
      rw [List.nil_append] at heq heq'
      rw [heq, heq']
      exact hws.encloses
    · rw [hparse, hfin] at h
      cases h
  · rw [parseTokens, hfold] at h
    cases h

end Parser

end Monotype
