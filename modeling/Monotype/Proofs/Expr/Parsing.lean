import Monotype.Expr.Parser
import Monotype.Proofs.Expr.Grammar
import Mathlib.Tactic.Common

namespace Monotype

def Terminal.kind : Terminal → Token.Kind
  | name _ => .name
  | function => .function
  | arrow => .arrow
  | leftParen => .leftParen
  | rightParen => .rightParen

namespace Token

theorem kind_of_terminal {t : Token} {u : Terminal} (h : t.terminal = u) : t.kind = u.kind := by
  subst h
  cases hk : t.kind <;> simp [terminal, hk, Terminal.kind]

theorem text_of_terminal {t : Token} {x : String} (h : t.terminal = .name x) : t.text = x := by
  have hk : t.kind = .name := kind_of_terminal h
  simpa [terminal, hk] using h

end Token

namespace Parser

open Grammar

inductive Steps : State → Token → State → Prop
  | name {frames row last t} (ht : t.kind = .name) :
      Steps (.expression frames row last) t
        (.expression frames (row.add t.span.start t.span.stop (.var t.span t.text)) t.span.stop)
  | function {frames row last t} (ht : t.kind = .function) :
      Steps (.expression frames row last) t (.parameters frames row t.span.start [])
  | opening {frames row last t} (ht : t.kind = .leftParen) :
      Steps (.expression frames row last) t (.expression (.group row t.span.start :: frames) none t.span.stop)
  | closing {frames p e last t outer opened frames' q y} (ht : t.kind = .rightParen)
      (h : closeBodies last frames p e = (.group outer opened :: frames', q, y)) :
      Steps (.expression frames (some (p, e)) last) t
        (.expression frames' (outer.add opened t.span.stop y) t.span.stop)
  | parameter {frames outer start names t} (ht : t.kind = .name) :
      Steps (.parameters frames outer start names) t (.parameters frames outer start (t.text :: names))
  | arrow {frames outer start x names t} (ht : t.kind = .arrow) :
      Steps (.parameters frames outer start (x :: names)) t
        (.expression (.body outer start (x :: names) :: frames) none t.span.stop)

theorem Steps.step_eq {s s' : State} {t : Token} (h : Steps s t s') : step s t = .ok s' := by
  cases h with
  | closing ht h => simp [step, ht, h]
  | _ ht => simp [step, ht]

theorem step_cases (s : State) (t : Token) :
    (∃ s', step s t = .ok s' ∧ Steps s t s') ∨
      ∃ wanted, step s t = .error (t.span.start, .expected wanted t.kind) := by
  have hok {s' : State} (h : Steps s t s') : ∃ s', step s t = .ok s' ∧ Steps s t s' := ⟨s', h.step_eq, h⟩
  cases s with
  | expression frames row last =>
      cases ht : t.kind with
      | name => exact .inl (hok (.name ht))
      | function => exact .inl (hok (.function ht))
      | leftParen => exact .inl (hok (.opening ht))
      | rightParen =>
          cases row with
          | none => exact .inr ⟨.expression, by simp [step, ht]⟩
          | some r =>
              obtain ⟨p, e⟩ := r
              cases hc : closeBodies last frames p e with
              | mk frames' r =>
                  obtain ⟨q, y⟩ := r
                  cases frames' with
                  | nil => exact .inr ⟨.endOfInput, by simp [step, ht, hc]⟩
                  | cons frame frames' =>
                      cases frame with
                      | group outer opened => exact .inl (hok (.closing ht hc))
                      | body outer start names => exact .inr ⟨.endOfInput, by simp [step, ht, hc]⟩
      | arrow =>
          cases row with
          | none => exact .inr ⟨.expression, by simp [step, ht]⟩
          | some r => exact .inr ⟨wantedAfter frames, by simp [step, ht]⟩
  | parameters frames outer start names =>
      cases names with
      | nil =>
          by_cases ht : t.kind = .name
          · exact .inl (hok (.parameter ht))
          · refine .inr ⟨.token .name, ?_⟩
            cases hk : t.kind <;> simp_all [step]
      | cons x names =>
          cases ht : t.kind with
          | name => exact .inl (hok (.parameter ht))
          | arrow => exact .inl (hok (.arrow ht))
          | function | leftParen | rightParen => exact .inr ⟨.token .arrow, by simp [step, ht]⟩

inductive Reads : State → List Token → State → Prop
  | nil (s) : Reads s [] s
  | cons {s t s' ts s''} (first : Steps s t s') (rest : Reads s' ts s'') : Reads s (t :: ts) s''

theorem Reads.append {s s' s'' : State} {us vs : List Token} (h : Reads s us s') (h' : Reads s' vs s'') :
    Reads s (us ++ vs) s'' := by
  induction h with
  | nil => exact h'
  | cons first _ ih => exact .cons first (ih h')

theorem Reads.foldlM_eq {s s' : State} {ts : List Token} (h : Reads s ts s') : ts.foldlM step s = .ok s' := by
  induction h with
  | nil => rfl
  | cons first _ ih =>
      rw [List.foldlM_cons, first.step_eq]
      exact ih

theorem foldlM_cases (s : State) (ts : List Token) :
    (∃ s', ts.foldlM step s = .ok s' ∧ Reads s ts s') ∨
      ∃ us t vs s' wanted, ts = us ++ t :: vs ∧ Reads s us s' ∧
        step s' t = .error (t.span.start, .expected wanted t.kind) ∧
        ts.foldlM step s = .error (t.span.start, .expected wanted t.kind) := by
  induction ts generalizing s with
  | nil => exact .inl ⟨s, rfl, .nil s⟩
  | cons t ts ih =>
      rw [List.foldlM_cons]
      rcases step_cases s t with ⟨s', hs, hstep⟩ | ⟨wanted, hs⟩
      · rw [hs]
        rcases ih s' with ⟨s'', hts, hreads⟩ | ⟨us, u, vs, s'', wanted, rfl, hreads, hu, hts⟩
        · exact .inl ⟨s'', hts, .cons hstep hreads⟩
        · exact .inr ⟨t :: us, u, vs, s'', wanted, rfl, .cons hstep hreads, hu, hts⟩
      · refine .inr ⟨[], t, ts, s, wanted, rfl, .nil s, hs, ?_⟩
        rw [hs]
        rfl

theorem finish_cases (stop : Position) (s : State) :
    (∃ frames p x last q y, s = .expression frames (some (p, x)) last ∧
      closeBodies last frames p x = ([], q, y) ∧ finish stop s = .ok y) ∨
      finish stop s = .error (stop, .unexpectedEnd) := by
  cases s with
  | parameters frames outer start names => exact .inr rfl
  | expression frames row last =>
      cases row with
      | none => exact .inr rfl
      | some r =>
          obtain ⟨p, x⟩ := r
          cases hc : closeBodies last frames p x with
          | mk frames' r =>
              obtain ⟨q, y⟩ := r
              cases frames' with
              | nil => exact .inl ⟨frames, p, x, last, q, y, rfl, hc, by simp [finish, hc]⟩
              | cons => exact .inr (by simp [finish, hc])

def Row.tree (row : Row) : Option Expr := row.map fun r => r.2.erase

theorem Row.add_tree (row : Row) (start stop : Position) (x : SpannedExpr) :
    ∃ p y, row.add start stop x = some (p, y) ∧ y.erase = applied row.tree x.erase := by
  cases row with
  | none => exact ⟨start, x, rfl, rfl⟩
  | some r => exact ⟨r.1, .app ⟨r.1, stop⟩ r.2 x, rfl, rfl⟩

theorem erase_curry (span : Span) (xs : List String) (x : SpannedExpr) :
    (curry span xs.reverse x).erase = xs.foldr Expr.abs x.erase := by
  rw [curry, List.foldl_reverse]
  induction xs with
  | nil => rfl
  | cons y ys ih => rw [List.foldr_cons, List.foldr_cons, SpannedExpr.erase, ih]

theorem closeBodies_nil (last p : Position) (x : SpannedExpr) : closeBodies last [] p x = ([], p, x) := rfl

theorem closeBodies_group (last start p : Position) (outer : Row) (frames : List Frame) (x : SpannedExpr) :
    closeBodies last (.group outer start :: frames) p x = (.group outer start :: frames, p, x) := rfl

theorem closeBodies_body (last start : Position) (outer : Row) (names : List String) (frames : List Frame)
    (p : Position) (x : SpannedExpr) :
    ∃ q y, closeBodies last (.body outer start names :: frames) p x = closeBodies last frames q y ∧
      y.erase = applied outer.tree (curry ⟨start, last⟩ names x).erase := by
  cases outer with
  | none => exact ⟨start, curry ⟨start, last⟩ names x, by rw [closeBodies], rfl⟩
  | some r => exact ⟨r.1, .app ⟨r.1, last⟩ r.2 (curry ⟨start, last⟩ names x), by rw [closeBodies], rfl⟩

/-- As soon as the bodies above `frames` end, the row of the state is the expression `e`. -/
def Holds (frames : List Frame) (e : Expr) (s : State) : Prop :=
  ∃ inner p x last q y, s = .expression inner (some (p, x)) last ∧
    closeBodies last inner p x = closeBodies last frames q y ∧ y.erase = e

theorem Holds.body {outer : Row} {start : Position} {xs : List String} {frames : List Frame} {e : Expr} {s : State}
    (h : Holds (.body outer start xs.reverse :: frames) e s) :
    Holds frames (applied outer.tree (xs.foldr .abs e)) s := by
  obtain ⟨inner, p, x, last, q, y, rfl, hclose, rfl⟩ := h
  obtain ⟨q', y', hbody, hy'⟩ := closeBodies_body last start outer xs.reverse frames q y
  rw [erase_curry] at hy'
  exact ⟨inner, p, x, last, q', y', rfl, hclose.trans hbody, hy'⟩

theorem reads_parameters (xs : List String) {ts : List Token} (h : ts.map Token.terminal = xs.map .name)
    (frames : List Frame) (outer : Row) (start : Position) (names : List String) :
    Reads (.parameters frames outer start names) ts (.parameters frames outer start (xs.reverse ++ names)) := by
  induction ts generalizing xs names with
  | nil =>
      obtain rfl : xs = [] := by simpa using h.symm
      exact .nil _
  | cons t ts ih =>
      cases xs with
      | nil => simp at h
      | cons x xs =>
          rw [List.map_cons, List.map_cons, List.cons.injEq] at h
          have hrest := ih xs h.2 (t.text :: names)
          rw [Token.text_of_terminal h.1] at hrest
          rw [List.reverse_cons, List.append_assoc]
          refine .cons (.parameter (Token.kind_of_terminal h.1)) ?_
          rwa [Token.text_of_terminal h.1]

mutual

theorem reads_phrase (d : Phrase) {ts : List Token} (h : ts.map Token.terminal = d.yield) (frames : List Frame)
    (row : Row) (last : Position) :
    ∃ s, Reads (.expression frames row last) ts s ∧ Holds frames (d.treeAfter row.tree) s := by
  match d with
  | .last d =>
      obtain ⟨p, x, last', hreads, hx⟩ := reads_simple d h frames row last
      exact ⟨_, hreads, frames, p, x, last', p, x, rfl, rfl, hx⟩
  | .cons d r =>
      obtain ⟨us, vs, rfl, hu, hv⟩ := List.map_eq_append_iff.1 h
      obtain ⟨p, x, last', hfirst, hx⟩ := reads_simple d hu frames row last
      obtain ⟨s, hrest, hs⟩ := reads_phrase r hv frames (some (p, x)) last'
      have htree : Row.tree (some (p, x)) = some (applied row.tree d.tree) := congrArg some hx
      rw [htree] at hs
      exact ⟨s, hfirst.append hrest, hs⟩
  | .abs x xs b =>
      rw [Phrase.yield, List.cons_append] at h
      obtain ⟨f, ts, rfl, hf, hts⟩ := List.map_eq_cons_iff.1 h
      obtain ⟨us, vs, rfl, hu, hv⟩ := List.map_eq_append_iff.1 (hts.trans (List.cons_append ..).symm)
      obtain ⟨a, vs, rfl, ha, hv⟩ := List.map_eq_cons_iff.1 hv
      have hparams := reads_parameters (x :: xs) hu frames row f.span.start []
      rw [List.append_nil] at hparams
      obtain ⟨y, ys, hys⟩ := List.exists_cons_of_ne_nil (by simp : (x :: xs).reverse ≠ [])
      obtain ⟨s, hbody, hs⟩ := reads_phrase b hv (.body row f.span.start (y :: ys) :: frames) none a.span.stop
      rw [hys] at hparams
      rw [← hys] at hs
      refine ⟨s, .cons (.function (Token.kind_of_terminal hf)) (hparams.append ?_), hs.body⟩
      exact .cons (.arrow (Token.kind_of_terminal ha)) hbody

theorem reads_simple (d : Simple) {ts : List Token} (h : ts.map Token.terminal = d.yield) (frames : List Frame)
    (row : Row) (last : Position) :
    ∃ p x last', Reads (.expression frames row last) ts (.expression frames (some (p, x)) last') ∧
      x.erase = applied row.tree d.tree := by
  match d with
  | .name x =>
      obtain ⟨t, rfl, ht⟩ := List.map_eq_singleton_iff.1 h
      obtain ⟨p, y, hadd, hy⟩ := row.add_tree t.span.start t.span.stop (.var t.span t.text)
      have hstep : Steps (.expression frames row last) t _ := .name (Token.kind_of_terminal ht)
      rw [hadd] at hstep
      rw [SpannedExpr.erase, Token.text_of_terminal ht] at hy
      exact ⟨p, y, t.span.stop, .cons hstep (.nil _), hy⟩
  | .group d =>
      rw [Simple.yield, List.cons_append] at h
      obtain ⟨l, ts, rfl, hl, hts⟩ := List.map_eq_cons_iff.1 h
      obtain ⟨us, vs, rfl, hu, hv⟩ := List.map_eq_append_iff.1 hts
      obtain ⟨r, rfl, hr⟩ := List.map_eq_singleton_iff.1 hv
      obtain ⟨s, hinner, inner, p, x, last', q, y, rfl, hclose, hy⟩ :=
        reads_phrase d hu (.group row l.span.start :: frames) none l.span.stop
      rw [closeBodies_group] at hclose
      obtain ⟨p', z, hadd, hz⟩ := row.add_tree l.span.start r.span.stop y
      have hstep := Steps.closing (Token.kind_of_terminal hr) hclose
      rw [hadd] at hstep
      rw [hy] at hz
      exact ⟨p', z, r.span.stop,
        .cons (.opening (Token.kind_of_terminal hl)) (hinner.append (.cons hstep (.nil _))), hz⟩

end

theorem parseTokens_phrase (d : Phrase) {ts : Lexer.Tokens} (h : ts.tokens.map Token.terminal = d.yield) :
    ∃ e, parseTokens ts = .ok e ∧ e.erase = d.tree := by
  obtain ⟨s, hreads, frames, p, x, last, q, y, rfl, hclose, hy⟩ := reads_phrase d h [] none .origin
  rw [closeBodies_nil] at hclose
  refine ⟨y, ?_, hy⟩
  have hfold : ts.tokens.foldlM step State.initial = _ := hreads.foldlM_eq
  rw [parseTokens, hfold]
  change finish ts.stop (.expression frames (some (p, x)) last) = _
  rw [finish, hclose]

/-- What ends all frames: a body may end anywhere, a group at its parenthesis, behind which its row may go on. -/
inductive Closes : List Frame → List Terminal → Prop
  | done : Closes [] []
  | body {outer start names frames us} (h : Closes frames us) : Closes (.body outer start names :: frames) us
  | group {outer start frames us} (rest : Option Phrase) (h : Closes frames us) :
      Closes (.group outer start :: frames) (.rightParen :: (restYield rest ++ us))

theorem closes_of_closeBodies {last p q : Position} {frames frames' : List Frame} {x y : SpannedExpr}
    {us : List Terminal} (h : closeBodies last frames p x = (frames', q, y)) (hc : Closes frames' us) :
    Closes frames us := by
  induction frames generalizing p x with
  | nil =>
      rw [closeBodies_nil] at h
      cases h
      exact hc
  | cons frame frames ih =>
      cases frame with
      | group outer start =>
          rw [closeBodies_group] at h
          cases h
          exact hc
      | body outer start names =>
          obtain ⟨_, _, hbody, _⟩ := closeBodies_body last start outer names frames p x
          exact .body (ih (hbody.symm.trans h))

def Expects : State → List Terminal → Prop
  | .expression frames row _, us =>
      ∃ rest vs, us = restYield rest ++ vs ∧ Closes frames vs ∧ (row = none → rest ≠ none)
  | .parameters frames _ _ names, us =>
      ∃ (xs : List String) (b : Phrase) (vs : List Terminal),
        us = xs.map .name ++ .arrow :: (b.yield ++ vs) ∧ Closes frames vs ∧ (names = [] → xs ≠ [])

theorem Expects.step {s s' : State} {t : Token} {us : List Terminal} (h : Steps s t s') (hs : Expects s' us) :
    Expects s (t.terminal :: us) := by
  cases h with
  | name ht =>
      obtain ⟨rest, vs, rfl, hc, _⟩ := hs
      refine ⟨some (joined (.name t.text) rest), vs, ?_, hc, by simp⟩
      simp [restYield, yield_joined, Simple.yield, Token.terminal, ht]
  | function ht =>
      obtain ⟨xs, b, vs, rfl, hc, hne⟩ := hs
      obtain ⟨x, xs, rfl⟩ := List.exists_cons_of_ne_nil (hne rfl)
      refine ⟨some (.abs x xs b), vs, ?_, hc, by simp⟩
      simp [restYield, Phrase.yield, Token.terminal, ht]
  | opening ht =>
      obtain ⟨inner, vs, rfl, hc, hne⟩ := hs
      obtain ⟨d, rfl⟩ := Option.ne_none_iff_exists'.1 (hne rfl)
      cases hc with
      | group rest hc =>
          refine ⟨some (joined (.group d) rest), _, ?_, hc, by simp⟩
          simp [restYield, yield_joined, Simple.yield, Token.terminal, ht]
  | closing ht hclose =>
      obtain ⟨rest, vs, rfl, hc, _⟩ := hs
      refine ⟨none, _, ?_, closes_of_closeBodies hclose (.group rest hc), by simp⟩
      simp [restYield, Token.terminal, ht]
  | parameter ht =>
      obtain ⟨xs, b, vs, rfl, hc, _⟩ := hs
      refine ⟨t.text :: xs, b, vs, ?_, hc, by simp⟩
      simp [Token.terminal, ht]
  | arrow ht =>
      obtain ⟨body, vs, rfl, hc, hne⟩ := hs
      obtain ⟨b, rfl⟩ := Option.ne_none_iff_exists'.1 (hne rfl)
      cases hc with
      | body hc =>
          refine ⟨[], b, vs, ?_, hc, by simp⟩
          simp [restYield, Token.terminal, ht]

theorem Reads.expects {s s' : State} {ts : List Token} {us : List Terminal} (h : Reads s ts s') (hs : Expects s' us) :
    Expects s (ts.map Token.terminal ++ us) := by
  induction h with
  | nil => exact hs
  | cons first _ ih => exact (ih hs).step first

theorem Expects.exists_phrase {us : List Terminal} (h : Expects .initial us) : ∃ d : Phrase, d.yield = us := by
  obtain ⟨rest, vs, rfl, hc, hne⟩ := h
  obtain ⟨d, rfl⟩ := Option.ne_none_iff_exists'.1 (hne rfl)
  cases hc
  exact ⟨d, by rw [restYield, List.append_nil]⟩

/-- Either the text is read by a derivation, or its first fault is reported: the end of the text, or a token that does
not fit. -/
theorem parseTokens_cases (ts : Lexer.Tokens) :
    (∃ e, ∃ d : Phrase, parseTokens ts = .ok e ∧ d.yield = ts.tokens.map Token.terminal ∧ e.erase = d.tree) ∨
      ∃ fault, parseTokens ts = .error fault ∧
        (fault = (ts.stop, .unexpectedEnd) ∨
          ∃ t ∈ ts.tokens, ∃ wanted, fault = (t.span.start, .expected wanted t.kind)) := by
  rcases foldlM_cases State.initial ts.tokens with ⟨s, hfold, hreads⟩ | ⟨us, t, vs, _, wanted, hts, -, -, hfold⟩
  · have hparse : parseTokens ts = finish ts.stop s := by rw [parseTokens, hfold]; rfl
    rcases finish_cases ts.stop s with ⟨frames, p, x, last, q, y, rfl, hclose, _⟩ | hfin
    · have hend : Expects (.expression frames (some (p, x)) last) [] :=
        ⟨none, [], rfl, closes_of_closeBodies hclose .done, by simp⟩
      obtain ⟨d, hd⟩ := (hreads.expects hend).exists_phrase
      rw [List.append_nil] at hd
      obtain ⟨e, he, htree⟩ := parseTokens_phrase d hd.symm
      exact .inl ⟨e, d, he, hd, htree⟩
    · exact .inr ⟨_, hparse.trans hfin, .inl rfl⟩
  · exact .inr ⟨_, by rw [parseTokens, hfold]; rfl, .inr ⟨t, by simp [hts], wanted, rfl⟩⟩

/-- The parser accepts exactly the sentences of the documented grammar and gives each the tree of its only derivation
in the unambiguous one. Every other text is a syntax error at its end or at one of its tokens. -/
theorem parseTokens_exact (ts : Lexer.Tokens) :
    match parseTokens ts with
    | .ok e =>
        Derives .expr (ts.tokens.map Token.terminal) ∧
          ∃ d : Phrase, d.yield = ts.tokens.map Token.terminal ∧ e.erase = d.tree ∧
            ∀ d' : Phrase, d'.yield = ts.tokens.map Token.terminal → d' = d
    | .error fault =>
        ¬ Derives .expr (ts.tokens.map Token.terminal) ∧
          (fault = (ts.stop, .unexpectedEnd) ∨
            ∃ t ∈ ts.tokens, ∃ wanted, fault = (t.span.start, .expected wanted t.kind)) := by
  rcases parseTokens_cases ts with ⟨e, d, he, hd, htree⟩ | ⟨fault, hfault, hplace⟩
  · rw [he]
    exact ⟨derives_iff.2 ⟨d, hd⟩, d, hd, htree, fun d' hd' => Phrase.yield_injective (hd'.trans hd.symm)⟩
  · rw [hfault]
    refine ⟨fun hsentence => ?_, hplace⟩
    obtain ⟨d, hd⟩ := derives_iff.1 hsentence
    obtain ⟨e, he, _⟩ := parseTokens_phrase d hd.symm
    rw [hfault] at he
    cases he

end Parser

end Monotype
