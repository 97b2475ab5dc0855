import Monotype.Proofs.Expr.Places
import Monotype.Proofs.Expr.Scanning

namespace Monotype

open Text

namespace Lexer

def LineEnds (cs : List Char) : Prop := ∀ c ∈ cs.head?, c = '\n'

/-- Blanks, and comments from a number sign to the end of their line, in front of `rest`. -/
inductive Gap (rest : List Char) : List Char → Prop
  | nil : Gap rest []
  | blank {c cs} (hc : isBlank c = true) (h : Gap rest cs) : Gap rest (c :: cs)
  | comment {body cs} (hbody : '\n' ∉ body) (hend : LineEnds (cs ++ rest)) (h : Gap rest cs) :
      Gap rest ('#' :: (body ++ cs))

def Word (cs : List Char) : Prop := ∃ c ds, cs = c :: ds ∧ NameStart c ∧ ∀ d ∈ ds, NameChar d

/-- How a token is written in front of `rest`. A word is as long as it can be, and `fun` is the only one that is no
name. -/
def Spelled (t : Token) (rest : List Char) : Prop :=
  match t.kind with
  | .arrow => t.text = "=>"
  | .leftParen => t.text = "("
  | .rightParen => t.text = ")"
  | kind => Word t.text.toList ∧ NameEnds rest ∧ (kind = .function ↔ t.text = "fun")

/-- The text behind `before` is a row of gaps and tokens, up to `rest`. -/
inductive Cut : List Char → List Char → List Token → List Char → Prop
  | nil {before rest} : Cut before rest [] rest
  | cons {before gap t cs ts rest} (hgap : Gap (t.text.toList ++ cs) gap) (ht : Spelled t cs)
      (hspan : t.span = ⟨place (before ++ gap), place (before ++ gap ++ t.text.toList)⟩)
      (h : Cut (before ++ gap ++ t.text.toList) cs ts rest) :
      Cut before (gap ++ (t.text.toList ++ cs)) (t :: ts) rest

def Graphic (c : Char) : Prop := isBlank c = false ∧ c ≠ '#'

instance (c : Char) : Decidable (Graphic c) := inferInstanceAs (Decidable (_ ∧ _))

def Starts (c : Char) (cs : List Char) : Prop :=
  NameStart c ∨ c = '(' ∨ c = ')' ∨ c = '=' ∧ cs.head? = some '>'

theorem skipTrivia_comment {body rest : List Char} (hbody : '\n' ∉ body) (hend : LineEnds rest) (p : Position) :
    skipTrivia true p (body ++ rest) = skipTrivia false (p.after body) rest := by
  induction body generalizing p with
  | nil =>
      cases rest with
      | nil => rfl
      | cons c cs =>
          obtain rfl : c = '\n' := hend c rfl
          rfl
  | cons c body ih =>
      rw [List.mem_cons, not_or] at hbody
      have hc : c ≠ '\n' := fun h => hbody.1 h.symm
      rw [List.cons_append, Position.after_cons, ← ih hbody.2]
      simp [skipTrivia, hc]

theorem Gap.skipTrivia_eq {rest gap : List Char} (h : Gap rest gap) (p : Position) :
    skipTrivia false p (gap ++ rest) = skipTrivia false (p.after gap) rest := by
  induction h generalizing p with
  | nil => rfl
  | blank hc _ ih => rw [List.cons_append, skipTrivia_blank hc, ih, Position.after_cons]
  | comment hbody hend _ ih =>
      have hsign : ∀ cs, skipTrivia false p ('#' :: cs) = skipTrivia true (p.next '#') cs := fun cs => rfl
      rw [List.cons_append, List.append_assoc, hsign, skipTrivia_comment hbody hend, ih, Position.after_cons,
        Position.after_append]

theorem exists_gap (cs : List Char) :
    (∃ gap rest, cs = gap ++ rest ∧ Gap rest gap ∧ ∀ c ∈ rest.head?, Graphic c) ∧
      ∃ body gap rest, cs = body ++ (gap ++ rest) ∧ '\n' ∉ body ∧ LineEnds (gap ++ rest) ∧ Gap rest gap ∧
        ∀ c ∈ rest.head?, Graphic c := by
  -- The second half is for a text inside of a comment, which the first half meets after a number sign.
  induction cs with
  | nil => exact ⟨⟨[], [], rfl, .nil, by simp⟩, [], [], [], rfl, by simp, by simp [LineEnds], .nil, by simp⟩
  | cons c cs ih =>
      obtain ⟨⟨gap, rest, hcs, hgap, hrest⟩, body, gap', rest', hcs', hbody, hend, hgap', hrest'⟩ := ih
      constructor
      · by_cases hblank : isBlank c = true
        · exact ⟨c :: gap, rest, by rw [hcs]; rfl, .blank hblank hgap, hrest⟩
        · by_cases hsign : c = '#'
          · subst hsign
            exact ⟨'#' :: (body ++ gap'), rest', by rw [hcs']; simp, .comment hbody hend hgap', hrest'⟩
          · refine ⟨[], c :: cs, rfl, .nil, ?_⟩
            simp [Graphic, hblank, hsign]
      · by_cases hline : c = '\n'
        · subst hline
          exact ⟨[], '\n' :: gap, rest, by rw [hcs]; rfl, by simp, by simp [LineEnds], .blank (by decide) hgap, hrest⟩
        · exact ⟨c :: body, gap', rest', by rw [hcs']; rfl, by simp [hbody, Ne.symm hline], hend, hgap', hrest'⟩

theorem wordKind_eq_function {word : List Char} : wordKind word = .function ↔ String.ofList word = "fun" := by
  rw [← String.toList_inj, String.toList_ofList]
  by_cases h : word = ['f', 'u', 'n'] <;> simp [wordKind, h]

theorem spelled_word {word rest : List Char} (h : Word word) (hrest : NameEnds rest) (span : Span) :
    Spelled ⟨wordKind word, String.ofList word, span⟩ rest := by
  rw [← String.toList_ofList (l := word)] at h
  by_cases hfun : word = ['f', 'u', 'n']
  · have hkind : wordKind word = .function := if_pos hfun
    rw [hkind]
    exact ⟨h, hrest, iff_of_true rfl (wordKind_eq_function.1 hkind)⟩
  · have hkind : wordKind word = .name := if_neg hfun
    rw [hkind]
    exact ⟨h, hrest, by rw [← wordKind_eq_function, hkind]⟩

theorem first?_of_spelled {t : Token} {rest : List Char} (h : Spelled t rest) :
    ∃ c word, t.text.toList = c :: word ∧ Graphic c ∧ first? c (word ++ rest) = some (t.kind, c :: word) := by
  obtain ⟨kind, text, span⟩ := t
  have hword (h : Word text.toList ∧ NameEnds rest ∧ (kind = .function ↔ text = "fun"))
      (hkind : kind = .function ∨ kind = .name) :
      ∃ c word, text.toList = c :: word ∧ Graphic c ∧ first? c (word ++ rest) = some (kind, c :: word) := by
    obtain ⟨⟨c, word, htext, hc, hds⟩, hends, hfun⟩ := h
    have hkind' : wordKind (c :: word) = kind := by
      rw [← String.ofList_toList (s := text), htext, ← wordKind_eq_function] at hfun
      unfold wordKind at *
      split at hfun <;> simp_all
    exact ⟨c, word, htext, hc.graphic, by rw [first?_word hc hds hends, hkind']⟩
  cases kind with
  | name => exact hword h (.inr rfl)
  | function => exact hword h (.inl rfl)
  | arrow =>
      obtain rfl : text = "=>" := h
      exact ⟨'=', ['>'], by simp, by decide, rfl⟩
  | leftParen =>
      obtain rfl : text = "(" := h
      exact ⟨'(', [], by simp, by decide, rfl⟩
  | rightParen =>
      obtain rfl : text = ")" := h
      exact ⟨')', [], by simp, by decide, rfl⟩

theorem nameEnds_dropWhile (cs : List Char) : NameEnds (cs.dropWhile isNameChar) := by
  intro c hc hname
  have hnot := List.head?_dropWhile_not isNameChar cs
  rw [Option.mem_def.1 hc] at hnot
  exact absurd (isNameChar_iff.2 hname) (by simp [hnot])

theorem spelled_of_first? {c : Char} {cs word : List Char} {kind : Token.Kind} (h : first? c cs = some (kind, word)) :
    ∃ rest, c :: cs = word ++ rest ∧ ∀ span, Spelled ⟨kind, String.ofList word, span⟩ rest := by
  unfold first? at h
  split at h
  · next hc =>
      simp only [Option.some.injEq, Prod.mk.injEq] at h
      obtain ⟨rfl, rfl⟩ := h
      have hword : Word (c :: cs.takeWhile isNameChar) := by
        refine ⟨c, cs.takeWhile isNameChar, rfl, isNameStart_iff.1 hc, fun d hd => ?_⟩
        exact isNameChar_iff.1 (List.all_eq_true.1 List.all_takeWhile d hd)
      refine ⟨cs.dropWhile isNameChar, ?_, spelled_word hword (nameEnds_dropWhile cs)⟩
      rw [List.cons_append, List.takeWhile_append_dropWhile]
  · split at h
    · next harrow =>
        obtain ⟨rfl, hcs⟩ := harrow
        obtain ⟨rest, rfl⟩ := List.head?_eq_some_iff.1 hcs
        cases h
        exact ⟨rest, rfl, fun _ => rfl⟩
    · split at h
      · next hc =>
          cases h
          exact ⟨cs, rfl, fun _ => by rw [hc]; rfl⟩
      · split at h
        · next hc =>
            cases h
            exact ⟨cs, rfl, fun _ => by rw [hc]; rfl⟩
        · cases h

theorem first?_eq_none_iff {c : Char} {cs : List Char} : first? c cs = none ↔ ¬ Starts c cs := by
  unfold first? Starts
  rw [← isNameStart_iff]
  split_ifs <;> simp_all

theorem lexFrom_gap {gap : List Char} (h : Gap [] gap) (p : Position) : lexFrom p gap = .ok ⟨[], p.after gap⟩ := by
  have hskip := h.skipTrivia_eq p
  rw [List.append_nil] at hskip
  rw [lexFrom_eq, hskip]
  rfl

theorem lexFrom_bad {gap : List Char} {c : Char} {rest : List Char} (h : Gap (c :: rest) gap) (hc : Graphic c)
    (hbad : ¬ Starts c rest) (p : Position) :
    lexFrom p (gap ++ c :: rest) = .error (p.after gap, .unexpectedChar c) := by
  rw [lexFrom_eq, h.skipTrivia_eq, skipTrivia_graphic hc.1 hc.2]
  simp only [first?_eq_none_iff.2 hbad]

theorem lexFrom_token {gap : List Char} {t : Token} {rest : List Char} (hgap : Gap (t.text.toList ++ rest) gap)
    (ht : Spelled t rest) (p : Position) :
    lexFrom p (gap ++ (t.text.toList ++ rest)) =
      (lexFrom (p.after (gap ++ t.text.toList)) rest).map
        (Tokens.cons ⟨t.kind, t.text, ⟨p.after gap, p.after (gap ++ t.text.toList)⟩⟩) := by
  obtain ⟨c, word, htext, hc, hfirst⟩ := first?_of_spelled ht
  have hofList : String.ofList (c :: word) = t.text := by rw [← htext, String.ofList_toList]
  rw [lexFrom_eq, hgap.skipTrivia_eq, htext, List.cons_append, skipTrivia_graphic hc.1 hc.2]
  simp only [hfirst, hofList, Position.after_append]
  congr 2
  simp

theorem Cut.lexFrom_eq {before cs rest : List Char} {ts : List Token} (h : Cut before cs ts rest) :
    ∃ taken, cs = taken ++ rest ∧
      lexFrom (place before) cs =
        (lexFrom (place (before ++ taken)) rest).map fun us => ⟨ts ++ us.tokens, us.stop⟩ := by
  induction h with
  | @nil before rest =>
      refine ⟨[], rfl, ?_⟩
      rw [List.append_nil]
      cases lexFrom (place before) rest <;> rfl
  | @cons before gap t cs ts rest hgap ht hspan _ ih =>
      obtain ⟨taken, rfl, hlex⟩ := ih
      have htoken : (⟨t.kind, t.text, ⟨place (before ++ gap), place (before ++ gap ++ t.text.toList)⟩⟩ : Token) = t := by
        rw [← hspan]
      refine ⟨gap ++ (t.text.toList ++ taken), by simp only [List.append_assoc], ?_⟩
      rw [lexFrom_token hgap ht, after_place, after_place, ← List.append_assoc before, hlex, htoken]
      simp only [List.append_assoc]
      cases lexFrom (place (before ++ (gap ++ (t.text.toList ++ taken)))) rest <;> rfl

theorem Cut.exists_append {before cs rest : List Char} {ts : List Token} (h : Cut before cs ts rest) :
    ∃ taken, cs = taken ++ rest := by
  obtain ⟨taken, htaken, _⟩ := h.lexFrom_eq
  exact ⟨taken, htaken⟩

theorem Cut.word {before gap word cs rest : List Char} {kind : Token.Kind} {ts : List Token}
    (h : Cut (before ++ gap ++ word) cs ts rest) (hgap : Gap (word ++ cs) gap)
    (hspelled : ∀ span, Spelled ⟨kind, String.ofList word, span⟩ cs) :
    Cut before (gap ++ (word ++ cs))
      (⟨kind, String.ofList word, ⟨place (before ++ gap), place (before ++ gap ++ word)⟩⟩ :: ts) rest := by
  obtain ⟨text, rfl⟩ : ∃ text : String, word = text.toList := ⟨String.ofList word, String.toList_ofList.symm⟩
  rw [String.ofList_toList] at hspelled ⊢
  exact .cons (t := ⟨kind, text, _⟩) hgap (hspelled _) rfl h

theorem exists_cut (before cs : List Char) :
    ∃ ts gap rest, Cut before cs ts (gap ++ rest) ∧ Gap rest gap ∧
      (rest = [] ∨ ∃ c ds, rest = c :: ds ∧ Graphic c ∧ ¬ Starts c ds) := by
  obtain ⟨gap, rest, hcs, hgap, hgraphic⟩ := (exists_gap cs).1
  cases rest with
  | nil => exact ⟨[], gap, [], hcs ▸ .nil, hgap, .inl rfl⟩
  | cons c ds =>
      cases hfirst : first? c ds with
      | none =>
          exact ⟨[], gap, c :: ds, hcs ▸ .nil, hgap, .inr ⟨c, ds, rfl, hgraphic c rfl, first?_eq_none_iff.1 hfirst⟩⟩
      | some r =>
          obtain ⟨kind, word⟩ := r
          obtain ⟨rest, hrest, hspelled⟩ := spelled_of_first? hfirst
          have hshorter : rest.length < cs.length := by
            have hpos := first?_ne_nil hfirst
            rw [hcs, hrest, List.length_append, List.length_append]
            omega
          obtain ⟨ts, gap', rest', hcut, hgap', hend⟩ := exists_cut (before ++ gap ++ word) rest
          rw [hrest] at hgap
          rw [hcs, hrest]
          exact ⟨_, gap', rest', hcut.word hgap hspelled, hgap', hend⟩
termination_by cs.length

theorem tokenize_eq (file source : String) :
    tokenize file source = (lexFrom (place []) source.toList).mapError fun (p, fault) => ⟨file, p, fault⟩ := rfl

theorem tokenize_cut {source : String} {ts : List Token} {gap : List Char} (h : Cut [] source.toList ts gap)
    (hgap : Gap [] gap) (file : String) : tokenize file source = .ok ⟨ts, place source.toList⟩ := by
  obtain ⟨taken, hsource, hlex⟩ := h.lexFrom_eq
  rw [lexFrom_gap hgap, after_place, List.nil_append, ← hsource] at hlex
  rw [tokenize_eq, hlex]
  simp [Except.map, Except.mapError]

theorem tokenize_cut_bad {source : String} {ts : List Token} {gap before rest : List Char} {c : Char}
    (h : Cut [] source.toList ts (gap ++ c :: rest)) (hgap : Gap (c :: rest) gap)
    (hsource : source.toList = before ++ c :: rest) (hc : Graphic c) (hbad : ¬ Starts c rest) (file : String) :
    tokenize file source = .error ⟨file, place before, .unexpectedChar c⟩ := by
  obtain ⟨taken, htaken, hlex⟩ := h.lexFrom_eq
  obtain rfl : taken ++ gap = before := by
    rw [hsource, ← List.append_assoc] at htaken
    exact (List.append_cancel_right htaken).symm
  rw [lexFrom_bad hgap hc hbad, after_place, List.nil_append] at hlex
  rw [tokenize_eq, hlex]
  rfl

theorem tokenize_cases (file source : String) :
    (∃ ts gap, Cut [] source.toList ts gap ∧ Gap [] gap ∧ tokenize file source = .ok ⟨ts, place source.toList⟩) ∨
      ∃ ts gap before c rest, Cut [] source.toList ts (gap ++ c :: rest) ∧ Gap (c :: rest) gap ∧
        source.toList = before ++ c :: rest ∧ Graphic c ∧ ¬ Starts c rest ∧
        tokenize file source = .error ⟨file, place before, .unexpectedChar c⟩ := by
  obtain ⟨ts, gap, rest, hcut, hgap, hend⟩ := exists_cut [] source.toList
  rcases hend with rfl | ⟨c, ds, rfl, hc, hbad⟩
  · rw [List.append_nil] at hcut
    exact .inl ⟨ts, gap, hcut, hgap, tokenize_cut hcut hgap file⟩
  · obtain ⟨before, hsource⟩ := hcut.exists_append
    rw [← List.append_assoc] at hsource
    exact .inr ⟨ts, gap, before ++ gap, c, ds, hcut, hgap, hsource, hc, hbad,
      tokenize_cut_bad hcut hgap hsource hc hbad file⟩

theorem cut_of_tokenize {file source : String} {ts : Tokens} (h : tokenize file source = .ok ts) :
    ∃ gap, Cut [] source.toList ts.tokens gap ∧ Gap [] gap ∧ ts.stop = place source.toList := by
  rcases tokenize_cases file source with ⟨us, gap, hcut, hgap, hok⟩ | ⟨_, _, _, _, _, _, _, _, _, _, herror⟩
  · rw [hok] at h
    cases h
    exact ⟨gap, hcut, hgap, rfl⟩
  · rw [herror] at h
    cases h

/-- A text is cut into tokens at their places, with nothing but gaps between them, if that can be done up to its end.
Otherwise the first character that belongs neither to a gap nor to a token is reported where it stands. -/
theorem tokenize_exact (file source : String) :
    (∀ ts, tokenize file source = .ok ts ↔
      ∃ gap, Cut [] source.toList ts.tokens gap ∧ Gap [] gap ∧ ts.stop = place source.toList) ∧
    ∀ e, tokenize file source = .error e ↔
      ∃ ts gap before c rest, Cut [] source.toList ts (gap ++ c :: rest) ∧ Gap (c :: rest) gap ∧
        source.toList = before ++ c :: rest ∧ Graphic c ∧ ¬ Starts c rest ∧
        e = ⟨file, place before, .unexpectedChar c⟩ := by
  refine ⟨fun us => ⟨cut_of_tokenize, ?_⟩, fun e => ⟨fun h => ?_, ?_⟩⟩
  · rintro ⟨gap, hcut, hgap, hstop⟩
    rw [tokenize_cut hcut hgap, ← hstop]
  · rcases tokenize_cases file source with
      ⟨_, _, _, _, hok⟩ | ⟨ts, gap, before, c, rest, hcut, hgap, hsource, hc, hbad, herror⟩
    · rw [hok] at h
      cases h
    · rw [herror] at h
      cases h
      exact ⟨ts, gap, before, c, rest, hcut, hgap, hsource, hc, hbad, rfl⟩
  · rintro ⟨ts, gap, before, c, rest, hcut, hgap, hsource, hc, hbad, rfl⟩
    exact tokenize_cut_bad hcut hgap hsource hc hbad file

end Lexer

end Monotype
