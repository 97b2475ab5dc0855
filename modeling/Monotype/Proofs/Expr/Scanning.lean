import Monotype.Expr.Lexer
import Monotype.Proofs.Expr.Grammar
import Mathlib.Tactic.Common

namespace Monotype

namespace Text

def NameStart (c : Char) : Prop := ('A' ≤ c ∧ c ≤ 'Z') ∨ ('a' ≤ c ∧ c ≤ 'z') ∨ c = '_'

def NameChar (c : Char) : Prop := NameStart c ∨ ('0' ≤ c ∧ c ≤ '9')

/-- The text matches `[A-Za-z_][A-Za-z_0-9]*` and is not the keyword. -/
def IsName (x : String) : Prop :=
  (∃ c cs, x.toList = c :: cs ∧ NameStart c ∧ ∀ d ∈ cs, NameChar d) ∧ x ≠ "fun"

theorem NameStart.toNat_bounds {c : Char} (h : NameStart c) : 65 ≤ c.toNat ∧ c.toNat ≤ 122 := by
  rcases h with h | h | rfl
  · simp only [Char.le_def, UInt32.le_iff_toNat_le] at h
    exact ⟨h.1, Nat.le_trans h.2 (by decide)⟩
  · simp only [Char.le_def, UInt32.le_iff_toNat_le] at h
    exact ⟨Nat.le_trans (by decide) h.1, h.2⟩
  · decide

theorem NameStart.graphic {c : Char} (h : NameStart c) : isBlank c = false ∧ c ≠ '#' := by
  have hbounds := h.toNat_bounds
  constructor
  · simp [isBlank]
    omega
  · rintro rfl
    simp at hbounds

end Text

namespace Lexer

open Text

theorem isNameStart_iff {c : Char} : isNameStart c = true ↔ NameStart c := by
  have hletter : c.isAlpha = (decide ('A' ≤ c ∧ c ≤ 'Z') || decide ('a' ≤ c) && decide (c ≤ 'z')) := rfl
  simp [isNameStart, NameStart, hletter, or_assoc]

theorem isNameChar_iff {c : Char} : isNameChar c = true ↔ NameChar c := by
  simp [isNameChar, NameChar, isNameStart_iff, Char.isDigit, Char.le_def]

theorem lexFrom_eq (p : Position) (cs : List Char) :
    lexFrom p cs =
      match skipTrivia false p cs with
      | (q, []) => .ok ⟨[], q⟩
      | (q, c :: rest) =>
          match first? c rest with
          | none => .error (q, .unexpectedChar c)
          | some (kind, word) =>
              (lexFrom (q.after word) ((c :: rest).drop word.length)).map
                (Tokens.cons ⟨kind, String.ofList word, ⟨q, q.after word⟩⟩) := by
  rw [lexFrom]
  split
  · next h => rw [h]
  · next h =>
      rw [h]
      dsimp only
      split
      · next hf => rw [hf]
      · next hf =>
          rw [hf]
          rfl

theorem lexFrom_congr {p q : Position} {cs ds : List Char} (h : skipTrivia false p cs = skipTrivia false q ds) :
    lexFrom p cs = lexFrom q ds := by
  rw [lexFrom_eq, h, ← lexFrom_eq]

theorem skipTrivia_blank {c : Char} (h : isBlank c = true) (p : Position) (cs : List Char) :
    skipTrivia false p (c :: cs) = skipTrivia false (p.next c) cs := by
  have hne : c ≠ '#' := by
    rintro rfl
    simp [isBlank] at h
  simp [skipTrivia, h, hne]

theorem skipTrivia_graphic {c : Char} (h : isBlank c = false) (hne : c ≠ '#') (p : Position) (cs : List Char) :
    skipTrivia false p (c :: cs) = (p, c :: cs) := by
  have hline : c ≠ '\n' := by
    rintro rfl
    simp [isBlank] at h
  simp [skipTrivia, h, hne, hline]

/-- The text is cut into these terminals, wherever it stands. -/
def Lexes (cs : List Char) (us : List Terminal) : Prop :=
  ∀ p, ∃ ts, lexFrom p cs = .ok ts ∧ ts.tokens.map Token.terminal = us

def NameEnds (cs : List Char) : Prop := ∀ c ∈ cs.head?, ¬ NameChar c

theorem takeWhile_word {word cs : List Char} (hword : ∀ d ∈ word, NameChar d) (hcs : NameEnds cs) :
    (word ++ cs).takeWhile isNameChar = word := by
  rw [List.takeWhile_append_of_pos fun d hd => isNameChar_iff.2 (hword d hd)]
  cases cs with
  | nil => simp
  | cons d cs =>
      have hd : ¬ isNameChar d = true := fun hd => hcs d rfl (isNameChar_iff.1 hd)
      simp [hd]

theorem first?_word {c : Char} {word cs : List Char} (hc : NameStart c) (hword : ∀ d ∈ word, NameChar d)
    (hcs : NameEnds cs) : first? c (word ++ cs) = some (wordKind (c :: word), c :: word) := by
  rw [first?, if_pos (isNameStart_iff.2 hc), takeWhile_word hword hcs]

namespace Lexes

variable {cs : List Char} {us : List Terminal}

theorem nil : Lexes [] [] := fun p => ⟨⟨[], p⟩, by simp [lexFrom_eq, skipTrivia], rfl⟩

theorem blank {c : Char} (hc : isBlank c = true) (h : Lexes cs us) : Lexes (c :: cs) us := by
  intro p
  rw [lexFrom_congr (skipTrivia_blank hc p cs)]
  exact h (p.next c)

theorem token (c : Char) (word : List Char) (kind : Token.Kind) (hblank : isBlank c = false) (hc : c ≠ '#')
    (hf : first? c (word ++ cs) = some (kind, c :: word)) (h : Lexes cs us) :
    Lexes (c :: word ++ cs) (Token.terminal ⟨kind, String.ofList (c :: word), default⟩ :: us) := by
  intro p
  obtain ⟨ts, hts, hus⟩ := h (p.after (c :: word))
  have hdrop : (c :: (word ++ cs)).drop (c :: word).length = cs := by simp
  rw [List.cons_append, lexFrom_eq, skipTrivia_graphic hblank hc]
  simp only [hf, hdrop, hts]
  refine ⟨_, rfl, ?_⟩
  rw [Tokens.cons, List.map_cons, hus]
  rfl

theorem arrow (h : Lexes cs us) : Lexes ('=' :: '>' :: cs) (.arrow :: us) :=
  token '=' ['>'] .arrow (by decide) (by decide) rfl h

theorem leftParen (h : Lexes cs us) : Lexes ('(' :: cs) (.leftParen :: us) :=
  token '(' [] .leftParen (by decide) (by decide) rfl h

theorem rightParen (h : Lexes cs us) : Lexes (')' :: cs) (.rightParen :: us) :=
  token ')' [] .rightParen (by decide) (by decide) rfl h

theorem word (c : Char) (word : List Char) (hc : NameStart c) (hword : ∀ d ∈ word, NameChar d) (hcs : NameEnds cs)
    (h : Lexes cs us) :
    Lexes (c :: word ++ cs)
      (Token.terminal ⟨wordKind (c :: word), String.ofList (c :: word), default⟩ :: us) :=
  token c word _ hc.graphic.1 hc.graphic.2 (first?_word hc hword hcs) h

theorem name {x : String} (hx : IsName x) (hcs : NameEnds cs) (h : Lexes cs us) :
    Lexes (x.toList ++ cs) (.name x :: us) := by
  obtain ⟨⟨c, word, hword, hc, hall⟩, hne⟩ := hx
  have hkind : wordKind (c :: word) = .name := by
    refine if_neg fun hfun => hne ?_
    rw [← String.toList_inj, hword, hfun]
    rfl
  have hlex := Lexes.word c word hc hall hcs h
  rwa [hkind, ← hword, String.ofList_toList] at hlex

theorem function (h : Lexes cs us) : Lexes ('f' :: 'u' :: 'n' :: ' ' :: cs) (.function :: us) :=
  Lexes.word 'f' ['u', 'n'] (by simp [NameStart]) (by simp [NameChar, NameStart])
    (by simp [NameEnds, NameChar, NameStart]) (h.blank (by decide))

end Lexes

theorem isName_of_first? {c : Char} {cs word : List Char} (h : first? c cs = some (.name, word)) :
    IsName (String.ofList word) := by
  unfold first? at h
  split at h
  · next hc =>
      simp only [Option.some.injEq, Prod.mk.injEq] at h
      obtain ⟨hkind, rfl⟩ := h
      refine ⟨⟨c, cs.takeWhile isNameChar, String.toList_ofList, isNameStart_iff.1 hc, fun d hd => ?_⟩, fun hfun => ?_⟩
      · exact isNameChar_iff.1 (List.all_eq_true.1 List.all_takeWhile d hd)
      · have hword : c :: cs.takeWhile isNameChar = ['f', 'u', 'n'] := by
          rw [← String.toList_ofList (l := c :: cs.takeWhile isNameChar), hfun]
          rfl
        rw [wordKind, if_pos hword] at hkind
        cases hkind
  · split at h
    · cases h
    · split at h
      · cases h
      · split at h <;> cases h

/-- The rules by which a text is cut. -/
inductive Scans : Position → List Char → Tokens → Prop
  | stop {p cs q} (h : skipTrivia false p cs = (q, [])) : Scans p cs ⟨[], q⟩
  | token {p cs q c rest kind word ts} (h : skipTrivia false p cs = (q, c :: rest))
      (hf : first? c rest = some (kind, word)) (hts : Scans (q.after word) ((c :: rest).drop word.length) ts) :
      Scans p cs (ts.cons ⟨kind, String.ofList word, ⟨q, q.after word⟩⟩)

theorem scans_of_lexFrom {p : Position} {cs : List Char} {ts : Tokens} (h : lexFrom p cs = .ok ts) : Scans p cs ts := by
  induction p, cs using lexFrom.induct generalizing ts with
  | case1 p cs q hskip =>
      rw [lexFrom_eq, hskip] at h
      cases h
      exact .stop hskip
  | case2 p cs q c rest hskip hf =>
      simp [lexFrom_eq p, hskip, hf] at h
  | case3 p cs q c rest hskip kind word hf stop =>
      rename_i ih
      rw [lexFrom_eq, hskip] at h
      simp only [hf] at h
      cases hrest : lexFrom (q.after word) ((c :: rest).drop word.length) with
      | error e =>
          rw [hrest] at h
          cases h
      | ok us =>
          rw [hrest] at h
          cases h
          exact .token hskip hf (ih hrest)

theorem isName_of_lexFrom {p : Position} {cs : List Char} {ts : Tokens} (h : lexFrom p cs = .ok ts) :
    ∀ t ∈ ts.tokens, t.kind = .name → IsName t.text := by
  have hscan := scans_of_lexFrom h
  clear h
  induction hscan with
  | stop => simp
  | token _ hf _ ih =>
      intro t ht hkind
      rcases List.mem_cons.1 ht with rfl | ht
      · obtain rfl : _ = Token.Kind.name := hkind
        exact isName_of_first? hf
      · exact ih t ht hkind

end Lexer

end Monotype
