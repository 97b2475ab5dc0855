import Monotype.Expr.Token
import Monotype.Text.Blank

namespace Monotype.Lexer

def isNameStart (c : Char) : Bool :=
  c.isAlpha || c == '_'

def isNameChar (c : Char) : Bool :=
  isNameStart c || c.isDigit

def skipTrivia (inComment : Bool) (p : Position) : List Char → Position × List Char
  | [] => (p, [])
  | c :: cs =>
      if c = '\n' then skipTrivia false (p.next c) cs
      else if inComment || c = '#' then skipTrivia true (p.next c) cs
      else if Text.isBlank c then skipTrivia false (p.next c) cs
      else (p, c :: cs)

theorem length_skipTrivia_le (inComment : Bool) (p : Position) (cs : List Char) :
    (skipTrivia inComment p cs).2.length ≤ cs.length := by
  induction cs generalizing inComment p with
  | nil => simp [skipTrivia]
  | cons c cs ih =>
      simp only [skipTrivia]
      split
      · exact Nat.le_succ_of_le (ih _ _)
      · split
        · exact Nat.le_succ_of_le (ih _ _)
        · split
          · exact Nat.le_succ_of_le (ih _ _)
          · exact Nat.le_refl _

structure Tokens where
  tokens : List Token
  stop : Position
  deriving DecidableEq

def Tokens.cons (t : Token) (ts : Tokens) : Tokens :=
  ⟨t :: ts.tokens, ts.stop⟩

abbrev Fault := Position × SyntaxFault

def wordKind (word : List Char) : Token.Kind :=
  if word = ['f', 'u', 'n'] then .function else .name

def first? (c : Char) (cs : List Char) : Option (Token.Kind × List Char) :=
  if isNameStart c then
    let word := c :: cs.takeWhile isNameChar
    some (wordKind word, word)
  else if c = '=' ∧ cs.head? = some '>' then some (.arrow, ['=', '>'])
  else if c = '(' then some (.leftParen, [c])
  else if c = ')' then some (.rightParen, [c])
  else none

theorem first?_ne_nil {c : Char} {cs word : List Char} {kind : Token.Kind}
    (h : first? c cs = some (kind, word)) : 0 < word.length := by
  unfold first? at h
  grind

set_option linter.unusedVariables false in
/-- Cut the text at `p` into tokens, or find the first character that starts none. -/
def lexFrom (p : Position) (cs : List Char) : Except Fault Tokens :=
  match h : skipTrivia false p cs with
  | (q, []) => .ok ⟨[], q⟩
  | (q, c :: rest) =>
      match hf : first? c rest with
      | none => .error (q, .unexpectedChar c)
      | some (kind, word) => do
          let stop := q.after word
          let tokens ← lexFrom stop ((c :: rest).drop word.length)
          return tokens.cons ⟨kind, String.ofList word, ⟨q, stop⟩⟩
termination_by cs.length
decreasing_by
  have hle := length_skipTrivia_le false p cs
  have hpos := first?_ne_nil hf
  rw [h] at hle
  simp only [List.length_drop, List.length_cons] at hle ⊢
  omega

def tokenize (file : String) (source : String) : Except SyntaxError Tokens :=
  (lexFrom .origin source.toList).mapError fun (p, fault) => ⟨file, p, fault⟩

end Monotype.Lexer
