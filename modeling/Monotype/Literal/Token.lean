import Monotype.Literal.Text
import Monotype.Text.Identifier

namespace Monotype.Literal

/-- A text with fields keeps its body, in which the fields are found later. -/
inductive Token where
  | number (v : Value)
  | text (p : Piece)
  | formatted (raw : Bool) (body : List Char)
  | word (s : List Char)
  | symbol (s : String)
  | newline

def longSymbols : List String :=
  ["**=", "//=", ">>=", "<<=", "...", "**", "//", ">>", "<<", "<=", ">=", "==", "!=", "->", "+=", "-=", "*=", "/=", "%=",
   "&=", "|=", "^=", "@=", ":="]

def shortSymbols : List Char :=
  ['(', ')', '[', ']', '\x7b', '\x7d', ',', ':', '.', ';', '=', '+', '-', '*', '/', '%', '@', '&', '|', '^', '~', '<', '>']

def symbol? (cs : List Char) : Option (String × List Char) :=
  match longSymbols.find? (·.toList.isPrefixOf cs) with
  | some s => some (s, cs.drop s.length)
  | none =>
      match cs with
      | c :: cs => if shortSymbols.contains c then some (String.singleton c, cs) else none
      | [] => none

def isQuote (c : Char) : Bool := c == '\'' || c == '"'

def textToken? (kind : TextKind) (raw : Bool) (q : Char) (cs : List Char) : Option (Token × List Char) := do
  let (body, rest) ← quotedText? q cs
  match kind with
  | .formatted => return (.formatted raw body, rest)
  | kind => return (.text (← piece? kind raw body), rest)

def token? (c : Char) (cs : List Char) : Option (Token × List Char) :=
  if c.isDigit || (c == '.' && cs.head?.any Char.isDigit) then
    (number? (c :: cs)).map fun (v, rest) => (.number v, rest)
  else
    let word := (c :: cs).takeWhile isWordChar
    let plain (rest : List Char) : Option (Token × List Char) :=
      if word.isEmpty then (symbol? (c :: cs)).map fun (s, rest) => (.symbol s, rest)
      else if Text.isIdentifier word then some (.word word, rest)
      else none
    match (c :: cs).dropWhile isWordChar with
    | q :: body =>
        if isQuote q then
          match textPrefix? word with
          | some (kind, raw) => textToken? kind raw q body
          | none => plain (q :: body)
        else plain (q :: body)
    | [] => plain []

def maxBrackets : Nat := 200

/-- Where the lexer stands: open brackets, blanks before the first token of a line, whether the line has one. -/
structure Line where
  brackets : Nat := 0
  blanks : Nat := 0
  started : Bool := false

def Line.after (l : Line) (t : Token) : Option Line :=
  if l.brackets = 0 ∧ ¬l.started ∧ 0 < l.blanks then none
  else
    let l := { l with started := true }
    match t with
    | .symbol s =>
        if ["(", "[", "\x7b"].contains s then
          if l.brackets < maxBrackets then some { l with brackets := l.brackets + 1 } else none
        else if [")", "]", "\x7d"].contains s then
          if l.brackets = 0 then none else some { l with brackets := l.brackets - 1 }
        else some l
    | _ => some l

def lex (fuel : Nat) (l : Line) (cs : List Char) : Option (List Token) :=
  match fuel, cs with
  | _, [] => some []
  | 0, _ => none
  | fuel + 1, c :: cs =>
      if c = ' ' ∨ c = '\t' then lex fuel { l with blanks := l.blanks + 1 } cs
      else if c = '\x0c' then lex fuel { l with blanks := 0 } cs
      else if c = '#' then lex fuel l (cs.dropWhile (· ≠ '\n'))
      else if c = '\\' then
        match cs with
        | '\n' :: d :: cs => lex fuel l (d :: cs)
        | _ => none
      else if c = '\n' then
        if 0 < l.brackets then lex fuel l cs
        else if l.started then do return .newline :: (← lex fuel {} cs)
        else lex fuel {} cs
      else do
        let (t, rest) ← token? c cs
        return t :: (← lex fuel (← l.after t) rest)

def Token.ofChars? (cs : List Char) : Option (List Token) := lex (cs.length + 1) {} cs

def joinPieces : List Token → Option (List Token)
  | [] => some []
  | t :: ts => do
      let ts ← joinPieces ts
      let t := match t with
        | .formatted _ _ => Token.text .formatted
        | t => t
      match t, ts with
      | .text p, .text q :: ts => return .text (← p.append? q) :: ts
      | t, ts => return t :: ts

end Monotype.Literal
