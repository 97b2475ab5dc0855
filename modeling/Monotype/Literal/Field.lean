import Monotype.Literal.Text

namespace Monotype.Literal.Field

inductive Stop where
  | finished
  | doubled
  | field
  | close
  deriving DecidableEq

/-- A stretch of plain text, how it ends, and the rest. At the outermost level a doubled brace stands for itself, and
no single one closes. The text so far is turned around. The names of characters have braces of their own. -/
def plain? (raw inFormat inName : Bool) (acc : List Char) : List Char → Option (List Char × Stop × List Char)
  | [] => some (acc.reverse, .finished, [])
  | c :: cs =>
      if inName then plain? raw inFormat (c ≠ '}') (c :: acc) cs
      else if c = '{' ∨ c = '}' then
        if ¬inFormat ∧ cs.head? = some c then some ((c :: acc).reverse, .doubled, cs.tail)
        else if c = '{' then some (acc.reverse, .field, cs)
        else if inFormat then some (acc.reverse, .close, c :: cs)
        else none
      else if c = '\\' ∧ ¬raw then
        match cs with
        | 'N' :: '{' :: cs => plain? raw inFormat true ('{' :: 'N' :: c :: acc) cs
        | d :: cs =>
            if d = '{' ∨ d = '}' then plain? raw inFormat false (c :: acc) (d :: cs)
            else plain? raw inFormat false (d :: c :: acc) cs
        | [] => some ((c :: acc).reverse, .finished, [])
      else plain? raw inFormat false (c :: acc) cs

structure Nesting where
  quote : Option (Char × Bool) := none
  brackets : List Char := []

def opened? (c : Char) : Option Char :=
  match c with
  | '(' => some ')'
  | '[' => some ']'
  | '{' => some '}'
  | _ => none

def maxBrackets : Nat := 200

def expression? (skip : Nat) (n : Nesting) (acc : List Char) : List Char → Option (List Char × List Char)
  | [] => none
  | c :: cs =>
      match skip with
      | skip + 1 => expression? skip n (c :: acc) cs
      | 0 =>
          if c = '\\' then none
          else
            match n.quote with
            | some (q, triple) =>
                if c ≠ q then expression? 0 n (c :: acc) cs
                else if ¬triple then expression? 0 { n with quote := none } (c :: acc) cs
                else if cs.take 2 = [q, q] then expression? 2 { n with quote := none } (c :: acc) cs
                else expression? 0 n (c :: acc) cs
            | none =>
                if c = '\'' ∨ c = '"' then
                  if cs.take 2 = [c, c] then expression? 2 { n with quote := some (c, true) } (c :: acc) cs
                  else expression? 0 { n with quote := some (c, false) } (c :: acc) cs
                else if c = '#' then none
                else
                  match opened? c with
                  | some d =>
                      if n.brackets.length < maxBrackets then
                        expression? 0 { n with brackets := d :: n.brackets } (c :: acc) cs
                      else none
                  | none =>
                      if n.brackets.isEmpty ∧ ['!', ':', '}', '=', '>', '<'].contains c then
                        if ['!', '=', '<', '>'].contains c ∧ cs.head? = some '=' then expression? 1 n (c :: acc) cs
                        else if c = '<' ∨ c = '>' then expression? 0 n (c :: acc) cs
                        else some (acc.reverse, c :: cs)
                      else if [')', ']', '}'].contains c then
                        match n.brackets with
                        | d :: ds => if c = d then expression? 0 { n with brackets := ds } (c :: acc) cs else none
                        | [] => none
                      else expression? 0 n (c :: acc) cs

def isGap (c : Char) : Bool := [' ', '\t', '\n', '\r', '\x0b', '\x0c'].contains c

def conversion? (cs : List Char) : Option (List Char) :=
  let cs := match cs with
    | '=' :: cs => cs.dropWhile isGap
    | cs => cs
  match cs with
  | '!' :: c :: cs => if ['s', 'r', 'a'].contains c then some cs else none
  | '!' :: [] => none
  | cs => some cs

/-- Read plain text and fields, as far as the body of a text or of a format goes, and give the rest. Expressions have to
be `sound`. -/
def body? (sound : List Char → Bool) (raw : Bool) (fuel level : Nat) (cs : List Char) : Option (List Char) :=
  match fuel with
  | 0 => none
  | fuel + 1 => do
      let (text, stop, rest) ← plain? raw (decide (0 < level)) false [] cs
      if ¬raw ∧ (unescape? .formatted 0 text).isNone then none
      else
        match stop with
        | .finished => if level = 0 then some [] else none
        | .doubled => body? sound raw fuel level rest
        | .close => some rest
        | .field =>
            if 2 ≤ level then none
            else
              let (e, rest) ← expression? 0 {} [] rest
              if e.all (fun c => [' ', '\t', '\n', '\x0c'].contains c) || !sound e then none
              else
                let rest ← conversion? rest
                let rest ← match rest with
                  | ':' :: rest => body? sound raw fuel (level + 1) rest
                  | rest => some rest
                match rest with
                | '}' :: rest => body? sound raw fuel level rest
                | _ => none

def isSound (sound : List Char → Bool) (raw : Bool) (body : List Char) : Bool :=
  (body? sound raw (body.length + 2) 0 body).isSome

end Monotype.Literal.Field
