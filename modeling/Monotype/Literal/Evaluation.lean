import Monotype.Literal.Field
import Monotype.Literal.Grammar
import Monotype.Text.Line

namespace Monotype.Literal

def tokens? (sound : List Char → Bool) (cs : List Char) : Option (List Token) := do
  let ts ← Token.ofChars? cs
  let isSound : Token → Bool
    | .formatted raw body => Field.isSound sound raw body
    | _ => true
  if ts.all isSound then joinPieces ts else none

def isExpression (fuel : Nat) (cs : List Char) : Bool :=
  match fuel with
  | 0 => false
  | fuel + 1 => ((tokens? (isExpression fuel) ('(' :: cs ++ [')'])).bind Grammar.whole?).isSome

def Token.isNewline : Token → Bool
  | newline => true
  | _ => false

/-- The expression that a text is. Lines behind it are empty. -/
def parse? (source : String) : Option Term := do
  let cs := Text.unifyLineEnds source.toList
  if cs.contains '\x00' then none
  else
    let ts ← tokens? (isExpression cs.length) cs
    Grammar.whole? (ts.reverse.dropWhile Token.isNewline).reverse

def read (limit : Nat) (source : String) : Except Error Value :=
  match parse? source with
  | some t => if limit < t.depth then .error .tooDeep else t.eval
  | none => .error .malformed

end Monotype.Literal
