import Monotype.Text.Digit
import Monotype.Text.Letter

namespace Monotype.Log

inductive Style where
  | percent
  | brace
  | dollar
  deriving DecidableEq

def Style.ofText? (s : String) : Option Style :=
  if s = "%" then some .percent
  else if s = "\x7b" then some .brace
  else if s = "$" then some .dollar
  else none

namespace Format

def isWordChar (c : Char) : Bool := Text.isLetter c || Text.isNumeral c || c == '_'

def skipCount (cs : List Char) : List Char :=
  match cs with
  | '*' :: cs => cs
  | cs => cs.dropWhile Text.isDigit

def skipPrecision (cs : List Char) : List Char :=
  match cs with
  | '.' :: '*' :: rest => rest
  | '.' :: d :: rest => if Text.isDigit d then rest.dropWhile Text.isDigit else cs
  | cs => cs

/-- One of some small letters in either case; the dotted and the dotless capital count as an i, and the long letter
as an s. -/
def isLetterOf (letters : String) (c : Char) : Bool :=
  let c := if c = 'İ' ∨ c = 'ı' then 'i' else if c = 'ſ' then 's' else c.toLower
  letters.toList.contains c

/-- Whether a text starts with a field `%(name)`, its flags, width and precision, and the letter of a kind. -/
def startsPercentField (cs : List Char) : Bool :=
  match cs with
  | '%' :: '(' :: cs =>
      match cs.takeWhile isWordChar, cs.dropWhile isWordChar with
      | _ :: _, ')' :: rest =>
          let rest := rest.dropWhile fun c => c ∈ ['#', '0', '+', ' ', '-']
          (skipPrecision (skipCount rest)).head?.any (isLetterOf "diouxefgcrsa%")
      | _, _ => false
  | _ => false

def hasPercentField : List Char → Bool
  | [] => false
  | c :: cs => startsPercentField (c :: cs) || hasPercentField cs

def skipBraceCount? (cs : List Char) : Option (List Char) :=
  match cs with
  | '\x7b' :: cs =>
      match cs.takeWhile isWordChar, cs.dropWhile isWordChar with
      | _ :: _, '\x7d' :: rest => some rest
      | _, _ => none
  | d :: rest => if Text.isDigit d then some (rest.dropWhile Text.isDigit) else none
  | [] => none

def skipOne (options : List Char) (cs : List Char) : List Char :=
  match cs with
  | c :: rest => if c ∈ options then rest else cs
  | [] => []

def skipAlignment (cs : List Char) : List Char :=
  let isAlign (c : Char) : Bool := c ∈ ['<', '>', '=', '^']
  match cs with
  | a :: b :: rest => if a ≠ '\n' ∧ isAlign b then rest else if isAlign a then b :: rest else cs
  | [a] => if isAlign a then [] else cs
  | [] => []

def isBraceLayout (cs : List Char) : Bool :=
  let cs := skipOne ['0'] (skipOne ['#'] (skipOne ['+', ' ', '-'] (skipAlignment cs)))
  let cs := skipOne [',', '_'] ((skipBraceCount? cs).getD cs)
  let cs := match cs with
    | '.' :: rest => (skipBraceCount? rest).getD cs
    | cs => cs
  match cs with
  | [] => true
  | ['\n'] => true
  | c :: rest => isLetterOf "bcdefgnosx%" c && c ≠ 'İ' && c ≠ 'ı' && (rest == [] || rest == ['\n'])

def isBracePath (fuel : Nat) (cs : List Char) : Bool :=
  match fuel, cs with
  | _, [] => true
  | _, ['\n'] => true
  | 0, _ => false
  | fuel + 1, '.' :: cs =>
      match cs.takeWhile isWordChar with
      | [] => false
      | _ => isBracePath fuel (cs.dropWhile isWordChar)
  | fuel + 1, '[' :: cs =>
      match cs.takeWhile (· ≠ ']'), cs.dropWhile (· ≠ ']') with
      | _ :: _, _ :: rest => isBracePath fuel rest
      | _, _ => false
  | _ + 1, _ => false

def isBraceName (cs : List Char) : Bool :=
  match cs.takeWhile isWordChar with
  | [] => false
  | _ => isBracePath cs.length (cs.dropWhile isWordChar)

structure BraceField where
  name : List Char
  conversion : Option Char := none
  layout : List Char := []

def braceName? (inBrackets : Bool) : List Char → Option (List Char × Char × List Char)
  | [] => none
  | c :: cs =>
      if inBrackets then (braceName? (c ≠ ']') cs).map fun (name, stop) => (c :: name, stop)
      else if c = '\x7b' then none
      else if c = '\x7d' ∨ c = ':' ∨ c = '!' then some ([], c, cs)
      else (braceName? (c = '[') cs).map fun (name, stop) => (c :: name, stop)

def braceLayout? (depth : Nat) : List Char → Option (List Char × List Char)
  | [] => none
  | c :: cs =>
      match depth, c with
      | 0, '\x7d' => some ([], cs)
      | depth + 1, '\x7d' => (braceLayout? depth cs).map fun (xs, rest) => (c :: xs, rest)
      | depth, '\x7b' => (braceLayout? (depth + 1) cs).map fun (xs, rest) => (c :: xs, rest)
      | depth, _ => (braceLayout? depth cs).map fun (xs, rest) => (c :: xs, rest)

def braceField? (cs : List Char) : Option (BraceField × List Char) := do
  let (name, stop, rest) ← braceName? false cs
  if stop = '\x7d' then return ({ name }, rest)
  let (conversion, rest) ←
    if stop = '!' then
      match rest with
      | c :: '\x7d' :: rest => return ({ name, conversion := some c }, rest)
      | c :: ':' :: rest => some (some c, rest)
      | _ => none
    else some (none, rest)
  let (layout, rest) ← braceLayout? 0 rest
  return ({ name, conversion, layout }, rest)

def BraceField.isSound (f : BraceField) : Bool :=
  (f.name.isEmpty || isBraceName f.name) && f.conversion.all (· ∈ ['r', 's', 'a']) &&
    (f.layout.isEmpty || isBraceLayout f.layout)

/-- Whether a text is sound and has a field with a name. A brace that is written twice stands for itself. -/
def isBraceFormat (fuel : Nat) (named : Bool) (cs : List Char) : Bool :=
  match fuel, cs with
  | _, [] => named
  | 0, _ => false
  | fuel + 1, '\x7b' :: '\x7b' :: cs => isBraceFormat fuel named cs
  | fuel + 1, '\x7d' :: '\x7d' :: cs => isBraceFormat fuel named cs
  | _ + 1, '\x7d' :: _ => false
  | fuel + 1, '\x7b' :: cs =>
      match braceField? cs with
      | some (f, rest) => f.isSound && isBraceFormat fuel (named || !f.name.isEmpty) rest
      | none => false
  | fuel + 1, _ :: cs => isBraceFormat fuel named cs

def isNameChar (c : Char) : Bool := c.isAlphanum || c == '_'

def startsName (cs : List Char) : Bool := cs.head?.any fun c => c.isAlpha || c == '_'

def isDollarFormat (fuel : Nat) (named : Bool) (cs : List Char) : Bool :=
  match fuel, cs with
  | _, [] => named
  | 0, _ => false
  | fuel + 1, '$' :: '$' :: cs => isDollarFormat fuel named cs
  | fuel + 1, '$' :: '\x7b' :: cs =>
      match startsName cs, cs.dropWhile isNameChar with
      | true, '\x7d' :: rest => isDollarFormat fuel true rest
      | _, _ => false
  | fuel + 1, '$' :: cs => startsName cs && isDollarFormat fuel true (cs.dropWhile isNameChar)
  | fuel + 1, _ :: cs => isDollarFormat fuel named cs

end Format

def Style.admits (s : Style) (format : String) : Bool :=
  let cs := format.toList
  match s with
  | percent => Format.hasPercentField cs
  | brace => Format.isBraceFormat (cs.length + 1) false cs
  | dollar => Format.isDollarFormat (cs.length + 1) false cs

end Monotype.Log
