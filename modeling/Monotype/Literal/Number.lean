import Monotype.Number.Reader
import Monotype.Value.Basic

namespace Monotype.Literal

open Number (isDigitOf natOfDigits maxDigits)

def isWordChar (c : Char) : Bool := c.isAlphanum || c == '_' || decide (128 ≤ c.toNat)

def digits (base : Nat) : List Char → List Char × List Char
  | '_' :: c :: cs =>
      if isDigitOf base c then
        let (ds, rest) := digits base cs
        (c :: ds, rest)
      else ([], '_' :: c :: cs)
  | c :: cs =>
      if isDigitOf base c then
        let (ds, rest) := digits base cs
        (c :: ds, rest)
      else ([], c :: cs)
  | [] => ([], [])

def plainDigits (base : Nat) (cs : List Char) : List Char × List Char :=
  if cs.head? = some '_' then ([], cs) else digits base cs

/-- The power of ten behind a mantissa, and the rest. A sign needs its digits; a mark without a sign and digits is
the start of a word. -/
def exponent? (cs : List Char) : Option (Option Int × List Char) :=
  match cs with
  | e :: rest =>
      if e = 'e' ∨ e = 'E' then
        let (negative, signed, rest) := match rest with
          | '-' :: rest => (true, true, rest)
          | '+' :: rest => (false, true, rest)
          | rest => (false, false, rest)
        match plainDigits 10 rest with
        | ([], _) => if signed then none else some (none, cs)
        | (ds, rest) =>
            let n : Int := natOfDigits 10 ds
            some (some (if negative then -n else n), rest)
      else some (none, cs)
  | [] => some (none, [])

/-- Whole numbers have no zeros in front, except zero itself, and a bounded number of digits. -/
def wholeNumber? (ds : List Char) : Option Value :=
  if ds.all (· == '0') then some (.int 0)
  else if maxDigits < ds.length ∨ ds.head? = some '0' then none
  else some (.int (natOfDigits 10 ds))

def decimal? (cs : List Char) : Option (Value × List Char) := do
  let (whole, rest) := plainDigits 10 cs
  let (fraction, rest) : Option (List Char) × List Char := match rest with
    | '.' :: rest =>
        let (ds, rest) := plainDigits 10 rest
        (some ds, rest)
    | rest => (none, rest)
  let (power, rest) ← exponent? rest
  let n := natOfDigits 10 (whole ++ fraction.getD [])
  let x := Binary64.ofDecimal false n (power.getD 0 - (fraction.getD []).length)
  match rest with
  | 'j' :: rest => return (.complex (.zero false) x, rest)
  | 'J' :: rest => return (.complex (.zero false) x, rest)
  | rest =>
      if fraction.isNone && power.isNone then return (← wholeNumber? whole, rest)
      else return (.float x, rest)

def inBase? (base : Nat) (cs : List Char) : Option (Value × List Char) :=
  match digits base cs with
  | ([], _) => none
  | (ds, rest) => some (.int (natOfDigits base ds), rest)

def wordsBehindNumbers : List String := ["and", "else", "for", "if", "in", "is", "not", "or"]

def number? (cs : List Char) : Option (Value × List Char) := do
  let (v, rest) ← match cs with
    | '0' :: 'x' :: cs => inBase? 16 cs
    | '0' :: 'X' :: cs => inBase? 16 cs
    | '0' :: 'o' :: cs => inBase? 8 cs
    | '0' :: 'O' :: cs => inBase? 8 cs
    | '0' :: 'b' :: cs => inBase? 2 cs
    | '0' :: 'B' :: cs => inBase? 2 cs
    | cs => decimal? cs
  if rest.head?.any isWordChar && !wordsBehindNumbers.any (·.toList.isPrefixOf rest) then none else return (v, rest)

end Monotype.Literal
