import Monotype.Number.Binary64
import Monotype.Text.Blank
import Monotype.Text.Digit
import Monotype.Text.Quoted

namespace Monotype.Number

def digitValue (c : Char) : Nat :=
  if c.isDigit then c.toNat - '0'.toNat
  else if 'a' ≤ c ∧ c ≤ 'z' then c.toNat - 'a'.toNat + 10
  else if 'A' ≤ c ∧ c ≤ 'Z' then c.toNat - 'A'.toNat + 10
  else 36

def isDigitOf (base : Nat) (c : Char) : Bool := decide (digitValue c < base)

def natOfDigits (base : Nat) (ds : List Char) : Nat := ds.foldl (fun n c => base * n + digitValue c) 0

def maxDigits : Nat := 4300

def isTooLong (n : Int) : Bool := decide (Nat.pow 10 maxDigits ≤ n.natAbs)

inductive Fault where
  | digits (base : Nat) (text : String)
  | length (count : Nat)
  | decimal (text : String)
  deriving DecidableEq

def quoteLength : Nat := 200

def Fault.message : Fault → String
  | digits base text =>
      "invalid literal for int() with base " ++ toString base ++ ": " ++
        String.ofList ((Text.quotedChars text.toList).take quoteLength)
  | length count =>
      "Exceeds the limit (" ++ toString maxDigits ++ " digits) for integer string conversion: value has " ++
        toString count ++ " digits; use sys.set_int_max_str_digits() to increase the limit"
  | decimal text => "could not convert string to float: " ++ Text.quoted text

/-- A blank in front of a number or behind it; ASCII has six of them. -/
def isMargin (c : Char) : Bool :=
  c == ' ' || (decide (9 ≤ c.toNat) && decide (c.toNat ≤ 13)) || (decide (127 ≤ c.toNat) && Text.isBlank c)

/-- The ASCII digit of the same value, for a decimal digit of any script. -/
def asciiDigit (c : Char) : Char :=
  match Text.digitRanges.find? fun r => decide (r.1 ≤ c.toNat) && decide (c.toNat ≤ r.2) with
  | some r => Char.ofNat ('0'.toNat + (c.toNat - r.1) % 10)
  | none => c

def core (cs : List Char) : List Char :=
  ((cs.dropWhile isMargin).reverse.dropWhile isMargin).reverse.map asciiDigit

def splitSign (cs : List Char) : Bool × List Char :=
  match cs with
  | '-' :: cs => (true, cs)
  | '+' :: cs => (false, cs)
  | cs => (false, cs)

def dropMark (base : Nat) (cs : List Char) : List Char :=
  match cs with
  | '0' :: m :: rest =>
      if (base = 2 ∧ m.toLower = 'b') ∨ (base = 8 ∧ m.toLower = 'o') ∨ (base = 16 ∧ m.toLower = 'x') then rest else cs
  | cs => cs

def readInt (base : Nat) (cs : List Char) : Except Fault Int :=
  let (negative, body) := splitSign (core cs)
  let body := dropMark base body
  let ds := body.takeWhile (isDigitOf base)
  if base = 10 ∧ maxDigits < ds.length then .error (.length ds.length)
  else if ds.isEmpty ∨ ds.length ≠ body.length then .error (.digits base (String.ofList cs))
  else
    let n := Int.ofNat (natOfDigits base ds)
    .ok (if negative then -n else n)

def power? (cs : List Char) : Option Int :=
  match cs with
  | [] => some 0
  | e :: rest =>
      let (negative, ds) := splitSign rest
      if e.toLower = 'e' ∧ ¬ds.isEmpty ∧ ds.all Char.isDigit then
        let n := Int.ofNat (natOfDigits 10 ds)
        some (if negative then -n else n)
      else none

def unsignedFloat? (negative : Bool) (cs : List Char) : Option Binary64 :=
  let word := cs.map Char.toLower
  if word = "inf".toList ∨ word = "infinity".toList then some (.infinite negative)
  else if word = "nan".toList then some .nan
  else
    let whole := cs.takeWhile Char.isDigit
    let rest := cs.dropWhile Char.isDigit
    let (fraction, rest) := match rest with
      | '.' :: rest => (rest.takeWhile Char.isDigit, rest.dropWhile Char.isDigit)
      | rest => ([], rest)
    if whole.isEmpty && fraction.isEmpty then none
    else
      (power? rest).map fun e =>
        Binary64.ofDecimal negative (natOfDigits 10 (whole ++ fraction)) (e - Int.ofNat fraction.length)

def readFloat (cs : List Char) : Except Fault Binary64 :=
  let (negative, body) := splitSign (core cs)
  match unsignedFloat? negative body with
  | some x => .ok x
  | none => .error (.decimal (String.ofList cs))

end Monotype.Number
