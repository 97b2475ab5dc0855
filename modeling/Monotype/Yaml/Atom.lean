import Monotype.Text.Lower
import Monotype.Text.Split
import Monotype.Yaml.Error
import Monotype.Yaml.Tag

namespace Monotype.Yaml.Atom

def lift {α : Type} (r : Except Number.Fault α) : Except Error α := r.mapError fun f => .fault (.number f)

def withoutMarks (cs : List Char) : List Char := cs.filter (· ≠ '_')

/-- A whole number in base two, eight, ten or sixteen, or with colons in base sixty. -/
def intOf (s : String) : Except Error Value := do
  let (negative, cs) := Number.splitSign (withoutMarks s.toList)
  let n : Int ← match cs with
    | [] => throw (.fault .noDigits)
    | ['0'] => pure 0
    | '0' :: 'b' :: ds => lift (Number.readInt 2 ds)
    | '0' :: 'x' :: ds => lift (Number.readInt 16 ds)
    | '0' :: ds => lift (Number.readInt 8 ('0' :: ds))
    | cs => do
        let parts ← (Text.splitOn ':' cs).mapM fun part => lift (Number.readInt 10 part)
        pure (parts.foldl (fun n d => 60 * n + d) 0)
  return .int (if negative then -n else n)

def sexagesimalSum (power : Nat) (sum : Binary64) : List Binary64 → Except Error Binary64
  | [] => .ok sum
  | x :: xs =>
      if (Binary64.ofInt (Int.ofNat power)).isFinite then
        sexagesimalSum (60 * power) (sum.add (x.mulNat power)) xs
      else .error (.fault .sumTooLarge)

def floatBody (s : String) : Bool × List Char :=
  Number.splitSign (Text.lowerChars false (withoutMarks s.toList))

/-- A floating number, or with colons a sum of multiples of powers of sixty. -/
def floatOf (s : String) : Except Error Value := do
  if (withoutMarks s.toList).isEmpty then throw (.fault .noDigits)
  let (negative, cs) := floatBody s
  let x : Binary64 ←
    if cs = ".inf".toList then pure (.infinite false)
    else if cs = ".nan".toList then pure .nan
    else if cs.contains ':' then do
      let parts ← (Text.splitOn ':' cs).mapM fun part => lift (Number.readFloat part)
      sexagesimalSum 1 (.zero false) parts.reverse
    else lift (Number.readFloat cs)
  return .float (if negative then x.negate else x)

def isDotNan (s : String) : Bool := (floatBody s).2 == ".nan".toList

def boolOf (s : String) : Except Error Value :=
  let word := Text.lower s
  if word ∈ ["yes", "true", "on"] then .ok (.bool true)
  else if word ∈ ["no", "false", "off"] then .ok (.bool false)
  else .error (.fault (.word word))

def daysIn (year month : Nat) : Nat :=
  if month = 2 then
    if year % 4 = 0 ∧ (year % 100 ≠ 0 ∨ year % 400 = 0) then 29 else 28
  else if month ∈ [4, 6, 9, 11] then 30
  else 31

def checkDate (d : DateParts) : Except Error Unit :=
  if d.year = 0 then .error (.fault .year)
  else if d.month = 0 ∨ 12 < d.month then .error (.fault .month)
  else if d.day = 0 ∨ daysIn d.year d.month < d.day then .error (.fault .day)
  else .ok ()

def checkTime (t : TimeParts) : Except Error Unit :=
  if 23 < t.hour then .error (.fault .hour)
  else if 59 < t.minute then .error (.fault .minute)
  else if 59 < t.second then .error (.fault .second)
  else .ok ()

def offsetOf (zone : Option (Bool × Nat × Nat)) : Except Error Int :=
  match zone with
  | none => .ok 0
  | some (negative, hours, minutes) =>
      let n : Int := 3600 * hours + 60 * minutes
      let seconds := if negative then -n else n
      if n < 86400 then .ok seconds else .error (.fault (.offset seconds))

def timestampOf (s : String) : Except Error Value :=
  match Tag.date? (Tag.dropLineFeed s.toList) with
  | none => .error (.fault .noDate)
  | some d =>
      match d.time with
      | none => do
          checkDate d
          return .date d.year d.month d.day
      | some t => do
          let offset ← t.zone.mapM offsetOf
          checkDate d
          checkTime t
          let digits := t.fraction.take 6
          let microsecond := Number.natOfDigits 10 (digits ++ List.replicate (6 - digits.length) '0')
          return .moment { year := d.year, month := d.month, day := d.day, hour := t.hour, minute := t.minute,
                           second := t.second, microsecond, offset }

def base64Digit? (c : Char) : Option Nat :=
  if 'A' ≤ c ∧ c ≤ 'Z' then some (c.toNat - 'A'.toNat)
  else if 'a' ≤ c ∧ c ≤ 'z' then some (c.toNat - 'a'.toNat + 26)
  else if c.isDigit then some (c.toNat - '0'.toNat + 52)
  else if c = '+' then some 62
  else if c = '/' then some 63
  else none

/-- Bytes in base sixty-four. `seen` digits of a group of four are read, and the bits of `rest` are left of them;
`pads` equals signs stand behind them. Equals signs that complete a group end the text, and other characters are
passed over. -/
def base64Bytes? (seen rest pads : Nat) : List Char → Option (List UInt8)
  | [] => if seen = 0 then some [] else none
  | c :: cs =>
      if c = '=' then
        if seen < 2 then base64Bytes? seen rest pads cs
        else if 4 ≤ seen + pads + 1 then some []
        else base64Bytes? seen rest (pads + 1) cs
      else
        match base64Digit? c with
        | none => base64Bytes? seen rest pads cs
        | some d =>
            match seen with
            | 0 => base64Bytes? 1 d 0 cs
            | 1 => (base64Bytes? 2 (d % 16) 0 cs).map (UInt8.ofNat (rest * 4 + d / 16) :: ·)
            | 2 => (base64Bytes? 3 (d % 4) 0 cs).map (UInt8.ofNat (rest * 16 + d / 4) :: ·)
            | _ => (base64Bytes? 0 0 0 cs).map (UInt8.ofNat (rest * 64 + d) :: ·)

def binaryOf (s : String) : Except Error Value :=
  let cs := s.toList
  if !cs.all (·.toNat < 128) then malformed
  else
    match base64Bytes? 0 0 0 cs with
    | some bs => .ok (.bytes bs)
    | none => malformed

def value (t : Tag) (s : String) : Except Error Value :=
  match t with
  | .null => .ok .null
  | .bool => boolOf s
  | .int => intOf s
  | .float => floatOf s
  | .binary => binaryOf s
  | .timestamp => timestampOf s
  | .str => .ok (.text s)
  | _ => malformed

end Monotype.Yaml.Atom
