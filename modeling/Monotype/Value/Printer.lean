import Monotype.Number.Reader
import Monotype.Number.Shortest
import Monotype.Text.Quoted
import Monotype.Value.Basic

namespace Monotype.Value

/-- Floating numbers are positional from a ten-thousandth up to below ten quadrillions, and keep a fraction. -/
def floatFormat : Binary64.Format := ⟨-4, 16, true⟩

def partFormat : Binary64.Format := ⟨-4, 16, false⟩

def signed (s : String) : String := if s.startsWith "-" then s else "+" ++ s

def renderComplex (re im : Binary64) : String :=
  if re = .zero false then im.write partFormat ++ "j"
  else "(" ++ re.write partFormat ++ signed (im.write partFormat) ++ "j)"

def escapeByte (q : Char) (b : UInt8) : List Char :=
  let c := Char.ofNat b.toNat
  if c = q ∨ c = '\\' then ['\\', c]
  else if c = '\n' then ['\\', 'n']
  else if c = '\r' then ['\\', 'r']
  else if c = '\t' then ['\\', 't']
  else if 32 ≤ b.toNat ∧ b.toNat < 127 then [c]
  else '\\' :: 'x' :: Text.hexDigits 2 b.toNat

def renderBytes (bs : List UInt8) : String :=
  let q := Text.quoteFor (bs.map fun b => Char.ofNat b.toNat)
  String.ofList ('b' :: q :: bs.flatMap (escapeByte q) ++ [q])

def padded (width n : Nat) : String :=
  let digits := Nat.toDigits 10 n
  String.ofList (List.replicate (width - digits.length) '0' ++ digits)

def dateText (y m d : Nat) : String := padded 4 y ++ "-" ++ padded 2 m ++ "-" ++ padded 2 d

def offsetText (seconds : Int) : String :=
  let n := seconds.natAbs
  let tail := if n % 60 = 0 then "" else ":" ++ padded 2 (n % 60)
  (if seconds < 0 then "-" else "+") ++ padded 2 (n / 3600) ++ ":" ++ padded 2 (n / 60 % 60) ++ tail

def momentText (m : Moment) : String :=
  dateText m.year m.month m.day ++ " " ++ padded 2 m.hour ++ ":" ++ padded 2 m.minute ++ ":" ++ padded 2 m.second ++
    (if m.microsecond = 0 then "" else "." ++ padded 6 m.microsecond) ++ (m.offset.map offsetText).getD ""

def durationTerm (seconds : Int) : String :=
  let days := seconds.fdiv 86400
  let rest := seconds.fmod 86400
  let parts := (if days = 0 then [] else ["days=" ++ toString days]) ++
    (if rest = 0 then [] else ["seconds=" ++ toString rest])
  "datetime.timedelta(" ++ (if parts.isEmpty then "0" else ", ".intercalate parts) ++ ")"

def zoneTerm (seconds : Int) : String :=
  if seconds = 0 then "datetime.timezone.utc" else "datetime.timezone(" ++ durationTerm seconds ++ ")"

def momentTerm (m : Moment) : String :=
  let seconds := if m.second = 0 ∧ m.microsecond = 0 then [] else [m.second]
  let micros := if m.microsecond = 0 then [] else [m.microsecond]
  let numbers := [m.year, m.month, m.day, m.hour, m.minute] ++ seconds ++ micros
  "datetime.datetime(" ++ ", ".intercalate (numbers.map toString) ++
    (m.offset.map fun o => ", tzinfo=" ++ zoneTerm o).getD "" ++ ")"

def intKey? : Value → Option Int
  | bool b => some (if b then 1 else 0)
  | int n => some n
  | _ => none

/-- The elements of a set are shown with the whole numbers first, in ascending order. -/
def setOrder (a b : Value × String) : Bool :=
  match a.1.intKey?, b.1.intKey? with
  | some m, some n => decide (m ≤ n)
  | some _, none => true
  | none, some _ => false
  | none, none => true

def dots : Value → String
  | list _ => "[...]"
  | tuple _ => "(...)"
  | _ => "\x7b...\x7d"

mutual

/-- The text of a value as a term, with quotes around texts, inside of the knots `outer`. -/
def termIn (outer : List Nat) : Value → String
  | null => "None"
  | bool b => if b then "True" else "False"
  | int n => toString n
  | float x => x.write floatFormat
  | complex re im => renderComplex re im
  | text s => Text.quoted s
  | codes ns => Text.quotedCodes ns
  | bytes bs => renderBytes bs
  | ellipsis => "Ellipsis"
  | date y m d => "datetime.date(" ++ toString y ++ ", " ++ toString m ++ ", " ++ toString d ++ ")"
  | moment m => momentTerm m
  | list xs => "[" ++ ", ".intercalate (termsIn outer xs) ++ "]"
  | tuple xs =>
      match termsIn outer xs with
      | [s] => "(" ++ s ++ ",)"
      | ss => "(" ++ ", ".intercalate ss ++ ")"
  | set xs =>
      match xs with
      | [] => "set()"
      | _ =>
          let shown := (xs.zip (termsIn outer xs)).mergeSort setOrder
          "\x7b" ++ ", ".intercalate (shown.map (·.2)) ++ "\x7d"
  | dict es => "\x7b" ++ ", ".intercalate (entryTermsIn outer es) ++ "\x7d"
  | knot label v => if outer.contains label then dots v.bare else termIn (label :: outer) v

def termsIn (outer : List Nat) : List Value → List String
  | [] => []
  | x :: xs => termIn outer x :: termsIn outer xs

def entryTermsIn (outer : List Nat) : List (Value × Value) → List String
  | [] => []
  | (k, v) :: es => (termIn outer k ++ ": " ++ termIn outer v) :: entryTermsIn outer es

end

def term (v : Value) : String := v.termIn []

def render : Value → String
  | text s => s
  | codes ns => String.ofList (ns.flatMap fun n => if n.isValidChar then [Char.ofNat n] else Text.escapeCode n)
  | date y m d => dateText y m d
  | moment m => momentText m
  | v => v.term

mutual

def isTooLong : Value → Bool
  | int n => Number.isTooLong n
  | list xs => anyTooLong xs
  | tuple xs => anyTooLong xs
  | set xs => anyTooLong xs
  | dict es => entryTooLong es
  | knot _ v => isTooLong v
  | _ => false

def anyTooLong : List Value → Bool
  | [] => false
  | x :: xs => isTooLong x || anyTooLong xs

def entryTooLong : List (Value × Value) → Bool
  | [] => false
  | (k, v) :: es => isTooLong k || isTooLong v || entryTooLong es

end

def tooLongMessage : String :=
  "Exceeds the limit (" ++ toString Number.maxDigits ++
    " digits) for integer string conversion; use sys.set_int_max_str_digits() to increase the limit"

end Monotype.Value
