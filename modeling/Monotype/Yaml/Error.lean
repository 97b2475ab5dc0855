import Monotype.Value.Printer

namespace Monotype.Yaml

inductive Fault where
  | number (f : Number.Fault)
  | noDigits
  | sumTooLarge
  | word (text : String)
  | noDate
  | noText
  | year
  | month
  | day
  | hour
  | minute
  | second
  | offset (seconds : Int)
  | code (n : Nat)
  deriving DecidableEq

def wordLimit : Nat := 0x80000000

def Fault.message : Fault → String
  | number f => f.message
  | noDigits => "string index out of range"
  | sumTooLarge => "int too large to convert to float"
  | word text => Text.quoted text
  | noDate => "'NoneType' object has no attribute 'groupdict'"
  | noText => "expected string or bytes-like object, got 'list'"
  | year => "year 0 is out of range"
  | month => "month must be in 1..12"
  | day => "day is out of range for month"
  | hour => "hour must be in 0..23"
  | minute => "minute must be in 0..59"
  | second => "second must be in 0..59"
  | offset seconds =>
      "offset must be a timedelta strictly between -timedelta(hours=24) and timedelta(hours=24), not " ++
        Value.durationTerm seconds ++ "."
  | code n => if n < wordLimit then "chr() arg not in range(0x110000)" else "Python int too large to convert to C int"

/-- Whether a fault is one of a value, and is reported as such. The others end a run at once. -/
def Fault.isReported : Fault → Bool
  | noDigits | sumTooLarge | word _ | noDate | noText => false
  | code n => decide (n < wordLimit)
  | _ => true

inductive Error where
  | malformed
  | fault (f : Fault)
  | tooDeep
  deriving DecidableEq

def malformed {α : Type} : Except Error α := .error .malformed

end Monotype.Yaml
