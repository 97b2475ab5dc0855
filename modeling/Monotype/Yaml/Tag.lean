import Monotype.Number.Reader

namespace Monotype.Yaml

inductive Tag where
  | null
  | bool
  | int
  | float
  | binary
  | timestamp
  | omap
  | pairs
  | set
  | str
  | seq
  | map
  | merge
  | value
  | unknown
  deriving DecidableEq, Inhabited

namespace Tag

def core : String := "tag:yaml.org,2002:"

def ofText (s : String) : Tag :=
  let known : List (String × Tag) :=
    [("null", null), ("bool", bool), ("int", int), ("float", float), ("binary", binary), ("timestamp", timestamp),
     ("omap", omap), ("pairs", pairs), ("set", set), ("str", str), ("seq", seq), ("map", map), ("merge", merge),
     ("value", value)]
  ((known.find? fun (name, _) => core ++ name == s).map (·.2)).getD unknown

def isDigitOrMark (c : Char) : Bool := c.isDigit || c == '_'

def isDigitOfOrMark (base : Nat) (c : Char) : Bool := Number.isDigitOf base c || c == '_'

def unsigned (cs : List Char) : List Char :=
  match cs with
  | '-' :: cs => cs
  | '+' :: cs => cs
  | cs => cs

def isBool (s : String) : Bool :=
  s ∈ ["yes", "Yes", "YES", "no", "No", "NO", "true", "True", "TRUE", "false", "False", "FALSE", "on", "On", "ON",
    "off", "Off", "OFF"]

def isNull (s : String) : Bool := s ∈ ["", "~", "null", "Null", "NULL"]

/-- The text behind one or more groups of a colon and a number below sixty, each group as long as it can be. -/
def sexagesimal? : List Char → Option (List Char)
  | ':' :: a :: b :: cs =>
      if a.isDigit && b.isDigit then
        if a ≤ '5' then some ((sexagesimal? cs).getD cs) else none
      else if a.isDigit then some ((sexagesimal? (b :: cs)).getD (b :: cs))
      else none
  | [':', a] => if a.isDigit then some [] else none
  | _ => none

def isInt (cs : List Char) : Bool :=
  let cs := unsigned cs
  match cs with
  | '0' :: 'b' :: ds => !ds.isEmpty && ds.all (isDigitOfOrMark 2)
  | '0' :: 'x' :: ds => !ds.isEmpty && ds.all (isDigitOfOrMark 16)
  | ['0'] => true
  | '0' :: ds => ds.all (isDigitOfOrMark 8)
  | d :: ds =>
      if d.isDigit then
        match ds.dropWhile isDigitOrMark with
        | [] => true
        | rest => sexagesimal? rest == some []
      else false
  | [] => false

def isExponent (cs : List Char) : Bool :=
  match cs with
  | [] => true
  | e :: s :: ds => (e == 'e' || e == 'E') && (s == '-' || s == '+') && !ds.isEmpty && ds.all Char.isDigit
  | _ => false

def isFloat (cs : List Char) : Bool :=
  let special := ["inf", "Inf", "INF"].map String.toList
  let numeric := match unsigned cs with
    | d :: ds =>
        if d.isDigit then
          match ds.dropWhile isDigitOrMark with
          | '.' :: rest => isExponent (rest.dropWhile isDigitOrMark)
          | rest =>
              match sexagesimal? rest with
              | some ('.' :: rest) => rest.all isDigitOrMark
              | _ => false
        else d == '.' && special.contains ds
    | [] => false
  let unsignedOnly := match cs with
    | '.' :: d :: ds =>
        (d.isDigit && isExponent (ds.dropWhile isDigitOrMark)) ||
          (["nan", "NaN", "NAN"].map String.toList).contains (d :: ds)
    | _ => false
  numeric || unsignedOnly

def smallNumber? (two : Bool) : List Char → Option (Nat × List Char)
  | a :: b :: cs =>
      if a.isDigit && b.isDigit then some (Number.natOfDigits 10 [a, b], cs)
      else if a.isDigit && !two then some (Number.natOfDigits 10 [a], b :: cs)
      else none
  | [a] => if a.isDigit && !two then some (Number.natOfDigits 10 [a], []) else none
  | [] => none

def after? (x : Char) : List Char → Option (List Char)
  | c :: cs => if c = x then some cs else none
  | [] => none

def isBlankOrTab (c : Char) : Bool := c == ' ' || c == '\t'

end Tag

structure TimeParts where
  hour : Nat
  minute : Nat
  second : Nat
  fraction : List Char
  zone : Option (Option (Bool × Nat × Nat))

structure DateParts where
  year : Nat
  month : Nat
  day : Nat
  time : Option TimeParts

namespace Tag

def zone? (cs : List Char) : Option (Option (Option (Bool × Nat × Nat))) :=
  match cs.dropWhile isBlankOrTab with
  | [] => if cs.isEmpty then some none else none
  | ['Z'] => some (some none)
  | s :: rest =>
      if s = '-' ∨ s = '+' then do
        let (hours, rest) ← smallNumber? false rest
        match rest with
        | [] => return some (some (s == '-', hours, 0))
        | rest =>
            let (minutes, rest) ← smallNumber? true (← after? ':' rest)
            if rest.isEmpty then return some (some (s == '-', hours, minutes)) else none
      else none

def time? (cs : List Char) : Option TimeParts := do
  let cs ← match cs with
    | 'T' :: cs => some cs
    | 't' :: cs => some cs
    | c :: cs => if isBlankOrTab c then some (cs.dropWhile isBlankOrTab) else none
    | [] => none
  let (hour, cs) ← smallNumber? false cs
  let (minute, cs) ← smallNumber? true (← after? ':' cs)
  let (second, cs) ← smallNumber? true (← after? ':' cs)
  let (fraction, cs) := match cs with
    | '.' :: cs => (cs.takeWhile Char.isDigit, cs.dropWhile Char.isDigit)
    | cs => ([], cs)
  return { hour, minute, second, fraction, zone := ← zone? cs }

def date? (cs : List Char) : Option DateParts := do
  let digits := cs.take 4
  if digits.length ≠ 4 ∨ ¬digits.all Char.isDigit then none
  let year := Number.natOfDigits 10 digits
  let (month, rest) ← smallNumber? false (← after? '-' (cs.drop 4))
  let (day, rest) ← smallNumber? false (← after? '-' rest)
  match rest with
  | [] => return { year, month, day, time := none }
  | rest => return { year, month, day, time := some (← time? rest) }

/-- A date alone is written in full. -/
def isTimestamp (cs : List Char) : Bool := (date? cs).any fun d => d.time.isSome || cs.length == 10

def dropLineFeed (cs : List Char) : List Char := if cs.getLast? = some '\n' then cs.dropLast else cs

/-- The tag that a spelling asks for. A line feed at the end of a text does not count, unless it is all of it. -/
def ofPlain (s : String) : Tag :=
  let cs := dropLineFeed s.toList
  let word := String.ofList cs
  if s = "\n" then str
  else if isBool word then bool
  else if isFloat cs then float
  else if isInt cs then int
  else if word = "<<" then merge
  else if isNull word then null
  else if isTimestamp cs then timestamp
  else if word = "=" then value
  else if word = "!" ∨ word = "&" ∨ word = "*" then unknown
  else str

end Tag

end Monotype.Yaml
