import Monotype.Entries
import Monotype.Number.Binary64

namespace Monotype

structure Moment where
  year : Nat
  month : Nat
  day : Nat
  hour : Nat
  minute : Nat
  second : Nat
  microsecond : Nat
  offset : Option Int
  deriving DecidableEq

namespace Moment

def dayNumber (year month day : Nat) : Nat :=
  let y := year - 1
  let leap : Bool := year % 4 == 0 && (year % 100 != 0 || year % 400 == 0)
  let before := [0, 31, 59, 90, 120, 151, 181, 212, 243, 273, 304, 334].getD (month - 1) 0
  365 * y + y / 4 - y / 100 + y / 400 + before + (if leap && decide (2 < month) then 1 else 0) + day

def clock (m : Moment) : Nat := dayNumber m.year m.month m.day * 86400 + m.hour * 3600 + m.minute * 60 + m.second

def same (m n : Moment) : Bool :=
  m.microsecond == n.microsecond &&
    match m.offset, n.offset with
    | some a, some b => Int.ofNat m.clock - a == Int.ofNat n.clock - b
    | none, none => m.clock == n.clock
    | _, _ => false

end Moment

/-- The data of configurations and written literals. Code points that are not all characters are a text of their own
sort. The entries of a dictionary keep the order in which their keys came. A knot is a container that contains itself:
where its number comes again inside of it, the same container is meant, and what is stored there is cut off at some
depth. -/
inductive Value where
  | null
  | bool (b : Bool)
  | int (n : Int)
  | float (x : Binary64)
  | complex (re im : Binary64)
  | text (s : String)
  | codes (ns : List Nat)
  | bytes (bs : List UInt8)
  | ellipsis
  | date (year month day : Nat)
  | moment (m : Moment)
  | list (xs : List Value)
  | tuple (xs : List Value)
  | set (xs : List Value)
  | dict (es : List (Value × Value))
  | knot (label : Nat) (v : Value)
  deriving Inhabited

namespace Value

def ofCodes (ns : List Nat) : Value :=
  if ns.all fun n => decide n.isValidChar then text (String.ofList (ns.map Char.ofNat)) else codes ns

def number? : Value → Option (Value × Binary64)
  | bool b => some (int (if b then 1 else 0), .zero false)
  | int n => some (int n, .zero false)
  | float x => some (float x, .zero false)
  | complex re im => some (float re, im)
  | _ => none

def sameReal : Value → Value → Bool
  | int m, int n => m == n
  | int m, float y => y.toInt? == some m
  | float x, int n => x.toInt? == some n
  | float x, float y => x.same y
  | _, _ => false

mutual

/-- Equality of values, by which keys of dictionaries and elements of sets are told apart: numbers are equal
across their kinds. -/
def same : Value → Value → Bool
  | null, null => true
  | ellipsis, ellipsis => true
  | text s, text t => s == t
  | codes ms, codes ns => ms == ns
  | bytes s, bytes t => s == t
  | date y m d, date y' m' d' => y == y' && m == m' && d == d'
  | moment m, moment m' => m.same m'
  | list xs, list ys => sameAll xs ys
  | tuple xs, tuple ys => sameAll xs ys
  | v, w =>
      match v.number?, w.number? with
      | some (x, y), some (x', y') => sameReal x x' && y.same y'
      | _, _ => false

def sameAll : List Value → List Value → Bool
  | [], [] => true
  | x :: xs, y :: ys => same x y && sameAll xs ys
  | _, _ => false

end

instance : BEq Value := ⟨same⟩

def bare : Value → Value
  | knot _ v => v.bare
  | v => v

def isEmpty : Value → Bool
  | null => true
  | bool b => !b
  | int n => n == 0
  | float x => x.isZero
  | complex re im => re.isZero && im.isZero
  | text s => s.isEmpty
  | bytes bs => bs.isEmpty
  | list xs => xs.isEmpty
  | tuple xs => xs.isEmpty
  | set xs => xs.isEmpty
  | dict es => es.isEmpty
  | knot _ v => v.isEmpty
  | _ => false

def kind : Value → String
  | null => "NoneType"
  | bool _ => "bool"
  | int _ => "int"
  | float _ => "float"
  | complex _ _ => "complex"
  | text _ => "str"
  | codes _ => "str"
  | bytes _ => "bytes"
  | ellipsis => "ellipsis"
  | date _ _ _ => "date"
  | moment _ => "datetime"
  | list _ => "list"
  | tuple _ => "tuple"
  | set _ => "set"
  | dict _ => "dict"
  | knot _ v => v.kind

mutual

/-- The kind of the part that keeps a value from being a key. -/
def unhashable? : Value → Option String
  | list _ => some "list"
  | set _ => some "set"
  | dict _ => some "dict"
  | tuple xs => unhashableIn? xs
  | knot _ v => unhashable? v
  | _ => none

def unhashableIn? : List Value → Option String
  | [] => none
  | x :: xs => (unhashable? x).or (unhashableIn? xs)

end

def entries? (v : Value) : Option (List (Value × Value)) :=
  match v.bare with
  | dict es => some es
  | _ => none

def get? (v : Value) (name : String) : Option Value := v.entries?.bind fun es => Entries.get? es (text name)

end Value

end Monotype
