import Monotype.Value.Basic

namespace Monotype

inductive OrderError where
  | kinds (left right : String)
  | dates
  | offsets
  deriving DecidableEq

def OrderError.message : OrderError → String
  | kinds left right => "'<' not supported between instances of '" ++ left ++ "' and '" ++ right ++ "'"
  | dates => "can't compare datetime.datetime to datetime.date"
  | offsets => "can't compare offset-naive and offset-aware datetimes"

namespace Value

def fullKind : Value → String
  | date _ _ _ => "datetime.date"
  | moment _ => "datetime.datetime"
  | knot _ v => v.fullKind
  | v => v.kind

/-- A real number as far as its order goes: a fraction, something beyond all fractions, or nothing. -/
inductive Magnitude where
  | nothing
  | beyond (negative : Bool)
  | fraction (n : Int) (d : Nat)

def Magnitude.less : Magnitude → Magnitude → Bool
  | fraction n d, fraction n' d' => decide (n * Int.ofNat d' < n' * Int.ofNat d)
  | beyond s, fraction _ _ => s
  | fraction _ _, beyond s => !s
  | beyond s, beyond t => s && !t
  | _, _ => false

def magnitude? : Value → Option Magnitude
  | bool b => some (.fraction (if b then 1 else 0) 1)
  | int n => some (.fraction n 1)
  | float (.finite s m e) =>
      let (a, b) := Binary64.scale m 1 e
      some (.fraction (if s then -Int.ofNat a else Int.ofNat a) b)
  | float (.infinite s) => some (.beyond s)
  | float .nan => some .nothing
  | _ => none

def codePoints? : Value → Option (List Nat)
  | text s => some (s.toList.map Char.toNat)
  | codes ns => some ns
  | _ => none

def lexLess : List Nat → List Nat → Bool
  | [], [] => false
  | [], _ :: _ => true
  | _ :: _, [] => false
  | x :: xs, y :: ys => if x = y then lexLess xs ys else decide (x < y)

def momentLess (m n : Moment) : Except OrderError Bool :=
  let before (a b : Int) := decide (a < b) || (a == b && decide (m.microsecond < n.microsecond))
  match m.offset, n.offset with
  | some a, some b => .ok (before (Int.ofNat m.clock - a) (Int.ofNat n.clock - b))
  | none, none => .ok (before (Int.ofNat m.clock) (Int.ofNat n.clock))
  | _, _ => .error .offsets

mutual

def less : Value → Value → Except OrderError Bool
  | bytes s, bytes t => .ok (lexLess (s.map UInt8.toNat) (t.map UInt8.toNat))
  | date y m d, date y' m' d' => .ok (lexLess [y, m, d] [y', m', d'])
  | date _ _ _, moment _ => .error .dates
  | moment _, date _ _ _ => .error .dates
  | moment m, moment n => momentLess m n
  | list xs, list ys => lessAll xs ys
  | tuple xs, tuple ys => lessAll xs ys
  | set xs, set ys => .ok (xs.all (ys.contains ·) && decide (xs.length < ys.length))
  | v, w =>
      match v.magnitude?, w.magnitude?, v.codePoints?, w.codePoints? with
      | some x, some y, _, _ => .ok (x.less y)
      | _, _, some ms, some ns => .ok (lexLess ms ns)
      | _, _, _, _ => .error (.kinds v.fullKind w.fullKind)

def lessAll : List Value → List Value → Except OrderError Bool
  | [], [] => .ok false
  | [], _ :: _ => .ok true
  | _ :: _, [] => .ok false
  | x :: xs, y :: ys => if x == y then lessAll xs ys else less x y

end

end Value

namespace Sorting

variable {α ε : Type} (less : α → α → Except ε Bool)

def fallingRun (run : List α) (last : α) : List α → Except ε (List α × List α)
  | [] => .ok (run, [])
  | x :: xs => do
      if ← less x last then fallingRun (x :: run) x xs else return (run, x :: xs)

def risingRun (run : List α) (last : α) : List α → Except ε (List α × List α)
  | [] => .ok (run.reverse, [])
  | x :: xs => do
      if ← less x last then return (run.reverse, x :: xs) else risingRun (x :: run) x xs

def place (sorted : Array α) (x : α) (fuel low high : Nat) : Except ε Nat :=
  match fuel with
  | 0 => .ok low
  | fuel + 1 =>
      if low < high then
        let middle := low + (high - low) / 2
        match sorted[middle]? with
        | none => .ok low
        | some y => do
            if ← less x y then place sorted x fuel low middle else place sorted x fuel (middle + 1) high
      else .ok low

def insertAll (sorted : List α) : List α → Except ε (List α)
  | [] => .ok sorted
  | x :: xs => do
      let i ← place less sorted.toArray x (sorted.length + 1) 0 sorted.length
      insertAll (sorted.take i ++ x :: sorted.drop i) xs

/-- Sort a list: the run in front is kept, and the others are put into it one by one. Equal elements keep their
order, and the first comparison that fails is told. -/
def sort : List α → Except ε (List α)
  | [] => .ok []
  | [x] => .ok [x]
  | x :: y :: xs => do
      let (run, rest) ←
        if ← less y x then fallingRun less [y, x] y xs else risingRun less [y, x] y xs
      insertAll less run rest

end Sorting

end Monotype
