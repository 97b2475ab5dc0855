import Monotype.Value.Basic

namespace Monotype.Literal

inductive Term where
  | value (v : Value)
  | signed (v : Value)
  | sum (negative : Bool) (real imaginary : Value)
  | list (ts : List Term)
  | tuple (ts : List Term)
  | set (ts : List Term)
  | dict (es : List (Term × Term))
  | name (s : List Char)
  | starred (t : Term)
  | access (depth : Nat)
  | other (depth : Nat)
  deriving Inhabited

namespace Term

mutual

def depth : Term → Nat
  | list ts => depths ts + 1
  | tuple ts => depths ts + 1
  | set ts => depths ts + 1
  | dict es => entryDepths es + 1
  | signed _ => 2
  | sum _ _ _ => 3
  | starred t => t.depth + 1
  | access n => n
  | other n => n
  | _ => 1

def depths : List Term → Nat
  | [] => 0
  | t :: ts => max t.depth (depths ts)

def entryDepths : List (Term × Term) → Nat
  | [] => 0
  | (k, t) :: es => max (max k.depth t.depth) (entryDepths es)

end

def above (ts : List Term) : Term := other (depths ts + 1)

def isStarred : Term → Bool
  | starred _ => true
  | _ => false

mutual

/-- Whether a name can be bound by an expression: names, parts of things, and lists of such. -/
def isTarget : Term → Bool
  | name _ => true
  | access _ => true
  | list ts => areTargets ts
  | tuple ts => areTargets ts
  | _ => false

def areTargets : List Term → Bool
  | [] => true
  | starred t :: ts => t.isTarget && areTargets ts
  | t :: ts => t.isTarget && areTargets ts

end

def number? : Term → Option Value
  | value (.int n) => some (.int n)
  | value (.float x) => some (.float x)
  | value (.complex re im) => some (.complex re im)
  | _ => none

def signedNumber? : Term → Option Value
  | signed v => some v
  | t => t.number?

def negate : Value → Value
  | .int n => .int (-n)
  | .float x => .float x.negate
  | .complex re im => .complex re.negate im.negate
  | v => v

def sign (negative : Bool) (t : Term) : Term :=
  match t.number? with
  | some v => signed (if negative then negate v else v)
  | none => above [t]

def add (negative : Bool) (l r : Term) : Term :=
  match l.signedNumber?, r.number? with
  | some (.complex _ _), _ => above [l, r]
  | some re, some (.complex re' im) => sum negative re (.complex re' im)
  | _, _ => above [l, r]

/-- The spellings of a letter that identifiers take for the letter itself. -/
def spellings (c : Char) : List Nat :=
  match c with
  | 's' => [0x17F, 0x2E2, 0x209B, 0xFF53, 0x1D42C, 0x1D460, 0x1D494, 0x1D4C8, 0x1D4FC, 0x1D530, 0x1D564, 0x1D598,
      0x1D5CC, 0x1D600, 0x1D634, 0x1D668, 0x1D69C]
  | 'e' => [0x1D49, 0x2091, 0x212F, 0x2147, 0xFF45, 0x1D41E, 0x1D452, 0x1D486, 0x1D4EE, 0x1D522, 0x1D556, 0x1D58A,
      0x1D5BE, 0x1D5F2, 0x1D626, 0x1D65A, 0x1D68E]
  | 't' => [0x1D57, 0x209C, 0xFF54, 0x1D42D, 0x1D461, 0x1D495, 0x1D4C9, 0x1D4FD, 0x1D531, 0x1D565, 0x1D599, 0x1D5CD,
      0x1D601, 0x1D635, 0x1D669, 0x1D69D]
  | _ => []

def spells (c d : Char) : Bool := c == d || (spellings c).contains d.toNat

def isSetName : Term → Bool
  | name [s, e, t] => spells 's' s && spells 'e' e && spells 't' t
  | _ => false

def call (f : Term) (arguments : List Term) : Term :=
  if f.isSetName && arguments.isEmpty then set [] else above (f :: arguments)

end Term

inductive Error where
  | malformed
  | unhashable (kind : String)
  | tooLarge
  | tooDeep
  deriving DecidableEq

def Error.message : Error → String
  | malformed => "malformed node or string"
  | unhashable kind => "unhashable type: '" ++ kind ++ "'"
  | tooLarge => "int too large to convert to float"
  | tooDeep => "maximum recursion depth exceeded during ast construction"

namespace Term

def real : Value → Except Error Binary64
  | .int n =>
      let x := Binary64.ofInt n
      if x.isFinite then .ok x else .error .tooLarge
  | .float x => .ok x
  | _ => .error .malformed

/-- Add an imaginary number `im` to `re`, or take it away. Zeros keep the signs of floating arithmetic. -/
def complexSum (negative : Bool) (re im : Binary64) : Value :=
  if negative then .complex re (if im.isZero then .zero false else im.negate)
  else .complex (if re.isZero then .zero false else re) im

def checkKey (v : Value) : Except Error Unit :=
  match v.unhashable? with
  | some kind => .error (.unhashable kind)
  | none => .ok ()

mutual

/-- Evaluate from left to right; the first fault is reported. -/
def eval : Term → Except Error Value
  | value v => .ok v
  | signed v => .ok v
  | sum negative re (.complex _ im) => do return complexSum negative (← real re) im
  | list ts => do return .list (← evalAll ts)
  | tuple ts => do return .tuple (← evalAll ts)
  | set ts => do return .set (← evalSet [] ts)
  | dict es => do return .dict (← evalEntries [] es)
  | _ => .error .malformed

def evalAll : List Term → Except Error (List Value)
  | [] => .ok []
  | t :: ts => do
      let v ← eval t
      let vs ← evalAll ts
      return v :: vs

def evalSet (acc : List Value) : List Term → Except Error (List Value)
  | [] => .ok acc
  | t :: ts => do
      let v ← eval t
      checkKey v
      evalSet (if acc.contains v then acc else acc ++ [v]) ts

def evalEntries (acc : List (Value × Value)) : List (Term × Term) → Except Error (List (Value × Value))
  | [] => .ok acc
  | (k, t) :: es => do
      let key ← eval k
      let v ← eval t
      checkKey key
      evalEntries (Entries.put acc key v) es

end

end Term

end Monotype.Literal
