import Monotype.Ty.Basic

namespace Monotype

inductive StoreError where
  | unallocated (id : Int)
  | cyclic
  deriving DecidableEq

def StoreError.message : StoreError → String
  | unallocated id => "type variable " ++ Ty.varName id ++ " was never allocated"
  | cyclic => "a type variable is bound through itself"

/-- One slot per allocated variable. A variable is unbound as long as its slot holds the variable itself. -/
structure Store where
  slots : Array Ty := #[]
  deriving DecidableEq

namespace Store

def size (s : Store) : Nat := s.slots.size

def nextId (s : Store) : Int := s.slots.size

def fresh (s : Store) : Store := ⟨s.slots.push (.var s.nextId)⟩

def slot? (s : Store) (id : Int) : Option Ty :=
  if id < 0 then none else s.slots[id.toNat]?

def slot (s : Store) (id : Int) : Except StoreError Ty :=
  match s.slot? id with
  | some t => .ok t
  | none => .error (.unallocated id)

def isBound (s : Store) (id : Int) : Except StoreError Bool :=
  (s.slot id).map (· ≠ .var id)

/-- Overwrite a slot, whatever it holds. -/
def bind (s : Store) (id : Int) (t : Ty) : Except StoreError Store :=
  (s.slot id).map fun _ => ⟨s.slots.setIfInBounds id.toNat t⟩

def render (s : Store) : String :=
  let entries := s.slots.toList.zipIdx.map fun (t, i) => Ty.varName i ++ "=" ++ t.render
  "SubstitutionStore([" ++ ", ".intercalate entries ++ "])"

end Store

end Monotype
