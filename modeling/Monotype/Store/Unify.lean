import Monotype.Store.Resolve
import Monotype.Trace

namespace Monotype

/-- Why two types do not unify. The types in a mismatch are the resolved arguments of its two constructors. -/
inductive UnifyError where
  | mismatch (expected : String) (expectedArgs : List Ty) (found : String) (foundArgs : List Ty)
  | infinite (id : Int) (t : Ty)
  | store (e : StoreError)
  deriving DecidableEq

namespace UnifyError

def mismatchReason (f g : String) : String := if f = g then "arity" else "constructor"

def mismatchDetail (f : String) (as : List Ty) (g : String) (bs : List Ty) : String :=
  if f = g then f ++ " applied to " ++ toString as.length ++ " argument(s) does not match " ++ toString bs.length
  else "constructor " ++ f ++ " does not match " ++ g

def message : UnifyError → String
  | mismatch f as g bs =>
      "Type mismatch: expected " ++ (Ty.con f as).render ++ " but found " ++ (Ty.con g bs).render ++ " (" ++
        mismatchDetail f as g bs ++ ")"
  | infinite id t => "Infinite type: " ++ Ty.varName id ++ " occurs in " ++ t.render
  | store e => e.message

end UnifyError

/-- A store under unification, with the number of comparisons made and the events told. A failed run leaves
its store, count and trace behind. -/
structure Unifier where
  store : Store := {}
  steps : Nat := 0
  trace : Trace := #[]
  deriving DecidableEq

abbrev UnifyM := EStateM UnifyError Unifier

namespace Unifier

def ask {α : Type} (f : Store → Except StoreError α) : UnifyM α := fun u =>
  match f u.store with
  | .ok a => .ok a u
  | .error e => .error (.store e) u

def tell (e : Event) : UnifyM Unit := modify fun u => { u with trace := u.trace.push e }

def tick : UnifyM Unit := modify fun u => { u with steps := u.steps + 1 }

def bind (id : Int) (t : Ty) : UnifyM Unit := do
  tell (.bound id t)
  let store ← ask (·.bind id t)
  modify fun u => { u with store }

def mismatch (f : String) (as : List Ty) (g : String) (bs : List Ty) : UnifyM Unit := do
  let expected ← ask fun s => Ty.substituteArgsM (s.resolveWithin s.size) as
  let found ← ask fun s => Ty.substituteArgsM (s.resolveWithin s.size) bs
  throw (.mismatch f expected g found)

section

variable (next : Ty → Ty → UnifyM Unit)

def unifyVar (id : Int) (other : Ty) : UnifyM Unit := do
  let t ← ask (·.slot id)
  if t ≠ .var id then next t other
  else
    let h ← ask (·.head other)
    if h = .var id then return
    if ← ask (·.occurs id other) then
      tell (.occursCheckFailed id other)
      throw (.infinite id (← ask (·.substitute other)))
    bind id other

mutual

def unifyStep : Ty → Ty → UnifyM Unit
  | .var i, r => do
      tick
      if r = .var i then return
      unifyVar next i r
  | .con f as, .var j => do
      tick
      unifyVar next j (.con f as)
  | .con f as, .con g bs => do
      tick
      if f = g ∧ as.length = bs.length then unifyStepArgs as bs else mismatch f as g bs

def unifyStepArgs : List Ty → List Ty → UnifyM Unit
  | a :: as, b :: bs => do
      unifyStep a b
      unifyStepArgs as bs
  | _, _ => return

end

end

def unifyWithin : Nat → Ty → Ty → UnifyM Unit
  | 0 => unifyStep fun _ _ => throw (.store .cyclic)
  | hops + 1 => unifyStep (unifyWithin hops)

/-- Make two types equal by binding variables. Each side of a path passes a bound variable at most once,
unless the store has a cycle. -/
def unify (left right : Ty) : UnifyM Unit := do
  let u ← get
  unifyWithin (2 * u.store.size) left right

def solve (e : Equation) : UnifyM Unit := unify e.left e.right

end Unifier

end Monotype
