import Monotype.Environment.Basic
import Monotype.Store.Unify

namespace Monotype

inductive InferError where
  | unbound (name : String)
  | untyped (value : Constant)
  | scope (e : ScopeError)
  | unify (e : UnifyError)
  deriving DecidableEq

def InferError.message : InferError → String
  | unbound name => "Unbound variable '" ++ name ++ "'"
  | untyped value => "cannot infer a type for " ++ value.kind
  | scope e => e.message
  | unify e => e.message

/-- The state of an inference: equations are gathered first and solved later. -/
structure Session where
  store : Store := {}
  env : Environment := {}
  equations : Array Equation := #[]
  solved : Bool := false
  trace : Trace := #[]
  deriving DecidableEq

abbrev InferM := EStateM InferError Session

namespace Session

def start (base : Scope) : Session := { env := { base } }

def tell (e : Event) : InferM Unit := modify fun s => { s with trace := s.trace.push e }

def fresh : InferM Ty := do
  let id := (← get).store.nextId
  modify fun s => { s with store := s.store.fresh }
  tell (.fresh id)
  return .var id

def constrain (left right : Ty) : InferM Unit := do
  tell (.constraint ⟨left, right⟩)
  modify fun s => { s with equations := s.equations.push ⟨left, right⟩ }

def lookup (name : String) : InferM Ty := do
  match (← get).env.lookup name with
  | some t => return t
  | none =>
      tell (.unbound name)
      throw (.unbound name)

def push : InferM Unit := modify fun s => { s with env := s.env.push }

def extend (name : String) (t : Ty) : InferM Unit := modify fun s => { s with env := s.env.extend name t }

def pop : InferM Unit := fun s =>
  match s.env.pop with
  | .ok env => .ok () { s with env }
  | .error e => .error (.scope e) s

/-- Run an action in a scope of its own, which is closed also when the action fails. -/
def inScope {α : Type} (act : InferM α) : InferM α := do
  push
  fun s =>
    match act s with
    | .ok a s => (do pop; return a : InferM α) s
    | .error e s => (do pop; throw e : InferM α) s

def applyTo (function : Ty) (argument : InferM Ty) : InferM Ty := do
  let t ← argument
  let result ← fresh
  constrain function (.fn t result)
  return result

/-- Infer an expression that is applied to `pending` arguments, the first one first. A row of applications
is walked down to its head before any argument is inferred. -/
def inferPending : Expr → List (InferM Ty) → InferM Ty
  | .app f a, pending => inferPending f (inferPending a [] :: pending)
  | .var x, pending => do pending.foldlM applyTo (← lookup x)
  | .abs x b, pending => do
      let parameter ← fresh
      let result ← inScope do
        extend x parameter
        inferPending b []
      pending.foldlM applyTo (.fn parameter result)
  | .const c, _ => throw (.untyped c)

def infer (e : Expr) : InferM Ty := inferPending e []

/-- Solve all equations in the order in which they came. They are kept if one of them fails. -/
def solve : InferM Unit := do
  let s ← get
  tell (.solving s.equations.size)
  fun s =>
    match s.equations.toList.forM Unifier.solve { store := s.store, trace := s.trace } with
    | .ok _ u =>
        .ok () { s with store := u.store, trace := u.trace.push (.solved u.steps), equations := #[], solved := true }
    | .error e u => .error (.unify e) { s with store := u.store, trace := u.trace }

def substitute (t : Ty) : InferM Ty := fun s =>
  match s.store.substitute t with
  | .ok t => .ok t s
  | .error e => .error (.unify (.store e)) s

end Session

structure Inferred where
  unsolved : Ty
  resolved : Ty
  equations : List Equation
  slots : List Ty
  deriving DecidableEq

open Session in
def inferType (e : Expr) : InferM Inferred := do
  let unsolved ← infer e
  let equations := (← get).equations.toList
  solve
  let resolved ← substitute unsolved
  return ⟨unsolved, resolved, equations, (← get).store.slots.toList⟩

def Expr.inferIn (e : Expr) (base : Scope) : EStateM.Result InferError Session Inferred :=
  inferType e (Session.start base)

end Monotype
