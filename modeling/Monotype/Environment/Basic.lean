import Monotype.Entries
import Monotype.Ty.Basic
import Monotype.Text.Quoted

namespace Monotype

abbrev Scope := List (String × Ty)

inductive ScopeError where
  | baseScope
  deriving DecidableEq

def ScopeError.message : ScopeError → String
  | baseScope => "cannot pop the base scope of an environment"

/-- Scopes of named types: the base, and the ones opened above it with the innermost first. -/
structure Environment where
  base : Scope := []
  inner : List Scope := []
  deriving DecidableEq

mutual

def Ty.term : Ty → String
  | .var i => "Var(id=" ++ toString i ++ ")"
  | .con f args => "Con(name=" ++ Text.quoted f ++ ", args=(" ++ Ty.termArgs args ++ "))"

def Ty.termArgs : List Ty → String
  | [] => ""
  | [a] => Ty.term a ++ ","
  | a :: as => Ty.term a ++ Ty.termTail as

def Ty.termTail : List Ty → String
  | [] => ""
  | a :: as => ", " ++ Ty.term a ++ Ty.termTail as

end

namespace Environment

def depth (env : Environment) : Nat := env.inner.length + 1

def scopes (env : Environment) : List Scope := env.inner ++ [env.base]

def push (env : Environment) : Environment := { env with inner := [] :: env.inner }

def pop (env : Environment) : Except ScopeError Environment :=
  match env.inner with
  | [] => .error .baseScope
  | _ :: inner => .ok { env with inner }

def extend (env : Environment) (name : String) (t : Ty) : Environment :=
  match env.inner with
  | [] => { env with base := Entries.put env.base name t }
  | scope :: inner => { env with inner := Entries.put scope name t :: inner }

def lookup (env : Environment) (name : String) : Option Ty :=
  env.scopes.findSome? fun scope => Entries.get? scope name

def contains (env : Environment) (name : String) : Bool := (env.lookup name).isSome

def renderScope (scope : Scope) : String :=
  "\x7b" ++ ", ".intercalate (scope.map fun (name, t) => Text.quoted name ++ ": " ++ t.term) ++ "\x7d"

/-- The scopes with the base first, each in the order in which its names came. -/
def render (env : Environment) : String :=
  "Environment(depth=" ++ toString env.depth ++ ", scopes=[" ++
    ", ".intercalate (env.scopes.reverse.map renderScope) ++ "])"

end Environment

end Monotype
