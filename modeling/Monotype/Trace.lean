import Monotype.Expr.Printer
import Monotype.Ty.Basic

namespace Monotype

inductive Event where
  | parsed (e : Expr)
  | fresh (id : Int)
  | constraint (e : Equation)
  | unbound (name : String)
  | solving (count : Nat)
  | solved (steps : Nat)
  | bound (id : Int) (t : Ty)
  | occursCheckFailed (id : Int) (t : Ty)
  deriving DecidableEq

namespace Event

def message : Event → String
  | parsed e => "parsed " ++ e.render
  | fresh id => "fresh " ++ Ty.varName id
  | constraint e => "constraint " ++ e.render
  | unbound name => "unbound variable " ++ Text.quoted name
  | solving count => "solving " ++ toString count ++ " constraint(s)"
  | solved steps => "solved in " ++ toString steps ++ " unification step(s)"
  | bound id t => "bind " ++ Ty.varName id ++ " := " ++ t.render
  | occursCheckFailed id t => "occurs check failed: " ++ Ty.varName id ++ " in " ++ t.render

def logger : Event → String
  | parsed _ => "tyinfer.syntax.grammar"
  | bound _ _ => "tyinfer.core.unify"
  | occursCheckFailed _ _ => "tyinfer.core.unify"
  | _ => "tyinfer.core.engine"

end Event

abbrev Trace := Array Event

end Monotype
