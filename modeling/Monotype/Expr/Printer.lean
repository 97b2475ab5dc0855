import Monotype.Expr.Basic

namespace Monotype.Expr

def parenthesize (b : Bool) (s : String) : String :=
  if b then "(" ++ s ++ ")" else s

def arrow (afterParameters : Bool) : String :=
  if afterParameters then " => " else ""

/-- Nested abstractions share one `fun`: after a parameter, an abstraction adds its own to the list. -/
def renderAt (afterParameters : Bool) : Expr → String
  | var x => arrow afterParameters ++ x
  | const c => arrow afterParameters ++ c.render
  | app f a =>
      arrow afterParameters ++ parenthesize f.isAbs (renderAt false f) ++ " " ++
        parenthesize (a.isAbs || a.isApp) (renderAt false a)
  | abs x b => (if afterParameters then " " else "fun ") ++ x ++ renderAt true b

def render (e : Expr) : String :=
  renderAt false e

def indent (depth : Nat) : String :=
  String.join (List.replicate depth "|   ")

def outlineAt (depth : Nat) (close : String) : Expr → Except Constant String
  | var x => .ok (indent depth ++ x ++ close)
  | app f a => do
      let function ← outlineAt (depth + 1) "" f
      let argument ← outlineAt (depth + 1) (")" ++ close) a
      return indent depth ++ "(app\n" ++ function ++ "\n" ++ argument
  | abs x b => do
      let body ← outlineAt (depth + 1) (")" ++ close) b
      return indent depth ++ "(fun\n" ++ indent (depth + 1) ++ x ++ "\n" ++ body
  | const c => .error c

def outline (e : Expr) : Except Constant String :=
  outlineAt 0 "" e

end Monotype.Expr
