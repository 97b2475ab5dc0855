import Monotype.Text.Quoted

namespace Monotype

/-- A value that a host may leave in an expression tree, for which the calculus has no typing rule. Any `object` is
known by the name of its kind, its text and its term. -/
inductive Constant where
  | null
  | bool (b : Bool)
  | int (n : Int)
  | text (s : String)
  | object (kind shown term : String)
  deriving DecidableEq

namespace Constant

def render : Constant → String
  | null => "None"
  | bool b => if b then "True" else "False"
  | int n => toString n
  | text s => s
  | object _ shown _ => shown

def quoted : Constant → String
  | text s => Text.quoted s
  | object _ _ term => term
  | c => c.render

def kind : Constant → String
  | null => "NoneType"
  | bool _ => "bool"
  | int _ => "int"
  | text _ => "str"
  | object kind _ _ => kind

def number? : Constant → Option Int
  | bool b => some (if b then 1 else 0)
  | int n => some n
  | _ => none

def same (c d : Constant) : Bool :=
  match c.number?, d.number? with
  | some m, some n => m == n
  | none, none => decide (c = d)
  | _, _ => false

end Constant

inductive Expr where
  | var (name : String)
  | app (function argument : Expr)
  | abs (parameter : String) (body : Expr)
  | const (value : Constant)
  deriving DecidableEq, Inhabited

namespace Expr

def isAbs : Expr → Bool
  | abs _ _ => true
  | _ => false

def isApp : Expr → Bool
  | app _ _ => true
  | _ => false

def same : Expr → Expr → Bool
  | var x, var y => x == y
  | app f a, app g b => same f g && same a b
  | abs x a, abs y b => x == y && same a b
  | const c, const d => c.same d
  | _, _ => false

def nodes : Expr → List Expr
  | var x => [var x]
  | app f a => app f a :: (f.nodes ++ a.nodes)
  | abs x b => abs x b :: b.nodes
  | const _ => []

/-- How deep arguments and bodies nest; the functions of a row of arguments do not count. -/
def nesting : Expr → Nat
  | var _ => 0
  | app f a => max f.nesting (a.nesting + 1)
  | abs _ b => b.nesting + 1
  | const _ => 0

/-- How deep parts nest in the text of an expression. The functions of a row count, and the parameters that stand before
one body count once. -/
def depth : Expr → Nat
  | var _ => 0
  | app f a => max f.depth a.depth + 1
  | abs _ b => if b.isAbs then b.depth else b.depth + 1
  | const _ => 0

def height : Expr → Nat
  | var _ => 0
  | app f a => max f.height a.height + 1
  | abs _ b => b.height + 1
  | const _ => 0

end Expr

end Monotype
