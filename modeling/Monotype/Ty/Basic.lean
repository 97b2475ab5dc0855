namespace Monotype

inductive Ty where
  | var (id : Int)
  | con (name : String) (args : List Ty)
  deriving Inhabited

namespace Ty

mutual

def beq : Ty → Ty → Bool
  | var i, var j => decide (i = j)
  | con f as, con g bs => decide (f = g) && beqArgs as bs
  | _, _ => false

def beqArgs : List Ty → List Ty → Bool
  | [], [] => true
  | a :: as, b :: bs => beq a b && beqArgs as bs
  | _, _ => false

end

mutual

theorem beq_iff (a b : Ty) : beq a b = true ↔ a = b := by
  match a, b with
  | var i, var j => simp [beq]
  | con f as, con g bs => simp [beq, beqArgs_iff as bs]
  | var _, con _ _ => simp [beq]
  | con _ _, var _ => simp [beq]

theorem beqArgs_iff (as bs : List Ty) : beqArgs as bs = true ↔ as = bs := by
  match as, bs with
  | [], [] => simp [beqArgs]
  | a :: as, b :: bs => simp [beqArgs, beq_iff a b, beqArgs_iff as bs]
  | [], _ :: _ => simp [beqArgs]
  | _ :: _, [] => simp [beqArgs]

end

instance : DecidableEq Ty := fun a b => decidable_of_iff (beq a b = true) (beq_iff a b)

def fn (parameter result : Ty) : Ty := con "Fun" [parameter, result]

def arity : Ty → Nat
  | var _ => 0
  | con _ args => args.length

mutual

def vars : Ty → List Int
  | var i => [i]
  | con _ args => varsArgs args

def varsArgs : List Ty → List Int
  | [] => []
  | a :: as => vars a ++ varsArgs as

end

mutual

def renderWith (name : Int → String) : Ty → String
  | var i => name i
  | con f [] => f
  | con f (a :: as) => f ++ "[" ++ renderWith name a ++ renderTail name as ++ "]"

def renderTail (name : Int → String) : List Ty → String
  | [] => ""
  | a :: as => ", " ++ renderWith name a ++ renderTail name as

end

section

variable {ε : Type}

mutual

/-- Replace every variable, from left to right, until one replacement fails. -/
def substituteM (f : Int → Except ε Ty) : Ty → Except ε Ty
  | var i => f i
  | con g args => do return con g (← substituteArgsM f args)

def substituteArgsM (f : Int → Except ε Ty) : List Ty → Except ε (List Ty)
  | [] => .ok []
  | a :: as => do
      let b ← substituteM f a
      let bs ← substituteArgsM f as
      return b :: bs

end

mutual

/-- Test the variables from left to right until one passes or fails. -/
def anyVarM (p : Int → Except ε Bool) : Ty → Except ε Bool
  | var i => p i
  | con _ args => anyVarArgsM p args

def anyVarArgsM (p : Int → Except ε Bool) : List Ty → Except ε Bool
  | [] => .ok false
  | a :: as => do
      if ← anyVarM p a then return true
      anyVarArgsM p as

end

end

def varName (i : Int) : String := "t" ++ toString i

def render (t : Ty) : String := t.renderWith varName

/-- The display name of the `n`th variable: a quoted letter as long as there are letters. -/
def displayName (n : Nat) : String :=
  if n < 26 then "'" ++ (Char.ofNat ('a'.toNat + n)).toString else "t" ++ toString n

def display (t : Ty) : String :=
  t.renderWith fun i => displayName (t.vars.eraseDups.idxOf i)

end Ty

structure Equation where
  left : Ty
  right : Ty
  deriving DecidableEq

def Equation.render (e : Equation) : String := e.left.render ++ " == " ++ e.right.render

end Monotype
