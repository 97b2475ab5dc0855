import Monotype.Environment.Basic
import Monotype.Ty.Parser

namespace Monotype.Environment

abbrev GivenTy := Except Ty.SyntaxError Ty

inductive Step where
  | push
  | pop
  | extend (name : String) (t : GivenTy)
  /-- Change the mapping that the environment was made from, which it does not share. -/
  | extendOrigin (name : String) (t : GivenTy)
  | lookup (name : String)
  | contains (name : String)
  | base
  | render
  | raise
  | block (body : List Step)
  deriving Inhabited

inductive Failure where
  | scope (e : ScopeError)
  | type (e : Ty.SyntaxError)
  | raised
  deriving DecidableEq

inductive Answer where
  | done
  | found (t : Option Ty)
  | holds (b : Bool)
  | listing (entries : List (String × Ty))
  | text (s : String)
  | failed (e : Failure)
  deriving DecidableEq

structure Record where
  answer : Answer
  env : Environment
  deriving DecidableEq

structure Run where
  records : List Record
  env : Environment
  left : Option Failure := none
  deriving DecidableEq

def Run.single (answer : Answer) (env : Environment) : Run := { records := [⟨answer, env⟩], env }

section

-- The failures that leave the steps around them. Any other failure ends only its own step.
variable (leaves : Failure → Bool)

def Run.failed (f : Failure) (env : Environment) : Run := ⟨[⟨.failed f, env⟩], env, Option.guard leaves f⟩

/-- Close the scope of a block whose body ran as `body`. The failure to close it counts, and hides a failure by which
the body was left. -/
def Run.close (body : Run) : Run :=
  match body.env.pop with
  | .error e => ⟨body.records ++ [⟨.failed (.scope e), body.env⟩], body.env, Option.guard leaves (.scope e)⟩
  | .ok env =>
      let answer := (body.left.map .failed).getD (.holds true)
      ⟨body.records ++ [⟨answer, env⟩], env, body.left⟩

mutual

def runStep (env : Environment) : Step → Run
  | .push => .single .done env.push
  | .pop =>
      match env.pop with
      | .ok env => .single .done env
      | .error e => .failed leaves (.scope e) env
  | .extend name t =>
      match t with
      | .ok t => .single .done (env.extend name t)
      | .error e => .failed leaves (.type e) env
  | .extendOrigin _ t =>
      match t with
      | .ok _ => .single .done env
      | .error e => .failed leaves (.type e) env
  | .lookup name => .single (.found (env.lookup name)) env
  | .contains name => .single (.holds (env.contains name)) env
  | .base => .single (.listing (Entries.sorted env.base)) env
  | .render => .single (.text env.render) env
  | .raise => .failed leaves .raised env
  | .block body => (runBody env.push body).close leaves

def runBody (env : Environment) : List Step → Run
  | [] => { records := [], env }
  | step :: steps =>
      let first := runStep env step
      if first.left.isSome then first
      else
        let rest := runBody first.env steps
        { rest with records := first.records ++ rest.records }

end

/-- Run a whole program; outside of blocks a failure ends only its own step. -/
def runWith (env : Environment) : List Step → List Record
  | [] => []
  | step :: steps =>
      let first := runStep leaves env step
      first.records ++ runWith first.env steps

end

def Failure.isRaised : Failure → Bool
  | raised => true
  | _ => false

def run (env : Environment) (steps : List Step) : List Record := runWith Failure.isRaised env steps

end Monotype.Environment
