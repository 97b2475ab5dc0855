import Monotype.Text.Split

namespace Monotype

structure Path where
  root : String := ""
  parts : List String := []
  deriving DecidableEq

namespace Path

/-- Exactly two leading slashes are kept; any other number stands for one. -/
def rootOf (cs : List Char) : String :=
  match (cs.takeWhile (· == '/')).length with
  | 0 => ""
  | 2 => "//"
  | _ => "/"

def ofText (s : String) : Path :=
  let cs := s.toList
  ⟨rootOf cs, ((Text.splitOn '/' cs).filter fun part => part ≠ [] ∧ part ≠ ['.']).map String.ofList⟩

def render (p : Path) : String :=
  if p.root = "" ∧ p.parts = [] then "." else p.root ++ "/".intercalate p.parts

end Path

end Monotype
