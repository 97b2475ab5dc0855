import Monotype.Yaml.Node

namespace Monotype.Yaml

namespace Graph

def node (g : Graph) (i : Nat) : Node := g.nodes.getD i default

def set (g : Graph) (i : Nat) (n : Node) : Graph := { g with nodes := g.nodes.setIfInBounds i n }

def tagOf (g : Graph) (i : Nat) : Tag := (g.node i).tag

def entries? (g : Graph) (i : Nat) : Option (List (Nat × Nat)) :=
  match g.node i with
  | .map _ es => some es
  | _ => none

def entries (g : Graph) (i : Nat) : List (Nat × Nat) := (g.entries? i).getD []

def setEntries (g : Graph) (i : Nat) (es : List (Nat × Nat)) : Graph :=
  match g.node i with
  | .map t _ => g.set i (.map t es)
  | _ => g

def cutMerge? (g : Graph) : List (Nat × Nat) → Option (List (Nat × Nat) × Nat × List (Nat × Nat))
  | [] => none
  | (k, v) :: es =>
      if g.tagOf k = .merge then some ([], v, es)
      else (g.cutMerge? es).map fun (before, v', behind) => ((k, v) :: before, v', behind)

def settleKey (g : Graph) (k : Nat) : Graph :=
  match g.node k with
  | .scalar .value s => g.set k (.scalar .str s)
  | _ => g

def mergeCount (g : Graph) : Nat :=
  g.nodes.foldl (fun n node =>
    match node with
    | .map _ es => n + (es.filter fun (k, _) => g.tagOf k = .merge).length
    | _ => n) 0

/-- Merge what the merge keys of a mapping name, and put `merged` in front of it all. Every step takes a merge key
out of the graph, so their number bounds the steps. Of several mappings under one key the last comes first. -/
def mergeInto (fuel : Nat) (g : Graph) (i : Nat) (merged : List (Nat × Nat)) : Except Error Graph :=
  match fuel with
  | 0 => malformed
  | fuel + 1 =>
      match g.cutMerge? (g.entries i) with
      | none =>
          let es := merged ++ g.entries i
          .ok (es.foldl (fun g (k, _) => g.settleKey k) (g.setEntries i es))
      | some (before, v, behind) => do
          let g := g.setEntries i (before ++ behind)
          match g.node v with
          | .scalar _ _ => malformed
          | .map _ _ =>
              let g ← g.mergeInto fuel v []
              g.mergeInto fuel i (merged ++ g.entries v)
          | .seq _ items =>
              let (g, parts) ← items.foldlM (fun (g, parts) item => do
                let some _ := g.entries? item | throw Error.malformed
                let g ← g.mergeInto fuel item []
                return (g, g.entries item :: parts)) (g, [])
              g.mergeInto fuel i (merged ++ parts.flatten)

def merge (g : Graph) (i : Nat) : Except Error Graph := g.mergeInto (g.mergeCount + 1) i []

end Graph

end Monotype.Yaml
