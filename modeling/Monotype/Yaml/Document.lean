import Monotype.Yaml.Atom
import Monotype.Yaml.Merge

namespace Monotype.Yaml.Document

inductive Part where
  | atom (v : Value)
  | inner (i : Nat)

inductive Content where
  | list (items : List Part)
  | pairs (items : List (Part × Part))
  | set (items : List Value)
  | dict (entries : List (Value × Part))

/-- The containers in the order in which they are met, and what those hold that are filled. -/
structure Building where
  graph : Graph
  contents : Array (Option Content)
  known : Array Bool
  order : Array Nat := #[]

abbrev BuildM := EStateM Error Building

def fail {α : Type} : BuildM α := throw .malformed

def ofExcept {α : Type} (r : Except Error α) : BuildM α := MonadExcept.ofExcept r

def scalarText (fuel : Nat) (g : Graph) (i : Nat) : Except Error String :=
  match fuel with
  | 0 => .error .tooDeep
  | fuel + 1 =>
      match g.node i with
      | .scalar _ s => .ok s
      | .seq _ _ => malformed
      | .map _ es =>
          match es.find? fun (k, _) => g.tagOf k = .value with
          | some (_, v) => scalarText fuel g v
          | none => malformed

def await (i : Nat) : BuildM Unit :=
  modify fun b =>
    if b.known.getD i true then b
    else { b with known := b.known.setIfInBounds i true, order := b.order.push i }

def part (i : Nat) : BuildM Part := do
  let g := (← get).graph
  match g.tagOf i with
  | .seq | .map | .omap | .pairs | .set =>
      await i
      return .inner i
  | t =>
      if t = .merge ∨ t = .value ∨ t = .unknown then fail
      let text ← ofExcept (scalarText (g.nodes.size + 1) g i)
      match t, g.node i with
      | .timestamp, .map _ _ => throw (.fault .noText)
      | _, _ => return .atom (← ofExcept (Atom.value t text))

/-- A key and where it comes from, which tells two values apart that are no numbers. -/
structure Key where
  value : Value
  origin : Option Nat

def Key.same (k l : Key) : Bool :=
  k.value.same l.value ||
    match k.value, l.value with
    | .float .nan, .float .nan => k.origin == l.origin
    | _, _ => false

instance : BEq Key := ⟨Key.same⟩

def key (i : Nat) : BuildM Key := do
  match ← part i with
  | .inner _ => fail
  | .atom v =>
      let shared := match (← get).graph.node i with
        | .scalar _ s => Atom.isDotNan s
        | _ => false
      return ⟨v, if shared then none else some i⟩

/-- Of equal keys the first one stays, with the last value. -/
def dictEntries (acc : List (Key × Part)) : List (Nat × Nat) → BuildM (List (Key × Part))
  | [] => return acc
  | (k, v) :: es => do
      let key ← key k
      let p ← part v
      dictEntries (Entries.put acc key p) es

def mappingEntries (i : Nat) : BuildM (List (Value × Part)) := do
  let b ← get
  let some _ := b.graph.entries? i | fail
  let graph ← ofExcept (b.graph.merge i)
  set { b with graph }
  return (← dictEntries [] (graph.entries i)).map fun (k, p) => (k.value, p)

def pair (i : Nat) : BuildM (Part × Part) := do
  match (← get).graph.entries? i with
  | some [(k, v)] => do
      let key ← part k
      return (key, ← part v)
  | _ => fail

def items (i : Nat) : BuildM (List Nat) := do
  match (← get).graph.node i with
  | .seq _ xs => return xs
  | _ => fail

def content (i : Nat) : BuildM Content := do
  match (← get).graph.tagOf i with
  | .map => return .dict (← mappingEntries i)
  | .set => return .set ((← mappingEntries i).map (·.1))
  | .seq => return .list (← (← items i).mapM part)
  | _ => return .pairs (← (← items i).mapM pair)

def fill (fuel turn : Nat) : BuildM Unit :=
  match fuel with
  | 0 => return
  | fuel + 1 => do
      match (← get).order[turn]? with
      | none => return
      | some i => do
          let c ← content i
          modify fun b => { b with contents := b.contents.setIfInBounds i (some c) }
          fill fuel (turn + 1)

abbrev Contents := Array (Option Content)

def Part.inner? : Part → Option Nat
  | atom _ => none
  | inner i => some i

def children (cs : Contents) (i : Nat) : List Nat :=
  match cs.getD i none with
  | some (.list xs) => xs.filterMap Part.inner?
  | some (.pairs xs) => xs.flatMap fun (k, v) => k.inner?.toList ++ v.inner?.toList
  | some (.dict es) => es.filterMap fun (_, p) => p.inner?
  | _ => []

def reach (fuel : Nat) (cs : Contents) (seen : List Nat) : List Nat → List Nat
  | [] => seen
  | i :: work =>
      match fuel with
      | 0 => seen
      | fuel + 1 => if seen.contains i then reach fuel cs seen work else reach fuel cs (i :: seen) (children cs i ++ work)

def knots (cs : Contents) : List Nat :=
  let fuel := cs.foldl (fun n c => n + 1 + match c with
    | some (.list xs) => xs.length
    | some (.pairs xs) => 2 * xs.length
    | some (.dict es) => es.length
    | _ => 0) 1
  (List.range cs.size).filter fun i => (reach fuel cs [] (children cs i)).contains i

mutual

/-- The value of a part. A knot is cut where it comes again, not counting what lies less than `free` levels deep. -/
def unfold (fuel : Nat) (cs : Contents) (knots : List Nat) (free : Nat) (outer : List Nat) : Part → Value
  | .atom v => v
  | .inner i =>
      match fuel with
      | 0 => .null
      | fuel + 1 =>
          if outer.contains i then
            match cs.getD i none with
            | some (.dict _) => .knot i (.dict [])
            | _ => .knot i (.list [])
          else
            let tied := knots.contains i
            let outer := if tied && free == 0 then i :: outer else outer
            let v := unfoldContent fuel cs knots (free - 1) outer (cs.getD i none)
            if tied then .knot i v else v

def unfoldContent (fuel : Nat) (cs : Contents) (knots : List Nat) (free : Nat) (outer : List Nat) :
    Option Content → Value
  | none => .null
  | some (.list xs) => .list (xs.map (unfold fuel cs knots free outer))
  | some (.pairs xs) =>
      .list (xs.map fun (k, v) => .tuple [unfold fuel cs knots free outer k, unfold fuel cs knots free outer v])
  | some (.set xs) => .set xs
  | some (.dict es) => .dict (es.map fun (k, p) => (k, unfold fuel cs knots free outer p))

end

def knotDepth : Nat := 6

abbrev ShareM := StateM (Array (Option Value))

mutual

/-- The value of a part, built once for all places where it stands. -/
def share (fuel : Nat) (cs : Contents) : Part → ShareM Value
  | .atom v => return v
  | .inner i =>
      match fuel with
      | 0 => return .null
      | fuel + 1 => do
          if let some v := (← get).getD i none then return v
          let v ← shareContent fuel cs (cs.getD i none)
          modify fun memo => memo.setIfInBounds i (some v)
          return v

def shareContent (fuel : Nat) (cs : Contents) : Option Content → ShareM Value
  | none => return .null
  | some (.list xs) => return .list (← xs.mapM (share fuel cs))
  | some (.pairs xs) => return .list (← xs.mapM fun (k, v) => return .tuple [← share fuel cs k, ← share fuel cs v])
  | some (.set xs) => return .set xs
  | some (.dict es) => return .dict (← es.mapM fun (k, p) => return (k, ← share fuel cs p))

end

def ofGraph (g : Graph) : Except Error Value :=
  let size := g.nodes.size
  let start : Building := { graph := g, contents := Array.replicate size none, known := Array.replicate size false }
  let build : BuildM Part := do
    let root ← part g.root
    fill (size + 1) 0
    return root
  match build start with
  | .error e _ => .error e
  | .ok root b =>
      let cs := b.contents
      if g.knotted then .ok (unfold (size + knotDepth + 2) cs (knots cs) knotDepth [] root)
      else .ok (share (size + 1) cs root (Array.replicate size none)).1

def read (limit : Nat) (source : String) : Except Error Value := do
  match ← Graph.ofScan limit (Scan.ofChars source.toList) with
  | none => return .null
  | some g => ofGraph g

end Monotype.Yaml.Document
