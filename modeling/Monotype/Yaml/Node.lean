import Monotype.Yaml.Tag
import Monotype.Yaml.Token

namespace Monotype.Yaml

inductive Node where
  | scalar (tag : Tag) (text : String)
  | seq (tag : Tag) (items : List Nat)
  | map (tag : Tag) (entries : List (Nat × Nat))
  deriving DecidableEq, Inhabited

def Node.tag : Node → Tag
  | scalar t _ => t
  | seq t _ => t
  | map t _ => t

/-- The nodes of a document and the number of its root. A knotted graph has a node that contains itself. -/
structure Graph where
  nodes : Array Node := #[]
  root : Nat := 0
  knotted : Bool := false

/-- How deep collections may nest, the tokens to come and what stops them, the nodes so far, the numbers of the named
nodes, those of the nodes that are not complete yet, and what the handles of tags stand for. -/
structure Reader where
  limit : Nat
  tokens : List Token
  fault : Option Error
  nodes : Array Node := #[]
  anchors : List (String × Nat) := []
  unfinished : List Nat := []
  knotted : Bool := false
  handles : List (String × String) := []

abbrev ReadM := EStateM Error Reader

namespace Reader

def fail {α : Type} : ReadM α := throw .malformed

def peek : ReadM (Option Token) := do
  let r ← get
  match r.tokens, r.fault with
  | t :: _, _ => return some t
  | [], some e => throw e
  | [], none => return none

def skip : ReadM Unit := modify fun r => { r with tokens := r.tokens.tail }

def accept (t : Token) : ReadM Bool := do
  if (← peek) = some t then
    skip
    return true
  return false

def expect (t : Token) : ReadM Unit := do
  if !(← accept t) then fail

def sees (ts : List Token) : ReadM Bool := do
  match ← peek with
  | some t => return ts.contains t
  | none => return false

def add (n : Node) : ReadM Nat := do
  let i := (← get).nodes.size
  modify fun r => { r with nodes := r.nodes.push n }
  return i

def empty : ReadM Nat := add (.scalar .null "")

structure Properties where
  anchor : Option String := none
  tag : Option (Option String × String) := none

def properties : ReadM Properties := do
  match ← peek with
  | some (.anchor name) =>
      skip
      match ← peek with
      | some (.tag handle suffix) =>
          skip
          return { anchor := some name, tag := some (handle, suffix) }
      | _ => return { anchor := some name }
  | some (.tag handle suffix) =>
      skip
      match ← peek with
      | some (.anchor name) =>
          skip
          return { anchor := some name, tag := some (handle, suffix) }
      | _ => return { tag := some (handle, suffix) }
  | _ => return {}

def fullTag (tag : Option (Option String × String)) : ReadM (Option String) := do
  match tag with
  | none => return none
  | some (none, suffix) => return some suffix
  | some (some handle, suffix) =>
      match Entries.get? (← get).handles handle with
      | some replacement => return some (replacement ++ suffix)
      | none => fail

def isUnspecific (tag : Option String) : Bool := tag.isNone || tag == some "!"

def register (anchor : Option String) (n : Node) : ReadM Nat := do
  match anchor with
  | none => add n
  | some name =>
      if Entries.contains (← get).anchors name then fail
      let i ← add n
      modify fun r => { r with anchors := Entries.put r.anchors name i }
      return i

/-- A collection is known under its name from its start. -/
def collection {α : Type} (anchor : Option String) (make : List α → Node) (members : ReadM (List α)) : ReadM Nat := do
  let i ← register anchor (make [])
  modify fun r => { r with unfinished := i :: r.unfinished }
  let xs ← members
  modify fun r => { r with nodes := r.nodes.setIfInBounds i (make xs), unfinished := r.unfinished.tail }
  return i

def aliased (name : String) : ReadM Nat := do
  let r ← get
  match Entries.get? r.anchors name with
  | none => fail
  | some i =>
      if r.unfinished.contains i then set { r with knotted := true }
      return i

def scalarNode (tag : Option String) (text : String) (plain : Bool) : Node :=
  match tag with
  | some t => if t = "!" then .scalar (Tag.ofPlain text) text else .scalar (Tag.ofText t) text
  | none => .scalar (if plain then Tag.ofPlain text else .str) text

def collectionTag (tag : Option String) (default : Tag) : Tag :=
  match tag with
  | some t => if t = "!" then default else Tag.ofText t
  | none => default

mutual

/-- A node; blocks are allowed outside of flow collections only, and a sequence that is not indented only as
the value of a key. -/
def node (fuel : Nat) (block indentless : Bool) : ReadM Nat :=
  match fuel with
  | 0 => fail
  | fuel + 1 => do
      if let some (.alias name) ← peek then
        skip
        aliased name
      else
        let p ← properties
        let tag ← fullTag p.tag
        let next ← peek
        let r ← get
        if r.limit < r.unfinished.length then throw .tooDeep
        if indentless && next == some .blockEntry then
          collection p.anchor (.seq (collectionTag tag .seq)) (indentlessItems fuel)
        else
          match next with
          | some (.scalar text plain) =>
              skip
              register p.anchor (scalarNode tag text plain)
          | some .flowSequenceStart =>
              skip
              collection p.anchor (.seq (collectionTag tag .seq)) (flowItems fuel true)
          | some .flowMappingStart =>
              skip
              collection p.anchor (.map (collectionTag tag .map)) (flowEntries fuel true)
          | some .blockSequenceStart =>
              if !block then fail
              skip
              collection p.anchor (.seq (collectionTag tag .seq)) (blockItems fuel)
          | some .blockMappingStart =>
              if !block then fail
              skip
              collection p.anchor (.map (collectionTag tag .map)) (blockEntries fuel)
          | _ =>
              if p.anchor.isNone && tag.isNone then fail
              register p.anchor (scalarNode tag "" (isUnspecific tag))

def optional (fuel : Nat) (block indentless : Bool) (stops : List Token) : ReadM Nat :=
  match fuel with
  | 0 => fail
  | fuel + 1 => do
      if ← sees stops then empty
      else node fuel block indentless

def blockItems (fuel : Nat) : ReadM (List Nat) :=
  match fuel with
  | 0 => fail
  | fuel + 1 => do
      if ← accept .blockEntry then
        let n ← optional fuel true false [.blockEntry, .blockEnd]
        return n :: (← blockItems fuel)
      expect .blockEnd
      return []

def indentlessItems (fuel : Nat) : ReadM (List Nat) :=
  match fuel with
  | 0 => fail
  | fuel + 1 => do
      if ← accept .blockEntry then
        let n ← optional fuel true false [.blockEntry, .key, .value, .blockEnd]
        return n :: (← indentlessItems fuel)
      return []

def blockEntries (fuel : Nat) : ReadM (List (Nat × Nat)) :=
  match fuel with
  | 0 => fail
  | fuel + 1 => do
      if ← accept .blockEnd then return []
      expect .key
      let k ← optional fuel true true [.key, .value, .blockEnd]
      let v ← if ← accept .value then optional fuel true true [.key, .value, .blockEnd] else empty
      return (k, v) :: (← blockEntries fuel)

def flowItems (fuel : Nat) (first : Bool) : ReadM (List Nat) :=
  match fuel with
  | 0 => fail
  | fuel + 1 => do
      if ← accept .flowSequenceEnd then return []
      if !first then
        expect .flowEntry
        if ← accept .flowSequenceEnd then return []
      let n ← if ← accept .key then
          collection none (.map .map) do
            let k ← optional fuel false false [.value, .flowEntry, .flowSequenceEnd]
            let v ← if ← accept .value then optional fuel false false [.flowEntry, .flowSequenceEnd] else empty
            return [(k, v)]
        else node fuel false false
      return n :: (← flowItems fuel false)

def flowEntries (fuel : Nat) (first : Bool) : ReadM (List (Nat × Nat)) :=
  match fuel with
  | 0 => fail
  | fuel + 1 => do
      if ← accept .flowMappingEnd then return []
      if !first then
        expect .flowEntry
        if ← accept .flowMappingEnd then return []
      let e ← if ← accept .key then do
          let k ← optional fuel false false [.value, .flowEntry, .flowMappingEnd]
          let v ← if ← accept .value then optional fuel false false [.flowEntry, .flowMappingEnd] else empty
          pure (k, v)
        else do
          let k ← node fuel false false
          pure (k, ← empty)
      return e :: (← flowEntries fuel false)

end

def defaultHandles : List (String × String) := [("!", "!"), ("!!", Tag.core)]

/-- The directives before a document: at most one version, of the first generation, and each handle once. -/
def directives (fuel : Nat) (version : Bool) (handles : List (String × String)) : ReadM (List (String × String)) :=
  match fuel with
  | 0 => fail
  | fuel + 1 => do
      match ← peek with
      | some (.version major) =>
          skip
          if version || major ≠ 1 then fail
          directives fuel true handles
      | some (.tagHandle handle replacement) =>
          skip
          if Entries.contains handles handle then fail
          directives fuel version (handles ++ [(handle, replacement)])
      | some .otherDirective =>
          skip
          directives fuel version handles
      | _ => return handles

def isDirective : Token → Bool
  | .version _ | .tagHandle _ _ | .otherDirective => true
  | _ => false

def documentHead (fuel : Nat) : ReadM Unit := do
  let handles ← directives fuel false []
  let handles := handles ++ defaultHandles.filter fun h => !Entries.contains handles h.1
  expect .documentStart
  modify fun r => { r with handles }

def documentContent (fuel : Nat) : ReadM Nat := do
  match ← peek with
  | none => empty
  | some t =>
      if isDirective t || t == .documentStart || t == .documentEnd then empty
      else node fuel true false

def skipDocumentEnds (fuel : Nat) : ReadM Unit :=
  match fuel with
  | 0 => fail
  | fuel + 1 => do
      if ← accept .documentEnd then skipDocumentEnds fuel

def stream (fuel : Nat) : ReadM (Option Nat) := do
  let some t ← peek | return none
  let root ←
    if isDirective t || t == .documentStart then
      documentHead fuel
      documentContent fuel
    else
      modify fun r => { r with handles := defaultHandles }
      node fuel true false
  skipDocumentEnds fuel
  if (← peek).isNone then return some root
  documentHead fuel
  fail

end Reader

def Graph.ofScan (limit : Nat) (s : Scan) : Except Error (Option Graph) :=
  match Reader.stream (4 * s.tokens.length + 8) { limit, tokens := s.tokens, fault := s.fault } with
  | .ok none _ => .ok none
  | .ok (some root) r => .ok (some { nodes := r.nodes, root, knotted := r.knotted })
  | .error e _ => .error e

end Monotype.Yaml
