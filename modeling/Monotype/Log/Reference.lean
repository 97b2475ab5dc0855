import Monotype.Log.Catalogue
import Monotype.Log.Format
import Monotype.Number.Reader
import Monotype.Text.Blank
import Monotype.Text.Split
import Monotype.Value.Order
import Monotype.Value.Printer

namespace Monotype.Log

/-- Something in a setup: a plain value, a part, a thing of the catalogue under its name, or something that was
made. -/
inductive Item where
  | value (v : Value)
  | part (id : Nat)
  | named (name : String) (n : Named)
  | made (kind : String) (p : Product)
  deriving Inhabited

inductive Part where
  | table (es : List (Value × Item)) (source : Value)
  | row (xs : List Item) (source : Value)
  deriving Inhabited

abbrev Parts := Array Part

namespace Parts

mutual

def read (parts : Parts) : Value → Parts × Item
  | .dict es =>
      let (parts, items) := readEntries parts es
      (parts.push (.table items (.dict es)), .part parts.size)
  | .list xs =>
      let (parts, items) := readAll parts xs
      (parts.push (.row items (.list xs)), .part parts.size)
  | .tuple xs =>
      let (parts, items) := readAll parts xs
      (parts.push (.row items (.tuple xs)), .part parts.size)
  | .knot _ v => read parts v
  | v => (parts, .value v)

def readAll (parts : Parts) : List Value → Parts × List Item
  | [] => (parts, [])
  | x :: xs =>
      let (parts, i) := read parts x
      let (parts, is) := readAll parts xs
      (parts, i :: is)

def readEntries (parts : Parts) : List (Value × Value) → Parts × List (Value × Item)
  | [] => (parts, [])
  | (k, v) :: es =>
      let (parts, i) := read parts v
      let (parts, is) := readEntries parts es
      (parts, (k, i) :: is)

end

def entries? (parts : Parts) (i : Item) : Option (List (Value × Item)) :=
  match i with
  | .part id =>
      match parts[id]? with
      | some (.table es _) => some es
      | _ => none
  | _ => none

def source? (parts : Parts) (i : Item) : Option Value :=
  match i with
  | .value v => some v
  | .part id =>
      match parts[id]? with
      | some (.table _ v) => some v
      | some (.row _ v) => some v
      | none => none
  | _ => none

def isEmpty (parts : Parts) (i : Item) : Bool :=
  match i with
  | .value v => v.isEmpty
  | .part id =>
      match parts[id]? with
      | some (.table es _) => es.isEmpty
      | some (.row xs _) => xs.isEmpty
      | none => true
  | _ => false

end Parts

def lastName (name : String) : String :=
  String.ofList ((Text.splitOn '.' name.toList).getLastD [])

namespace Item

def kind : Item → String
  | value v => v.fullKind
  | part _ => "dict"
  | named _ (.module _) => "module"
  | named _ (.factory f) => if f.isClass then "type" else "function"
  | named _ _ => "object"
  | made kind _ => kind

def render (parts : Parts) (i : Item) : String :=
  match i with
  | named name (.module _) => "<module " ++ Text.quoted name ++ " (built-in)>"
  | named name .thing =>
      let stream := String.ofList ((lastName name).toList.filter (· ≠ '_'))
      "<_io.TextIOWrapper name='<" ++ stream ++ ">' mode='" ++ (if stream = "stdin" then "r" else "w") ++
        "' encoding='utf-8'>"
  | named name _ =>
      "<class " ++ Text.quoted (if name.startsWith "builtins." then lastName name else name) ++ ">"
  | made kind _ => "<" ++ kind ++ ">"
  | i => ((parts.source? i).map Value.render).getD ""

end Item

inductive ReferenceFault where
  | unresolved (name missing : String) (parent : Option String)
  | noName
  | noPath (text : String)
  | badPath (text rest : String)
  | badNumber (f : Number.Fault)
  | noKey (key : Value)
  | outOfRange (kind : String)
  | tooFar
  | badIndex (kind index : String)
  | noParts (kind : String)
  | noTypeParts (name : String)
  | endless

namespace ReferenceFault

def lack (missing : String) (parent : Option String) : String :=
  "No module named " ++ Text.quoted missing ++
    (parent.map fun p => "; " ++ Text.quoted p ++ " is not a package").getD ""

def message : ReferenceFault → String
  | unresolved name missing parent => "Cannot resolve " ++ Text.quoted name ++ ": " ++ lack missing parent
  | noName => "Empty module name"
  | noPath text => "Unable to convert " ++ Text.quoted text
  | badPath text rest => "Unable to convert " ++ Text.quoted text ++ " at " ++ Text.quoted rest
  | badNumber f => f.message
  | noKey key => key.term
  | outOfRange kind =>
      (if kind = "str" then "string" else if kind = "bytes" then "index" else kind) ++
        (if kind = "bytes" then " out of range" else " index out of range")
  | tooFar => "cannot fit 'int' into an index-sized integer"
  | badIndex kind index =>
      if kind = "str" then "string indices must be integers, not '" ++ index ++ "'"
      else (if kind = "bytes" then "byte" else kind) ++ " indices must be integers or slices, not " ++ index
  | noParts kind => "'" ++ kind ++ "' object is not subscriptable"
  | noTypeParts name => "type '" ++ name ++ "' is not subscriptable"
  | endless => "maximum recursion depth exceeded while calling a Python object"

end ReferenceFault

namespace Reference

/-- The name of the module that is missing on the way to a name, and the module above it that holds no others. -/
def missingModule (above : Option String) (here : String) : List String → String × Option String
  | [] => (here, above)
  | part :: parts =>
      match Catalogue.find? here with
      | some (.module true) => missingModule none (here ++ "." ++ part) parts
      | some (.module false) => missingModule (some here) (here ++ "." ++ part) parts
      | _ => (here, above)

/-- Follow the last `parts` of the dotted name `all` from the thing `n`, which is known as `here`. -/
def walk (all : List String) (here : String) (n : Named) : List String → Except ReferenceFault (String × Named)
  | [] => .ok (here, n)
  | part :: parts =>
      let next := here ++ "." ++ part
      let next := (Catalogue.aliases.lookup next).getD next
      match Catalogue.find? next with
      | some m => walk all next m parts
      | none =>
          let written := all.take (all.length - parts.length)
          let (missing, parent) := missingModule none (written.headD "") written.tail
          .error (.unresolved (".".intercalate all) missing parent)

def resolve (name : String) : Except ReferenceFault (String × Named) :=
  match (Text.splitOn '.' name.toList).map String.ofList with
  | [] => .error .noName
  | first :: parts =>
      if first = "" then .error .noName
      else
        match Catalogue.find? first with
        | some n => walk (first :: parts) first n parts
        | none => .error (.unresolved name first none)

def split? (s : String) : Option (Bool × String) :=
  let line? (cs : List Char) : Option String :=
    match cs.dropWhile (· ≠ '\n') with
    | [] | ['\n'] => some (String.ofList (cs.takeWhile (· ≠ '\n')))
    | _ => none
  match s.toList with
  | 'e' :: 'x' :: 't' :: ':' :: '/' :: '/' :: rest => (line? rest).map (true, ·)
  | 'c' :: 'f' :: 'g' :: ':' :: '/' :: '/' :: rest => (line? rest).map (false, ·)
  | _ => none

def word? (cs : List Char) : Option (String × List Char) :=
  let cs := cs.dropWhile Text.isBlank
  match cs.takeWhile Format.isWordChar with
  | [] => none
  | w => some (String.ofList w, (cs.dropWhile Format.isWordChar).dropWhile Text.isBlank)

def step? (cs : List Char) : Option (Bool × String × List Char) :=
  match cs with
  | '.' :: rest => (word? rest).map fun (w, rest) => (false, w, rest)
  | '[' :: rest =>
      match word? rest with
      | some (w, ']' :: rest) => some (true, w, rest.dropWhile Text.isBlank)
      | _ => none
  | _ => none

def element (kind : String) (xs : List Item) (key : Value) : Except ReferenceFault Item :=
  match key with
  | .int n =>
      if Int.ofNat (Nat.pow 2 63) ≤ n then .error .tooFar
      else
        match xs[n.toNat]? with
        | some x => .ok x
        | none => .error (.outOfRange kind)
  | key => .error (.badIndex kind key.kind)

def entry (es : List (Value × Item)) (key : Value) : Except ReferenceFault Item :=
  match Entries.get? es key with
  | some i => .ok i
  | none => .error (.noKey key)

def member (parts : Parts) (i : Item) (key : Value) : Except ReferenceFault Item :=
  match i with
  | .part id =>
      match parts[id]? with
      | some (.table es _) => entry es key
      | some (.row xs source) => element source.kind xs key
      | none => .error (.noKey key)
  | .value (.text s) => element "str" (s.toList.map fun c => .value (.text (String.singleton c))) key
  | .value (.bytes bs) => element "bytes" (bs.map fun b => .value (.int (Int.ofNat b.toNat))) key
  | .named name (.factory f) => .error (if f.isClass then .noTypeParts (lastName name) else .noParts "function")
  | i => .error (.noParts i.kind)

def bracketMember (parts : Parts) (i : Item) (w : String) : Except ReferenceFault Item :=
  if w.toList.all Text.isDigit then
    match Number.readInt 10 w.toList with
    | .error f => .error (.badNumber f)
    | .ok n =>
        match member parts i (.int n) with
        | .error (.badIndex _ _) => member parts i (.text w)
        | r => r
  else member parts i (.text w)

mutual

/-- What an item stands for, where `setup` is the whole setup. -/
def follow (fuel : Nat) (parts : Parts) (setup i : Item) : Except ReferenceFault Item :=
  match fuel, i with
  | 0, _ => .error .endless
  | fuel + 1, .value (.text s) =>
      match split? s with
      | none => .ok i
      | some (true, name) =>
          (resolve name).map fun
            | (_, .constant v) => .value v
            | (name, n) => .named name n
      | some (false, path) =>
          match word? path.toList with
          | none => .error (.noPath path)
          | some (w, rest) => do
              let start ← member parts setup (.text w)
              followPath fuel parts setup path (← follow fuel parts setup start) rest
  | _, i => .ok i

def followPath (fuel : Nat) (parts : Parts) (setup : Item) (path : String) (i : Item) (cs : List Char) :
    Except ReferenceFault Item :=
  match fuel, cs with
  | _, [] => .ok i
  | 0, _ => .error .endless
  | fuel + 1, cs =>
      match step? cs with
      | none => .error (.badPath path (String.ofList cs))
      | some (inBrackets, w, rest) => do
          let next ← if inBrackets then bracketMember parts i w else member parts i (.text w)
          followPath fuel parts setup path (← follow fuel parts setup next) rest

end

def maxSteps : Nat := 900

end Reference

end Monotype.Log
