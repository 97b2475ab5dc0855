import Monotype.Limits
import Monotype.Literal.Evaluation
import Monotype.Text.Blank
import Monotype.Text.Split
import Monotype.Value.Basic

namespace Monotype.Override

inductive Error where
  | shape (item : String)
  | conflict (key : String)
  | literal (e : Literal.Error)
  deriving DecidableEq

def Error.message : Error → String
  | shape item => "override '" ++ item ++ "' must look like KEY=VALUE"
  | conflict key => "override '" ++ key ++ "' conflicts with an existing value"
  | literal e => e.message

def splitAtEquals : List Char → Option (List Char × List Char)
  | [] => none
  | '=' :: cs => some ([], cs)
  | c :: cs => (splitAtEquals cs).map fun (key, value) => (c :: key, value)

def keyPath (key : List Char) : List String :=
  ((Text.splitOn '.' (Text.stripChars key)).filter (· ≠ [])).map String.ofList

structure Item where
  key : String
  path : List String
  value : String
  deriving DecidableEq

def Item.parse (item : String) : Except Error Item :=
  match splitAtEquals item.toList with
  | none => .error (.shape item)
  | some (key, value) =>
      if keyPath key = [] then .error (.shape item)
      else .ok ⟨String.ofList key, keyPath key, Text.strip (String.ofList value)⟩

/-- The value of a text: what it writes as `read` says, or the text itself if it writes nothing. -/
def valueOf (read : String → Except Literal.Error Value) (text : String) : Except Error Value :=
  match read text with
  | .ok v => .ok v
  | .error .malformed => .ok (.text text)
  | .error e => .error (.literal e)

/-- Set a value under a path, opening a dictionary at every step that is missing. Something else in the way is
a conflict, and counts before a fault of the value. -/
def insert (key : String) (v : Except Error Value) (es : List (Value × Value)) :
    List String → Except Error (List (Value × Value))
  | [] => .ok es
  | [leaf] => do return Entries.put es (.text leaf) (← v)
  | part :: rest =>
      match (Entries.get? es (.text part)).getD (.dict []) with
      | .dict inner => do return Entries.put es (.text part) (.dict (← insert key v inner rest))
      | _ => .error (.conflict key)

def apply (read : String → Except Literal.Error Value) (es : List (Value × Value)) (item : String) :
    Except Error (List (Value × Value)) := do
  let item ← Item.parse item
  insert item.key (valueOf read item.value) es item.path

def parseAllWith (read : String → Except Literal.Error Value) (items : List String) :
    Except Error (List (Value × Value)) :=
  items.foldlM (apply read) []

def parseAll (items : List String) (limits : Limits := {}) : Except Error (List (Value × Value)) :=
  parseAllWith (Literal.read limits.literal) items

end Monotype.Override
