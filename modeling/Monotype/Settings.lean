import Monotype.Environment.Basic
import Monotype.Text.Blank
import Monotype.Ty.Parser
import Monotype.Value.Printer

namespace Monotype

inductive SettingsError where
  | preludeShape
  | preludeName (name : Value)
  | preludeType (e : Ty.SyntaxError)
  | preludeCodes (ns : List Nat)
  | displayShape
  | displayFlag (flag : String) (value : Value)
  | tooLong

def badCode (ns : List Nat) : List Nat :=
  let isChar (n : Nat) : Bool := decide n.isValidChar
  match Ty.lexFrom 0 ((ns.takeWhile isChar).map Char.ofNat) with
  | .error (.unexpectedChar c) => [c.toNat]
  | _ => (ns.dropWhile isChar).take 1

def SettingsError.message : SettingsError → String
  | preludeShape => "prelude must be a mapping of name -> type"
  | preludeName name => "prelude name must be a string, got " ++ name.term
  | preludeType e => e.message
  | preludeCodes ns => "Unexpected character " ++ Text.quotedCodes (badCode ns) ++ " in type " ++ Text.quotedCodes ns
  | displayShape => "display must be a mapping"
  | displayFlag flag value => "display." ++ flag ++ " must be a boolean, got " ++ value.term
  | tooLong => Value.tooLongMessage

def SettingsError.about (v : Value) (e : SettingsError) : SettingsError := if v.isTooLong then tooLong else e

def SettingsError.ofType (v : Value) (e : Ty.SyntaxError) : SettingsError :=
  match v with
  | .codes ns => preludeCodes ns
  | _ => preludeType e

structure Display where
  normalise : Bool := true
  showConstraints : Bool := false
  deriving DecidableEq

structure Settings where
  prelude : Scope := []
  display : Display := {}
  deriving DecidableEq

namespace Settings

abbrev Entries := List (Value × Value)

/-- The section under a name, where an absent or empty value counts as an empty section. -/
def section? (data : Entries) (name : String) : Option Entries :=
  match Entries.get? data (.text name) with
  | none => some []
  | some v =>
      if v.isEmpty then some [] else v.entries?

def readPrelude : Entries → Except SettingsError Scope
  | [] => .ok []
  | (.text name, v) :: es =>
      if v.isTooLong then .error .tooLong
      else
        match Ty.parse v.render with
        | .error e => .error (.ofType v e)
        | .ok t => do return (name, t) :: (← readPrelude es)
  | (name, _) :: _ => .error (.about name (.preludeName name))

/-- The truth value that a word spells in any case. Only ASCII letters have one of these words as lower case. -/
def boolOfWord? (s : String) : Option Bool :=
  let word := String.ofList ((Text.stripChars s.toList).map Char.toLower)
  if word ∈ ["true", "yes", "on", "1"] then some true
  else if word ∈ ["false", "no", "off", "0"] then some false
  else none

def boolOf? : Value → Option Bool
  | .bool b => some b
  | .int 0 => some false
  | .int 1 => some true
  | .text s => boolOfWord? s
  | _ => none

def readFlag (display : Entries) (flag : String) (default : Bool) : Except SettingsError Bool :=
  match Entries.get? display (.text flag) with
  | none => .ok default
  | some v =>
      match boolOf? v with
      | some b => .ok b
      | none => .error (.about v (.displayFlag flag v))

def ofEntries (data : Entries) : Except SettingsError Settings := do
  let some prelude := section? data "prelude" | throw .preludeShape
  let prelude ← readPrelude prelude
  let some display := section? data "display" | throw .displayShape
  let normalise ← readFlag display "normalise" true
  let showConstraints ← readFlag display "show_constraints" false
  return { prelude, display := { normalise, showConstraints } }

def toEntries (s : Settings) : Entries :=
  [(.text "prelude", .dict (s.prelude.map fun (name, t) => (.text name, .text t.render))),
   (.text "display", .dict [(.text "normalise", .bool s.display.normalise),
      (.text "show_constraints", .bool s.display.showConstraints)])]

mutual

/-- What stands under a key after an update: two dictionaries are merged, anything else is replaced. -/
def updated (old : Option Value) : Value → Value
  | .dict us =>
      match old.bind Value.entries? with
      | some es => .dict (deepUpdate es us)
      | none => .dict us
  | .knot label v =>
      match old.bind Value.entries?, v.entries? with
      | some _, some _ => updated old v
      | _, _ => .knot label v
  | v => v

def deepUpdate (es : Entries) : Entries → Entries
  | [] => es
  | (k, v) :: us => deepUpdate (Entries.put es k (updated (Entries.get? es k) v)) us

end

def merge (s : Settings) (overrides : Entries) : Except SettingsError Settings :=
  if overrides.isEmpty then .ok s else ofEntries (deepUpdate s.toEntries overrides)

end Settings

end Monotype
