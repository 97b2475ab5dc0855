import Monotype.Log.Reference

namespace Monotype.Log

structure Call where
  parts : Parts
  arguments : List (String × Item)

namespace Call

def argument? (c : Call) (name : String) : Option Item := c.arguments.lookup name

def given? (c : Call) (name : String) : Option Item :=
  match c.argument? name with
  | some (.value .null) => none
  | i => i

def isTrue (c : Call) (name : String) (standard : Bool) : Bool :=
  match c.argument? name with
  | some i => !c.parts.isEmpty i
  | none => standard

def text? (c : Call) (name standard : String) : Option String :=
  match c.argument? name with
  | none => some standard
  | some (.value (.text s)) => some s
  | some _ => none

def isNumber (c : Call) (name : String) : Bool :=
  match c.argument? name with
  | none => true
  | some (.value v) => v.magnitude?.isSome
  | some _ => false

def length? (c : Call) (name : String) : Option Nat :=
  match c.argument? name with
  | some (.part id) =>
      match c.parts[id]? with
      | some (.row xs _) => some xs.length
      | _ => none
  | _ => none

/-- A format is checked against its style unless that is switched off. -/
def hasFormat (c : Call) : Bool :=
  match (c.text? "style" "%").bind Style.ofText? with
  | none => false
  | some style =>
      !c.isTrue "validate" true || !c.isTrue "fmt" false ||
        (match c.argument? "fmt" with
          | some (.value (.text s)) => style.admits s
          | _ => false)

def fileModes : List String :=
  ["a", "w", "x", "at", "wt", "xt", "ab", "wb", "xb", "a+", "w+", "x+", "a+b", "w+b", "x+b", "ab+", "wb+", "xb+", "ta",
   "tw", "tx", "ba", "bw", "bx"]

def encodings : List String :=
  ["utf-8", "utf8", "utf_8", "u8", "ascii", "us-ascii", "latin-1", "latin1", "latin_1", "iso-8859-1", "utf-16", "utf16",
   "utf-32", "utf-8-sig", "cp1252", "cp437", "locale"]

def errorModes : List String :=
  ["strict", "ignore", "replace", "backslashreplace", "namereplace", "surrogateescape", "surrogatepass",
   "xmlcharrefreplace"]

def isFileName (s : String) : Bool :=
  let names := Text.splitOn '/' s.toList
  let last := String.ofList (names.getLastD [])
  let folder := names.dropLast.map String.ofList
  last != "" && last != "." && last != ".." && !s.toList.contains '\x00' &&
    [[], ["."], ["", "tmp"], ["", "dev"]].contains folder

def admitsText (c : Call) (name : String) (p : String → Bool) : Bool :=
  match c.given? name with
  | none => true
  | some (.value (.text s)) => p s
  | some _ => false

def hasFile (c : Call) : Bool :=
  match c.argument? "filename", c.text? "mode" "a" with
  | some (.value (.text s)), some mode =>
      c.isTrue "delay" false ||
        (isFileName s && fileModes.contains mode &&
          c.admitsText "encoding" (fun e => encodings.contains (e.map Char.toLower)) &&
          c.admitsText "errors" errorModes.contains &&
          (!mode.toList.contains 'b' || ((c.given? "encoding").isNone && (c.given? "errors").isNone)))
  | _, _ => false

def isSchedule (s : String) : Bool :=
  let s := s.map upper
  ["S", "M", "H", "D", "MIDNIGHT", "W0", "W1", "W2", "W3", "W4", "W5", "W6"].contains s

def meets (c : Call) : Demand → Bool
  | .none => true
  | .format => c.hasFormat
  | .file => c.hasFile
  | .rotation => c.isNumber "maxBytes" && c.hasFile
  | .schedule => ((c.text? "when" "h").map isSchedule).getD false && c.isNumber "interval" && c.hasFile
  | .method =>
      ((c.text? "method" "GET").map fun m => ["GET", "POST"].contains (m.map upper)).getD false &&
        (c.isTrue "secure" false || (c.given? "context").isNone)
  | .mail =>
      ((c.length? "mailhost").map (· == 2)).getD true && ((c.length? "credentials").map (· == 2)).getD true
  | .address =>
      match c.argument? "address" with
      | none => true
      | some (.value (.text _)) => true
      | _ => c.length? "address" == some 2
  | .size =>
      match c.argument? "name" with
      | none => true
      | some (.value (.text _)) => true
      | some (.value (.bytes _)) => true
      | some (.part _) => true
      | _ => false

end Call

namespace Factory

/-- Whether a call gives what is required, nothing unknown, and what is demanded. -/
def accepts (f : Factory) (c : Call) : Bool :=
  c.arguments.all (fun a => f.required.contains a.1 || f.optional.contains a.1) &&
    f.required.all (fun name => (c.argument? name).isSome) && c.meets f.demand

def byPosition (f : Factory) (items : List Item) : Option (List (String × Item)) :=
  let names := f.required ++ f.optional
  if items.length ≤ names.length then some (names.zip items) else none

end Factory

end Monotype.Log
