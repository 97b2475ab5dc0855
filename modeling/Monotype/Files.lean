import Monotype.Entries
import Monotype.Path
import Monotype.Text.Line
import Monotype.Text.Utf8

namespace Monotype

inductive FileError where
  | missing
  | notFolder
  | isFolder
  | nameTooLong
  | nullInPath
  deriving DecidableEq

def FileError.message (e : FileError) (p : Path) : String :=
  match e with
  | missing => "[Errno 2] No such file or directory: " ++ Text.quoted p.render
  | notFolder => "[Errno 20] Not a directory: " ++ Text.quoted p.render
  | isFolder => "[Errno 21] Is a directory: " ++ Text.quoted p.render
  | nameTooLong => "[Errno 36] File name too long: " ++ Text.quoted p.render
  | nullInPath => "embedded null byte"

abbrev Files := Path → Except FileError (List UInt8)

inductive TextError where
  | file (path : Path) (e : FileError)
  | encoding (e : Text.Utf8.Error)
  deriving DecidableEq

def TextError.message : TextError → String
  | file path e => e.message path
  | encoding e => e.message

namespace Files

def has (files : Files) (p : Path) : Bool :=
  match files p with
  | .ok _ => true
  | .error .isFolder => true
  | .error _ => false

def text (files : Files) (p : Path) : Except TextError String :=
  match files p with
  | .error e => .error (.file p e)
  | .ok bs =>
      match Text.Utf8.decode bs with
      | .error e => .error (.encoding e)
      | .ok cs => .ok (String.ofList (Text.unifyLineEnds cs))

end Files

/-- The files of the working folder, under the names that lead to them. There is a folder wherever a file
lies deeper. -/
structure Folder where
  files : List (List String × List UInt8) := []

namespace Folder

def lookup (f : Folder) (names : List String) : Except FileError (List UInt8) :=
  match Entries.get? f.files names with
  | some bs => .ok bs
  | none =>
      if names = [] ∨ f.files.any fun (deeper, _) => names.isPrefixOf deeper then .error .isFolder
      else .error .missing

abbrev Place := Option (List String)

def enter (f : Folder) (here : Place) (name : String) : Except FileError Place :=
  match here with
  | none => if name = ".." then .ok none else .error (if 255 < name.utf8ByteSize then .nameTooLong else .missing)
  | some names =>
      match f.lookup names with
      | .ok _ => .error .notFolder
      | .error .isFolder =>
          if 255 < name.utf8ByteSize then .error .nameTooLong
          else if name ≠ ".." then .ok (some (names ++ [name]))
          else if names = [] then .ok none
          else .ok (some names.dropLast)
      | .error e => .error e

/-- A path with a null character leads nowhere, whatever its other names are. -/
def read (f : Folder) : Files := fun p => do
  if p.parts.any fun name => name.toList.contains '\x00' then throw .nullInPath
  match ← p.parts.foldlM f.enter (if p.root = "" then some [] else none) with
  | none => .error .isFolder
  | some names => f.lookup names

end Folder

end Monotype
