import Monotype.Files
import Monotype.Limits
import Monotype.Settings
import Monotype.Yaml.Document

namespace Monotype

inductive LoadError where
  | notFound (path : Path)
  | unreadable (e : TextError)
  | malformed (path : Path)
  | scalar (f : Yaml.Fault)
  | tooDeep
  | root (path : Path)
  | settings (e : SettingsError)

def LoadError.message : LoadError → String
  | notFound path => "configuration file not found: " ++ path.render
  | unreadable e => e.message
  | malformed path => "failed to parse configuration " ++ path.render
  | scalar f => f.message
  | tooDeep => "maximum recursion depth exceeded"
  | root path => "configuration root must be a mapping: " ++ path.render
  | settings e => e.message

namespace Configuration

/-- The file that the command line names, else the one that the environment names. An empty name in the
environment names nothing. -/
def named (explicit environment : Option String) : Option Path :=
  (explicit <|> environment.filter (· ≠ "")).map Path.ofText

def find (files : Files) (explicit environment : Option String) (default : Path) : Option Path :=
  named explicit environment <|> if files.has default then some default else none

/-- The mapping in a configuration file; an empty document is an empty mapping. -/
def read (files : Files) (p : Path) (limits : Limits := {}) : Except LoadError Settings.Entries :=
  match files.text p with
  | .error (.file _ .missing) => .error (.notFound p)
  | .error (.file _ .notFolder) => .error (.notFound p)
  | .error (.file _ .nullInPath) => .error (.notFound p)
  | .error e => .error (.unreadable e)
  | .ok text =>
      match Yaml.Document.read limits.document text with
      | .error .malformed => .error (.malformed p)
      | .error (.fault f) => .error (.scalar f)
      | .error .tooDeep => .error .tooDeep
      | .ok v =>
          match v.bare with
          | .null => .ok []
          | .dict es => .ok es
          | _ => .error (.root p)

end Configuration

namespace Settings

def load (files : Files) (p : Path) (limits : Limits := {}) : Except LoadError Settings := do
  (ofEntries (← Configuration.read files p limits)).mapError .settings

def standard : Settings where
  prelude :=
    [("one", .con "Int" []), ("zero", .con "Int" []), ("true", .con "Bool" []), ("false", .con "Bool" []),
     ("succ", .fn (.con "Int" []) (.con "Int" [])), ("is_zero", .fn (.con "Int" []) (.con "Bool" [])),
     ("add", .fn (.con "Int" []) (.fn (.con "Int" []) (.con "Int" [])))]

def showTy (s : Settings) (t : Ty) : String := if s.display.normalise then t.display else t.render

end Settings

end Monotype
