import Monotype.Trace

namespace Monotype.Log

def levels : List (String × Int) :=
  [("CRITICAL", 50), ("FATAL", 50), ("ERROR", 40), ("WARN", 30), ("WARNING", 30), ("INFO", 20), ("DEBUG", 10),
   ("NOTSET", 0)]

def standardLevel : Int := 30

/-- Upper case as far as it gives a letter of a level's name: ASCII letters, and the dotless and the long one. -/
def upper (c : Char) : Char :=
  if c = 'ı' then 'I' else if c = 'ſ' then 'S' else c.toUpper

def levelOf? (name : String) : Option Int := levels.lookup (name.map upper)

inductive Severity where
  | debug
  | warning
  deriving DecidableEq

namespace Severity

def name : Severity → String
  | debug => "DEBUG"
  | warning => "WARNING"

def level : Severity → Int
  | debug => 10
  | warning => 30

def passes (s : Severity) (level : Int) : Bool :=
  decide ((if level = 0 then standardLevel else level) ≤ s.level)

end Severity

structure Record where
  severity : Severity
  logger : String
  message : String
  deriving DecidableEq

def Record.ofEvent (e : Event) : Record := ⟨.debug, e.logger, e.message⟩

end Monotype.Log
