import Monotype.Configuration
import Monotype.Expr.Reader
import Monotype.Inference.Session

namespace Monotype.Repl

def prompt : String := "tyinfer> "

inductive Request where
  | nothing
  | quit
  | listing
  | typeOf (text : String)
  deriving DecidableEq

def Request.ofLine (line : List Char) : Request :=
  match Text.stripChars line with
  | [] => .nothing
  | cs =>
      let text := String.ofList cs
      if text = ":quit" ∨ text = ":q" then .quit
      else if text = ":env" then .listing
      else .typeOf text

structure Answer where
  output : String := ""
  trace : List Event := []
  deriving DecidableEq

def listing (s : Settings) : String :=
  String.join ((Entries.sorted s.prelude).map fun (name, t) => name ++ " : " ++ t.render ++ "\n")

def typeOf (limits : Limits) (s : Settings) (text : String) : Answer :=
  match Expr.read limits "<repl>" text with
  | .error e => { output := "error: " ++ e.message ++ "\n" }
  | .ok e =>
      match e.inferIn s.prelude with
      | .ok r after => { output := s.showTy r.resolved ++ "\n", trace := .parsed e :: after.trace.toList }
      | .error err after => { output := "error: " ++ err.message ++ "\n", trace := .parsed e :: after.trace.toList }

def answer? (limits : Limits) (s : Settings) : Request → Option Answer
  | .nothing => some {}
  | .quit => none
  | .listing => some { output := listing s }
  | .typeOf text => some (typeOf limits s text)

structure Outcome where
  output : String := ""
  unread : List (List Char) := []
  trace : List Event := []
  deriving DecidableEq

/-- Answer line after line until one asks to quit. A prompt stands before every line that is awaited, also before
the one that does not come. -/
def run (s : Settings) (prompt : String) (lines : List (List Char)) (limits : Limits := {}) : Outcome :=
  match lines with
  | [] => { output := prompt }
  | line :: lines =>
      match answer? limits s (.ofLine line) with
      | none => { output := prompt, unread := lines }
      | some a =>
          let rest := run s prompt lines limits
          { rest with output := prompt ++ a.output ++ rest.output, trace := a.trace ++ rest.trace }

end Monotype.Repl
