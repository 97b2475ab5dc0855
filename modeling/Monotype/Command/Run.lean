import Monotype.Command.Arguments
import Monotype.Log.Level
import Monotype.Override
import Monotype.Repl

namespace Monotype.Command

inductive Failure where
  | level (name : String)
  | override (e : Override.Error)
  | load (e : LoadError)
  | text (e : TextError)
  | noExpression
  | read (e : ReadError)
  | infer (e : InferError)

def Failure.message : Failure → String
  | level name => "unknown log level: " ++ Text.quoted name
  | override e => e.message
  | load e => e.message
  | text e => e.message
  | noExpression => "provide an expression or --file"
  | read e => e.message
  | infer e => e.message

def Failure.isDeep : Failure → Bool
  | read .tooDeep => true
  | load .tooDeep => true
  | override (.literal .tooDeep) => true
  | _ => false

def Failure.report (f : Failure) : String := if f.isDeep then ReadError.tooDeep.message else f.message

/-- A fatal failure ends a run without a report. -/
def Failure.isFatal : Failure → Bool
  | override (.literal e) => e != .tooDeep
  | load (.scalar f) => !f.isReported
  | _ => false

inductive Fallback where
  | standard
  | file (path : Path)

structure World where
  files : Files
  environment : Option String := none
  fallback : Fallback := .standard
  limits : Limits := {}

structure Report where
  stdout : String := ""
  log : List Log.Record := []
  deriving DecidableEq

abbrev CommandM := EStateM Failure Report

def write (text : String) : CommandM Unit := modify fun r => { r with stdout := r.stdout ++ text }

def writeLine (text : String) : CommandM Unit := write (text ++ "\n")

def tell (records : List Log.Record) : CommandM Unit := modify fun r => { r with log := r.log ++ records }

def orFail {ε α : Type} (f : ε → Failure) : Except ε α → CommandM α
  | .ok a => pure a
  | .error e => throw (f e)

def baseSettings (w : World) (g : Globals) : CommandM Settings := do
  match Configuration.named g.config w.environment, w.fallback with
  | some path, _ => orFail .load (Settings.load w.files path w.limits)
  | none, .standard => return Settings.standard
  | none, .file path =>
      if w.files.has path then orFail .load (Settings.load w.files path w.limits)
      else
        tell [⟨.warning, "tyinfer.cli", "no configuration file at " ++ path.render ++ "; running with an empty prelude"⟩]
        return {}

/-- The overrides are read before the configuration, and put into it. -/
def settings (w : World) (g : Globals) : CommandM Settings := do
  let overrides ← orFail .override (Override.parseAll g.overrides w.limits)
  let base ← baseSettings w g
  orFail (fun e => .load (.settings e)) (base.merge overrides)

/-- The text to infer, and the name under which its faults are told. A file counts before an argument. -/
def source (files : Files) (r : InferRequest) : CommandM (String × String) :=
  match r.file, r.expression with
  | some path, _ => do return (path.render, ← orFail .text (files.text path))
  | none, some text => return ("<expr>", text)
  | none, none => throw .noExpression

def inferred (e : Expr) (base : Scope) : CommandM Inferred := do
  match e.inferIn base with
  | .ok r after =>
      tell (after.trace.toList.map .ofEvent)
      return r
  | .error err after =>
      tell (after.trace.toList.map .ofEvent)
      throw (.infer err)

def writeConstraints (r : Inferred) : CommandM Unit := do
  writeLine "constraints:"
  r.equations.forM fun e => writeLine ("  " ++ e.render)
  writeLine "substitution:"
  (r.slots.zipIdx).forM fun (t, i) => writeLine ("  t" ++ toString i ++ " := " ++ t.render)

def checkDepth (limit depth : Nat) : CommandM Unit := if limit < depth then throw (.read .tooDeep) else pure ()

def infer (w : World) (s : Settings) (r : InferRequest) : CommandM Unit := do
  let (name, text) ← source w.files r
  let e ← orFail .read (Expr.read w.limits name text)
  tell [.ofEvent (.parsed e)]
  if r.showAst then
    checkDepth w.limits.outline e.height
    if let .ok tree := e.outline then writeLine tree
  let result ← inferred e s.prelude
  if r.showConstraints || s.display.showConstraints then writeConstraints result
  let type := if s.display.normalise && !r.raw then result.resolved.display else result.resolved.render
  checkDepth w.limits.text e.depth
  writeLine (e.render ++ " : " ++ type)

def repl (w : World) (s : Settings) (prompt : String) (input : String) : CommandM Unit := do
  let outcome := Repl.run s prompt (Text.lines input.toList) w.limits
  write outcome.output
  tell (outcome.trace.map .ofEvent)

def level (g : Globals) : Except Failure Int :=
  match g.logLevel with
  | none => .ok Log.standardLevel
  | some name =>
      if name = "" then .ok Log.standardLevel
      else
        match Log.levelOf? name with
        | some n => .ok n
        | none => .error (.level name)

structure Outcome where
  stdout : String
  log : List Log.Record
  failure : Option Failure

namespace Outcome

def exit (o : Outcome) : Nat := if o.failure.isSome then 1 else 0

/-- The report on a failure; there is none on a fatal one. -/
def stderr (o : Outcome) : String :=
  match o.failure with
  | none => ""
  | some f => if f.isFatal then "" else "[tyinfer] error: " ++ f.report ++ "\n"

end Outcome

def failureRecords (f : Failure) : List Log.Record :=
  if f.isDeep || f.isFatal then [] else [⟨.debug, "tyinfer.cli", "command failed"⟩]

def finishRun (level : Int) (act : CommandM Unit) : Outcome :=
  let keep (log : List Log.Record) := log.filter fun r => r.severity.passes level
  match act {} with
  | .ok _ r => ⟨r.stdout, keep r.log, none⟩
  | .error f r => ⟨r.stdout, keep (r.log ++ failureRecords f), some f⟩

def run (w : World) (inv : Invocation) (prompt input : String) : Outcome :=
  match level inv.globals with
  | .error f => finishRun Log.standardLevel (throw f)
  | .ok n =>
      finishRun n do
        let s ← settings w inv.globals
        match inv.task with
        | .infer r => infer w s r
        | .repl => repl w s prompt input

end Monotype.Command
