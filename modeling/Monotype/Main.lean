import Monotype.Command.Run

namespace Monotype.Command

def lookAt (p : Path) : IO (Path × Except FileError (List UInt8)) := do
  try
    let bs ← IO.FS.readBinFile p.render
    return (p, .ok bs.toList)
  catch
    | .inappropriateType _ code _ => return (p, .error (if code = 20 then .notFolder else .isFolder))
    | .noFileOrDirectory .. => return (p, .error .missing)
    | _ => return (p, .error .missing)

def Invocation.paths (inv : Invocation) (environment : Option String) : List Path :=
  let file := match inv.task with
    | .infer r => r.file
    | .repl => none
  (Configuration.named inv.globals.config environment).toList ++ file.toList

def filesOf (seen : List (Path × Except FileError (List UInt8))) : Files := fun p =>
  (seen.lookup p).getD (.error .missing)

def printLog (log : List Log.Record) : IO Unit :=
  log.forM fun r => IO.eprintln (r.severity.name ++ " | " ++ r.logger ++ " | " ++ r.message)

/-- Answer lines as they come, until one asks to quit or there are none left. -/
partial def converse (limits : Limits) (s : Settings) (level : Int) (prompt : String) : IO Unit := do
  let stdout ← IO.getStdout
  stdout.putStr prompt
  stdout.flush
  let line ← (← IO.getStdin).getLine
  if line.isEmpty then return
  match Repl.answer? limits s (.ofLine line.toList) with
  | none => return
  | some a =>
      printLog ((a.trace.map Log.Record.ofEvent).filter fun r => r.severity.passes level)
      stdout.putStr a.output
      converse limits s level prompt

def report (o : Outcome) : IO UInt32 := do
  printLog o.log
  IO.print o.stdout
  IO.eprint o.stderr
  return UInt32.ofNat o.exit

def start (inv : Invocation) : IO UInt32 := do
  let environment ← IO.getEnv "TYINFER_CONFIG"
  let seen ← (inv.paths environment).mapM lookAt
  let w : World := { files := filesOf seen, environment }
  match inv.task, level inv.globals, settings w inv.globals {} with
  | .repl, .ok n, .ok s _ => do
      let interactive ← (← IO.getStdin).isTty
      converse w.limits s n (if interactive then Repl.prompt else "")
      return 0
  | _, _, _ => report (run w inv "" "")

def usage : String := "usage: tyinfer [--config CONFIG] [--set KEY=VALUE] [--log-level LEVEL] \x7binfer,repl\x7d ..."

end Monotype.Command

def main (args : List String) : IO UInt32 := do
  match Monotype.Command.Invocation.parse args with
  | .ok inv => Monotype.Command.start inv
  | .error .help => do
      IO.println Monotype.Command.usage
      return 0
  | .error .usage => do
      IO.eprintln Monotype.Command.usage
      return 2
