import Monotype.Path
import Monotype.Text.Digit

namespace Monotype.Command

/-- Why the arguments ask for no run: they are wrong, or they ask for help. -/
inductive Stop where
  | usage
  | help
  deriving DecidableEq

inductive Argument (α : Type) where
  | plain
  | option (o : α) (value : Option String)
  | unknown

def splitValue (cs : List Char) : List Char × Option String :=
  match cs.span (· ≠ '=') with
  | (name, _ :: value) => (name, some (String.ofList value))
  | (name, []) => (name, none)

def isNegativeNumber (cs : List Char) : Bool :=
  match cs with
  | '-' :: cs =>
      let whole := cs.dropWhile Text.isDigit
      match whole with
      | '.' :: fraction => !fraction.isEmpty && Text.isDigit (fraction.headD ' ') && ends (fraction.dropWhile Text.isDigit)
      | rest => Text.isDigit (cs.headD ' ') && ends rest
  | _ => false
where
  ends (cs : List Char) : Bool := cs == [] || cs == ['\n']

section

variable {α : Type}

def beginningWith (options : List (String × α)) (name : List Char) : List α :=
  (options.filter fun (n, _) => name.isPrefixOf n.toList).map (·.2)

/-- A long option may be cut short where that leaves no choice, and may carry a value behind an equals sign. A
short one may have others behind it. What looks like a negative number, or holds a space, is plain. -/
def classify (options : List (String × α)) (text : String) : Except Stop (Argument α) :=
  let cs := text.toList
  let (name, value) := splitValue cs
  let other : Argument α := if isNegativeNumber cs || cs.contains ' ' then .plain else .unknown
  match cs with
  | '-' :: c :: tail =>
      match options.lookup text, options.lookup (String.ofList name) with
      | some o, _ => .ok (.option o none)
      | none, some o => .ok (.option o value)
      | none, none =>
          if c = '-' then
            match beginningWith options name with
            | [] => .ok other
            | [o] => .ok (.option o value)
            | _ => .error .usage
          else
            match options.lookup (String.ofList ['-', c]) with
            | some o => .ok (.option o (if tail.head? = some '-' then some (String.ofList tail) else none))
            | none => .ok other
  | _ => .ok .plain

/-- No argument before two dashes may leave a choice between options. -/
def checkAll (options : List (String × α)) (args : List String) : Except Stop Unit :=
  (args.takeWhile (· ≠ "--")).forM fun text => do
    let _ ← classify options text

def isPlain (options : List (String × α)) (text : String) : Except Stop Bool :=
  if text = "--" then .ok false
  else do
    match ← classify options text with
    | .plain => return true
    | _ => return false

end

inductive GlobalOption where
  | config
  | set
  | logLevel
  | help

def globalOptions : List (String × GlobalOption) :=
  [("-h", .help), ("--help", .help), ("--config", .config), ("--set", .set), ("--log-level", .logLevel)]

inductive InferOption where
  | file
  | showConstraints
  | showAst
  | raw
  | help

def inferOptions : List (String × InferOption) :=
  [("-h", .help), ("--help", .help), ("--file", .file), ("--show-constraints", .showConstraints),
   ("--show-ast", .showAst), ("--raw", .raw)]

structure InferRequest where
  expression : Option String := none
  file : Option Path := none
  showConstraints : Bool := false
  showAst : Bool := false
  raw : Bool := false
  deriving DecidableEq

inductive Task where
  | infer (r : InferRequest)
  | repl
  deriving DecidableEq

structure Globals where
  config : Option String := none
  overrides : List String := []
  logLevel : Option String := none
  deriving DecidableEq

structure Invocation where
  globals : Globals
  task : Task
  deriving DecidableEq

def Globals.put (g : Globals) (value : String) : GlobalOption → Globals
  | .config => { g with config := some value }
  | .set => { g with overrides := g.overrides ++ [value] }
  | .logLevel => { g with logLevel := some value }
  | .help => g

def InferRequest.putFlag (r : InferRequest) : InferOption → InferRequest
  | .showConstraints => { r with showConstraints := true }
  | .showAst => { r with showAst := true }
  | .raw => { r with raw := true }
  | _ => r

def finish {α : Type} (stray : Bool) (a : α) : Except Stop α := if stray then .error .usage else .ok a

/-- The arguments of an inference: options, and at most one expression. Behind two dashes there are no options; two
dashes may also follow the expression. Arguments that fit nowhere are an error when all have been seen. -/
def parseInfer (r : InferRequest) (stray : Bool) : List String → Except Stop InferRequest
  | [] => finish stray r
  | "--" :: rest =>
      match r.expression, rest with
      | none, [] => finish stray r
      | none, [e] => finish stray { r with expression := some e }
      | _, _ => .error .usage
  | text :: rest => do
      match ← classify inferOptions text, r.expression with
      | .unknown, _ => parseInfer r true rest
      | .plain, some _ => parseInfer r true rest
      | .plain, none =>
          match rest with
          | "--" :: more => finish (stray || !more.isEmpty) { r with expression := some text }
          | rest => parseInfer { r with expression := some text } stray rest
      | .option .help none, _ => .error .help
      | .option .file (some v), _ => parseInfer { r with file := some (Path.ofText v) } stray rest
      | .option .file none, _ =>
          match rest with
          | v :: rest => do
              if ← isPlain inferOptions v then parseInfer { r with file := some (Path.ofText v) } stray rest
              else .error .usage
          | [] => .error .usage
      | .option o none, _ => parseInfer (r.putFlag o) stray rest
      | .option _ (some _), _ => .error .usage

def parseRepl (stray : Bool) : List String → Except Stop Unit
  | [] => finish stray ()
  | "--" :: _ => .error .usage
  | text :: rest => do
      match ← classify [("-h", ()), ("--help", ())] text with
      | .option _ none => .error .help
      | .option _ (some _) => .error .usage
      | _ => parseRepl true rest

def parseTask (stray : Bool) (name : String) (rest : List String) : Except Stop Task :=
  match name with
  | "infer" => do
      checkAll inferOptions rest
      return .infer (← parseInfer {} stray rest)
  | "repl" => do
      parseRepl stray rest
      return .repl
  | _ => .error .usage

def parse (g : Globals) (stray : Bool) : List String → Except Stop Invocation
  | [] => .error .usage
  | text :: rest => do
      if text = "--" then throw .usage
      match ← classify globalOptions text with
      | .unknown => parse g true rest
      | .plain => return ⟨g, ← parseTask stray text rest⟩
      | .option .help none => .error .help
      | .option .help (some _) => .error .usage
      | .option o (some v) => parse (g.put v o) stray rest
      | .option o none =>
          match rest with
          | v :: rest => do
              if ← isPlain globalOptions v then parse (g.put v o) stray rest else .error .usage
          | [] => .error .usage

def Invocation.parse (args : List String) : Except Stop Invocation := do
  checkAll globalOptions args
  Command.parse {} false args

end Monotype.Command
