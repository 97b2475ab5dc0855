import Monotype.Limits
import Monotype.Log.Factory
import Monotype.Text.Line
import Monotype.Yaml.Document

namespace Monotype.Log

def standardSetup : List (Value × Value) :=
  [(.text "version", .int 1),
   (.text "disable_existing_loggers", .bool false),
   (.text "formatters", .dict [(.text "standard",
      .dict [(.text "format", .text "%(asctime)s | %(levelname)-8s | %(name)s | %(message)s")])]),
   (.text "handlers", .dict [(.text "console",
      .dict [(.text "class", .text "logging.StreamHandler"), (.text "stream", .text "ext://sys.stderr"),
        (.text "formatter", .text "standard")])]),
   (.text "root", .dict [(.text "level", .text "WARNING"), (.text "handlers", .list [.text "console"])]),
   (.text "loggers", .dict [(.text "tyinfer",
      .dict [(.text "level", .text "WARNING"), (.text "handlers", .list [.text "console"]),
        (.text "propagate", .bool false)])])]

inductive SetupError where
  | scalar (f : Yaml.Fault)
  | tooDeep
  | tooLong
  | unknownLevel (name : String)
  | notLevel (v : Value)
  | blankName
  | version (shown : String)
  | reference (f : ReferenceFault)
  | notIterable (kind : String)
  | unordered (e : OrderError)
  | formatter (name : Value)
  | handler (name : Value)
  | logger (name : Value)
  | pairName
  | root

def SetupError.message : SetupError → String
  | scalar f => f.message
  | tooDeep => "maximum recursion depth exceeded"
  | tooLong => Value.tooLongMessage
  | unknownLevel name => "unknown log level: " ++ Text.quoted name
  | notLevel v => "Level not an integer or a valid string: " ++ v.term
  | blankName => "logger name must be a non-empty string"
  | version shown => "Unsupported version: " ++ shown
  | reference f => f.message
  | notIterable kind => "'" ++ kind ++ "' object is not iterable"
  | unordered e => e.message
  | formatter name => "Unable to configure formatter " ++ name.term
  | handler name => "Unable to configure handler " ++ name.term
  | logger name => "Unable to configure logger " ++ name.term
  | pairName => "not all arguments converted during string formatting"
  | root => "Unable to configure root logger"

/-- Put the parts of a written setup in place of the standard ones. A text that cannot be read, or that is no
mapping, changes nothing. -/
def mergedSetup (text : Option String) (limits : Limits := {}) : Except SetupError (List (Value × Value)) :=
  match text with
  | none => .ok standardSetup
  | some text =>
      match Yaml.Document.read limits.document (String.ofList (Text.unifyLineEnds text.toList)) with
      | .error .malformed => .ok standardSetup
      | .error (.fault f) => .error (.scalar f)
      | .error .tooDeep => .error .tooDeep
      | .ok v =>
          match v.bare with
          | .dict es =>
              .ok (es.foldl (fun acc (k, v) => if Entries.contains standardSetup k then Entries.put acc k v else acc)
                standardSetup)
          | _ => .ok standardSetup

structure Draft where
  parts : Parts
  setup : Item
  level : Value

/-- What is wrong with a part of a setup. A part that refers to a handler which is not made yet is pending. -/
inductive Trouble where
  | reference (f : ReferenceFault)
  | within (f : ReferenceFault)
  | pending
  | unsound

namespace Trouble

def pendingText : String := "target not configured yet"

def cause : Trouble → String
  | reference (.unresolved _ missing parent) => ReferenceFault.lack missing parent
  | reference _ => ""
  | within f => f.message
  | pending => pendingText
  | unsound => ""

def isPending (t : Trouble) : Bool :=
  (List.range (t.cause.length + 1)).any fun i => pendingText.toList.isPrefixOf (t.cause.toList.drop i)

end Trouble

abbrev DraftM := EStateM Trouble Draft

namespace Draft

def resolved (i : Item) : DraftM Item := do
  let d ← get
  match Reference.follow Reference.maxSteps d.parts d.setup i with
  | .ok i => return i
  | .error f => throw (.reference f)

def entries (i : Item) : DraftM (List (Value × Item)) := do
  match (← get).parts.entries? i with
  | some es => return es
  | none => throw .unsound

def setEntries (i : Item) (es : List (Value × Item)) : DraftM Unit := do
  if let .part id := i then
    modify fun d => { d with parts := d.parts.modify id fun
      | .table _ source => .table es source
      | p => p }

def find (i : Item) (name : String) : DraftM (Option Item) := do
  match Entries.get? (← entries i) (.text name) with
  | none => return none
  | some i => return some (← resolved i)

def take (i : Item) (name : String) : DraftM (Option Item) := do
  let es ← entries i
  setEntries i (es.filter fun e => !(e.1 == .text name))
  match Entries.get? es (.text name) with
  | none => return none
  | some i => return some (← resolved i)

def isTrue (i : Option Item) : DraftM Bool := do
  match i with
  | none => return false
  | some i => return !(← get).parts.isEmpty i

def isSet : Option Item → Bool
  | none => false
  | some (.value .null) => false
  | some _ => true

def lookUp (part : String) (key : Item) : DraftM Item := do
  let d ← get
  let p ← find d.setup part
  match p, key with
  | some p, .value key =>
      match Reference.member d.parts p key with
      | .ok i => resolved i
      | .error f => throw (.within f)
  | _, _ => throw .unsound

def factory (i : Item) : DraftM (String × Factory) := do
  let byName (name : String) : DraftM (String × Factory) := do
    match Reference.resolve name with
    | .ok (name, .factory f) => return (name, f)
    | .ok _ => throw .unsound
    | .error f => throw (.reference f)
  match i with
  | .named name (.factory f) => return (name, f)
  | .value (.text s) => byName s
  | _ => throw .unsound

def arguments (i : Item) : DraftM (List (String × Item)) := do
  let mut out := []
  for (k, i) in ← entries i do
    match k with
    | .text name => if name ≠ "." then out := out ++ [(name, ← resolved i)]
    | _ => throw .unsound
  return out

def make (name : String) (f : Factory) (arguments : List (String × Item)) : DraftM Item := do
  if f.accepts ⟨(← get).parts, arguments⟩ then return .made (lastName name) f.makes
  else throw .unsound

def addAttributes (config made : Item) : DraftM Unit := do
  let attributes ← take config "."
  if ← isTrue attributes then
    match attributes, made with
    | some attributes, .made _ product =>
        for (k, v) in ← entries attributes do
          match k, v with
          | .text "name", .part _ => if product = .handler then throw .unsound
          | .text _, _ => pure ()
          | _, _ => throw .unsound
        if product = .closed then throw .unsound
    | _, _ => throw .unsound

def formatter (config : Item) : DraftM Item := do
  let es ← entries config
  if Entries.contains es (.text "()") then
    let some c ← take config "()" | throw .unsound
    let (name, f) ← factory c
    let arguments ← arguments config
    let arguments := match arguments.lookup "format" with
      | none => arguments
      | some i => ("fmt", i) :: arguments.filter fun a => a.1 ≠ "format" ∧ a.1 ≠ "fmt"
    let made ← make name f arguments
    addAttributes config made
    return made
  else
    let nothing : Item := .value .null
    let fmt := (← find config "format").getD nothing
    let datefmt := (← find config "datefmt").getD nothing
    let style := (← find config "style").getD (.value (.text "%"))
    let c ← find config "class"
    let (name, f) ←
      if ← isTrue c then
        match c with
        | some (.value (.text s)) => factory (.value (.text s))
        | _ => throw .unsound
      else pure ("logging.Formatter", Catalogue.formatter)
    let validate ← find config "validate"
    match f.byPosition ([fmt, datefmt, style] ++ validate.toList) with
    | some arguments => make name f arguments
    | none => throw .unsound

def levelOf (i : Item) : DraftM Value := do
  match i with
  | .value (.int n) => return .int n
  | .value (.bool b) => return .bool b
  | .value (.text s) =>
      match levels.lookup s with
      | some n => return .int n
      | none => throw .unsound
  | _ => throw .unsound

/-- The class of a handler. One that keeps records back takes the handler behind it, which has to be made first;
until then its table `whole` is left as it was. -/
def handlerClass (config : Item) (whole : List (Value × Item)) : DraftM (String × Factory) := do
  let (name, f) ←
    match ← take config "class" with
    | some (.value (.text s)) => factory (.value (.text s))
    | _ => throw .unsound
  unless f.isClass do throw .unsound
  if name = Catalogue.memoryHandler then
    if let some target ← find config "target" then
      match ← lookUp "handlers" target with
      | .made kind .handler => setEntries config (Entries.put (← entries config) (.text "target") (.made kind .handler))
      | _ =>
          setEntries config whole
          throw .pending
  return (name, f)

def handler (config : Item) : DraftM Item := do
  let whole ← entries config
  let format ← take config "formatter"
  let format ← match format with
    | some i => if ← isTrue format then some <$> lookUp "formatters" i else pure none
    | none => pure none
  let level ← take config "level"
  let filters ← take config "filters"
  let (name, f) ←
    if Entries.contains (← entries config) (.text "()") then
      let some c ← take config "()" | throw .unsound
      factory c
    else handlerClass config whole
  let made ← make name f (← arguments config)
  if (← isTrue format) && f.makes != .handler then throw .unsound
  if isSet level then
    if f.makes != .handler && f.makes != .leveled then throw .unsound
    if let some level := level then discard (levelOf level)
  if ← isTrue filters then throw .unsound
  addAttributes config made
  if f.makes = .closed then throw .unsound
  return made

def members? (parts : Parts) (i : Item) : Option (List Item) :=
  match i with
  | .part id =>
      match parts[id]? with
      | some (.table es _) => some (es.map fun e => .value e.1)
      | some (.row xs _) => some xs
      | none => none
  | .value (.text s) => some (s.toList.map fun c => .value (.text (String.singleton c)))
  | .value (.bytes bs) => some (bs.map fun b => .value (.int (Int.ofNat b.toNat)))
  | .value (.set xs) => some (xs.map .value)
  | _ => none

def logger (config : Item) (setLevel : Value → DraftM Unit) : DraftM Unit := do
  let level ← find config "level"
  if isSet level then
    if let some level := level then setLevel (← levelOf level)
  let handlers ← find config "handlers"
  if ← isTrue handlers then
    match handlers.bind (members? (← get).parts) with
    | some hs => for h in hs do discard (lookUp "handlers" h)
    | none => throw .unsound
  if ← isTrue (← find config "filters") then throw .unsound

/-- Set the logger of a name up. No name, or `root`, is the root's. -/
def namedLogger (name : Value) (config : Item) : DraftM Unit := do
  let isNamed ← match name with
    | .text s => pure (s != "" && s != "root")
    | v => if v.isEmpty then pure false else throw .unsound
  logger config fun n => do
    if isNamed && name == .text "tyinfer" then modify fun d => { d with level := n }
  discard (find config "propagate")

end Draft

abbrev ApplyM := EStateM SetupError Draft

namespace Apply

def within {α : Type} (tell : Trouble → SetupError) (act : DraftM α) : ApplyM α := act.adaptExcept tell

def named (error : Value → SetupError) (name : Value) : SetupError :=
  match name with
  | .tuple _ => .pairName
  | name => if name.isTooLong then .tooLong else error name

def plainly : Trouble → SetupError
  | .reference f => .reference f
  | .within f => .reference f
  | _ => .root

def part (name : String) : ApplyM Item := do
  return (← within plainly (Draft.find (← get).setup name)).getD (.value .null)

def names (p : Item) : ApplyM (List Value) := do
  let parts := (← get).parts
  match Draft.members? parts p with
  | some is => return is.filterMap parts.source?
  | none => throw (.notIterable p.kind)

def itemAt (p : Item) (place : Nat) : DraftM Item := do
  match (← Draft.entries p)[place]? with
  | some (_, i) => Draft.resolved i
  | none => throw .unsound

def setAt (p : Item) (place : Nat) (i : Item) : DraftM Unit := do
  let es ← Draft.entries p
  Draft.setEntries p (es.mapIdx fun n (k, old) => if n = place then (k, i) else (k, old))

def formatters : ApplyM Unit := do
  let p ← part "formatters"
  for (name, place) in (← names p).zipIdx do
    within (fun _ => named .formatter name) do setAt p place (← Draft.formatter (← itemAt p place))

def makeHandler (p : Item) (place : Nat) : DraftM Unit := do
  setAt p place (← Draft.handler (← itemAt p place))

/-- Handlers are made in the order of their names, and those that are pending once more after them. -/
def handlers : ApplyM Unit := do
  let p ← part "handlers"
  let ns := (← names p).zipIdx
  match Sorting.sort (fun a b => a.1.less b.1) ns with
  | .error e => throw (.unordered e)
  | .ok ns =>
      let mut pending := []
      for (name, place) in ns do
        let again ← within (fun _ => named .handler name) (EStateM.tryCatch (do makeHandler p place; return false)
          fun t => if t.isPending then return true else throw t)
        if again then pending := pending ++ [(name, place)]
      for (name, place) in pending do
        within (fun _ => named .handler name) (makeHandler p place)

def loggers : ApplyM Unit := do
  let p ← part "loggers"
  for (name, place) in (← names p).zipIdx do
    within (fun _ => named .logger name) do Draft.namedLogger name (← itemAt p place)

def root : ApplyM Unit := do
  let p ← part "root"
  unless (← get).parts.isEmpty p do
    within (fun _ => .root) (Draft.logger p fun _ => pure ())

def version : ApplyM Unit := do
  let v ← part "version"
  let parts := (← get).parts
  match v with
  | .value w => if w == Value.int 1 then return
  | _ => pure ()
  if ((parts.source? v).map Value.isTooLong).getD false then throw SetupError.tooLong
  throw (SetupError.version (v.render parts))

def all : ApplyM Unit := do
  version
  discard (within plainly (Draft.take (← get).setup "disable_existing_loggers"))
  formatters
  handlers
  loggers
  root

end Apply

abbrev SetupM := EStateM SetupError Value

def applySetup (es : List (Value × Value)) : SetupM Unit := fun level =>
  let (parts, setup) := Parts.read #[] (.dict es)
  match Apply.all ⟨parts, setup, level⟩ with
  | .ok () d => .ok () d.level
  | .error e d => .error e d.level

/-- Setting up again has no effect unless it is forced. -/
def configure (text : Option String) (force : Bool) (limits : Limits := {}) : SetupM Unit := do
  if force then applySetup (← MonadExcept.ofExcept (mergedSetup text limits))

def setLevelByName (name : String) : SetupM Unit :=
  match levelOf? name with
  | some n => set (Value.int n)
  | none => throw (.unknownLevel name)

def setLevel : Value → SetupM Unit
  | .text name => setLevelByName name
  | .int n => set (Value.int n)
  | .bool b => set (Value.bool b)
  | v => throw (.notLevel v)

end Monotype.Log
