import Monotype.Log.Level
import Monotype.Value.Basic

namespace Monotype.Log

/-- What a factory makes: a handler, something with a level of its own, a thing that takes on any attribute, or one
that takes on none. -/
inductive Product where
  | handler
  | leveled
  | plain
  | closed
  deriving DecidableEq

inductive Demand where
  | none
  | format
  | file
  | rotation
  | schedule
  | method
  | mail
  | address
  | size
  deriving DecidableEq

/-- Something that can be called, with the names of its arguments in order. Only a class can stand where a class is
asked for. -/
structure Factory where
  required : List String := []
  optional : List String := []
  makes : Product := .handler
  isClass : Bool := true
  demand : Demand := .none

inductive Named where
  | module (isPackage : Bool)
  | constant (v : Value)
  | factory (f : Factory)
  | thing
  deriving Inhabited

namespace Catalogue

def fileOptions : List String := ["encoding", "delay", "errors"]

def memoryHandler : String := "logging.handlers.MemoryHandler"

def formatter : Factory :=
  { optional := ["fmt", "datefmt", "style", "validate", "defaults"], makes := .plain, demand := .format }

def handlers : List (String × Factory) :=
  [("logging.Handler", { optional := ["level"] }),
   ("logging.StreamHandler", { optional := ["stream"] }),
   ("logging.NullHandler", { optional := ["level"] }),
   ("logging.FileHandler", { required := ["filename"], optional := "mode" :: fileOptions, demand := .file }),
   ("logging.handlers.WatchedFileHandler",
      { required := ["filename"], optional := "mode" :: fileOptions, demand := .file }),
   ("logging.handlers.BaseRotatingHandler",
      { required := ["filename", "mode"], optional := fileOptions, demand := .file }),
   ("logging.handlers.RotatingFileHandler",
      { required := ["filename"], optional := ["mode", "maxBytes", "backupCount"] ++ fileOptions, demand := .rotation }),
   ("logging.handlers.TimedRotatingFileHandler",
      { required := ["filename"],
        optional := ["when", "interval", "backupCount", "encoding", "delay", "utc", "atTime", "errors"],
        demand := .schedule }),
   ("logging.handlers.SocketHandler", { required := ["host", "port"] }),
   ("logging.handlers.DatagramHandler", { required := ["host", "port"] }),
   ("logging.handlers.SysLogHandler", { optional := ["address", "facility", "socktype"], demand := .address }),
   ("logging.handlers.SMTPHandler",
      { required := ["mailhost", "fromaddr", "toaddrs", "subject"], optional := ["credentials", "secure", "timeout"],
        demand := .mail }),
   ("logging.handlers.NTEventLogHandler", { required := ["appname"], optional := ["dllname", "logtype"] }),
   ("logging.handlers.HTTPHandler",
      { required := ["host", "url"], optional := ["method", "secure", "credentials", "context"], demand := .method }),
   ("logging.handlers.BufferingHandler", { required := ["capacity"] }),
   (memoryHandler, { required := ["capacity"], optional := ["flushLevel", "target", "flushOnClose"] }),
   ("logging.handlers.QueueHandler", { required := ["queue"] })]

def others : List (String × Factory) :=
  [("logging.Formatter", formatter),
   ("logging.BufferingFormatter", { optional := ["linefmt"], makes := .plain }),
   ("logging.Filter", { optional := ["name"], makes := .plain, demand := .size }),
   ("logging.Filterer", { makes := .plain }),
   ("logging.Logger", { required := ["name"], optional := ["level"], makes := .leveled }),
   ("logging.RootLogger", { required := ["level"], makes := .leveled }),
   ("logging.LoggerAdapter", { required := ["logger"], optional := ["extra"], makes := .closed }),
   ("logging.Manager", { required := ["rootnode"], makes := .plain }),
   ("logging.PercentStyle", { required := ["fmt"], optional := ["defaults"], makes := .plain }),
   ("logging.StrFormatStyle", { required := ["fmt"], optional := ["defaults"], makes := .plain }),
   ("logging.StringTemplateStyle", { required := ["fmt"], optional := ["defaults"], makes := .plain }),
   ("builtins.Exception", { makes := .plain }),
   ("builtins.ValueError", { makes := .plain })]

def closed : List (String × Factory) :=
  (["dict", "list", "set", "tuple", "str", "bytes", "int", "float", "bool", "object", "complex", "frozenset",
    "bytearray"].map fun name => ("builtins." ++ name, { makes := .closed })) ++
  (["builtins.print", "logging.basicConfig", "logging.shutdown", "logging.getLoggerClass"].map fun name =>
    (name, { makes := .closed, isClass := false }))

def things : List String :=
  ["sys.stdin", "sys.stdout", "sys.stderr", "sys.__stdin__", "sys.__stdout__", "sys.__stderr__", "sys.path",
   "sys.argv", "sys.modules", "sys.flags", "sys.version_info", "sys.implementation", "sys.float_info", "sys.int_info",
   "sys.version", "sys.executable", "logging.root", "logging.lastResort", "os.environ"]

def constants : List (String × Value) :=
  [("logging.BASIC_FORMAT", .text "%(levelname)s:%(name)s:%(message)s"),
   ("logging.raiseExceptions", .bool true), ("logging.logThreads", .bool true),
   ("logging.logMultiprocessing", .bool true), ("logging.logProcesses", .bool true),
   ("logging.__name__", .text "logging"), ("logging.handlers.__name__", .text "logging.handlers"),
   ("sys.__name__", .text "sys"),
   ("logging.handlers.DEFAULT_TCP_LOGGING_PORT", .int 9020), ("logging.handlers.DEFAULT_UDP_LOGGING_PORT", .int 9021),
   ("logging.handlers.DEFAULT_HTTP_LOGGING_PORT", .int 9022), ("logging.handlers.DEFAULT_SOAP_LOGGING_PORT", .int 9023),
   ("logging.handlers.SYSLOG_UDP_PORT", .int 514), ("logging.handlers.SYSLOG_TCP_PORT", .int 514),
   ("sys.maxsize", .int 9223372036854775807), ("sys.maxunicode", .int 1114111), ("sys.byteorder", .text "little"),
   ("sys.platform", .text "linux"), ("os.sep", .text "/"), ("os.devnull", .text "/dev/null"), ("os.linesep", .text "\n"),
   ("os.name", .text "posix"), ("os.curdir", .text "."), ("os.pardir", .text ".."), ("os.pathsep", .text ":"),
   ("builtins.None", .null), ("builtins.True", .bool true), ("builtins.False", .bool false),
   ("builtins.Ellipsis", .ellipsis)]

def packages : List String :=
  ["logging", "json", "collections", "email", "http", "urllib", "importlib", "re", "asyncio", "concurrent", "unittest",
   "xml", "yaml", "tyinfer"]

def modules : List String :=
  ["logging.handlers", "logging.config", "sys", "os", "os.path", "io", "time", "builtins", "string", "math",
   "threading", "traceback", "warnings", "weakref", "queue", "socket", "struct", "copy", "datetime", "random", "types",
   "typing", "functools", "itertools", "operator", "pathlib", "ast", "abc", "enum", "argparse", "subprocess",
   "tempfile", "shutil", "pickle", "codecs", "contextlib", "dataclasses", "decimal", "fractions", "uuid", "hashlib",
   "textwrap", "base64", "csv", "glob", "inspect", "locale", "platform", "pprint", "select", "signal", "site", "stat",
   "atexit", "errno", "gc", "syslog", "unicodedata", "zlib"]

def aliases : List (String × String) :=
  [("logging.sys", "sys"), ("logging.os", "os"), ("logging.io", "io"), ("logging.re", "re"), ("logging.time", "time"),
   ("logging.threading", "threading"), ("logging.traceback", "traceback"), ("logging.warnings", "warnings"),
   ("logging.weakref", "weakref"), ("logging.collections", "collections"), ("logging.handlers.logging", "logging"),
   ("logging.handlers.os", "os"), ("logging.handlers.socket", "socket"), ("logging.handlers.queue", "queue"),
   ("os.sys", "sys")]

def find? (name : String) : Option Named :=
  if packages.contains name then some (.module true)
  else if modules.contains name then some (.module false)
  else if things.contains name then some .thing
  else
    match (handlers ++ others ++ closed).lookup name with
    | some f => some (.factory f)
    | none =>
        match constants.lookup name with
        | some v => some (.constant v)
        | none => (levels.find? fun s => "logging." ++ s.1 = name).map fun s => .constant (.int s.2)

end Catalogue

end Monotype.Log
