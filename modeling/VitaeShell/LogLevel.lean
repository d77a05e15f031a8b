import VitaeShell.Yaml.Datum

/-!
# The level of notices

The level from which on notices are shown, as a setting names it. Names are taken as they are
written. Among the names that are not levels, a few are reserved for other things, and asking for
one of them is a fault; any other name leaves the default.
-/

namespace VitaeShell.LogLevel

/-- The level that holds before the settings are read, and where a name means nothing. -/
def default : Nat := 30

/-- The levels by name. -/
def levels : List (String × Nat) :=
  [("CRITICAL", 50), ("FATAL", 50), ("ERROR", 40), ("WARNING", 30), ("WARN", 30), ("INFO", 20),
    ("DEBUG", 10), ("NOTSET", 0), ("raiseExceptions", 1), ("logThreads", 1), ("logProcesses", 1),
    ("logMultiprocessing", 1)]

/-- The names reserved for texts. -/
def reservedTexts : List String :=
  ["BASIC_FORMAT", "__author__", "__cached__", "__date__", "__doc__", "__file__", "__name__",
    "__package__", "__status__", "__version__", "_srcfile"]

/-- The names reserved for functions and other things. -/
def reservedNames : List String :=
  ["BufferingFormatter", "FileHandler", "Filter", "Filterer", "Formatter", "GenericAlias",
    "Handler", "LogRecord", "Logger", "LoggerAdapter", "Manager", "NullHandler", "PercentStyle",
    "PlaceHolder", "RootLogger", "StrFormatStyle", "StreamHandler", "StringTemplateStyle",
    "Template", "_STYLES", "_StderrHandler", "__all__", "__annotations__", "__builtins__",
    "__class__", "__delattr__", "__dict__", "__dir__", "__eq__", "__format__", "__ge__",
    "__getattribute__", "__getstate__", "__gt__", "__hash__", "__init__", "__init_subclass__",
    "__le__", "__loader__", "__lt__", "__ne__", "__new__", "__path__", "__reduce__",
    "__reduce_ex__", "__repr__", "__setattr__", "__sizeof__", "__spec__", "__str__",
    "__subclasshook__", "_acquireLock", "_addHandlerRef", "_after_at_fork_child_reinit_locks",
    "_at_fork_reinit_lock_weakset", "_checkLevel", "_defaultFormatter", "_defaultLastResort",
    "_handlerList", "_handlers", "_is_internal_frame", "_levelToName", "_lock",
    "_logRecordFactory", "_loggerClass", "_nameToLevel", "_register_at_fork_reinit_lock",
    "_releaseLock", "_removeHandlerRef", "_showwarning", "_startTime", "_str_formatter",
    "addLevelName", "atexit", "basicConfig", "captureWarnings", "collections", "critical",
    "currentframe", "debug", "disable", "error", "exception", "fatal", "getLevelName",
    "getLevelNamesMapping", "getLogRecordFactory", "getLogger", "getLoggerClass", "info", "io",
    "lastResort", "log", "makeLogRecord", "os", "re", "root", "setLogRecordFactory",
    "setLoggerClass", "shutdown", "sys", "threading", "time", "traceback", "warn", "warning",
    "warnings", "weakref"]

/-- Why a setting gives no level. -/
inductive Fault where
  /-- The setting is no text, or names something that is neither a number nor a text. -/
  | notALevel
  /-- The setting names a text that is no level. -/
  | unknownLevel
deriving DecidableEq, Repr

/-- The level that a name stands for. -/
def ofName (name : String) : Except Fault Nat :=
  match levels.lookup name with
  | some level => .ok level
  | none =>
    if reservedTexts.contains name then .error .unknownLevel
    else if reservedNames.contains name then .error .notALevel
    else .ok default

/-- The level that a setting stands for. -/
def ofSetting : Yaml.Datum → Except Fault Nat
  | .text name => ofName name
  | _ => .error .notALevel

end VitaeShell.LogLevel
