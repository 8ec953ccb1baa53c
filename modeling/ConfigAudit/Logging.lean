import ConfigAudit.Text.Capital
import ConfigAudit.Text.Quoted

/-! Log levels by name, and the handlers of the root logger. -/
namespace ConfigAudit.Logging

def levels : List (Text × Int) :=
  [("DEBUG", 10), ("INFO", 20), ("WARNING", 30), ("WARN", 30), ("ERROR", 40), ("CRITICAL", 50),
    ("FATAL", 50), ("NOTSET", 0)]

/-- Why a name gives no level although it is known: it stands for a text that names no level, or for
something that is neither a number nor a text. -/
inductive Misnomer where
  | unknownLevel (text : Text)
  | notALevel (shown : Text)
  deriving DecidableEq, Inhabited

def Misnomer.message : Misnomer → Text
  | unknownLevel text => "Unknown level: " ++ text.quoted
  | notALevel shown => "Level not an integer or a valid string: " ++ shown

/-- The styles of a log line, each with the form of a line in it. -/
def lineStyles : Text :=
  "\x7b'%': (<class 'logging.PercentStyle'>, '%(levelname)s:%(name)s:%(message)s'), " ++
    "'\x7b': (<class 'logging.StrFormatStyle'>, '\x7blevelname\x7d:\x7bname\x7d:\x7bmessage\x7d'), " ++
    "'$': (<class 'logging.StringTemplateStyle'>, '$\x7blevelname\x7d:$\x7bname\x7d:$\x7bmessage\x7d')\x7d"

/-- The names that are known, but not as levels. -/
def misnomers : List (Text × Misnomer) :=
  [("BASIC_FORMAT", .unknownLevel "%(levelname)s:%(name)s:%(message)s"),
    ("_STYLES", .notALevel lineStyles)]

/-- The level of a name in any case. A name that is not known stands for `INFO`. -/
def levelOf (name : Text) : Except Misnomer Int :=
  match levels.find? (·.1 = name.capitals), misnomers.find? (·.1 = name.capitals) with
  | some (_, level), _ => .ok level
  | none, some (_, misnomer) => .error misnomer
  | none, none => .ok 20

inductive HandlerKind where
  | stream
  | rotatingFile
  | other (name : Text)
  deriving DecidableEq, Inhabited

def HandlerKind.label : HandlerKind → Text
  | stream => "StreamHandler"
  | rotatingFile => "RotatingFileHandler"
  | other name => name

/-- A handler of a logger. Its number makes it another one than any that is like it in all else. The
application knows those that it has installed itself by a mark, whatever their kind is. -/
structure Handler where
  number : Nat
  kind : HandlerKind
  level : Int
  isOwn : Bool
  deriving DecidableEq, Inhabited

structure Logger where
  level : Int := 30
  handlers : List Handler := []
  deriving DecidableEq, Inhabited

namespace Logger

/-- No handler has this number or a larger one. -/
def freeNumber (l : Logger) : Nat := l.handlers.foldr (fun h n => max (h.number + 1) n) 0

/-- Adds a handler at the end, unless the logger has it. -/
def addHandler (h : Handler) (l : Logger) : Logger :=
  if h ∈ l.handlers then l else { l with handlers := l.handlers ++ [h] }

/-- Removes the first occurrence of a handler, if there is one. -/
def removeHandler (h : Handler) (l : Logger) : Logger := { l with handlers := l.handlers.erase h }

def removeIfOwn (l : Logger) (h : Handler) : Logger := if h.isOwn then l.removeHandler h else l

/-- Removes the handlers of an earlier run. The scan is over the handlers as they are before it. -/
def removeOwn (l : Logger) : Logger := l.handlers.foldl removeIfOwn l

/-- Sets the level and puts a new console and a new file handler in place of those of an earlier
run. -/
def install (level : Int) (l : Logger) : Logger :=
  { l with level }.removeOwn
    |>.addHandler ⟨l.freeNumber, .stream, level, true⟩
    |>.addHandler ⟨l.freeNumber + 1, .rotatingFile, level, true⟩

/-- Installs the handlers at the level of a name, if it has one. -/
def configure (levelName : Text) (l : Logger) : Except Misnomer Logger :=
  (levelOf levelName).map fun level => l.install level

/-- The handlers with the mark. -/
def own (l : Logger) : List Handler := l.handlers.filter (·.isOwn)

/-- The own handlers, with their kinds and levels. -/
def installed (l : Logger) : List (HandlerKind × Int) := l.own.map fun h => (h.kind, h.level)

end Logger
end ConfigAudit.Logging
