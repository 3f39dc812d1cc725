import ShortlinkCatalog.Log.Entry
import ShortlinkCatalog.Log.Timestamp
import ShortlinkCatalog.Text.Case
import ShortlinkCatalog.Text.Quoted

/-!
# Log output

The loggers of the program form a tree under one root, whose level they share.
Setting the output up gives it a level by name, in any case; a name that is unknown
stands for INFO, and a few names are taken and refused.  From then on records of at
least that level are written, one line each.  A level of zero leaves the choice to the
surrounding default, WARNING.
-/

namespace ShortlinkCatalog.Log

/-- The name of the root of the program's loggers. -/
def root : Text := "urlhero"

/-- The levels that can be asked for by name. -/
def namedLevels : List (Text × Level) :=
  [("DEBUG", Level.debug), ("INFO", Level.info), ("WARN", Level.warning),
    ("WARNING", Level.warning), ("ERROR", Level.error), ("CRITICAL", Level.critical),
    ("FATAL", Level.critical), ("NOTSET", 0)]

inductive LevelError
  | unknown (written : Text)
  | notALevel (shown : Text)
deriving DecidableEq, Repr

def LevelError.message : LevelError → Text
  | .unknown written => "Unknown level: " ++ Text.quoted written
  | .notALevel shown => "Level not an integer or a valid string: " ++ shown

/-- The name of the kind of error. -/
def LevelError.kind : LevelError → Text
  | .unknown _ => "ValueError"
  | .notALevel _ => "TypeError"

/-- The formats of lines that can be chosen from. -/
def lineFormats : Text :=
  "\x7b'%': (<class 'logging.PercentStyle'>, '%(levelname)s:%(name)s:%(message)s'), " ++
    "'\x7b': (<class 'logging.StrFormatStyle'>, " ++
    "'\x7blevelname\x7d:\x7bname\x7d:\x7bmessage\x7d'), " ++
    "'$': (<class 'logging.StringTemplateStyle'>, " ++
    "'$\x7blevelname\x7d:$\x7bname\x7d:$\x7bmessage\x7d')\x7d"

/-- Names that stand for something other than a level, and what is said of it. -/
def otherNames : List (Text × LevelError) :=
  [("BASIC_FORMAT", .unknown "%(levelname)s:%(name)s:%(message)s"),
    ("_STYLES", .notALevel lineFormats)]

/-- The level that a name asks for. -/
def levelNamed (name : Text) : Except LevelError Level :=
  let upper := Text.toUpper name
  match otherNames.lookup upper with
  | some error => .error error
  | none => .ok ((namedLevels.lookup upper).getD Level.info)

/-- The state of the output: its level, and whether it has been set up, before which
nothing is written to it. -/
structure Output where
  level : Level
  isSetUp : Bool
deriving DecidableEq, Repr

def Output.initial : Output := ⟨Level.info, false⟩

/-- Sets the output up; an unknown level changes nothing. -/
def Output.setUp (output : Output) (name : Text) : Except LevelError Unit × Output :=
  match levelNamed name with
  | .error error => (.error error, output)
  | .ok level => (.ok (), ⟨level, true⟩)

/-- Whether a logger belongs to the program. -/
def isOwn (logger : Text) : Bool :=
  logger == root || (Text.dropStart? (root ++ ".") logger).isSome

/-- The level below which nothing is written. -/
def Output.threshold (output : Output) : Level :=
  if output.level = 0 then Level.warning else output.level

def Output.writes (output : Output) (entry : Entry) : Bool :=
  output.isSetUp && isOwn entry.logger && 0 < entry.level && output.threshold ≤ entry.level

/-- The line of a record made at `seconds`. -/
def Entry.line (seconds : Int) (entry : Entry) : Text :=
  timestamp seconds ++ " [" ++ entry.level.name ++ "] " ++ entry.logger ++ " - "
    ++ entry.message ++ "\n"

/-- What is written of some records, all made at `seconds`. -/
def Output.write (output : Output) (seconds : Int) (entries : List Entry) : Text :=
  (entries.filter output.writes).flatMap (Entry.line seconds)

end ShortlinkCatalog.Log
