import ShortlinkCatalog.Text.Basic

/-!
# Log entries

What the library reports goes to a named logger at a level.  Levels are numbers, of
which the usual ones have names; a record of any other number is named after it.
-/

namespace ShortlinkCatalog.Log

abbrev Level := Int

namespace Level

def debug : Level := 10
def info : Level := 20
def warning : Level := 30
def error : Level := 40
def critical : Level := 50

def name (level : Level) : Text :=
  if level = 0 then "NOTSET"
  else if level = debug then "DEBUG"
  else if level = info then "INFO"
  else if level = warning then "WARNING"
  else if level = error then "ERROR"
  else if level = critical then "CRITICAL"
  else "Level " ++ Text.ofInt level

end Level

structure Entry where
  logger : Text
  level : Level
  message : Text
deriving DecidableEq, Repr

end ShortlinkCatalog.Log
