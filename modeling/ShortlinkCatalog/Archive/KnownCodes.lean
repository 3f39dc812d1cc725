import ShortlinkCatalog.Archive.Timemap
import ShortlinkCatalog.Shortener.Clean

/-!
# Archived shortcodes of a shortener

Every URL that the archive holds under the host of a shortener is cleaned as one
batch.  The URLs are the first cells of the rows; a row without cells and a cell that
is no text are errors of their own, met after the URLs before that cell.
-/

namespace ShortlinkCatalog.Archive

/-- One capture for each URL under the host. -/
def knownCodesOptions (settings : Settings) : TimemapOptions where
  collapse := some "original"
  fields := ["original"]
  matchPrefix := true
  limit := some settings.timemapLimit

inductive FetchError
  | failed (error : QueryError)
  | interrupted (cause : Interruption)
  | emptyRow
  | notText (typeName : Text)
  | unclean (error : CleanError)
deriving DecidableEq, Repr

def FetchError.message : FetchError → Text
  | .failed error => error.message
  | .interrupted cause => cause.message
  | .emptyRow => "list index out of range"
  | .notText typeName => "expected string or bytes-like object, got '" ++ typeName ++ "'"
  | .unclean error => error.message

def Unanswered.toFetchError : Unanswered → FetchError
  | .failed error => .failed error
  | .interrupted cause => .interrupted cause

/-- The first cell of each row. -/
def firstCells (rows : List Row) : Except FetchError (List Json) :=
  rows.mapM fun
    | [] => .error .emptyRow
    | cell :: _ => .ok cell

/-- The texts at the start of a list of cells, and the type of the first other cell. -/
def leadingTexts : List Json → List Text × Option Text
  | [] => ([], none)
  | .string text :: cells =>
      let (texts, other) := leadingTexts cells
      (text :: texts, other)
  | cell :: _ => ([], some cell.typeName)

/-- The ranked shortcodes of a list of cells, which have to be texts. -/
def cleanCells (shortener : Shortener) (cells : List Json) : Except FetchError (List Text) :=
  let (urls, other) := leadingTexts cells
  match shortener.cleanUrls urls, other with
  | .error error, _ => .error (.unclean error)
  | .ok _, some typeName => .error (.notText typeName)
  | .ok shortcodes, none => .ok shortcodes

/-- The ranked shortcodes in the captures of a shortener's host. -/
def codesOfRows (shortener : Shortener) (rows : List Row) : Except FetchError (List Text) :=
  match firstCells rows with
  | .error error => .error error
  | .ok cells => cleanCells shortener cells

/-- The ranked shortcodes of a shortener that the archive knows, and the report. -/
def knownCodes [Json.Room] {σ : Type} (send : Sender σ) (settings : Settings)
    (shortener : Shortener) (state : σ) : Except FetchError (List Text) × List Log.Entry × σ :=
  let (captured, state) :=
    timemap send settings shortener.host (knownCodesOptions settings) none state
  let log := capturesLog shortener.host captured
  match captured with
  | .error error => (.error error.toFetchError, log, state)
  | .ok captured =>
      let rows := captured.getD []
      match codesOfRows shortener rows with
      | .error error => (.error error, log, state)
      | .ok shortcodes =>
          (.ok shortcodes, log ++ [⟨"urlhero.services.archive_service", Log.Level.info,
            shortener.name ++ ": " ++ Text.ofNat shortcodes.length ++ " shortcodes from "
              ++ Text.ofNat rows.length ++ " archived URLs"⟩], state)

end ShortlinkCatalog.Archive
