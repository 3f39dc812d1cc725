import ShortlinkCatalog.Archive.Error
import ShortlinkCatalog.Archive.Exchange
import ShortlinkCatalog.Log.Entry
import ShortlinkCatalog.Settings.Basic
import ShortlinkCatalog.Text.Blank

/-!
# Captures of a URL

The archive answers a query for the captures of a URL with a table: a list of rows
whose first is a header.  A blank body stands for a table without rows.  Anything
else is an error, so no row is lost silently.
-/

namespace ShortlinkCatalog.Archive

/-- What to ask for: whether neighbouring captures that agree on a field count once,
which fields to list, whether every URL that starts with the given one is meant, and
how many captures to give at most. -/
structure TimemapOptions where
  collapse : Option Text
  fields : List Text
  matchPrefix : Bool
  limit : Option Int
deriving DecidableEq, Repr

def TimemapOptions.none : TimemapOptions := ⟨.none, [], false, .none⟩

/-- The fields of the query for the captures of `url`. -/
def TimemapOptions.parameters (options : TimemapOptions) (url : Text) : Form.Fields :=
  let subject : Form.Fields := [("url", url), ("output", "json")]
  let fields : Form.Fields :=
    if options.fields.isEmpty then [] else [("fl", Text.join "," options.fields)]
  let collapse : Form.Fields := match options.collapse with
    | .none | .some [] => []
    | .some field => [("collapse", field)]
  let scope : Form.Fields := if options.matchPrefix then [("matchType", "prefix")] else []
  let limit : Form.Fields := match options.limit with
    | .none => []
    | .some limit => [("limit", Text.ofInt limit)]
  subject ++ fields ++ collapse ++ scope ++ limit

abbrev Row := List Json

/-- The rows of a value that is a list of lists. -/
def rows? : Json → Option (List Row)
  | .array items => items.mapM fun
      | .array cells => some cells
      | _ => Option.none
  | _ => Option.none

def isBlankBody (body : List UInt8) : Bool :=
  body.all fun octet => Text.isAsciiBlank (CodePoint.ofNat octet.toNat)

/-- The captures in an outcome, without the header; nothing for a blank body. -/
def captures [Json.Room] (url : Text) : Outcome → Except Unanswered (Option (List Row))
  | .failure kind message => .error (.failed (.timemap url (.transport kind message)))
  | .interrupted cause => .error (.interrupted cause)
  | .reply reply =>
      if reply.status != 200 then .error (.failed (.timemap url (.status reply.status)))
      else if isBlankBody reply.body then .ok Option.none
      else
        match Json.read reply.body with
        | .error (.unreadable (.tooDeep container)) => .error (.interrupted (.tooDeep container))
        | .error error => .error (.failed (.timemap url (.unreadable error)))
        | .ok value =>
            match rows? value with
            | Option.none => .error (.failed (.timemap url .noTable))
            | some rows => .ok (some (rows.drop 1))

/-- A table is reported with its size, a blank body and a failure are not. -/
def capturesLog (url : Text) : Except Unanswered (Option (List Row)) → List Log.Entry
  | .ok (some rows) => [⟨"urlhero.ia.timemap", Log.Level.info,
      "Timemap for " ++ url ++ ": " ++ Text.ofNat rows.length ++ " captures"⟩]
  | _ => []

/-- The address to ask, which is the configured one where none is given. -/
def orDefault (url : Option Text) (configured : Text) : Text :=
  match url with
  | .none | some [] => configured
  | some url => url

/-- Asks the archive for the captures of `url`. -/
def timemap [Json.Room] {σ : Type} (send : Sender σ) (settings : Settings) (url : Text)
    (options : TimemapOptions) (apiUrl : Option Text) (state : σ) :
    Except Unanswered (Option (List Row)) × σ :=
  let (outcome, state) := get send settings.userAgent (orDefault apiUrl settings.timemapUrl)
    (options.parameters url) state
  (captures url outcome, state)

end ShortlinkCatalog.Archive
