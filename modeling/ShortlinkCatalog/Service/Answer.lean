import ShortlinkCatalog.Archive.Releases
import ShortlinkCatalog.Catalog.Refresh
import ShortlinkCatalog.Service.Basic
import ShortlinkCatalog.Service.Endpoint
import ShortlinkCatalog.Service.Validation

/-!
# Answers

A call is an endpoint with its validated input.  Answering it gives a response, what
was reported and the next state; refreshing all catalogs also gives the shorteners
whose refresh is left for later.  Some errors have no response of their own: they are
failures of the service.  Reading a catalog takes two statements, so its answer is a
function of their two results, which need not come from one state.
-/

namespace ShortlinkCatalog.Service

inductive Call
  | about
  | health
  | shorteners
  | clean (name : Text) (urls : List Text)
  | refresh (name : Text)
  | refreshAll
  | shortcodes (name : Text) (narrowing : Narrowing)
  | releases
deriving DecidableEq, Repr

/-- Reads the input of an endpoint. -/
def Endpoint.read [Json.Room] (endpoint : Endpoint) (request : Request) : Except Refusal Call :=
  match endpoint with
  | .about => .ok .about
  | .health => .ok .health
  | .shorteners => .ok .shorteners
  | .clean name => (readBatch request).map (.clean name)
  | .refresh name => .ok (.refresh name)
  | .refreshAll => .ok .refreshAll
  | .shortcodes name => (readNarrowing request).map (.shortcodes name)
  | .releases => .ok .releases

/-- An error that no endpoint has a response for. -/
inductive Failure
  | fetch (error : Archive.FetchError)
  | listing (cause : Archive.Interruption)
  | read (fault : Catalog.ReadFault)
  | identifier (typeName : Text)
  | unsendable
deriving DecidableEq, Repr

/-! ## Responses to calls -/

def aboutResponse : Response :=
  .ofJson 200 (Json.record [("message", .string "urlhero"),
    ("version", .string "1.0.0"), ("docs", .string "/docs")])

def healthResponse : Response :=
  .ofJson 200 (Json.record [("status", .string "healthy")])

/-- What is told about a shortener. -/
def shortenerJson (shortener : Shortener) : Json :=
  Json.record [("name", .string shortener.name), ("host", .string shortener.host),
    ("prefix", .string shortener.baseUrl), ("alphabet", .string shortener.alphabet),
    ("pattern", match shortener.pattern with
      | none => .null
      | some pattern => .string pattern.text),
    ("has_clean_func", .bool shortener.hook.isSome),
    ("has_vanity_func", .bool shortener.vanity.isSome)]

def shortenersResponse (registry : Registry) : Response :=
  .ofJson 200 (.array (registry.shorteners.map shortenerJson))

/-- A cleaned shortcode with its vanity flag. -/
def entryJson (shortener : Shortener) (shortcode : Text) : Json :=
  Json.record [("shortcode", .string shortcode),
    ("is_vanity", .bool (shortener.isVanity shortcode))]

def cleanResponse (shortener : Shortener) (urls : List Text) : Response :=
  match shortener.cleanUrls urls with
  | .ok shortcodes =>
      .ofJson 200 (Json.record [("shortener", .string shortener.name),
        ("shortcodes", .array (shortcodes.map (entryJson shortener)))])
  | .error (.malformed error) => .ofDetail 400 error.message
  | .error (.mismatch error) => .ofDetail 422 error.message

def refreshedResponse (shortener : Shortener) (count : Nat) : Response :=
  .ofJson 200 (Json.record [("shortener", .string shortener.name), ("count", .int count)])

/-- A refresh whose failure is the fault of the service is reported, one whose failure
is the fault of the archive is not. -/
def refreshOutcome (shortener : Shortener) (result : Except Catalog.RefreshError Nat) :
    Except Failure Response × List Log.Entry :=
  match result with
  | .ok count => (.ok (refreshedResponse shortener count), [])
  | .error (.fetch (.failed error)) => (.ok (.ofDetail 502 error.message), [])
  | .error (.fetch (.unclean error)) =>
      (.ok (.ofDetail 500 error.message), [report error.message])
  | .error (.store error) =>
      (.ok (.ofDetail 500 error.message), [report error.message])
  | .error (.fetch error) => (.error (.fetch error), [])
where
  report (message : Text) : Log.Entry :=
    ⟨"urlhero.api.endpoints", Log.Level.error,
      "Refresh of " ++ shortener.name ++ " failed: " ++ message⟩

def scheduledResponse (registry : Registry) : Response :=
  .ofJson 202 (Json.record [("scheduled", .array (registry.names.map .string))])

/-- A stored shortcode as it is told. -/
def rowJson (fetchedAt : Text) (row : CatalogRow) : Json :=
  Json.record [("shortcode", match row.shortcode with
      | none => .null
      | some shortcode => .string shortcode),
    ("rank", .int row.rank), ("is_vanity", .bool row.isVanity),
    ("fetched_at", .string fetchedAt)]

/-- The answer made of the rows that one statement gave and the number that another
gave. -/
def catalogOutcome (fetchedAt name : Text) (rows : Except Catalog.ReadFault (List CatalogRow))
    (total : Except Catalog.ReadFault Nat) : Except Failure Response :=
  match rows, total with
  | .error fault, _ => .error (.read fault)
  | .ok _, .error fault => .error (.read fault)
  | .ok rows, .ok total =>
      .ok (.ofJson 200 (Json.record [("shortener", .string name), ("total", .int total),
        ("shortcodes", .array (rows.map (rowJson fetchedAt)))]))

/-- The identifiers that are texts; the first other one has its type named. -/
def identifierTexts : List Json → Except Text (List Text)
  | [] => .ok []
  | .string text :: values => (identifierTexts values).map (text :: ·)
  | value :: _ => .error value.typeName

def releasesOutcome (settings : Settings) (listed : Except Archive.Unanswered (List Json)) :
    Except Failure Response :=
  match listed with
  | .error (.failed error) => .ok (.ofDetail 502 error.message)
  | .error (.interrupted cause) => .error (.listing cause)
  | .ok identifiers =>
      match identifierTexts identifiers with
      | .error typeName => .error (.identifier typeName)
      | .ok texts =>
          .ok (.ofJson 200 (Json.record [("count", .int texts.length),
            ("identifiers", .array (texts.map .string)),
            ("torrent_urls", .array (texts.map fun text =>
              .string (Archive.torrentUrl settings text none)))]))

/-! ## Answering -/

/-- The answer to a call.  `scheduled` are the shorteners to refresh after it. -/
structure Answer (σ : Type) where
  outcome : Except Failure Response
  log : List Log.Entry
  state : State σ
  scheduled : List Shortener

variable {σ : Type} [Json.Room] [Catalog.Annotations]

/-- An answer that changes nothing. -/
def Answer.pure (state : State σ) (outcome : Except Failure Response) : Answer σ :=
  ⟨outcome, [], state, []⟩

/-- Answers for the shortener with a name, if there is one. -/
def withShortener (service : Service σ) (state : State σ) (name : Text)
    (answer : Shortener → Answer σ) : Answer σ :=
  match service.registry.get name with
  | .error error => .pure state (.ok (.ofDetail 404 error.message))
  | .ok shortener => answer shortener

def answerRefresh (service : Service σ) (state : State σ) (shortener : Shortener) : Answer σ :=
  let refreshed := Catalog.refresh service.send service.settings shortener state.archive
    state.database
  let (outcome, log) := refreshOutcome shortener refreshed.result
  ⟨outcome, refreshed.log ++ log,
    { state with database := refreshed.database, archive := refreshed.archive }, []⟩

def answerReleases (service : Service σ) (state : State σ) : Answer σ :=
  let (listed, archive) :=
    Archive.listReleases service.send service.settings none state.archive
  ⟨releasesOutcome service.settings listed, Archive.releasesLog listed,
    { state with archive }, []⟩

def answer (service : Service σ) (state : State σ) : Call → Answer σ
  | .about => .pure state (.ok aboutResponse)
  | .health => .pure state (.ok healthResponse)
  | .shorteners => .pure state (.ok (shortenersResponse service.registry))
  | .clean name urls => service.withShortener state name fun shortener =>
      .pure state (.ok (cleanResponse shortener urls))
  | .refresh name => service.withShortener state name (service.answerRefresh state)
  | .refreshAll =>
      ⟨.ok (scheduledResponse service.registry), [], state, service.registry.shorteners⟩
  | .shortcodes name narrowing => service.withShortener state name fun shortener =>
      .pure state (catalogOutcome service.clock.fetchedAt shortener.name
        (Catalog.select state.database shortener.name narrowing.limit narrowing.includeVanity)
        (Catalog.count state.database shortener.name))
  | .releases => service.answerReleases state

end ShortlinkCatalog.Service
