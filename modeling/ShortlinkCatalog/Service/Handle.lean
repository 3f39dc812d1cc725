import ShortlinkCatalog.Service.Answer
import ShortlinkCatalog.Service.CrossOrigin

/-!
# Handling requests

A request is routed, its input is read, its client is admitted, and then its call is
answered: each step only if the one before it succeeded, so a request that is not
understood does not count for a limit.  Every response but that to a failure of the
service is reported and shared with its origin.  Refreshes that were left for later
run after the report, in the order of the registry.
-/

namespace ShortlinkCatalog.Service

variable {σ : Type} [Json.Room] [Catalog.Annotations]

/-- Characters that stand for themselves in a header with a URL. -/
def isLocationCharacter (character : CodePoint) : Bool :=
  Text.isAsciiLetter character || Text.isAsciiDigit character
    || ("_.-~:/%#?=@[]!$&'()*+,;" : Text).contains character

/-- Escapes the characters of a path that would end it, and the backslash. -/
def escapeMarks : Text → Text :=
  Percent.encode fun character => !("?#\x5c" : Text).contains character

/-- A redirect to another path of the same host. -/
def movedResponse (request : Request) (path : Text) : Response :=
  let query : Text := if request.query.isEmpty then [] else "?" ++ request.query
  let location := "http://" ++ request.host ++ escapeMarks path ++ query
  ⟨307, [("location", Percent.encode isLocationCharacter location)], .empty⟩

def limitedResponse (limit : Nat) : Response :=
  .ofJson 429 (Json.record
    [("error", .string ("Rate limit exceeded: " ++ Text.ofNat limit ++ " per 1 minute"))])

def failureResponse : Response := .ofText 500 "Internal Server Error"

/-- Lets a request in to an endpoint, or gives the limit that is reached. -/
def checkLimit (window : Window) (request : Request) (endpoint : Endpoint) : Except Nat Window :=
  match endpoint.limit? with
  | none => .ok window
  | some limit =>
      match window.enter limit ⟨request.limitAddress, request.decodedPath⟩ with
      | (true, window) => .ok window
      | (false, _) => .error limit

/-- Answers a request. -/
def serve (service : Service σ) (state : State σ) (request : Request) : Answer σ :=
  match route request.method request.decodedPath with
  | .unknown => .pure state (.ok (.ofDetail 404 "Not Found"))
  | .moved path => .pure state (.ok (movedResponse request path))
  | .otherMethod allowed => .pure state
      (.ok ((Response.ofDetail 405 "Method Not Allowed").withHeaders [("allow", allowed)]))
  | .endpoint endpoint =>
      match endpoint.read request with
      | .error refusal => .pure state (.ok refusal.response)
      | .ok call =>
          match checkLimit state.window request endpoint with
          | .error limit => .pure state (.ok (limitedResponse limit))
          | .ok window => service.answer { state with window } call

/-- A response that can be sent. -/
def sendable : Except Failure Response → Except Failure Response
  | .error failure => .error failure
  | .ok response => if response.isSendable then .ok response else .error .unsendable

/-- The path as it is reported: without tabs and line ends. -/
def reportedPath (path : Text) : Text :=
  (escapeMarks path).filter fun character => !("\t\n\r" : Text).contains character

def accessEntry (service : Service σ) (request : Request) (response : Response) : Log.Entry :=
  ⟨"urlhero.access", Log.Level.info,
    request.method ++ " " ++ reportedPath request.decodedPath ++ " "
      ++ Text.ofNat response.status ++ " " ++ service.clock.elapsed ++ "ms IP:"
      ++ request.clientAddress⟩

/-- The response as it is sent: with the time it took, for its origin, and without
content if only headers were asked for. -/
def dressed (service : Service σ) (request : Request) (response : Response) : Response :=
  let response := CrossOrigin.share request
    (response.withHeaders [("x-process-time", service.clock.elapsed)])
  if request.method == "HEAD" then { response with content := .empty } else response

/-- Refreshes the catalogs of some shorteners one after the other. -/
def refreshEach (service : Service σ) (state : State σ) :
    List Shortener → List Log.Entry × State σ
  | [] => ([], state)
  | shortener :: shorteners =>
      let refreshed := Catalog.refreshInBackground service.send service.settings shortener
        state.archive state.database
      let (log, state) := service.refreshEach
        { state with database := refreshed.database, archive := refreshed.archive } shorteners
      (refreshed.log ++ log, state)

/-- What a request leaves behind. -/
structure Handled (σ : Type) where
  response : Response
  log : List Log.Entry
  state : State σ

def handle (service : Service σ) (state : State σ) (request : Request) : Handled σ :=
  match CrossOrigin.leave? request with
  | some response => ⟨response, [], state⟩
  | none =>
      let answer := service.serve state request
      match sendable answer.outcome with
      | .error _ => ⟨failureResponse, answer.log, answer.state⟩
      | .ok response =>
          let (log, state) := service.refreshEach answer.state answer.scheduled
          ⟨service.dressed request response,
            answer.log ++ service.accessEntry request response :: log, state⟩

end ShortlinkCatalog.Service
