import ShortlinkCatalog.Address.Redirect
import ShortlinkCatalog.Json.Parser

/-!
# Exchanges with the archive

A request is answered by a reply, or fails before there is one.  The archive is any
function from requests to outcomes that may keep a state, so a recorded script and a
fixed map from hosts to replies are both archives.  An exchange follows redirects.
-/

namespace ShortlinkCatalog.Archive

/-- A request to read what is at an address. -/
structure Request where
  address : Address
  userAgent : Text
deriving DecidableEq, Repr

structure Reply where
  status : Nat
  location : Option Text
  body : List UInt8
deriving DecidableEq, Repr

/-- What ends an exchange although the archive did not fail: an address that cannot be
requested or that has no scheme to file a reply under, a reply that is nested too
deeply, or an address that the sender refuses. -/
inductive Interruption
  | address (obstacle : Address.Obstacle)
  | untyped (text : Text)
  | tooDeep (container : Json.Container)
  | refused (message : Text)
deriving DecidableEq, Repr

def Interruption.message : Interruption → Text
  | .address obstacle => obstacle.message
  | .untyped text => "unknown url type: " ++ Text.quoted text
  | .tooDeep container => (Json.ParseError.tooDeep container).message
  | .refused message => message

/-- The name of the kind of error. -/
def Interruption.kind : Interruption → Text
  | .address obstacle => obstacle.kind
  | .untyped _ => "ValueError"
  | .tooDeep _ => "RecursionError"
  | .refused _ => "InvalidURL"

/-- How a request ended.  A failure has the name of its kind and a message. -/
inductive Outcome
  | reply (reply : Reply)
  | failure (kind message : Text)
  | interrupted (cause : Interruption)
deriving DecidableEq, Repr

/-- An archive with states in `σ`. -/
abbrev Sender (σ : Type) := Request → σ → Outcome × σ

/-- The address that a reply redirects to. -/
def Reply.redirect? (reply : Reply) : Option Text :=
  if [301, 302, 303, 307, 308].contains reply.status then reply.location else none

/-- Whether the text of an address, up to its last number sign, starts with a scheme. -/
def isTyped (address : Text) : Bool :=
  let place := match Text.splitLast '#' address with
    | (some place, _) => place
    | (none, place) => place
  let (scheme, rest) := Text.splitFirst ':' place
  rest.isSome && !scheme.isEmpty && !scheme.contains '/'

/-- What comes after a reply: the end of the exchange, or a request for another address. -/
inductive Next
  | done (outcome : Outcome)
  | goTo (address : Address)
deriving DecidableEq, Repr

/-- What comes after a reply from an address. -/
def Reply.next (reply : Reply) (address : Address) : Next :=
  if !isTyped address.render then
    .done (.interrupted (.untyped (Text.dropOneEnd '#' address.render)))
  else
    match reply.redirect? with
    | none => .done (.reply reply)
    | some location =>
        match Address.parse location with
        | .error error => .done (.failure "RemoteProtocolError"
            ("Invalid URL in location header: " ++ error.message ++ "."))
        | .ok target =>
            match address.redirect target with
            | .error obstacle => .done (.interrupted (.address obstacle))
            | .ok address => .goTo address

def tooManyRedirects : Outcome :=
  .failure "TooManyRedirects" "Exceeded maximum allowed redirects."

/-- Sends a request and follows up to `redirects` redirects. -/
def follow {σ : Type} (send : Sender σ) (redirects : Nat) (request : Request) (state : σ) :
    Outcome × σ :=
  match send request state with
  | (.reply reply, state) =>
      match reply.next request.address with
      | .done outcome => (outcome, state)
      | .goTo address =>
          match redirects with
          | 0 => (tooManyRedirects, state)
          | left + 1 => follow send left { request with address } state
  | answer => answer

def maxRedirects : Nat := 20

/-- The address to request for what is at `url`, with the given fields as its query. -/
def addressOf (url : Text) (fields : Form.Fields) : Except Address.Obstacle Address := do
  let address ← (Address.parse url).mapError .invalid
  let address ← (Address.below .empty address).mapError .invalid
  match Form.fault? fields with
  | some error => throw (.unencodable error)
  | none => ((address.withFields fields).mapError .invalid).bind Address.requestable

/-- Asks for what is at `url` with the given fields as its query. -/
def get {σ : Type} (send : Sender σ) (userAgent url : Text) (fields : Form.Fields) (state : σ) :
    Outcome × σ :=
  match addressOf url fields with
  | .error obstacle => (.interrupted (.address obstacle), state)
  | .ok address => follow send maxRedirects ⟨address, userAgent⟩ state

end ShortlinkCatalog.Archive
