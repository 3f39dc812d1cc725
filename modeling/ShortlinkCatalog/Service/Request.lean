import ShortlinkCatalog.Text.Blank
import ShortlinkCatalog.Text.Percent

/-!
# Requests to the service

A request is kept as it was sent: its path is percent-encoded, its query is
form-encoded and its headers are in order.  Where it comes from has two answers.  For
the report it is what proxies have noted, for the limits it is the peer alone, since
a client may note anything.
-/

namespace ShortlinkCatalog

abbrev Headers := List (Text × Text)

/-- The first header with a name, whose case does not count. -/
def Headers.get? (headers : Headers) (name : Text) : Option Text :=
  (headers.find? fun header => header.1.map Text.lowerAscii == name).map (·.2)

namespace Service

structure Request where
  method : Text
  path : Text
  query : Text
  headers : Headers
  peer : Option Text
  body : List UInt8
deriving DecidableEq, Repr

/-- The address that a request is reported with. -/
def clientAddress (headers : Headers) (peer : Option Text) : Text :=
  match headers.get? "x-forwarded-for" with
  | some (first :: rest) =>
      Text.trim Text.isBlank (Text.splitFirst ',' (first :: rest)).1
  | _ => peer.getD "unknown"

namespace Request

def header? (request : Request) (name : Text) : Option Text := request.headers.get? name

/-- The path without percent escapes. -/
def decodedPath (request : Request) : Text := Percent.decode request.path

def clientAddress (request : Request) : Text :=
  Service.clientAddress request.headers request.peer

/-- The address that limits count by; a peer without one is the local machine. -/
def limitAddress (request : Request) : Text :=
  match request.peer with
  | none | some [] => "127.0.0.1"
  | some address => address

/-- The host that the request is meant for. -/
def host (request : Request) : Text := (request.header? "host").getD "testserver"

end Request

end Service

end ShortlinkCatalog
