import ShortlinkCatalog.Json.Basic
import ShortlinkCatalog.Service.Request

/-!
# Responses of the service

A response is a status, headers and a content, which is nothing, a text or a JSON
value.  The header with the type of the content is set when the response is made, so
it stays when the content itself is not sent.
-/

namespace ShortlinkCatalog.Service

inductive Content
  | empty
  | text (value : Text)
  | json (value : Json)
deriving Repr

structure Response where
  status : Nat
  headers : Headers
  content : Content
deriving Repr

namespace Response

def ofJson (status : Nat) (value : Json) : Response :=
  ⟨status, [("content-type", "application/json")], .json value⟩

def ofText (status : Nat) (value : Text) : Response :=
  ⟨status, [("content-type", "text/plain; charset=utf-8")], .text value⟩

/-- A response whose content says what went wrong. -/
def ofDetail (status : Nat) (detail : Text) : Response :=
  ofJson status (Json.record [("detail", .string detail)])

def withHeaders (response : Response) (headers : Headers) : Response :=
  { response with headers := response.headers ++ headers }

/-- Whether the content can be written; a number that is not finite and a
text with a surrogate cannot. -/
def isSendable (response : Response) : Bool :=
  match response.content with
  | .json value => value.isSendable
  | _ => true

def header? (response : Response) (name : Text) : Option Text := response.headers.lookup name

end Response

end ShortlinkCatalog.Service
