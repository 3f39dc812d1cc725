import ShortlinkCatalog.Json.Encoding
import ShortlinkCatalog.Service.Response
import ShortlinkCatalog.Settings.Load
import ShortlinkCatalog.Text.Form

/-!
# Validation of requests

Two endpoints take input: a body with the URLs to clean, and a query that narrows a
catalog.  They take it as FastAPI documents it for a model and for query parameters.  A body
is JSON only if its media type says so, and a body that is not is validated as a text; what
is no JSON is a fault of the input at its position, and what cannot be decoded is refused as
a whole.  Of a query parameter that is given more than once the last value counts.  Values
are taken as Pydantic documents its conversions: a list and its members are not converted,
and the text of a query parameter stands for a whole number or for one of the words for a
truth value.  Every fault of the input is reported with its place and with the value that
was found there.
-/

namespace ShortlinkCatalog.Service

/-- A step to a place in the input. -/
inductive Step
  | member (name : Text)
  | item (position : Nat)
deriving DecidableEq, Repr

inductive InputFault
  | missing
  | notAnObject
  | notAList
  | notAText
  | tooMany (count : Nat)
  | notJson
  | setting (fault : Settings.Fault)
  | notPositive
  | notABool
deriving DecidableEq, Repr

/-- A fault, where it is and what was found there. -/
structure Invalid where
  place : List Step
  fault : InputFault
  found : Json
deriving Repr

/-- The most URLs that one batch may have. -/
def maxBatch : Nat := 10000

/-- The name of the kind of fault. -/
def InputFault.kind : InputFault → Text
  | .missing => "missing"
  | .notAnObject => "model_attributes_type"
  | .notAList => "list_type"
  | .notAText => "string_type"
  | .tooMany _ => "too_long"
  | .notJson => "json_invalid"
  | .setting fault => fault.kind
  | .notPositive => "greater_than_equal"
  | .notABool => "bool_parsing"

def InputFault.message : InputFault → Text
  | .missing => "Field required"
  | .notAnObject => "Input should be a valid dictionary or object to extract fields from"
  | .notAList => "Input should be a valid list"
  | .notAText => "Input should be a valid string"
  | .tooMany count =>
      "List should have at most " ++ Text.ofNat maxBatch ++ " items after validation, not "
        ++ Text.ofNat count
  | .notJson => "JSON decode error"
  | .setting fault => fault.message
  | .notPositive => "Input should be greater than or equal to 1"
  | .notABool => "Input should be a valid boolean, unable to interpret input"

def Step.json : Step → Json
  | .member name => .string name
  | .item position => .int position

def Invalid.json (invalid : Invalid) : Json :=
  Json.record [("type", .string invalid.fault.kind),
    ("loc", .array (invalid.place.map Step.json)),
    ("msg", .string invalid.fault.message), ("input", invalid.found)]

/-- Why input is not accepted.  A body that is taken for JSON but cannot be decoded, or
holds a number too long to read, has no place to point at. -/
inductive Refusal
  | invalid (faults : List Invalid)
  | unreadable
deriving Repr

def Refusal.response : Refusal → Response
  | .invalid faults =>
      .ofJson 422 (Json.record [("detail", .array (faults.map Invalid.json))])
  | .unreadable => .ofDetail 400 "There was an error parsing the body"

/-! ## Bodies -/

/-- Whether a media type is JSON or based on it. -/
def isJsonType (value : Text) : Bool :=
  let mediaType := (Text.trim Text.isBlank (Text.splitFirst ';' value).1).map Text.lowerAscii
  match Text.splitAll '/' mediaType with
  | [main, sub] =>
      main == "application"
        && (sub == "json" || ("+json" : Text).isSuffixOf sub)
  | _ => false

def bodyFault (place : List Step) (fault : InputFault) (found : Json) : Refusal :=
  .invalid [⟨.member "body" :: place, fault, found⟩]

/-- The value of a body; octets that are not meant as JSON are taken for a text. -/
def bodyValue [Json.Room] (request : Request) : Except Refusal Json :=
  if request.body.isEmpty then .error (bodyFault [] .missing .null)
  else if ((request.header? "content-type").map isJsonType).getD false then
    match Json.read request.body with
    | .ok value => .ok value
    | .error (.unreadable (.malformed _ position _ _)) =>
        .error (bodyFault [.item position] .notJson (.object []))
    | .error _ => .error .unreadable
  else .ok (.string (Utf8.decodeLossy request.body))

/-- The texts among some values from a position on, with the faults of the others. -/
def textsFrom (position : Nat) : List Json → List Text × List Invalid
  | [] => ([], [])
  | .string text :: values =>
      let (texts, faults) := textsFrom (position + 1) values
      (text :: texts, faults)
  | value :: values =>
      let (texts, faults) := textsFrom (position + 1) values
      (texts, ⟨[.member "body", .member "urls", .item position], .notAText, value⟩ :: faults)

/-- The URLs of a batch. -/
def batchOf (value : Json) : Except Refusal (List Text) :=
  match value with
  | .object members =>
      match Json.member? "urls" members with
      | none => .error (bodyFault [.member "urls"] .missing value)
      | some (.array items) =>
          if maxBatch < items.length then
            .error (bodyFault [.member "urls"] (.tooMany items.length) (.array items))
          else
            match textsFrom 0 items with
            | (texts, []) => .ok texts
            | (_, faults) => .error (.invalid faults)
      | some other => .error (bodyFault [.member "urls"] .notAList other)
  | _ => .error (bodyFault [] .notAnObject value)

def readBatch [Json.Room] (request : Request) : Except Refusal (List Text) :=
  (bodyValue request).bind batchOf

/-! ## Queries -/

/-- How a stored catalog is narrowed. -/
structure Narrowing where
  limit : Option Int
  includeVanity : Bool
deriving DecidableEq, Repr

def boolWords : List (Text × Bool) :=
  [("1", true), ("true", true), ("t", true), ("yes", true), ("y", true), ("on", true),
    ("0", false), ("false", false), ("f", false), ("no", false), ("n", false), ("off", false)]

def boolOf (text : Text) : Except InputFault Bool :=
  match boolWords.lookup (text.map Text.lowerAscii) with
  | some value => .ok value
  | none => .error .notABool

def limitOf (text : Text) : Except InputFault Int :=
  match Settings.integerOf text with
  | .error fault => .error (.setting fault)
  | .ok limit => if limit < 1 then .error .notPositive else .ok limit

/-- The value of a field, of which the last one counts, or its default. -/
def queryValue {α : Type} (fields : Form.Fields) (name : Text) (default : α)
    (read : Text → Except InputFault α) : α × List Invalid :=
  match fields.reverse.lookup name with
  | none => (default, [])
  | some text =>
      match read text with
      | .ok value => (value, [])
      | .error fault => (default, [⟨[.member "query", .member name], fault, .string text⟩])

def readNarrowing (request : Request) : Except Refusal Narrowing :=
  let fields := Form.decode request.query
  let (limit, limitFaults) := queryValue fields "limit" none fun text => (limitOf text).map some
  let (includeVanity, vanityFaults) := queryValue fields "include_vanity" true boolOf
  match limitFaults ++ vanityFaults with
  | [] => .ok ⟨limit, includeVanity⟩
  | faults => .error (.invalid faults)

end ShortlinkCatalog.Service
