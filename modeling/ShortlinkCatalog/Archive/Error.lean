import ShortlinkCatalog.Archive.Exchange
import ShortlinkCatalog.Json.Encoding

/-!
# Failed queries

A query to the archive fails because no reply came, because the reply has another
status than 200, or because its body cannot be understood.  What the query was for
is part of the message.
-/

namespace ShortlinkCatalog.Archive

/-- Why a table of captures cannot be had. -/
inductive TimemapFault
  | transport (kind message : Text)
  | status (code : Nat)
  | unreadable (error : Json.ReadError)
  | noTable
deriving DecidableEq, Repr

/-- Why a value holds no release identifiers. -/
inductive ListingFault
  /-- An object has no member of this name. -/
  | missingMember (name : Text)
  /-- A member was looked for in a null. -/
  | memberOfNull
  /-- A member was looked for in a value of this type that has none. -/
  | memberOfScalar (typeName : Text)
  | memberOfText
  | memberOfArray
  /-- A value of this type was taken for a list. -/
  | notAList (typeName : Text)
deriving DecidableEq, Repr

inductive ReleasesFault
  | transport (kind message : Text)
  | status (code : Nat)
  | unreadable (error : Json.ReadError)
  | malformed (fault : ListingFault)
deriving DecidableEq, Repr

inductive QueryError
  | timemap (url : Text) (fault : TimemapFault)
  | releases (fault : ReleasesFault)
deriving DecidableEq, Repr

/-- Why a question to the archive has no answer.  An interruption is no failure of the
archive. -/
inductive Unanswered
  | failed (error : QueryError)
  | interrupted (cause : Interruption)
deriving DecidableEq, Repr

def ListingFault.kind : ListingFault → Text
  | .missingMember _ => "KeyError"
  | _ => "TypeError"

def ListingFault.description : ListingFault → Text
  | .missingMember name => Text.quoted name
  | .memberOfNull => scalar "NoneType"
  | .memberOfScalar typeName => scalar typeName
  | .memberOfText => "string indices must be integers, not 'str'"
  | .memberOfArray => "list indices must be integers or slices, not str"
  | .notAList typeName => "'" ++ typeName ++ "' object is not iterable"
where
  scalar (typeName : Text) : Text := "'" ++ typeName ++ "' object is not subscriptable"

/-- The fault as its kind applied to its quoted description; the name of a member is
quoted once. -/
def ListingFault.detailed (fault : ListingFault) : Text :=
  let parts := match fault with
    | .missingMember _ => fault.description
    | _ => Text.quoted fault.description
  fault.kind ++ "(" ++ parts ++ ")"

def TimemapFault.message (url : Text) : TimemapFault → Text
  | .transport _ message => "timemap request for " ++ url ++ ": " ++ message
  | .status code => "timemap request for " ++ url ++ ": status " ++ Text.ofNat code
  | .unreadable error => "timemap for " ++ url ++ ": " ++ error.message
  | .noTable => "timemap for " ++ url ++ ": expected a list of rows"

def ReleasesFault.message : ReleasesFault → Text
  | .transport _ message => "release listing: " ++ message
  | .status code => "release listing: status " ++ Text.ofNat code
  | .unreadable error => "release listing: " ++ error.detailed
  | .malformed fault => "release listing: " ++ fault.detailed

def QueryError.message : QueryError → Text
  | .timemap url fault => "Archive query failed: " ++ fault.message url
  | .releases fault => "Archive query failed: " ++ fault.message

/-- The status of the reply, where that is what failed. -/
def QueryError.status? : QueryError → Option Nat
  | .timemap _ (.status code) | .releases (.status code) => some code
  | _ => none

/-- The name of the kind of error that made the query fail. -/
def QueryError.cause? : QueryError → Option Text
  | .timemap _ (.transport kind _) | .releases (.transport kind _) => some kind
  | .timemap _ (.unreadable error) | .releases (.unreadable error) => some error.kind
  | .releases (.malformed fault) => some fault.kind
  | _ => none

end ShortlinkCatalog.Archive
