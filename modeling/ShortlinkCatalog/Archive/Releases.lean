import ShortlinkCatalog.Archive.Timemap

/-!
# Releases of crawled shortcodes

The archive lists the releases of a distributed crawl of shorteners.  The listing is
read without a schema: its member `items` may be anything that counts as absent, or
a list of objects with an identifier of any type.  Other values end in the error that
taking them apart step by step meets first.
-/

namespace ShortlinkCatalog.Archive

def releaseParameters : Form.Fields :=
  [("q", "subject:terroroftinytown"), ("count", "10000")]

/-- The member of a value, which has to be an object. -/
def memberOf (name : Text) : Json → Except ListingFault Json
  | .object members =>
      match Json.member? name members with
      | some value => .ok value
      | none => .error (.missingMember name)
  | .null => .error .memberOfNull
  | .string _ => .error .memberOfText
  | .array _ => .error .memberOfArray
  | value => .error (.memberOfScalar value.typeName)

/-- The values that going through a value gives: the items of an array, the characters
of a text and the names of an object. -/
def elements : Json → Except ListingFault (List Json)
  | .array items => .ok items
  | .string text => .ok (text.map fun character => .string [character])
  | .object members => .ok (members.map fun member => .string member.1)
  | value => .error (.notAList value.typeName)

/-- The identifiers in a listing. -/
def identifiers (listing : Json) : Except ListingFault (List Json) := do
  let items ← memberOf "items" listing
  if items.isVoid then .ok []
  else (← elements items).mapM (memberOf "identifier")

/-- The identifiers in an outcome. -/
def releases [Json.Room] : Outcome → Except Unanswered (List Json)
  | .failure kind message => .error (.failed (.releases (.transport kind message)))
  | .interrupted cause => .error (.interrupted cause)
  | .reply reply =>
      if reply.status != 200 then .error (.failed (.releases (.status reply.status)))
      else
        match Json.read reply.body with
        | .error (.unreadable (.tooDeep container)) => .error (.interrupted (.tooDeep container))
        | .error error => .error (.failed (.releases (.unreadable error)))
        | .ok value =>
            match identifiers value with
            | .error fault => .error (.failed (.releases (.malformed fault)))
            | .ok identifiers => .ok identifiers

def releasesLog : Except Unanswered (List Json) → List Log.Entry
  | .ok identifiers => [⟨"urlhero.ia.scrape", Log.Level.info,
      "Found " ++ Text.ofNat identifiers.length ++ " tinytown releases"⟩]
  | .error _ => []

/-- Asks the archive for its releases. -/
def listReleases [Json.Room] {σ : Type} (send : Sender σ) (settings : Settings)
    (apiUrl : Option Text) (state : σ) : Except Unanswered (List Json) × σ :=
  let (outcome, state) := get send settings.userAgent (orDefault apiUrl settings.scrapeUrl)
    releaseParameters state
  (releases outcome, state)

/-- The address of the torrent of a release. -/
def torrentUrl (settings : Settings) (identifier : Text) (baseUrl : Option Text) : Text :=
  let base := Text.trimEnd (· == '/') (orDefault baseUrl settings.downloadUrl)
  base ++ "/" ++ identifier ++ "/" ++ identifier ++ "_archive.torrent"

end ShortlinkCatalog.Archive
