import ShortlinkCatalog.Proofs.Archive.Releases
import ShortlinkCatalog.Proofs.Service.TwoRoutes

/-!
# Answers to a request for releases

A listing whose identifiers are texts that can be encoded is answered with them and with a
torrent for each, and a query that failed is answered with what went wrong.  The service
itself fails where the archive named a release by something else, where a text cannot be
encoded, and where the exchange was broken off.
-/

namespace ShortlinkCatalog.Service

open Archive (Outcome ListsReleases BrokenOff torrentUrl)

variable {σ : Type} {settings : Settings} {outcome : Outcome} {found : List Json}
  {texts : List Text}

/-- What is told of releases with these identifiers. -/
def releasesResponse (settings : Settings) (texts : List Text) : Response :=
  .ofJson 200 (Json.record [("count", .int texts.length),
    ("identifiers", .array (texts.map .string)),
    ("torrent_urls", .array (texts.map fun text => .string (torrentUrl settings text none)))])

/-- A response with the identifiers and the torrents of releases, or with a detail. -/
def IsListing (settings : Settings) (response : Response) : Prop :=
  (∃ texts, Tells response (releasesResponse settings texts)) ∨
    ∃ detail, Tells response (.ofDetail 502 detail)

/-- Outcomes that the service fails for. -/
inductive FailsFor [Json.Room] (settings : Settings) (outcome : Outcome) : Prop
  | brokenOff (hbroken : BrokenOff outcome)
  | notText {found : List Json} {identifier : Json} (hlists : ListsReleases outcome found)
      (hmem : identifier ∈ found) (htext : ∀ text, identifier ≠ .string text)
  | unwritable {texts : List Text} {text : Text}
      (hlists : ListsReleases outcome (texts.map .string)) (hmem : text ∈ texts)
      (hurl : (torrentUrl settings text none).isEncodable = false)
  | unwritableFailure {kind message : Text} (hfailure : outcome = .failure kind message)
      (hmessage : message.isEncodable = false)

theorem not_isListing_failureResponse : ¬ IsListing settings failureResponse := by
  rintro (⟨texts, -, hcontent⟩ | ⟨detail, -, hcontent⟩) <;> cases hcontent

theorem isListing_congr {response other : Response} (htells : Tells response other) :
    IsListing settings response ↔ IsListing settings other := by
  simp only [IsListing, Tells, htells.1, htells.2]

/-! ## Identifiers -/

theorem identifierTexts_map_string (texts : List Text) :
    identifierTexts (texts.map .string) = .ok texts := by
  induction texts with
  | nil => rfl
  | cons text texts ih =>
      rw [List.map_cons, identifierTexts, ih]
      rfl

theorem identifierTexts_append (texts : List Text) {identifier : Json} (after : List Json)
    (htext : ∀ text, identifier ≠ .string text) :
    identifierTexts (texts.map .string ++ identifier :: after) = .error identifier.typeName := by
  induction texts with
  | nil =>
      cases identifier with
      | string text => exact absurd rfl (htext text)
      | _ => rfl
  | cons text texts ih =>
      rw [List.map_cons, List.cons_append, identifierTexts, ih]
      rfl

/-- The identifiers are told only if they are all texts. -/
theorem releasesOutcome_of_texts (settings : Settings) (texts : List Text) :
    releasesOutcome settings (.ok (texts.map .string)) = .ok (releasesResponse settings texts) := by
  simp only [releasesOutcome, identifierTexts_map_string]
  rfl

theorem releasesOutcome_of_not_text {identifier : Json} (hmem : identifier ∈ found)
    (htext : ∀ text, identifier ≠ .string text) :
    ∃ failure, releasesOutcome settings (.ok found) = .error failure := by
  obtain ⟨texts, rfl | ⟨other, after, rfl, hother⟩⟩ := Archive.exists_leading_texts found
  · obtain ⟨text, -, rfl⟩ := List.mem_map.mp hmem
    exact absurd rfl (htext text)
  · refine ⟨.identifier other.typeName, ?_⟩
    simp only [releasesOutcome, identifierTexts_append texts after hother]

/-- A release with a torrent that can be written down has such an identifier. -/
theorem isEncodable_of_torrentUrl {text : Text}
    (hurl : (torrentUrl settings text none).isEncodable = true) : text.isEncodable = true := by
  simp only [torrentUrl, Text.isEncodable_append, Bool.and_eq_true] at hurl
  exact hurl.1.2

theorem isSendable_releasesResponse_iff :
    (releasesResponse settings texts).isSendable = true ↔
      ∀ text ∈ texts, (torrentUrl settings text none).isEncodable = true := by
  have hstring (text : Text) : (Json.string text).isSendable = text.isEncodable := rfl
  refine (Json.isSendable_record_iff _).trans ?_
  simp only [List.forall_mem_cons, List.not_mem_nil, false_implies, implies_true, and_true,
    Json.isSendable_array_iff, List.forall_mem_map, hstring]
  constructor
  · rintro ⟨-, -, hurls⟩
    exact hurls
  · intro hurls
    exact ⟨rfl, fun text hmem => isEncodable_of_torrentUrl (hurls text hmem), hurls⟩

/-! ## Answers -/

section Answers

variable [Json.Room]

/-- A request for releases is told the outcome of one query. -/
theorem handle_releases [Catalog.Annotations] (service : Service σ) (state : State σ)
    {request : Request} (hasks : Asks request .releases state.window) :
    Tells (service.handle state request).response
      (told (releasesOutcome service.settings (Archive.releases (Archive.get service.send
        service.settings.userAgent service.settings.scrapeUrl Archive.releaseParameters
        state.archive).1))) := by
  have hroute : route request.method request.decodedPath = .endpoint .releases := by
    rw [hasks.method, hasks.path]
    decide
  have hserve : service.serve state request =
      service.answerReleases { state with window := request.visit :: state.window } :=
    serve_of_admitted service state hroute rfl hasks rfl
  have hhandle := handle_eq_serve service state (method_of_asks hasks) (by rw [hserve]; rfl)
  rw [hserve] at hhandle
  exact ⟨hhandle.1, hhandle.2.1⟩

theorem told_of_failsFor (hfails : FailsFor settings outcome) :
    told (releasesOutcome settings (Archive.releases outcome)) = failureResponse := by
  cases hfails with
  | brokenOff hbroken =>
      obtain ⟨cause, hcause⟩ := Archive.releases_of_brokenOff hbroken
      rw [hcause]
      rfl
  | notText hlists hmem htext =>
      obtain ⟨failure, hfailure⟩ := releasesOutcome_of_not_text hmem htext
      rw [Archive.releases_of_listsReleases hlists, hfailure]
      rfl
  | unwritable hlists hmem hurl =>
      rw [Archive.releases_of_listsReleases hlists, releasesOutcome_of_texts]
      apply told_of_not_isSendable
      rw [Bool.eq_false_iff, ne_eq, isSendable_releasesResponse_iff]
      intro hurls
      rw [hurls _ hmem] at hurl
      cases hurl
  | @unwritableFailure kind message hfailure hmessage =>
      subst hfailure
      apply told_of_not_isSendable
      rw [Bool.eq_false_iff, ne_eq, isSendable_ofDetail_iff,
        Archive.isEncodable_message_releases_iff]
      intro htransport
      rw [htransport kind message rfl] at hmessage
      cases hmessage

theorem told_of_listsReleases (hlists : ListsReleases outcome (texts.map .string))
    (hurls : ∀ text ∈ texts, (torrentUrl settings text none).isEncodable = true) :
    told (releasesOutcome settings (Archive.releases outcome)) =
      releasesResponse settings texts := by
  rw [Archive.releases_of_listsReleases hlists, releasesOutcome_of_texts]
  exact told_of_isSendable (isSendable_releasesResponse_iff.mpr hurls)

/-- A failed query is answered with its message, if that can be written down. -/
theorem isListing_told_of_failed {fault : Archive.ReleasesFault}
    (hfailed : Archive.releases outcome = .error (.failed (.releases fault)))
    (htransport : ∀ kind message, fault = .transport kind message → message.isEncodable = true) :
    IsListing settings (told (releasesOutcome settings (Archive.releases outcome))) := by
  refine .inr ⟨(Archive.QueryError.releases fault).message, ?_⟩
  rw [hfailed, releasesOutcome, told_of_isSendable]
  · exact ⟨rfl, rfl⟩
  · rwa [isSendable_ofDetail_iff, Archive.isEncodable_message_releases_iff]

/-- The service answers with a listing or a detail unless it fails. -/
theorem isListing_told_iff :
    IsListing settings (told (releasesOutcome settings (Archive.releases outcome))) ↔
      ¬ FailsFor settings outcome := by
  constructor
  · intro hlisting hfails
    rw [told_of_failsFor hfails] at hlisting
    exact not_isListing_failureResponse hlisting
  · intro hsound
    obtain ⟨found, hlists⟩ | hbroken | ⟨fault, hfailed, hfailure⟩ :=
      Archive.releases_cases outcome
    · obtain ⟨texts, rfl | ⟨other, after, rfl, hother⟩⟩ := Archive.exists_leading_texts found
      · refine .inl ⟨texts, ?_⟩
        rw [told_of_listsReleases hlists]
        · exact ⟨rfl, rfl⟩
        · intro text hmem
          by_contra hurl
          exact hsound (.unwritable hlists hmem (Bool.eq_false_iff.mpr hurl))
      · exact absurd (.notText hlists (by simp) hother) hsound
    · exact absurd (.brokenOff hbroken) hsound
    · refine isListing_told_of_failed hfailed ?_
      intro kind message htransport
      by_contra hmessage
      exact hsound (.unwritableFailure (hfailure kind message htransport)
        (Bool.eq_false_iff.mpr hmessage))

/-- A request for releases that is admitted is answered with the identifiers and torrents of
a listing, or with a detail, exactly unless the service fails: if the exchange was broken
off, if an identifier is no text, or if what there is to tell cannot be encoded. -/
theorem releases_answered_unless_fails [Catalog.Annotations] (service : Service σ)
    (state : State σ) {request : Request} (hasks : Asks request .releases state.window) :
    let outcome := (Archive.get service.send service.settings.userAgent
      service.settings.scrapeUrl Archive.releaseParameters state.archive).1
    let response := (service.handle state request).response
    (IsListing service.settings response ↔ ¬ FailsFor service.settings outcome) ∧
      (FailsFor service.settings outcome → Tells response failureResponse) ∧
      ∀ texts, ListsReleases outcome (texts.map .string) →
        (∀ text ∈ texts, (torrentUrl service.settings text none).isEncodable = true) →
        Tells response (releasesResponse service.settings texts) := by
  have htells := handle_releases service state hasks
  refine ⟨(isListing_congr htells).trans isListing_told_iff, fun hfails => ?_,
    fun texts hlists hurls => ?_⟩
  · rwa [told_of_failsFor hfails] at htells
  · rwa [told_of_listsReleases hlists hurls] at htells

end Answers

/-! ## Listings of a few releases -/

/-- A state in which the archive answers every request with this body. -/
def listingState (body : List UInt8) : State Archive.Script :=
  .start .empty (Archive.answering (.reply ⟨200, none, body⟩))

theorem asks_releases (body : List UInt8) :
    Asks (requestFor .releases) .releases (listingState body).window :=
  asks_requestWith [] (by decide +kernel)

/-- What the archive answers is listed if it is read as a listing. -/
theorem listsReleases_listingState {body : List UInt8} {value : Json}
    (hread : Json.read body = .ok value) (hfound : Archive.HasIdentifiers value found) :
    ListsReleases (Archive.get (serviceFor "s").send (serviceFor "s").settings.userAgent
      (serviceFor "s").settings.scrapeUrl Archive.releaseParameters
      (listingState body).archive).1 found :=
  ⟨⟨200, none, body⟩, value, Archive.fst_get_releases body, rfl, hread, hfound⟩

/-- A listing of releases, which have these identifiers. -/
def listingOf (identifiers : List Json) : Json :=
  .object [("items", .array (identifiers.map fun identifier =>
    .object [("identifier", identifier)]))]

theorem hasIdentifiers_listingOf (identifiers : List Json) :
    Archive.HasIdentifiers (listingOf identifiers) identifiers := by
  refine .array ⟨_, rfl, rfl⟩ ?_
  rw [List.forall₂_map_left_iff, List.forall₂_same]
  exact fun identifier _ => ⟨_, rfl, rfl⟩

def textBody : List UInt8 :=
  Utf8.encode ("\x7b\x22items\x22:[\x7b\x22identifier\x22:\x22x\x22\x7d,"
    ++ "\x7b\x22identifier\x22:\x22é\x22\x7d,\x7b\x22identifier\x22:\x22x\x22\x7d]\x7d")

def numberBody : List UInt8 :=
  Utf8.encode "\x7b\x22items\x22:[\x7b\x22identifier\x22:5\x7d]\x7d"

set_option maxRecDepth 1000 in
/-- Releases that are named by texts are told with their torrents, one name twice. -/
theorem releases_answered_unless_fails_texts :
    Asks (requestFor .releases) .releases (listingState textBody).window ∧
      Tells ((serviceFor "s").handle (listingState textBody) (requestFor .releases)).response
        (releasesResponse .default ["x", "é", "x"]) := by
  obtain ⟨-, -, hlisted⟩ := releases_answered_unless_fails (serviceFor "s")
    (listingState textBody) (asks_releases textBody)
  have hread : Json.read textBody =
      .ok (listingOf [.string "x", .string "é", .string "x"]) := by rfl
  have hlists := listsReleases_listingState hread (hasIdentifiers_listingOf _)
  exact ⟨asks_releases textBody, hlisted ["x", "é", "x"] hlists (by decide)⟩

/-- A release that is named by a number cannot be told, and the service fails. -/
theorem releases_fail_for_number :
    Asks (requestFor .releases) .releases (listingState numberBody).window ∧
      ¬ IsListing .default
        ((serviceFor "s").handle (listingState numberBody) (requestFor .releases)).response := by
  have hread : Json.read numberBody = .ok (listingOf [.int 5]) := rfl
  have hlists := listsReleases_listingState hread (hasIdentifiers_listingOf _)
  have htells := handle_releases (serviceFor "s") _ (asks_releases numberBody)
  rw [told_of_failsFor (.notText hlists List.mem_cons_self (by simp))] at htells
  refine ⟨asks_releases numberBody, ?_⟩
  rw [isListing_congr htells]
  exact not_isListing_failureResponse

end ShortlinkCatalog.Service
