import ShortlinkCatalog.Archive.Script
import ShortlinkCatalog.Proofs.Archive.UrlTable
import ShortlinkCatalog.Proofs.Service.Entries
import ShortlinkCatalog.Proofs.Service.ShortenerRequests

/-!
# Two routes to a catalog

A client can send URLs to be cleaned, and it can have the catalog of a shortener refreshed
from URLs that the archive holds.  Where the URLs are the same, the entries of the one
answer are those of the catalog that the other one leaves, and where one fails so does the
other, for the same reason.
-/

namespace ShortlinkCatalog.Service

variable {σ : Type}

/-! ## Refreshing from the archive -/

/-- The archive answers the query of a refresh with a table of URLs. -/
def Archived [Json.Room] (service : Service σ) (archive : σ) (shortener : Shortener)
    (urls : List Text) : Prop :=
  ∃ reply header next,
    Archive.get service.send service.settings.userAgent service.settings.timemapUrl
      ((Archive.knownCodesOptions service.settings).parameters shortener.host) archive =
        (.reply reply, next) ∧
    reply.status = 200 ∧ Json.read reply.body = .ok (Archive.urlTable header urls)

section Refresh

variable [Json.Room] [Catalog.Annotations] {service : Service σ} {archive : σ}
  {shortener : Shortener} {urls : List Text}

/-- A refresh from a table of URLs stores what the URLs clean to. -/
theorem refresh_of_archived (harchived : Archived service archive shortener urls)
    (database : Database) :
    let refreshed := Catalog.refresh service.send service.settings shortener archive database
    let stored := Catalog.storeFetched shortener
      ((shortener.cleanUrls urls).mapError .unclean) database
    refreshed.result = stored.1 ∧ refreshed.database = stored.2.2 := by
  obtain ⟨reply, header, next, hreply, hstatus, hread⟩ := harchived
  have hcodes := (Archive.knownCodes_of_urlTable service.send service.settings shortener hreply
    hstatus hread).1
  simp only [Catalog.refresh, hcodes, and_self]

theorem refresh_of_unclean (harchived : Archived service archive shortener urls)
    {error : CleanError} (hcleaned : shortener.cleanUrls urls = .error error)
    (database : Database) :
    let refreshed := Catalog.refresh service.send service.settings shortener archive database
    refreshed.result = .error (.fetch (.unclean error)) ∧ refreshed.database = database := by
  have hrefreshed := refresh_of_archived harchived database
  rw [hcleaned] at hrefreshed
  exact hrefreshed

theorem refresh_of_storable (harchived : Archived service archive shortener urls)
    {codes : List Text} (hcleaned : shortener.cleanUrls urls = .ok codes)
    (hstorable : Catalog.Storable shortener codes) {table : CatalogTable}
    (hlayout : table.layout.KeepsCodes) (versions : Option (List Text)) :
    let refreshed := Catalog.refresh service.send service.settings shortener archive
      ⟨some table, versions⟩
    refreshed.result = .ok codes.length ∧
      refreshed.database = ⟨some (Catalog.replaced table shortener codes), versions⟩ := by
  have hrefreshed := refresh_of_archived harchived ⟨some table, versions⟩
  rw [hcleaned] at hrefreshed
  simp only [Except.mapError, Catalog.storeFetched,
    Catalog.replace_of_storable hlayout versions hstorable] at hrefreshed
  exact hrefreshed

theorem refresh_of_not_storable (harchived : Archived service archive shortener urls)
    {codes : List Text} (hcleaned : shortener.cleanUrls urls = .ok codes)
    (hunstorable : ¬ Catalog.Storable shortener codes) {table : CatalogTable}
    (hlayout : table.layout.KeepsCodes) (versions : Option (List Text)) :
    let refreshed := Catalog.refresh service.send service.settings shortener archive
      ⟨some table, versions⟩
    (∃ error, refreshed.result = .error (.store error)) ∧
      refreshed.database = ⟨some table, versions⟩ := by
  obtain ⟨error, hreplace⟩ := Catalog.replace_of_not_storable hlayout versions hunstorable
  have hrefreshed := refresh_of_archived harchived ⟨some table, versions⟩
  rw [hcleaned] at hrefreshed
  simp only [Except.mapError, Catalog.storeFetched, hreplace] at hrefreshed
  exact ⟨⟨error, hrefreshed.1⟩, hrefreshed.2⟩

end Refresh

/-! ## Refusals -/

section

variable {shortener : Shortener} {urls : List Text}

/-- What URLs clean to, or why they do not, holds a surrogate and cannot be written down. -/
def Unwritable (shortener : Shortener) (urls : List Text) : Prop :=
  (∃ codes, shortener.cleanUrls urls = .ok codes ∧
    ¬ (shortener.name.isEncodable = true ∧ ∀ code ∈ codes, code.isEncodable = true)) ∨
  ∃ error, shortener.cleanUrls urls = .error error ∧ error.message.isEncodable = false

theorem storable_iff_of_cleanUrls {codes : List Text}
    (hcleaned : shortener.cleanUrls urls = .ok codes) :
    Catalog.Storable shortener codes ↔
      shortener.name.isEncodable = true ∧ ∀ code ∈ codes, code.isEncodable = true := by
  have hdistinct : codes.Nodup := Shortener.nodup_of_cleanUrls_eq_ok hcleaned
  exact ⟨fun hstorable => ⟨hstorable.name, hstorable.encodable⟩,
    fun ⟨hname, hencodable⟩ => ⟨hname, hdistinct, hencodable⟩⟩

/-- URLs clean to codes that can be stored, or are refused for a reason that can be told,
or there is a surrogate in what is to be told. -/
theorem storable_or_refused_or_unwritable (shortener : Shortener) (urls : List Text) :
    (∃ codes, shortener.cleanUrls urls = .ok codes ∧ Catalog.Storable shortener codes) ∨
      (∃ error, shortener.cleanUrls urls = .error error ∧ error.message.isEncodable = true) ∨
      Unwritable shortener urls := by
  cases hcleaned : shortener.cleanUrls urls with
  | ok codes =>
      by_cases hstorable : Catalog.Storable shortener codes
      · left
        exact ⟨codes, rfl, hstorable⟩
      · right
        right
        rw [storable_iff_of_cleanUrls hcleaned] at hstorable
        exact .inl ⟨codes, hcleaned, hstorable⟩
  | error error =>
      right
      by_cases hencodable : error.message.isEncodable = true
      · left
        exact ⟨error, rfl, hencodable⟩
      · right
        exact .inr ⟨error, hcleaned, Bool.eq_false_iff.mpr hencodable⟩

/-- A batch that cleans to what cannot be written down is not answered. -/
theorem not_isSendable_cleanResponse (hunwritable : Unwritable shortener urls) :
    (cleanResponse shortener urls).isSendable = false := by
  rw [Bool.eq_false_iff]
  intro hsendable
  obtain ⟨codes, hcleaned, hunencodable⟩ | ⟨error, hcleaned, hencodable⟩ := hunwritable
  · rw [cleanResponse_of_ok hcleaned] at hsendable
    obtain ⟨hname, hentries⟩ := (isSendable_cleanedJson_iff _ _).mp hsendable
    exact hunencodable ⟨hname, List.forall_mem_map.mp hentries⟩
  · obtain ⟨status, -, hresponse⟩ := cleanResponse_of_error hcleaned
    rw [hresponse, isSendable_ofDetail_iff, hencodable] at hsendable
    cases hsendable

/-- How the two routes refuse: with the same detail, because there is neither of them, or
because what there is to tell cannot be written down. -/
def RefusedAlike (shortener : Shortener) (urls : List Text) (cleaned refreshed : Response) : Prop :=
  (∃ status detail, (status = 400 ∨ status = 422) ∧ Tells cleaned (.ofDetail status detail) ∧
    Tells refreshed (.ofDetail 500 detail)) ∨
  (¬ IsPiece shortener.name ∧ cleaned.status = 404 ∧ refreshed.status = 404) ∨
  (Unwritable shortener urls ∧ cleaned.status = 500 ∧ refreshed.status = 500)

theorem RefusedAlike.status_ne {cleaned refreshed : Response}
    (hrefused : RefusedAlike shortener urls cleaned refreshed) :
    cleaned.status ≠ 200 ∧ refreshed.status ≠ 200 := by
  obtain ⟨status, detail, hstatus, ⟨hcleaned, -⟩, ⟨hrefreshed, -⟩⟩ | ⟨-, hcleaned, hrefreshed⟩ |
    ⟨-, hcleaned, hrefreshed⟩ := hrefused
  · rw [hcleaned, hrefreshed]
    constructor
    · rintro (rfl : status = 200)
      omega
    · exact (by decide : 500 ≠ 200)
  · rw [hcleaned, hrefreshed]
    decide
  · rw [hcleaned, hrefreshed]
    decide

end

/-! ## Agreement -/

/-- Three requests about a shortener: to clean some URLs, to refresh its catalog while the
archive holds the same URLs, and to list what is stored after that. -/
structure Requests [Json.Room] (service : Service σ) (shortener : Shortener) (urls : List Text)
    (first state : State σ) (clean refresh list : Request) : Prop where
  registered : shortener ∈ service.registry.shorteners
  batch : urls.length ≤ maxBatch
  table : ∃ table, state.database.catalog = some table ∧ table.layout ∈ Layout.catalogs
  asksClean : Asks clean (.clean shortener.name) first.window
  carries : CarriesBatch clean urls
  asksRefresh : Asks refresh (.refresh shortener.name) state.window
  archived : Archived service state.archive shortener urls
  asksList : Asks list (.shortcodes shortener.name) state.window
  query : list.query = []
  clock : service.clock.fetchedAt.isEncodable = true

variable {service : Service σ} {shortener : Shortener} {urls : List Text}
  {first state : State σ} {clean refresh list : Request}

theorem Requests.exists_table [Json.Room]
    (hrequests : Requests service shortener urls first state clean refresh list) :
    ∃ table : CatalogTable, table.layout.KeepsCodes ∧
      state.database = ⟨some table, state.database.versions⟩ := by
  obtain ⟨table, htable, hlayout⟩ := hrequests.table
  refine ⟨table, Layout.keepsCodes_of_mem_catalogs hlayout, ?_⟩
  rw [← htable]

section Agreement

variable [Json.Room] [Catalog.Annotations]

theorem Requests.handle_clean
    (hrequests : Requests service shortener urls first state clean refresh list)
    (hname : IsPiece shortener.name) :
    Tells (service.handle first clean).response (told (.ok (cleanResponse shortener urls))) ∧
      (service.handle first clean).state.database = first.database :=
  Service.handle_clean service first hrequests.registered hname hrequests.batch
    hrequests.asksClean hrequests.carries

theorem Requests.handle_refresh
    (hrequests : Requests service shortener urls first state clean refresh list)
    (hname : IsPiece shortener.name) :
    let refreshed := Catalog.refresh service.send service.settings shortener state.archive
      state.database
    Tells (service.handle state refresh).response
        (told (refreshOutcome shortener refreshed.result).1) ∧
      (service.handle state refresh).state =
        ⟨refresh.visit :: state.window, refreshed.database, refreshed.archive⟩ :=
  Service.handle_refresh service state hrequests.registered hname hrequests.asksRefresh

/-- Codes that can be written down are what both routes tell, and what is stored. -/
theorem agree_of_storable
    (hrequests : Requests service shortener urls first state clean refresh list)
    (hname : IsPiece shortener.name) {codes : List Text}
    (hcleaned : shortener.cleanUrls urls = .ok codes)
    (hstorable : Catalog.Storable shortener codes) :
    Tells (service.handle first clean).response
        (.ofJson 200 (cleanedJson shortener.name (entriesOf shortener codes))) ∧
      Tells (service.handle state refresh).response
        (refreshedResponse shortener codes.length) ∧
      Tells (service.handle (service.handle state refresh).state list).response
        (.ofJson 200 (storedJson service.clock.fetchedAt shortener.name
          (entriesOf shortener codes))) := by
  obtain ⟨table, hcatalog, hdatabase⟩ := hrequests.exists_table
  have hentries : ∀ entry ∈ entriesOf shortener codes, entry.1.isEncodable = true :=
    List.forall_mem_map.mpr hstorable.encodable
  obtain ⟨htold, hstate⟩ := hrequests.handle_refresh hname
  obtain ⟨hresult, hafter⟩ := refresh_of_storable hrequests.archived hcleaned hstorable hcatalog
    state.database.versions
  rw [← hdatabase] at hresult hafter
  refine ⟨?_, ?_, ?_⟩
  · have hsendable : (Response.ofJson 200
        (cleanedJson shortener.name (entriesOf shortener codes))).isSendable = true :=
      (isSendable_cleanedJson_iff _ _).mpr ⟨hstorable.name, hentries⟩
    have hclean := (hrequests.handle_clean hname).1
    rwa [cleanResponse_of_ok hcleaned, told_of_isSendable hsendable] at hclean
  · have hsendable := (isSendable_refreshedResponse_iff shortener codes.length).mpr hstorable.name
    rwa [hresult, refreshOutcome, told_of_isSendable hsendable] at htold
  · have hsendable : (Response.ofJson 200 (storedJson service.clock.fetchedAt shortener.name
        (entriesOf shortener codes))).isSendable = true :=
      isSendable_storedJson hrequests.clock hstorable.name hentries
    have hstored : (service.handle state refresh).state.database =
        ⟨some (Catalog.replaced table shortener codes), state.database.versions⟩ := by
      rw [hstate]
      exact hafter
    have hasks : Asks list (.shortcodes shortener.name)
        (service.handle state refresh).state.window := by
      rw [hstate]
      exact asks_after_refresh hrequests.asksList hrequests.asksRefresh
    have hlist := handle_shortcodes service (service.handle state refresh).state
      hrequests.registered hname hasks (readNarrowing_of_no_query hrequests.query)
    rwa [hstored, Catalog.select_replaced hstorable.name, Catalog.count_replaced hstorable.name,
      catalogOutcome_of_catalogRows, told_of_isSendable hsendable] at hlist

/-- URLs that are refused for a reason that can be written down are refused by both routes
for this reason. -/
theorem agree_of_error
    (hrequests : Requests service shortener urls first state clean refresh list)
    (hname : IsPiece shortener.name) {error : CleanError}
    (hcleaned : shortener.cleanUrls urls = .error error)
    (hencodable : error.message.isEncodable = true) :
    (∃ status, (status = 400 ∨ status = 422) ∧
      Tells (service.handle first clean).response (.ofDetail status error.message)) ∧
      Tells (service.handle state refresh).response (.ofDetail 500 error.message) ∧
      (service.handle state refresh).state.database = state.database := by
  have hsendable : ∀ status, (Response.ofDetail status error.message).isSendable = true :=
    fun status => (isSendable_ofDetail_iff status _).mpr hencodable
  obtain ⟨htold, hstate⟩ := hrequests.handle_refresh hname
  obtain ⟨hresult, hafter⟩ := refresh_of_unclean hrequests.archived hcleaned state.database
  refine ⟨?_, ?_, ?_⟩
  · obtain ⟨status, hstatus, hresponse⟩ := cleanResponse_of_error hcleaned
    have hclean := (hrequests.handle_clean hname).1
    rw [hresponse, told_of_isSendable (hsendable status)] at hclean
    exact ⟨status, hstatus, hclean⟩
  · rwa [hresult, refreshOutcome, told_of_isSendable (hsendable 500)] at htold
  · rw [hstate]
    exact hafter

/-- A refresh to what cannot be written down is reported, and nothing is stored. -/
theorem refresh_of_unwritable {archive : σ} (harchived : Archived service archive shortener urls)
    (hunwritable : Unwritable shortener urls) {table : CatalogTable}
    (hlayout : table.layout.KeepsCodes) (versions : Option (List Text)) :
    let refreshed := Catalog.refresh service.send service.settings shortener archive
      ⟨some table, versions⟩
    (∃ detail, (refreshOutcome shortener refreshed.result).1 = .ok (.ofDetail 500 detail)) ∧
      refreshed.database = ⟨some table, versions⟩ := by
  obtain ⟨codes, hcleaned, hunencodable⟩ | ⟨error, hcleaned, -⟩ := hunwritable
  · have hunstorable : ¬ Catalog.Storable shortener codes :=
      fun hstorable => hunencodable ((storable_iff_of_cleanUrls hcleaned).mp hstorable)
    obtain ⟨⟨error, hresult⟩, hafter⟩ := refresh_of_not_storable harchived hcleaned hunstorable
      hlayout versions
    refine ⟨⟨error.message, ?_⟩, hafter⟩
    rw [hresult]
    rfl
  · obtain ⟨hresult, hafter⟩ := refresh_of_unclean harchived hcleaned ⟨some table, versions⟩
    refine ⟨⟨error.message, ?_⟩, hafter⟩
    rw [hresult]
    rfl

/-- What cannot be written down is told by neither route, and not stored. -/
theorem agree_of_unwritable
    (hrequests : Requests service shortener urls first state clean refresh list)
    (hname : IsPiece shortener.name) (hunwritable : Unwritable shortener urls) :
    (service.handle first clean).response.status = 500 ∧
      (service.handle state refresh).response.status = 500 ∧
      (service.handle state refresh).state.database = state.database := by
  obtain ⟨table, hcatalog, hdatabase⟩ := hrequests.exists_table
  obtain ⟨htold, hstate⟩ := hrequests.handle_refresh hname
  obtain ⟨⟨detail, houtcome⟩, hafter⟩ := refresh_of_unwritable hrequests.archived hunwritable
    hcatalog state.database.versions
  rw [← hdatabase] at houtcome hafter
  refine ⟨?_, ?_, ?_⟩
  · have hclean := (hrequests.handle_clean hname).1
    rw [told_of_not_isSendable (not_isSendable_cleanResponse hunwritable)] at hclean
    exact hclean.1
  · rw [htold.1, houtcome]
    exact status_told_ofDetail detail
  · rw [hstate]
    exact hafter

/-- Where there are no codes to be stored, both routes refuse, and nothing is stored. -/
theorem refusedAlike_of_not_storable
    (hrequests : Requests service shortener urls first state clean refresh list)
    (hnone : IsPiece shortener.name → ∀ codes, shortener.cleanUrls urls = .ok codes →
      ¬ Catalog.Storable shortener codes) :
    RefusedAlike shortener urls (service.handle first clean).response
        (service.handle state refresh).response ∧
      (service.handle first clean).state.database = first.database ∧
      (service.handle state refresh).state.database = state.database := by
  by_cases hname : IsPiece shortener.name
  · have hkept := (hrequests.handle_clean hname).2
    obtain ⟨codes, hcodes, hstorable⟩ | ⟨error, hcodes, hencodable⟩ | hunwritable :=
      storable_or_refused_or_unwritable shortener urls
    · exact absurd hstorable (hnone hname codes hcodes)
    · obtain ⟨⟨status, hstatus, hcleaned⟩, hrefreshed, hstored⟩ :=
        agree_of_error hrequests hname hcodes hencodable
      exact ⟨.inl ⟨status, error.message, hstatus, hcleaned, hrefreshed⟩, hkept, hstored⟩
    · obtain ⟨hcleaned, hrefreshed, hstored⟩ := agree_of_unwritable hrequests hname hunwritable
      exact ⟨.inr (.inr ⟨hunwritable, hcleaned, hrefreshed⟩), hkept, hstored⟩
  · obtain ⟨hcleaned, hfirst⟩ :=
      handle_of_not_isPiece service first (by simp) hrequests.asksClean hname
    obtain ⟨hrefreshed, hstate⟩ :=
      handle_of_not_isPiece service state (by simp) hrequests.asksRefresh hname
    exact ⟨.inr (.inl ⟨hname, hcleaned, hrefreshed⟩), congrArg State.database hfirst,
      congrArg State.database hstate⟩

/-- Whether URLs are cleaned or archived, the same entries are told, and a refusal is told
with the same detail.  Neither route exists under a name that is empty or has a slash, and
neither can tell what cannot be written down; nothing is stored then. -/
theorem clean_and_refresh_agree (service : Service σ) (shortener : Shortener)
    (urls : List Text) (first state : State σ) (clean refresh list : Request)
    (hrequests : Requests service shortener urls first state clean refresh list) :
    let cleaned := service.handle first clean
    let refreshed := service.handle state refresh
    let listed := service.handle refreshed.state list
    (cleaned.response.status = 200 ↔ refreshed.response.status = 200) ∧
    (cleaned.response.status = 200 → ∃ entries : List Entry,
      Tells cleaned.response (.ofJson 200 (cleanedJson shortener.name entries)) ∧
      Tells refreshed.response (refreshedResponse shortener entries.length) ∧
      Tells listed.response
        (.ofJson 200 (storedJson service.clock.fetchedAt shortener.name entries)) ∧
      entries.Pairwise fun left right => left.2 = true → right.2 = true) ∧
    (cleaned.response.status ≠ 200 →
      cleaned.state.database = first.database ∧ refreshed.state.database = state.database ∧
      ((∃ status detail, (status = 400 ∨ status = 422) ∧
          Tells cleaned.response (.ofDetail status detail) ∧
          Tells refreshed.response (.ofDetail 500 detail)) ∨
        (¬ IsPiece shortener.name ∧ cleaned.response.status = 404 ∧
          refreshed.response.status = 404) ∨
        (Unwritable shortener urls ∧ cleaned.response.status = 500 ∧
          refreshed.response.status = 500))) := by
  intro cleaned refreshed listed
  by_cases hcodes : IsPiece shortener.name ∧
    ∃ codes, shortener.cleanUrls urls = .ok codes ∧ Catalog.Storable shortener codes
  · obtain ⟨hname, codes, hcleanUrls, hstorable⟩ := hcodes
    obtain ⟨hcleaned, hrefreshed, hlisted⟩ :=
      agree_of_storable hrequests hname hcleanUrls hstorable
    refine ⟨iff_of_true hcleaned.1 hrefreshed.1, ?_, fun hrefused => absurd hcleaned.1 hrefused⟩
    intro _
    refine ⟨entriesOf shortener codes, hcleaned, ?_, hlisted, ?_⟩
    · rw [entriesOf, List.length_map]
      exact hrefreshed
    · exact pairwise_entriesOf (Shortener.pairwise_of_cleanUrls_eq_ok hcleanUrls)
  · obtain ⟨halike, hfirst, hstate⟩ := refusedAlike_of_not_storable hrequests
      fun hname codes hcleanUrls hstorable => hcodes ⟨hname, codes, hcleanUrls, hstorable⟩
    obtain ⟨hcleaned, hrefreshed⟩ := halike.status_ne
    exact ⟨iff_of_false hcleaned hrefreshed, fun hok => absurd hok hcleaned,
      fun _ => ⟨hfirst, hstate, halike⟩⟩

end Agreement

/-! ## A service with one shortener -/

/-- A shortener that takes every code, under a name, and one code for chosen by a person. -/
def trialShortener (name : Text) : Shortener :=
  ⟨name, "x", "http://x/", "any", none, none, some (.ofCharacters (· == "a"))⟩

def serviceFor (name : Text) : Service Archive.Script where
  registry := ⟨[trialShortener name], by simp⟩
  settings := .default
  send := Archive.Script.send
  clock := ⟨"now", "0"⟩

/-- An archive with one reply, a catalog that is to be replaced and another one. -/
def stateFor (archived : Text) : State Archive.Script :=
  .start ⟨some ⟨Layout.created, [⟨"s", some "old", 0, false⟩, ⟨"t", some "kept", 0, false⟩]⟩, none⟩
    (.ofOutcomes [.reply ⟨200, none, Utf8.encode archived⟩])

def requestWith (body : Text) (endpoint : Endpoint) : Request where
  method := endpoint.method
  path := endpoint.path
  query := []
  headers := [("content-type", "application/json")]
  peer := none
  body := Utf8.encode body

def requestFor : Endpoint → Request := requestWith []

theorem decodedPath_requestWith (body : Text) (endpoint : Endpoint) :
    (requestWith body endpoint).decodedPath = (requestFor endpoint).decodedPath := rfl

/-- The first request of a client is not limited. -/
theorem asks_requestWith (body : Text) {endpoint : Endpoint}
    (hpath : (requestFor endpoint).decodedPath = endpoint.path) :
    Asks (requestWith body endpoint) endpoint [] := by
  refine ⟨rfl, (decodedPath_requestWith body endpoint).trans hpath, ?_⟩
  intro limit hlimit
  rw [List.count_nil]
  cases endpoint <;> cases hlimit <;> decide

/-- Both routes are given the same URLs, which the bodies of a request and a reply hold. -/
theorem requests_trialShortener {urls : List Text} {body archived : Text}
    {members : List (Text × Json)} {header : List Json} (hbatch : urls.length ≤ maxBatch)
    (hbody : Json.read (Utf8.encode body) = .ok (.object members))
    (hmember : Json.member? "urls" members = some (.array (urls.map .string)))
    (hreply : (Archive.get (serviceFor "s").send (serviceFor "s").settings.userAgent
      (serviceFor "s").settings.timemapUrl
      ((Archive.knownCodesOptions (serviceFor "s").settings).parameters
        (trialShortener "s").host) (stateFor archived).archive).1 =
          .reply ⟨200, none, Utf8.encode archived⟩)
    (harchived : Json.read (Utf8.encode archived) = .ok (Archive.urlTable header urls)) :
    Requests (serviceFor "s") (trialShortener "s") urls (stateFor archived) (stateFor archived)
      (requestWith body (.clean "s")) (requestFor (.refresh "s"))
      (requestFor (.shortcodes "s")) where
  registered := by simp [serviceFor]
  batch := hbatch
  table := ⟨_, rfl, by simp [Layout.catalogs]⟩
  asksClean := asks_requestWith body (by decide +kernel)
  carries := ⟨rfl, members, hbody, hmember⟩
  asksRefresh := asks_requestWith [] (by decide +kernel)
  archived := ⟨_, header, _, Prod.ext hreply rfl, rfl, harchived⟩
  asksList := asks_requestWith [] (by decide +kernel)
  query := rfl
  clock := by decide

/-- URLs of three codes, one of which comes twice and one of which a person chose. -/
def trialUrls : List Text := ["http://x/a", "http://x/c", "http://x/b", "http://x/c"]

def trialCodes : List Text := ["b", "c", "a"]

def trialBatch : Text :=
  "\x7b\x22urls\x22:[\x22http://x/a\x22,\x22http://x/c\x22,"
    ++ "\x22http://x/b\x22,\x22http://x/c\x22]\x7d"

def trialTable : Text :=
  "[[\x22original\x22],[\x22http://x/a\x22],[\x22http://x/c\x22],"
    ++ "[\x22http://x/b\x22],[\x22http://x/c\x22]]"

theorem cleanUrls_trialShortener (name : Text) :
    (trialShortener name).cleanUrls trialUrls = .ok trialCodes := by
  have ha : (trialShortener name).cleanOne "http://x/a" = .ok (some "a") := rfl
  have hb : (trialShortener name).cleanOne "http://x/b" = .ok (some "b") := rfl
  have hc : (trialShortener name).cleanOne "http://x/c" = .ok (some "c") := rfl
  apply Shortener.cleanUrls_eq_ok_of_pairwise
  · simp [trialUrls, ha, hb, hc]
  · -- the rank of a code has nothing to do with the name
    change trialCodes.Pairwise fun left right =>
      (trialShortener []).rankKey left < (trialShortener []).rankKey right
    decide
  · intro code
    simp only [trialUrls, trialCodes, List.mem_cons, List.not_mem_nil, or_false, exists_eq_or_imp,
      exists_eq_left, ha, hb, hc, Except.ok.injEq, Option.some.injEq]
    grind

theorem requests_trialUrls :
    Requests (serviceFor "s") (trialShortener "s") trialUrls (stateFor trialTable)
      (stateFor trialTable) (requestWith trialBatch (.clean "s")) (requestFor (.refresh "s"))
      (requestFor (.shortcodes "s")) := by
  have hbody : Json.read (Utf8.encode trialBatch) =
      .ok (.object [("urls", .array (trialUrls.map .string))]) := rfl
  have harchived : Json.read (Utf8.encode trialTable) =
      .ok (Archive.urlTable [.string "original"] trialUrls) := by rfl
  exact requests_trialShortener (by decide) hbody rfl (by decide +kernel) harchived

/-- What is told of the URLs. -/
def trialEntries : List Entry := [("b", false), ("c", false), ("a", true)]

/-- The URLs clean to three codes, which are told, stored in place of the old ones and told
again. -/
theorem clean_and_refresh_agree_four_urls :
    Requests (serviceFor "s") (trialShortener "s") trialUrls (stateFor trialTable)
        (stateFor trialTable) (requestWith trialBatch (.clean "s")) (requestFor (.refresh "s"))
        (requestFor (.shortcodes "s")) ∧
      Tells ((serviceFor "s").handle (stateFor trialTable)
          (requestWith trialBatch (.clean "s"))).response
        (.ofJson 200 (cleanedJson "s" trialEntries)) ∧
      Tells ((serviceFor "s").handle (stateFor trialTable) (requestFor (.refresh "s"))).response
        (refreshedResponse (trialShortener "s") trialEntries.length) ∧
      Tells ((serviceFor "s").handle
          ((serviceFor "s").handle (stateFor trialTable) (requestFor (.refresh "s"))).state
          (requestFor (.shortcodes "s"))).response
        (.ofJson 200 (storedJson "now" "s" trialEntries)) := by
  obtain ⟨-, hagree, -⟩ := clean_and_refresh_agree (serviceFor "s") (trialShortener "s") trialUrls
    (stateFor trialTable) (stateFor trialTable) _ _ _ requests_trialUrls
  have hstorable : Catalog.Storable (trialShortener "s") trialCodes :=
    ⟨by decide, by decide, by decide⟩
  obtain ⟨⟨hok, hcontent⟩, -⟩ := agree_of_storable requests_trialUrls ⟨by decide, by decide⟩
    (cleanUrls_trialShortener "s") hstorable
  obtain ⟨entries, hcleaned, hrefreshed, hlisted, -⟩ := hagree hok
  obtain rfl : entries = trialEntries :=
    cleanedJson_injective "s" (Content.json.inj (hcleaned.2.symm.trans hcontent))
  exact ⟨requests_trialUrls, hcleaned, hrefreshed, hlisted⟩

/-- A name with a slash can be registered, but no endpoint is found under it. -/
theorem clean_not_found_of_slash :
    trialShortener "a/b" ∈ (serviceFor "a/b").registry.shorteners ∧
      (trialShortener "a/b").cleanUrls trialUrls = .ok trialCodes ∧
      (requestWith trialBatch (.clean "a/b")).decodedPath = (Endpoint.clean "a/b").path ∧
      ((serviceFor "a/b").handle (stateFor trialTable)
        (requestWith trialBatch (.clean "a/b"))).response.status = 404 := by
  have hpath : (requestFor (.clean "a/b")).decodedPath = (Endpoint.clean "a/b").path := by
    decide +kernel
  have hasks : Asks (requestWith trialBatch (.clean "a/b")) (.clean "a/b")
      (stateFor trialTable).window := asks_requestWith trialBatch hpath
  have hendpoint : Endpoint.clean "a/b" ∈
      [Endpoint.clean "a/b", .refresh "a/b", .shortcodes "a/b"] := by
    simp
  have hname : ¬ IsPiece "a/b" := fun hpiece => absurd hpiece.2 (by decide)
  exact ⟨by simp [serviceFor], cleanUrls_trialShortener "a/b", hasks.path,
    (handle_of_not_isPiece (serviceFor "a/b") (stateFor trialTable) hendpoint hasks hname).1⟩

/-- A URL whose code is a lone surrogate. -/
def surrogateUrl : Text := ("http://x/" : Text) ++ [.surrogate 0]

def surrogateBatch : Text := "\x7b\x22urls\x22:[\x22http://x/\\ud800\x22]\x7d"

def surrogateTable : Text := "[[\x22original\x22],[\x22http://x/\\ud800\x22]]"

theorem cleanUrls_surrogateUrl :
    (trialShortener "s").cleanUrls [surrogateUrl] = .ok [[.surrogate 0]] := by
  have hone : (trialShortener "s").cleanOne surrogateUrl = .ok (some [.surrogate 0]) := rfl
  apply Shortener.cleanUrls_eq_ok_of_pairwise
  · simp [hone]
  · exact List.pairwise_singleton _ _
  · intro code
    simp [hone, eq_comm]

theorem requests_surrogateUrl :
    Requests (serviceFor "s") (trialShortener "s") [surrogateUrl] (stateFor surrogateTable)
      (stateFor surrogateTable) (requestWith surrogateBatch (.clean "s"))
      (requestFor (.refresh "s")) (requestFor (.shortcodes "s")) := by
  have hbody : Json.read (Utf8.encode surrogateBatch) =
      .ok (.object [("urls", .array ([surrogateUrl].map .string))]) := rfl
  have harchived : Json.read (Utf8.encode surrogateTable) =
      .ok (Archive.urlTable [.string "original"] [surrogateUrl]) := rfl
  exact requests_trialShortener (by decide) hbody rfl (by decide +kernel) harchived

/-- A code with a lone surrogate is accepted, but neither route can tell it or store it. -/
theorem clean_fails_of_surrogate :
    Requests (serviceFor "s") (trialShortener "s") [surrogateUrl] (stateFor surrogateTable)
        (stateFor surrogateTable) (requestWith surrogateBatch (.clean "s"))
        (requestFor (.refresh "s")) (requestFor (.shortcodes "s")) ∧
      (trialShortener "s").cleanUrls [surrogateUrl] = .ok [[.surrogate 0]] ∧
      ((serviceFor "s").handle (stateFor surrogateTable)
        (requestWith surrogateBatch (.clean "s"))).response.status = 500 ∧
      ((serviceFor "s").handle (stateFor surrogateTable)
        (requestFor (.refresh "s"))).response.status = 500 ∧
      ((serviceFor "s").handle (stateFor surrogateTable)
        (requestFor (.refresh "s"))).state.database = (stateFor surrogateTable).database := by
  have hunwritable : Unwritable (trialShortener "s") [surrogateUrl] := by
    refine .inl ⟨_, cleanUrls_surrogateUrl, ?_⟩
    rintro ⟨-, hencodable⟩
    exact absurd (hencodable _ List.mem_cons_self) (by decide)
  exact ⟨requests_surrogateUrl, cleanUrls_surrogateUrl,
    agree_of_unwritable requests_surrogateUrl ⟨by decide, by decide⟩ hunwritable⟩

end ShortlinkCatalog.Service
