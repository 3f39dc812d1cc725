import ShortlinkCatalog.Proofs.Catalog.Apart
import ShortlinkCatalog.Proofs.Service.RefreshAnswer

/-!
# Refreshing all catalogs

A request to refresh everything is answered first, and then the shorteners of the registry
are refreshed one after the other.  Whatever happens to one of them, the next one starts, and
finds its own rows as they were before the first.  So each leaves what it would have left
alone, and the order of the registry makes no difference.
-/

namespace ShortlinkCatalog.Service

open Catalog (KeepsCodes stored)

variable {σ : Type} (service : Service σ) {state : State σ}
  {reply : Archive.Request → Archive.Outcome} {shorteners : List Shortener}

/-! ## The names of a registry -/

theorem name_ne_of_mem {first shortener : Shortener}
    (hfirst : first.name ∉ shorteners.map (·.name)) (hmem : shortener ∈ shorteners) :
    shortener.name ≠ first.name := by
  intro heq
  exact hfirst (heq ▸ List.mem_map_of_mem hmem)

/-- The names of a registry can be told in a response. -/
def IsTellable (registry : Registry) : Prop := ∀ name ∈ registry.names, name.isEncodable = true

theorem isSendable_scheduledResponse_iff (registry : Registry) :
    (scheduledResponse registry).isSendable = true ↔ IsTellable registry := by
  refine (Json.isSendable_record_iff _).trans ?_
  rw [List.forall_mem_singleton, Json.isSendable_array_iff, List.forall_mem_map]
  rfl

/-- The state in which an admitted request is answered. -/
def State.entered (state : State σ) (request : Request) : State σ :=
  { state with window := request.visit :: state.window }

theorem status_dressed (request : Request) (response : Response) :
    (service.dressed request response).status = response.status := by
  simp only [dressed]
  split_ifs <;> rfl

/-! ## One refresh after the other -/

section Refreshes

variable [Json.Room] [Catalog.Annotations]

/-- The refresh of one shortener alone in some state. -/
def refreshAlone (state : State σ) (shortener : Shortener) : Catalog.Refreshed σ :=
  Catalog.refresh service.send service.settings shortener state.archive state.database

/-- The state that is left to the next shortener. -/
def afterBackground (state : State σ) (shortener : Shortener) : State σ :=
  let refreshed := Catalog.refreshInBackground service.send service.settings shortener
    state.archive state.database
  { state with database := refreshed.database, archive := refreshed.archive }

theorem refreshEach_cons (state : State σ) (shortener : Shortener)
    (shorteners : List Shortener) :
    service.refreshEach state (shortener :: shorteners) =
      let rest := service.refreshEach (service.afterBackground state shortener) shorteners
      ((Catalog.refreshInBackground service.send service.settings shortener state.archive
        state.database).log ++ rest.1, rest.2) := rfl

theorem keepsCodes_afterBackground (hlayout : KeepsCodes state.database)
    (shortener : Shortener) : KeepsCodes (service.afterBackground state shortener).database := by
  rw [afterBackground, Catalog.database_refreshInBackground]
  exact Catalog.keepsCodes_refresh hlayout service.send service.settings shortener state.archive

theorem stored_afterBackground_of_ne (hlayout : KeepsCodes state.database)
    {shortener : Shortener} {name : Text} (hname : name ≠ shortener.name) :
    stored (service.afterBackground state shortener).database name =
      stored state.database name := by
  rw [afterBackground, Catalog.database_refreshInBackground]
  exact Catalog.stored_refresh_of_ne hlayout service.send service.settings state.archive hname

variable {service} in
/-- A shortener finds its rows as they were before the refresh of another one. -/
theorem effect_refreshAlone_afterBackground (hanswers : Archive.Answers service.send reply)
    (hlayout : KeepsCodes state.database) {first shortener : Shortener}
    (hname : shortener.name ≠ first.name) :
    (service.refreshAlone (service.afterBackground state first) shortener).effect shortener.name =
      (service.refreshAlone state shortener).effect shortener.name :=
  Catalog.effect_refresh_congr hanswers (keepsCodes_afterBackground service hlayout first) hlayout
    (stored_afterBackground_of_ne service hlayout hname) _ _

/-! ## Refreshing each of a list -/

theorem stored_refreshEach_of_not_mem (state : State σ) (hlayout : KeepsCodes state.database)
    {name : Text} (hname : name ∉ shorteners.map (·.name)) :
    stored (service.refreshEach state shorteners).2.database name = stored state.database name := by
  induction shorteners generalizing state with
  | nil => rfl
  | cons first shorteners ih =>
      rw [List.map_cons, List.mem_cons, not_or] at hname
      rw [refreshEach_cons]
      exact (ih _ (keepsCodes_afterBackground service hlayout first) hname.2).trans
        (stored_afterBackground_of_ne service hlayout hname.1)

/-- A shortener of the list has the rows that it would have after its refresh alone. -/
theorem stored_refreshEach_of_mem (state : State σ)
    (hanswers : Archive.Answers service.send reply) (hlayout : KeepsCodes state.database)
    (hnames : (shorteners.map (·.name)).Nodup)
    {shortener : Shortener} (hmem : shortener ∈ shorteners) :
    stored (service.refreshEach state shorteners).2.database shortener.name =
      stored (service.refreshAlone state shortener).database shortener.name := by
  induction shorteners generalizing state with
  | nil => cases hmem
  | cons first shorteners ih =>
      rw [List.map_cons, List.nodup_cons] at hnames
      have hafter := keepsCodes_afterBackground service hlayout first
      rw [refreshEach_cons]
      rcases List.mem_cons.mp hmem with rfl | hrest
      · rw [stored_refreshEach_of_not_mem service _ hafter hnames.1, afterBackground,
          Catalog.database_refreshInBackground, refreshAlone]
      · have heffect := effect_refreshAlone_afterBackground hanswers hlayout
          (name_ne_of_mem hnames.1 hrest)
        rw [ih _ hafter hnames.2 hrest]
        exact congrArg Catalog.Effect.rows heffect

/-- Every refresh of the list is run to its end, and reports what it would report alone. -/
theorem fst_refreshEach (state : State σ) (hanswers : Archive.Answers service.send reply)
    (hlayout : KeepsCodes state.database) (hnames : (shorteners.map (·.name)).Nodup) :
    (service.refreshEach state shorteners).1 = shorteners.flatMap fun shortener =>
      (Catalog.refreshInBackground service.send service.settings shortener state.archive
        state.database).log := by
  induction shorteners generalizing state with
  | nil => rfl
  | cons first shorteners ih =>
      rw [List.map_cons, List.nodup_cons] at hnames
      rw [refreshEach_cons, List.flatMap_cons]
      refine congrArg (_ ++ ·) ?_
      rw [ih _ (keepsCodes_afterBackground service hlayout first) hnames.2]
      apply List.flatMap_congr
      intro shortener hmem
      exact Catalog.log_refreshInBackground_congr
        (effect_refreshAlone_afterBackground hanswers hlayout (name_ne_of_mem hnames.1 hmem))

/-! ## The request -/

theorem serve_refreshAll {request : Request} (hasks : Asks request .refreshAll state.window) :
    service.serve state request =
      ⟨.ok (scheduledResponse service.registry), [], state.entered request,
        service.registry.shorteners⟩ := by
  have hroute : route request.method request.decodedPath = .endpoint .refreshAll := by
    rw [hasks.method, hasks.path]
    decide
  exact serve_of_admitted service state hroute rfl hasks rfl

/-- The refreshes are run if the names of the registry can be told, and otherwise the service
fails before them. -/
theorem handle_refreshAll {request : Request} (hasks : Asks request .refreshAll state.window) :
    let handled := service.handle state request
    let refreshed := service.refreshEach (state.entered request) service.registry.shorteners
    (handled.response.status = 202 ∧ IsTellable service.registry ∧
      handled.state = refreshed.2 ∧
      handled.log =
        service.accessEntry request (scheduledResponse service.registry) :: refreshed.1) ∨
    (handled.response.status = 500 ∧ ¬ IsTellable service.registry ∧
      handled.state = state.entered request) := by
  have hleave : CrossOrigin.leave? request = none := by
    apply leave?_of_method_ne
    rw [hasks.method]
    decide
  have hsendable := isSendable_scheduledResponse_iff service.registry
  simp only [handle, hleave, serve_refreshAll service hasks, sendable]
  cases hresponse : (scheduledResponse service.registry).isSendable with
  | true =>
      left
      exact ⟨status_dressed service request _, hsendable.mp hresponse, rfl, rfl⟩
  | false =>
      right
      refine ⟨rfl, ?_, rfl⟩
      rw [← hsendable, hresponse]
      exact Bool.false_ne_true

section

variable {request : Request} (hanswers : Archive.Answers service.send reply)
  (hlayout : KeepsCodes state.database) (hasks : Asks request .refreshAll state.window)

include hasks

theorem status_refreshAll_eq_iff :
    (service.handle state request).response.status = 202 ↔ IsTellable service.registry := by
  obtain ⟨hstatus, htellable, -, -⟩ | ⟨hstatus, huntellable, -⟩ :=
    handle_refreshAll service hasks
  · exact iff_of_true hstatus htellable
  · exact iff_of_false (by rw [hstatus]; decide) huntellable

theorem database_refreshAll_of_not_isTellable (huntellable : ¬ IsTellable service.registry) :
    (service.handle state request).state.database = state.database := by
  obtain ⟨-, htellable, -, -⟩ | ⟨-, -, hstate⟩ := handle_refreshAll service hasks
  · exact absurd htellable huntellable
  · rw [hstate, State.entered]

theorem refreshAll_of_isTellable (htellable : IsTellable service.registry) :
    let refreshed := service.refreshEach (state.entered request) service.registry.shorteners
    (service.handle state request).state = refreshed.2 ∧
      (service.handle state request).log =
        service.accessEntry request (scheduledResponse service.registry) :: refreshed.1 := by
  obtain ⟨-, -, hboth⟩ | ⟨-, huntellable, -⟩ := handle_refreshAll service hasks
  · exact hboth
  · exact absurd htellable huntellable

include hlayout

theorem stored_refreshAll_of_not_mem {name : Text} (hname : name ∉ service.registry.names) :
    stored (service.handle state request).state.database name = stored state.database name := by
  by_cases htellable : IsTellable service.registry
  · rw [(refreshAll_of_isTellable service hasks htellable).1]
    exact stored_refreshEach_of_not_mem service (state.entered request) hlayout hname
  · rw [database_refreshAll_of_not_isTellable service hasks htellable]

include hanswers

theorem stored_refreshAll_of_mem (htellable : IsTellable service.registry) {shortener : Shortener}
    (hmem : shortener ∈ service.registry.shorteners) :
    stored (service.handle state request).state.database shortener.name =
      stored (service.refreshAlone state shortener).database shortener.name := by
  rw [(refreshAll_of_isTellable service hasks htellable).1]
  exact stored_refreshEach_of_mem service (state.entered request) hanswers hlayout
    service.registry.nodup_names hmem

/-- The rows under each name are the same in whatever order the shorteners are registered. -/
theorem stored_refreshAll_of_perm {registry : Registry}
    (hperm : registry.shorteners.Perm service.registry.shorteners) (name : Text) :
    stored ({ service with registry }.handle state request).state.database name =
      stored (service.handle state request).state.database name := by
  have hnames : registry.names.Perm service.registry.names := hperm.map _
  by_cases htellable : IsTellable service.registry
  · have htellable' : IsTellable registry :=
      fun name hmem => htellable name (hnames.mem_iff.mp hmem)
    by_cases hname : name ∈ service.registry.names
    · obtain ⟨shortener, hmem, rfl⟩ := List.mem_map.mp hname
      rw [stored_refreshAll_of_mem service hanswers hlayout hasks htellable hmem,
        stored_refreshAll_of_mem { service with registry } hanswers hlayout hasks htellable'
          (hperm.mem_iff.mpr hmem)]
      rfl
    · rw [stored_refreshAll_of_not_mem service hlayout hasks hname,
        stored_refreshAll_of_not_mem { service with registry } hlayout hasks
          (fun hmem => hname (hnames.mem_iff.mp hmem))]
  · have huntellable : ¬ IsTellable registry :=
      fun htold => htellable fun name hmem => htold name (hnames.mem_iff.mpr hmem)
    rw [database_refreshAll_of_not_isTellable service hasks htellable,
      database_refreshAll_of_not_isTellable { service with registry } hasks huntellable]

end

/-- A request to refresh all catalogs is accepted exactly if the names of the registry can be
told, and nothing is refreshed otherwise.  After the refreshes each registered shortener has
the rows that its refresh alone would have left: the new catalog if it succeeds, and the old
rows if it fails in any way.  Rows under other names stay, every refresh is run to its end and
reports what it would report alone, and the order of the registry does not show in the rows. -/
theorem refreshAll_keeps_shorteners_apart (state : State σ) {request : Request}
    (hanswers : Archive.Answers service.send reply)
    (hlayout : ∀ table ∈ state.database.catalog, table.layout ∈ Layout.catalogs)
    (hasks : Asks request .refreshAll state.window) :
    let handled := service.handle state request
    (handled.response.status = 202 ↔ IsTellable service.registry) ∧
    (handled.response.status ≠ 202 → handled.state.database = state.database) ∧
    (handled.response.status = 202 →
      (∀ shortener ∈ service.registry.shorteners,
        let alone := service.refreshAlone state shortener
        stored handled.state.database shortener.name = stored alone.database shortener.name ∧
        ((∃ codes, (Archive.knownCodes service.send service.settings shortener
              state.archive).1 = .ok codes ∧
            alone.result = .ok codes.length ∧
            stored handled.state.database shortener.name =
              some (Catalog.catalogRows shortener codes)) ∨
          ∃ error, alone.result = .error error ∧
            stored handled.state.database shortener.name =
              stored state.database shortener.name)) ∧
      (∀ name ∉ service.registry.names,
        stored handled.state.database name = stored state.database name) ∧
      handled.log = service.accessEntry request (scheduledResponse service.registry) ::
        service.registry.shorteners.flatMap fun shortener =>
          (Catalog.refreshInBackground service.send service.settings shortener state.archive
            state.database).log) ∧
    ∀ registry : Registry, registry.shorteners.Perm service.registry.shorteners → ∀ name,
      stored ({ service with registry }.handle state request).state.database name =
        stored handled.state.database name := by
  intro handled
  have hcatalog : KeepsCodes state.database :=
    fun table hmem => Layout.keepsCodes_of_mem_catalogs (hlayout table hmem)
  have hstatus := status_refreshAll_eq_iff service hasks
  refine ⟨hstatus, ?_, ?_, ?_⟩
  · intro hrefused
    exact database_refreshAll_of_not_isTellable service hasks fun htellable =>
      hrefused (hstatus.mpr htellable)
  · intro haccepted
    have htellable := hstatus.mp haccepted
    refine ⟨?_, fun name => stored_refreshAll_of_not_mem service hcatalog hasks, ?_⟩
    · intro shortener hmem alone
      have hrows := stored_refreshAll_of_mem service hanswers hcatalog hasks htellable hmem
      refine ⟨hrows, ?_⟩
      rw [hrows]
      exact Catalog.refresh_cases hcatalog service.send service.settings shortener state.archive
    · rw [(refreshAll_of_isTellable service hasks htellable).2,
        fst_refreshEach service (state.entered request) hanswers hcatalog
          service.registry.nodup_names]
      rfl
  · exact fun registry hperm => stored_refreshAll_of_perm service hanswers hcatalog hasks hperm

end Refreshes

/-! ## Two shorteners -/

/-- A shortener whose host the archive does not answer for. -/
def silentShortener : Shortener := { trialShortener "b" with host := "y" }

/-- The reply with a table of URLs, three of them different. -/
def trialReply : Archive.Reply := ⟨200, none, Utf8.encode trialTable⟩

/-- Answers with the table for the host of trial shorteners only. -/
def oneHostReply (request : Archive.Request) : Archive.Outcome :=
  match Archive.addressOf Settings.default.timemapUrl
      ((Archive.knownCodesOptions .default).parameters (trialShortener "a").host) with
  | .error _ => .failure "ConnectError" "refused"
  | .ok address =>
      if request.address = address then .reply trialReply else .failure "ConnectError" "refused"

def twoService : Service Unit where
  registry := ⟨[silentShortener, trialShortener "a"], by decide⟩
  settings := .default
  send := Archive.stateless oneHostReply
  clock := ⟨"now", "0"⟩

/-- A catalog for each of the two shorteners and one for a name that is not registered. -/
def twoState : State Unit where
  window := []
  database := ⟨some ⟨Layout.created, [⟨"a", some "old", 0, true⟩, ⟨"b", some "kept", 0, true⟩,
    ⟨"z", some "other", 0, true⟩]⟩, none⟩
  archive := ()

/-- The refresh of the first shortener fails, and the catalog of the second one is replaced. -/
theorem refreshAll_keeps_shorteners_apart_one_failing :
    let handled := twoService.handle twoState (requestFor .refreshAll)
    Archive.Answers twoService.send oneHostReply ∧
      (∀ table ∈ twoState.database.catalog, table.layout ∈ Layout.catalogs) ∧
      Asks (requestFor .refreshAll) .refreshAll twoState.window ∧
      handled.response.status = 202 ∧
      stored handled.state.database "a" =
        some [⟨"a", some "b", 0, false⟩, ⟨"a", some "c", 1, false⟩, ⟨"a", some "a", 2, true⟩] ∧
      stored handled.state.database "b" = some [⟨"b", some "kept", 0, true⟩] ∧
      stored handled.state.database "z" = some [⟨"z", some "other", 0, true⟩] := by
  have hlayout : ∀ table ∈ twoState.database.catalog, table.layout ∈ Layout.catalogs := by
    rintro _ ⟨rfl⟩
    simp [Layout.catalogs]
  have hasks : Asks (requestFor .refreshAll) .refreshAll twoState.window :=
    asks_requestWith [] (by decide +kernel)
  have hanswers : Archive.Answers twoService.send oneHostReply := Archive.answers_stateless _
  obtain ⟨hstatus, -, haccepted, -⟩ :=
    refreshAll_keeps_shorteners_apart twoService twoState hanswers hlayout hasks
  have htellable : ∀ name ∈ twoService.registry.names, name.isEncodable = true := by decide
  have hok := hstatus.mpr htellable
  obtain ⟨hregistered, hothers, -⟩ := haccepted hok
  refine ⟨hanswers, hlayout, hasks, hok, ?_, ?_, hothers "z" (by decide)⟩
  · have hreply : queryOutcome twoService (trialShortener "a") () = .reply trialReply := by
      decide +kernel
    have hread : Json.read trialReply.body =
        .ok (Archive.urlTable [.string "original"] trialUrls) := by rfl
    have harchived : Archived twoService () (trialShortener "a") trialUrls :=
      ⟨trialReply, _, _, Prod.ext hreply rfl, rfl, hread⟩
    have hafter := (refresh_of_storable harchived (cleanUrls_trialShortener "a")
      ⟨by decide, by decide, by decide⟩ (Layout.keepsCodes_of_mem_catalogs (hlayout _ rfl)) none).2
    obtain ⟨hrows, -⟩ := hregistered (trialShortener "a") (by simp [twoService])
    rw [refreshAlone, twoState, hafter] at hrows
    exact hrows
  · have hsilent : queryOutcome twoService silentShortener () =
        .failure "ConnectError" "refused" := by
      decide +kernel
    obtain ⟨-, ⟨codes, hcodes, -⟩ | ⟨error, -, hrows⟩⟩ :=
      hregistered silentShortener (by simp [twoService])
    · rw [fst_knownCodes_eq_codesIn, twoState, hsilent] at hcodes
      cases hcodes
    · exact hrows

end ShortlinkCatalog.Service
