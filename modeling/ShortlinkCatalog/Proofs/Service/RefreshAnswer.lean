import ShortlinkCatalog.Proofs.Service.TwoRoutes

/-!
# Answers to a refresh

A refresh is handled if its answer is a count or says in a detail what went wrong.  The
errors that a fetch is said to end in are handled, if their message can be written down;
where a fetch strays, the service fails.
-/

namespace ShortlinkCatalog.Service

variable {σ : Type} {shortener : Shortener}

/-- A response with the count of a stored catalog, or with a detail. -/
def IsHandled (shortener : Shortener) (response : Response) : Prop :=
  (∃ count, Tells response (refreshedResponse shortener count)) ∨
    ∃ status detail, (status = 502 ∨ status = 500) ∧ Tells response (.ofDetail status detail)

/-- What the answer to a refresh has to say can be written down. -/
def IsWritable (shortener : Shortener) : Except Catalog.RefreshError Nat → Prop
  | .ok _ => shortener.name.isEncodable = true
  | .error error => error.message.isEncodable = true

/-! ## Outcomes of a refresh -/

theorem isHandled_congr {response other : Response} (htells : Tells response other) :
    IsHandled shortener response ↔ IsHandled shortener other := by
  simp only [IsHandled, Tells, htells.1, htells.2]

/-- A failure of the service has no detail. -/
theorem not_isHandled_failureResponse : ¬ IsHandled shortener failureResponse := by
  rintro (⟨count, -, hcontent⟩ | ⟨status, detail, -, -, hcontent⟩) <;> cases hcontent

theorem isHandled_told_iff {response : Response} (hhandled : IsHandled shortener response) :
    IsHandled shortener (told (.ok response)) ↔ response.isSendable = true := by
  cases hsendable : response.isSendable with
  | true =>
      rw [told_of_isSendable hsendable]
      exact iff_of_true hhandled rfl
  | false =>
      rw [told_of_not_isSendable hsendable]
      exact iff_of_false not_isHandled_failureResponse Bool.false_ne_true

theorem isHandled_told_ofDetail_iff {status : Nat} (hstatus : status = 502 ∨ status = 500)
    (detail : Text) :
    IsHandled shortener (told (.ok (.ofDetail status detail))) ↔ detail.isEncodable = true := by
  rw [isHandled_told_iff (.inr ⟨status, detail, hstatus, rfl, rfl⟩), isSendable_ofDetail_iff]

/-- Only the errors that a fetch is said to end in have an answer. -/
theorem isHandled_told_refreshOutcome_iff (result : Except Catalog.RefreshError Nat) :
    IsHandled shortener (told (refreshOutcome shortener result).1) ↔
      (∀ error, result = .error (.fetch error) → error.IsDocumented) ∧
        IsWritable shortener result := by
  have hstray (error : Archive.FetchError) (hundocumented : ¬ error.IsDocumented) :
      ¬ ∀ other, (Except.error (.fetch error) : Except Catalog.RefreshError Nat) =
        .error (.fetch other) → other.IsDocumented :=
    fun hall => hundocumented (hall error rfl)
  cases result with
  | ok count =>
      rw [refreshOutcome, isHandled_told_iff (.inl ⟨count, rfl, rfl⟩),
        isSendable_refreshedResponse_iff]
      simp [IsWritable]
  | error error =>
      cases error with
      | store error =>
          refine (isHandled_told_ofDetail_iff (.inr rfl) error.message).trans ?_
          simp [IsWritable, Catalog.RefreshError.message]
      | fetch error =>
          cases error with
          | failed error =>
              refine (isHandled_told_ofDetail_iff (.inl rfl) error.message).trans ?_
              simp [IsWritable, Catalog.RefreshError.message, Archive.FetchError.message,
                Archive.FetchError.IsDocumented]
          | unclean error =>
              refine (isHandled_told_ofDetail_iff (.inr rfl) error.message).trans ?_
              simp [IsWritable, Catalog.RefreshError.message, Archive.FetchError.message,
                Archive.FetchError.IsDocumented]
          | _ =>
              refine iff_of_false not_isHandled_failureResponse ?_
              exact fun hboth => hstray _ id hboth.1

/-- How the query of a refresh ends. -/
def queryOutcome (service : Service σ) (shortener : Shortener) (archive : σ) : Archive.Outcome :=
  (Archive.get service.send service.settings.userAgent service.settings.timemapUrl
    ((Archive.knownCodesOptions service.settings).parameters shortener.host) archive).1

theorem fst_knownCodes_eq_codesIn [Json.Room] (service : Service σ) (shortener : Shortener)
    (archive : σ) :
    (Archive.knownCodes service.send service.settings shortener archive).1 =
      Archive.codesIn shortener (queryOutcome service shortener archive) :=
  Archive.fst_knownCodes service.send service.settings shortener archive

section

variable [Json.Room] [Catalog.Annotations]

/-- A refresh fails to fetch exactly where the fetch alone does. -/
theorem refresh_result_eq_fetch_iff (service : Service σ) (shortener : Shortener) (archive : σ)
    (database : Database) {error : Archive.FetchError} :
    (Catalog.refresh service.send service.settings shortener archive database).result =
        .error (.fetch error) ↔
      (Archive.knownCodes service.send service.settings shortener archive).1 = .error error := by
  simp only [Catalog.refresh]
  cases (Archive.knownCodes service.send service.settings shortener archive).1 with
  | error other => simp [Catalog.storeFetched]
  | ok codes =>
      simp only [Catalog.storeFetched, reduceCtorEq, iff_false]
      cases (Catalog.replace database shortener (codes.map some)).1 <;> simp

/-! ## Handled refreshes -/

theorem isHandled_handle_iff (service : Service σ) (state : State σ) {request : Request}
    (hregistered : shortener ∈ service.registry.shorteners) (hname : IsPiece shortener.name)
    (hasks : Asks request (.refresh shortener.name) state.window) :
    IsHandled shortener (service.handle state request).response ↔
      ¬ Archive.Strays shortener (queryOutcome service shortener state.archive) ∧
        IsWritable shortener (Catalog.refresh service.send service.settings shortener
          state.archive state.database).result := by
  obtain ⟨htells, -⟩ := handle_refresh service state hregistered hname hasks
  rw [isHandled_congr htells, isHandled_told_refreshOutcome_iff,
    ← Archive.isDocumented_iff_not_strays]
  simp only [refresh_result_eq_fetch_iff, fst_knownCodes_eq_codesIn]
  cases Archive.codesIn shortener (queryOutcome service shortener state.archive) <;> simp

/-- A fetch succeeds exactly with the codes of the first column of the table in a reply.  It
ends in a documented error or succeeds exactly if it does not stray: the exchange is not
broken off, no row is empty, and no first cell is other than a text after URLs that were all
accepted.  A refresh is handled exactly if its fetch does not stray and its answer can be
written down. -/
theorem refresh_handled_unless_strays (service : Service σ) (shortener : Shortener)
    (archive : σ) :
    let outcome := queryOutcome service shortener archive
    let fetched := (Archive.knownCodes service.send service.settings shortener archive).1
    (∀ codes, fetched = .ok codes ↔
      ∃ rows urls, Archive.Lists outcome rows ∧
        rows.map List.head? = Archive.textColumn urls ∧ shortener.cleanUrls urls = .ok codes) ∧
    (((∃ codes, fetched = .ok codes) ∨ ∃ error, fetched = .error error ∧ error.IsDocumented) ↔
      ¬ Archive.Strays shortener outcome) ∧
    ∀ state request, state.archive = archive → shortener ∈ service.registry.shorteners →
      IsPiece shortener.name → Asks request (.refresh shortener.name) state.window →
      (IsHandled shortener (service.handle state request).response ↔
        ¬ Archive.Strays shortener outcome ∧ IsWritable shortener (Catalog.refresh service.send
          service.settings shortener archive state.database).result) := by
  simp only [fst_knownCodes_eq_codesIn]
  refine ⟨fun codes => Archive.codesIn_eq_ok_iff, Archive.isDocumented_iff_not_strays, ?_⟩
  rintro state request rfl hregistered hname hasks
  exact isHandled_handle_iff service state hregistered hname hasks

end

/-- A refresh from a table of four URLs does not stray, and its answer has an ASCII name. -/
theorem refresh_handled_unless_strays_four_urls :
    trialShortener "s" ∈ (serviceFor "s").registry.shorteners ∧
      IsPiece (trialShortener "s").name ∧
      Asks (requestFor (.refresh "s")) (.refresh "s") (stateFor trialTable).window ∧
      (Archive.knownCodes (serviceFor "s").send (serviceFor "s").settings (trialShortener "s")
        (stateFor trialTable).archive).1 = .ok ["b", "c", "a"] ∧
      IsHandled (trialShortener "s")
        ((serviceFor "s").handle (stateFor trialTable) (requestFor (.refresh "s"))).response := by
  have hname : IsPiece (trialShortener "s").name := ⟨by decide, by decide⟩
  obtain ⟨hreturns, hdocumented, hhandled⟩ := refresh_handled_unless_strays (serviceFor "s")
    (trialShortener "s") (stateFor trialTable).archive
  obtain ⟨reply, header, next, hreply, hstatus, hread⟩ := requests_trialUrls.archived
  have hlists : Archive.Lists (queryOutcome (serviceFor "s") (trialShortener "s")
      (stateFor trialTable).archive) (Archive.urlRows trialUrls) := by
    rw [queryOutcome, hreply]
    exact Archive.lists_urlRows hstatus hread
  have hok := (hreturns trialCodes).mpr
    ⟨_, _, hlists, Archive.heads_urlRows _, cleanUrls_trialShortener "s"⟩
  obtain ⟨table, hlayout, hdatabase⟩ := requests_trialUrls.exists_table
  have hresult := (refresh_of_storable requests_trialUrls.archived (cleanUrls_trialShortener "s")
    ⟨by decide, by decide, by decide⟩ hlayout (stateFor trialTable).database.versions).1
  refine ⟨requests_trialUrls.registered, hname, requests_trialUrls.asksRefresh, hok, ?_⟩
  refine (hhandled (stateFor trialTable) _ rfl requests_trialUrls.registered hname
    requests_trialUrls.asksRefresh).mpr ⟨hdocumented.mp (.inl ⟨_, hok⟩), ?_⟩
  rw [hdatabase, hresult]
  exact Text.isEncodable_ofString "s"

/-- A header and a row without cells. -/
def emptyRowTable : Text := "[[\x22original\x22],[]]"

/-- A row without cells ends a fetch in an error of its own, and the service fails. -/
theorem refresh_unhandled_of_empty_row :
    (Archive.knownCodes (serviceFor "s").send (serviceFor "s").settings (trialShortener "s")
        (stateFor emptyRowTable).archive).1 = .error .emptyRow ∧
      ¬ Archive.FetchError.emptyRow.IsDocumented ∧
      ¬ IsHandled (trialShortener "s")
        ((serviceFor "s").handle (stateFor emptyRowTable)
          (requestFor (.refresh "s"))).response := by
  have houtcome : queryOutcome (serviceFor "s") (trialShortener "s")
      (stateFor emptyRowTable).archive = .reply ⟨200, none, Utf8.encode emptyRowTable⟩ := by
    decide +kernel
  have hlists : Archive.Lists (.reply ⟨200, none, Utf8.encode emptyRowTable⟩) [[]] :=
    ⟨_, rfl, rfl, @Archive.Holds.table _ _ [[.string "original"], []] rfl⟩
  refine ⟨?_, id, ?_⟩
  · rw [fst_knownCodes_eq_codesIn, houtcome, Archive.codesIn_of_lists hlists]
    exact Archive.codesOfRows_of_empty List.mem_cons_self
  · have hasks : Asks (requestFor (.refresh "s")) (.refresh "s") (stateFor emptyRowTable).window :=
      asks_requestWith [] (by decide +kernel)
    rw [isHandled_handle_iff (serviceFor "s") (stateFor emptyRowTable) (by simp [serviceFor])
      ⟨by decide, by decide⟩ hasks]
    rintro ⟨hstraight, -⟩
    rw [houtcome] at hstraight
    exact hstraight (.emptyRow hlists List.mem_cons_self)

end ShortlinkCatalog.Service
