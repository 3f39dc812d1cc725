import ShortlinkCatalog.Proofs.Service.Reading
import ShortlinkCatalog.Proofs.Service.ShortenerRequests

/-!
# Answers to requests for a catalog

A request for a stored catalog is routed, its query is read, its client is admitted, and then
the catalog is read.  The query is checked for a limit that is too small and not for one that
is too large, which the read refuses, so such a request is accepted and fails.  With a limit
that fits, the first of the wanted rows are told, with the number of all rows.
-/

namespace ShortlinkCatalog.Service

open Catalog (Move Run Fits wanted upTo)

variable {σ : Type}

/-! ## Queries -/

/-- A value that was read without a fault is the default or was read from a text. -/
theorem queryValue_cases {α : Type} {fields : Form.Fields} {name : Text} {default : α}
    {read : Text → Except InputFault α} (hfaults : (queryValue fields name default read).2 = []) :
    (queryValue fields name default read).1 = default ∨
      ∃ text, read text = .ok (queryValue fields name default read).1 := by
  rw [queryValue] at hfaults ⊢
  cases hlookup : fields.reverse.lookup name with
  | none => exact .inl rfl
  | some text =>
      cases hread : read text with
      | ok value => exact .inr ⟨text, by simp [hread]⟩
      | error fault => simp [hlookup, hread] at hfaults

theorem one_le_of_limitOf {text : Text} {limit : ℤ} (hlimit : limitOf text = .ok limit) :
    1 ≤ limit := by
  rw [limitOf] at hlimit
  split at hlimit
  · cases hlimit
  · split_ifs at hlimit with hsmall
    obtain rfl := Except.ok.inj hlimit
    omega

/-- A limit that was accepted is positive. -/
theorem one_le_of_readNarrowing {request : Request} {narrowing : Narrowing}
    (hread : readNarrowing request = .ok narrowing) : ∀ limit ∈ narrowing.limit, 1 ≤ limit := by
  intro limit hlimit
  simp only [readNarrowing] at hread
  split at hread
  next hfaults =>
    obtain rfl := Except.ok.inj hread
    have hvalue : (queryValue (Form.decode request.query) "limit" none
        fun text => (limitOf text).map some).1 = some limit := hlimit
    obtain hdefault | ⟨text, htext⟩ := queryValue_cases (List.append_eq_nil_iff.mp hfaults).1
    · cases hvalue.symm.trans hdefault
    · rw [hvalue] at htext
      cases hparsed : limitOf text with
      | error fault =>
          rw [hparsed] at htext
          cases htext
      | ok parsed =>
          rw [hparsed] at htext
          obtain rfl := Option.some.inj (Except.ok.inj htext)
          exact one_le_of_limitOf hparsed
  next => cases hread

/-! ## Outcomes of a read -/

/-- The outcome of reading the catalog under a name. -/
def readOutcome (fetchedAt name : Text) (narrowing : Narrowing) (database : Database) :
    Except Failure Response :=
  catalogOutcome fetchedAt name
    (Catalog.select database name narrowing.limit narrowing.includeVanity)
    (Catalog.count database name)

section Outcomes

variable {fetchedAt name : Text} {narrowing : Narrowing} {database : Database}
  {rows : List CatalogRow}

/-- Rows that cannot be selected are a failure. -/
theorem told_readOutcome_of_error {fault : Catalog.ReadFault}
    (hselect : Catalog.select database name narrowing.limit narrowing.includeVanity =
      .error fault) :
    told (readOutcome fetchedAt name narrowing database) = failureResponse := by
  rw [readOutcome, hselect]
  rfl

/-- A limit that is too large is refused after the rows are found. -/
theorem told_readOutcome_of_limitBound_le (hfind : Catalog.find database name = .ok rows)
    (hlarge : ∃ limit ∈ narrowing.limit, Catalog.limitBound ≤ limit) :
    told (readOutcome fetchedAt name narrowing database) = failureResponse := by
  obtain ⟨limit, hlimit, hbound⟩ := hlarge
  have hselect := Catalog.limited_of_limitBound_le hbound (wanted narrowing.includeVanity rows)
  rw [← Option.mem_def.mp hlimit, ← Catalog.select_of_find hfind] at hselect
  exact told_readOutcome_of_error hselect

theorem readOutcome_of_fits (hfind : Catalog.find database name = .ok rows)
    (hfits : Fits narrowing.limit) :
    readOutcome fetchedAt name narrowing database =
      .ok (.ofJson 200 (catalogJson fetchedAt name rows.length
        (upTo (narrowing.limit.map Int.toNat) (wanted narrowing.includeVanity rows)))) := by
  rw [readOutcome, Catalog.select_of_find hfind, Catalog.limited_of_fits hfits,
    Catalog.count_of_find hfind]
  rfl

end Outcomes

/-! ## Requests -/

variable {service : Service σ} {state : State σ} {request : Request} {name : Text}

theorem route_shortcodes (hmethod : request.method = (Endpoint.shortcodes name).method)
    (hpath : request.decodedPath = (Endpoint.shortcodes name).path) :
    route request.method request.decodedPath =
      if name = [] ∨ .char '/' ∈ name then .unknown else .endpoint (.shortcodes name) := by
  rw [hmethod, hpath]
  exact route_of_shortener (by simp)

section Answers

variable [Json.Room] [Catalog.Annotations]

theorem handle_shortcodes_of_not_isPiece
    (hmethod : request.method = (Endpoint.shortcodes name).method)
    (hpath : request.decodedPath = (Endpoint.shortcodes name).path) (hname : ¬ IsPiece name) :
    Tells (service.handle state request).response (.ofDetail 404 "Not Found") := by
  have hroute := route_shortcodes hmethod hpath
  rw [if_pos (by rwa [IsPiece, ← not_or, not_not] at hname)] at hroute
  have hserve : service.serve state request = .pure state (.ok (.ofDetail 404 "Not Found")) := by
    simp only [serve, hroute]
  have htold := handle_of_serve_pure (.inl hmethod) hserve
  rwa [told_of_isSendable (by decide)] at htold

theorem handle_shortcodes_of_limited
    (hmethod : request.method = (Endpoint.shortcodes name).method)
    (hpath : request.decodedPath = (Endpoint.shortcodes name).path) (hname : IsPiece name)
    {narrowing : Narrowing} (hread : readNarrowing request = .ok narrowing)
    (hlimited : 100 ≤ state.window.count request.visit) :
    Tells (service.handle state request).response (limitedResponse 100) := by
  have hroute := route_shortcodes hmethod hpath
  rw [if_neg (not_or.mpr hname)] at hroute
  have hcall : (Endpoint.shortcodes name).read request = .ok (.shortcodes name narrowing) := by
    rw [Endpoint.read, hread]
    rfl
  have hreached : ¬ state.window.count ⟨request.limitAddress, request.decodedPath⟩ < 100 :=
    not_lt.mpr hlimited
  have hcheck : checkLimit state.window request (.shortcodes name) = .error 100 := by
    simp only [checkLimit, Endpoint.limit?, Window.enter, if_neg hreached]
  have hserve : service.serve state request = .pure state (.ok (limitedResponse 100)) := by
    simp only [serve, hroute, hcall, hcheck]
  have htold := handle_of_serve_pure (.inl hmethod) hserve
  rwa [told_of_isSendable (by decide)] at htold

/-! ## Answers -/

/-- What a request for the catalog of a shortener is answered after any run, if its query is
accepted.  A name that is no piece of a path leads nowhere, a client that has asked too often
is sent away, and a limit that does not fit or a name that cannot be written down is a failure.
Otherwise the first of the rows that are wanted are told in the order of their ranks, up to the
limit, with the number of all rows. -/
theorem catalog_answered_if_limit_fits (service : Service σ) (archive : σ) (layout : Layout)
    (hlayout : layout ∈ Layout.catalogs) (versions : Option (List Text)) (moves : List Move)
    (hclock : service.clock.fetchedAt.isEncodable = true) (shortener : Shortener)
    (hregistered : shortener ∈ service.registry.shorteners) (window : Window) (request : Request)
    (hmethod : request.method = (Endpoint.shortcodes shortener.name).method)
    (hpath : request.decodedPath = (Endpoint.shortcodes shortener.name).path)
    (narrowing : Narrowing) (hread : readNarrowing request = .ok narrowing) :
    let run := moves.foldl (Run.step service.send service.settings)
      (.start archive layout versions)
    let response := (service.handle ⟨window, run.database, run.archive⟩ request).response
    ∃ rows, run.Holds shortener.name rows ∧
      (¬ IsPiece shortener.name → Tells response (.ofDetail 404 "Not Found")) ∧
      (IsPiece shortener.name → 100 ≤ window.count request.visit →
        Tells response (limitedResponse 100)) ∧
      (IsPiece shortener.name → window.count request.visit < 100 →
        ((∃ limit ∈ narrowing.limit, Catalog.limitBound ≤ limit) ∨
            shortener.name.isEncodable = false →
          Tells response failureResponse) ∧
        ((∀ limit ∈ narrowing.limit, limit < Catalog.limitBound) →
            shortener.name.isEncodable = true →
          Tells response (.ofJson 200 (catalogJson service.clock.fetchedAt shortener.name
            rows.length (upTo (narrowing.limit.map Int.toNat)
              (wanted narrowing.includeVanity rows)))))) := by
  intro run response
  obtain ⟨rows, hholds, hcodes, hfind⟩ := Run.exists_holds_find hlayout service.send
    service.settings archive versions moves shortener.name
  refine ⟨rows, hholds, handle_shortcodes_of_not_isPiece hmethod hpath, ?_, ?_⟩
  · intro hname hreached
    exact handle_shortcodes_of_limited hmethod hpath hname hread hreached
  intro hname hadmitted
  have hasks : Asks request (.shortcodes shortener.name) window := by
    refine ⟨hmethod, hpath, ?_⟩
    intro limit hlimit
    obtain rfl := Option.some.inj hlimit
    exact hadmitted
  have htold : Tells response (told (readOutcome service.clock.fetchedAt shortener.name narrowing
      run.database)) :=
    handle_shortcodes service _ hregistered hname hasks hread
  cases hfault : Text.utf8Fault shortener.name with
  | some error =>
      rw [hfault] at hfind
      have hunencodable : shortener.name.isEncodable ≠ true := by
        rw [ne_eq, ← Text.utf8Fault_eq_none_iff, hfault]
        exact Option.some_ne_none error
      refine ⟨fun _ => ?_, fun _ hencodable => absurd hencodable hunencodable⟩
      rwa [told_readOutcome_of_error ((Catalog.reads_of_find_error hfind).1 _ _)] at htold
  | none =>
      rw [hfault] at hfind
      have hencodable := (Text.utf8Fault_eq_none_iff _).mp hfault
      constructor
      · intro hrefused
        rw [hencodable, or_iff_left (by decide)] at hrefused
        rwa [told_readOutcome_of_limitBound_le hfind hrefused] at htold
      · intro hbound _
        have hfits : Fits narrowing.limit := by
          intro limit hlimit
          have hpositive := one_le_of_readNarrowing hread limit hlimit
          exact ⟨by omega, hbound limit hlimit⟩
        have hsendable : (Response.ofJson 200 (catalogJson service.clock.fetchedAt shortener.name
            rows.length (upTo (narrowing.limit.map Int.toNat)
              (wanted narrowing.includeVanity rows)))).isSendable = true := by
          apply isSendable_catalogJson rows.length hclock hencodable
          intro row hmem
          exact hcodes row (Catalog.mem_of_mem_upTo_wanted hmem)
        rwa [readOutcome_of_fits hfind hfits, told_of_isSendable hsendable] at htold

end Answers

/-! ### Two codes -/

/-- A request for the catalog of the built-in `redht`. -/
def redhtRequest (query : Text) : Request where
  method := Endpoint.get
  path := "/shorteners/redht/shortcodes"
  query := query
  headers := []
  peer := none
  body := []

theorem asks_redhtRequest (query : Text) :
    Asks (redhtRequest query) (.shortcodes BuiltIn.redht.name) [] where
  method := rfl
  path := by
    change Percent.decode (redhtRequest []).path = _
    decide +kernel
  admitted := by
    intro limit hlimit
    obtain rfl := Option.some.inj hlimit
    exact Nat.zero_lt_succ 99

/-- Of two rows the first is told. -/
theorem catalog_answered_if_limit_fits_redht :
    let request := redhtRequest "limit=1&include_vanity=true"
    let run : Run Archive.Script := emptyRun.step scriptedService.send scriptedService.settings
      (.replace BuiltIn.redht [some "1zzgkXp", some "sig"])
    Layout.created ∈ Layout.catalogs ∧ scriptedService.clock.fetchedAt.isEncodable = true ∧
      BuiltIn.redht ∈ scriptedService.registry.shorteners ∧
      request.method = (Endpoint.shortcodes BuiltIn.redht.name).method ∧
      request.decodedPath = (Endpoint.shortcodes BuiltIn.redht.name).path ∧
      readNarrowing request = .ok ⟨some 1, true⟩ ∧
      Tells (scriptedService.handle ⟨[], run.database, run.archive⟩ request).response
        (.ofJson 200 (catalogJson "now" "redht" 2 [⟨"redht", some "1zzgkXp", 0, false⟩])) := by
  intro request run
  have hlayout : Layout.created ∈ Layout.catalogs := by
    simp [Layout.catalogs]
  have hclock : scriptedService.clock.fetchedAt.isEncodable = true := by
    decide
  have hregistered : BuiltIn.redht ∈ scriptedService.registry.shorteners := by
    simp [scriptedService, Registry.builtIn, BuiltIn.shorteners]
  have hasks : Asks request (.shortcodes BuiltIn.redht.name) [] := asks_redhtRequest _
  have hread : readNarrowing request = .ok ⟨some 1, true⟩ := rfl
  obtain ⟨rows, hholds, -, -, hanswered⟩ := catalog_answered_if_limit_fits scriptedService
    (.ofOutcomes []) Layout.created hlayout none
    [.replace BuiltIn.redht [some "1zzgkXp", some "sig"]] hclock BuiltIn.redht hregistered []
    request hasks.method hasks.path ⟨some 1, true⟩ hread
  obtain rfl : rows = Run.redhtRows :=
    hholds.unique ⟨_, rfl, .refl _, by decide⟩
  have hname : IsPiece BuiltIn.redht.name := ⟨by decide, by decide⟩
  have hbound : ∀ limit ∈ (⟨some 1, true⟩ : Narrowing).limit, limit < Catalog.limitBound := by
    intro limit hlimit
    obtain rfl := Option.some.inj hlimit
    decide
  exact ⟨hlayout, hclock, hregistered, hasks.method, hasks.path, hread,
    (hanswered hname (Nat.zero_lt_succ 99)).2 hbound (by decide)⟩

/-- The least limit that is too large is accepted, and the request fails. -/
theorem catalog_fails_at_limitBound :
    let request := redhtRequest "limit=9223372036854775808"
    BuiltIn.redht ∈ scriptedService.registry.shorteners ∧
      Asks request (.shortcodes BuiltIn.redht.name) [] ∧
      readNarrowing request = .ok ⟨some Catalog.limitBound, true⟩ ∧
      (scriptedService.handle ⟨[], emptyRun.database, emptyRun.archive⟩
        request).response.status = 500 := by
  intro request
  have hregistered : BuiltIn.redht ∈ scriptedService.registry.shorteners := by
    simp [scriptedService, Registry.builtIn, BuiltIn.shorteners]
  refine ⟨hregistered, asks_redhtRequest _, rfl, ?_⟩
  decide +kernel

end ShortlinkCatalog.Service
