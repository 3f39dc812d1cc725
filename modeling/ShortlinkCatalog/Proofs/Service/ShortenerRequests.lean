import ShortlinkCatalog.Proofs.Json.Blank
import ShortlinkCatalog.Proofs.Service.Handling

/-!
# Requests about a shortener

Three endpoints belong to a shortener.  A request that asks one of them, is understood and
has not reached its limit is told what the endpoint answers, and under a name that is no
piece of a path there is no such endpoint.
-/

namespace ShortlinkCatalog.Service

variable {σ : Type}

/-! ## Requests -/

/-- What a request counts as. -/
def Request.visit (request : Request) : Visit := ⟨request.limitAddress, request.decodedPath⟩

/-- A request for an endpoint by a client that has not reached its limit. -/
structure Asks (request : Request) (endpoint : Endpoint) (window : Window) : Prop where
  method : request.method = endpoint.method
  path : request.decodedPath = endpoint.path
  admitted : ∀ limit ∈ endpoint.limit?, window.count request.visit < limit

/-- A request whose body is a JSON object with a list of URLs. -/
structure CarriesBatch [Json.Room] (request : Request) (urls : List Text) : Prop where
  type : (request.header? "content-type").map isJsonType = some true
  body : ∃ members, Json.read request.body = .ok (.object members) ∧
    Json.member? "urls" members = some (.array (urls.map .string))

/-- A name that is one piece of a path. -/
def IsPiece (name : Text) : Prop := name ≠ [] ∧ .char '/' ∉ name

variable {name : Text} {endpoint : Endpoint}

theorem route_of_asks {request : Request} {window : Window}
    (hendpoint : endpoint ∈ [.clean name, .refresh name, .shortcodes name])
    (hasks : Asks request endpoint window) :
    route request.method request.decodedPath =
      if name = [] ∨ .char '/' ∈ name then .unknown else .endpoint endpoint := by
  rw [hasks.method, hasks.path]
  exact route_of_shortener hendpoint

/-- A request is let in below the limit of its visit, and then counts. -/
theorem checkLimit_eq_ok_iff {request : Request} {window after : Window} {limit : Nat}
    (hlimit : endpoint.limit? = some limit) :
    checkLimit window request endpoint = .ok after ↔
      window.count request.visit < limit ∧ after = request.visit :: window := by
  have hvisit : request.visit = ⟨request.limitAddress, request.decodedPath⟩ := rfl
  rw [checkLimit, hlimit, hvisit]
  simp only [Window.enter]
  split_ifs with hadmitted <;> simp [hadmitted, eq_comm]

/-- An admitted request is counted. -/
theorem checkLimit_of_limit? {request : Request} {window : Window} {limit : Nat}
    (hlimit : endpoint.limit? = some limit) (hasks : Asks request endpoint window) :
    checkLimit window request endpoint = .ok (request.visit :: window) :=
  (checkLimit_eq_ok_iff hlimit).mpr ⟨hasks.admitted limit hlimit, rfl⟩

/-- A refresh does not count against the limit for listing. -/
theorem asks_after_refresh {list refresh : Request} {window : Window}
    (hlist : Asks list (.shortcodes name) window) (hrefresh : Asks refresh (.refresh name) window) :
    Asks list (.shortcodes name) (refresh.visit :: window) := by
  refine ⟨hlist.method, hlist.path, ?_⟩
  intro limit hlimit
  have hpaths : (Endpoint.refresh name).path ≠ (Endpoint.shortcodes name).path := by
    intro heq
    simp only [Endpoint.path, Endpoint.path.ofShortener, List.append_cancel_left_eq] at heq
    exact absurd heq (by decide)
  have hvisit : refresh.visit ≠ list.visit := by
    intro heq
    have hpath : refresh.decodedPath = list.decodedPath := congrArg Visit.path heq
    rw [hrefresh.path, hlist.path] at hpath
    exact hpaths hpath
  rw [List.count_cons_of_ne hvisit]
  exact hlist.admitted limit hlimit

theorem textsFrom_map_string (position : Nat) (urls : List Text) :
    textsFrom position (urls.map .string) = (urls, []) := by
  induction urls generalizing position with
  | nil => rfl
  | cons url urls ih => rw [List.map_cons, textsFrom, ih]

theorem readBatch_of_carriesBatch [Json.Room] {request : Request} {urls : List Text}
    (hcarries : CarriesBatch request urls) (hbatch : urls.length ≤ maxBatch) :
    readBatch request = .ok urls := by
  obtain ⟨members, hread, hmember⟩ := hcarries.body
  have hbody : request.body.isEmpty = false := by
    rw [Bool.eq_false_iff]
    intro hempty
    rw [List.isEmpty_iff] at hempty
    apply Json.read_ne_ok_of_blank _ _ hread
    simp [hempty]
  have hvalue : bodyValue request = .ok (.object members) := by
    simp [bodyValue, hbody, hcarries.type, hread]
  have hlength : ¬ maxBatch < (urls.map Json.string).length := by
    rw [List.length_map]
    omega
  simp only [readBatch, hvalue, Except.bind, batchOf, hmember, if_neg hlength,
    textsFrom_map_string]

theorem readNarrowing_of_no_query {request : Request} (hquery : request.query = []) :
    readNarrowing request = .ok ⟨none, true⟩ := by
  rw [readNarrowing, hquery]
  rfl

/-- A request that asks an endpoint has a method whose answer is told. -/
theorem method_of_asks {request : Request} {window : Window}
    (hasks : Asks request endpoint window) :
    request.method = Endpoint.get ∨ request.method = Endpoint.post := by
  rw [hasks.method]
  cases endpoint <;> simp [Endpoint.method]

/-- A response with this status and this content. -/
def Tells (response : Response) (told : Response) : Prop :=
  response.status = told.status ∧ response.content = told.content

section

variable [Json.Room] [Catalog.Annotations]

/-- A request that is understood and admitted is answered. -/
theorem serve_of_admitted (service : Service σ) (state : State σ) {request : Request}
    {limit : Nat} (hroute : route request.method request.decodedPath = .endpoint endpoint)
    (hlimit : endpoint.limit? = some limit) (hasks : Asks request endpoint state.window)
    {call : Call} (hread : endpoint.read request = .ok call) :
    service.serve state request =
      service.answer { state with window := request.visit :: state.window } call := by
  simp only [serve, hroute, hread, checkLimit_of_limit? hlimit hasks]

/-- So is one for an endpoint of a shortener whose name is a piece of a path. -/
theorem serve_of_asks (service : Service σ) (state : State σ) {request : Request}
    (hendpoint : endpoint ∈ [.clean name, .refresh name, .shortcodes name])
    (hasks : Asks request endpoint state.window) (hname : IsPiece name) {call : Call}
    (hread : endpoint.read request = .ok call) :
    service.serve state request =
      service.answer { state with window := request.visit :: state.window } call := by
  have hroute := route_of_asks hendpoint hasks
  rw [if_neg (not_or.mpr hname)] at hroute
  obtain ⟨limit, hlimit⟩ : ∃ limit, endpoint.limit? = some limit := by
    simp only [List.mem_cons, List.not_mem_nil, or_false] at hendpoint
    rcases hendpoint with rfl | rfl | rfl <;> exact ⟨_, rfl⟩
  exact serve_of_admitted service state hroute hlimit hasks hread

/-- A name that is no piece of a path leads nowhere. -/
theorem serve_of_not_isPiece (service : Service σ) (state : State σ) {request : Request}
    (hendpoint : endpoint ∈ [.clean name, .refresh name, .shortcodes name])
    (hasks : Asks request endpoint state.window) (hname : ¬ IsPiece name) :
    service.serve state request = .pure state (.ok (.ofDetail 404 "Not Found")) := by
  have hroute := route_of_asks hendpoint hasks
  rw [if_pos (by rwa [IsPiece, ← not_or, not_not] at hname)] at hroute
  simp only [serve, hroute]

/-! ## The three answers -/

theorem handle_clean (service : Service σ) (state : State σ) {request : Request}
    {shortener : Shortener} (hregistered : shortener ∈ service.registry.shorteners)
    (hname : IsPiece shortener.name) {urls : List Text} (hbatch : urls.length ≤ maxBatch)
    (hasks : Asks request (.clean shortener.name) state.window)
    (hcarries : CarriesBatch request urls) :
    Tells (service.handle state request).response (told (.ok (cleanResponse shortener urls))) ∧
      (service.handle state request).state.database = state.database := by
  have hread : (Endpoint.clean shortener.name).read request = .ok (.clean shortener.name urls) := by
    rw [Endpoint.read, readBatch_of_carriesBatch hcarries hbatch]
    rfl
  have hserve := serve_of_asks service state (by simp) hasks hname hread
  rw [answer, withShortener, service.registry.get_eq_ok_of_mem hregistered] at hserve
  have hhandle := handle_eq_serve service state (method_of_asks hasks) (by rw [hserve]; rfl)
  rw [hserve] at hhandle
  obtain ⟨hstatus, hcontent, hstate⟩ := hhandle
  exact ⟨⟨hstatus, hcontent⟩, by rw [hstate]; rfl⟩

theorem handle_refresh (service : Service σ) (state : State σ) {request : Request}
    {shortener : Shortener} (hregistered : shortener ∈ service.registry.shorteners)
    (hname : IsPiece shortener.name)
    (hasks : Asks request (.refresh shortener.name) state.window) :
    let refreshed := Catalog.refresh service.send service.settings shortener state.archive
      state.database
    Tells (service.handle state request).response
        (told (refreshOutcome shortener refreshed.result).1) ∧
      (service.handle state request).state =
        ⟨request.visit :: state.window, refreshed.database, refreshed.archive⟩ := by
  have hread : (Endpoint.refresh shortener.name).read request =
      .ok (.refresh shortener.name) := rfl
  have hserve := serve_of_asks service state (by simp) hasks hname hread
  rw [answer, withShortener, service.registry.get_eq_ok_of_mem hregistered] at hserve
  have hhandle := handle_eq_serve service state (method_of_asks hasks) (by rw [hserve]; rfl)
  rw [hserve] at hhandle
  obtain ⟨hstatus, hcontent, hstate⟩ := hhandle
  exact ⟨⟨hstatus, hcontent⟩, hstate⟩

/-- A request that is answered at once is told its outcome. -/
theorem handle_of_serve_pure {service : Service σ} {state next : State σ} {request : Request}
    {outcome : Except Failure Response}
    (hmethod : request.method = Endpoint.get ∨ request.method = Endpoint.post)
    (hserve : service.serve state request = .pure next outcome) :
    Tells (service.handle state request).response (told outcome) := by
  have hhandle := handle_eq_serve service state hmethod (by rw [hserve]; rfl)
  rw [hserve] at hhandle
  exact ⟨hhandle.1, hhandle.2.1⟩

theorem handle_shortcodes (service : Service σ) (state : State σ) {request : Request}
    {shortener : Shortener} (hregistered : shortener ∈ service.registry.shorteners)
    (hname : IsPiece shortener.name)
    (hasks : Asks request (.shortcodes shortener.name) state.window)
    {narrowing : Narrowing} (hread : readNarrowing request = .ok narrowing) :
    Tells (service.handle state request).response
      (told (catalogOutcome service.clock.fetchedAt shortener.name
        (Catalog.select state.database shortener.name narrowing.limit narrowing.includeVanity)
        (Catalog.count state.database shortener.name))) := by
  have hcall : (Endpoint.shortcodes shortener.name).read request =
      .ok (.shortcodes shortener.name narrowing) := by
    rw [Endpoint.read, hread]
    rfl
  have hserve := serve_of_asks service state (by simp) hasks hname hcall
  rw [answer, withShortener, service.registry.get_eq_ok_of_mem hregistered] at hserve
  exact handle_of_serve_pure (method_of_asks hasks) hserve

theorem handle_of_not_isPiece (service : Service σ) (state : State σ) {request : Request}
    (hendpoint : endpoint ∈ [.clean name, .refresh name, .shortcodes name])
    (hasks : Asks request endpoint state.window) (hname : ¬ IsPiece name) :
    (service.handle state request).response.status = 404 ∧
      (service.handle state request).state = state := by
  have hserve := serve_of_not_isPiece service state hendpoint hasks hname
  have hhandle := handle_eq_serve service state (method_of_asks hasks) (by rw [hserve]; rfl)
  rw [hserve] at hhandle
  exact ⟨hhandle.1, hhandle.2.2⟩

end

end ShortlinkCatalog.Service
