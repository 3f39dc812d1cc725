import ShortlinkCatalog.Archive.Releases
import ShortlinkCatalog.Proofs.Archive.Captures

/-!
# Which listings of releases are read

A listing is read if it is an object whose items are absent or objects with an identifier
each.  Any other value fails the query at the first thing that cannot be taken apart, and no
part of it is returned.  A body that cannot be read fails the query as well, unless it is
nested too deeply: then the exchange is broken off.
-/

namespace ShortlinkCatalog.Archive

variable {name : Text} {value listing : Json}

/-- The value is an object that has this member. -/
def HasMember (name : Text) (value found : Json) : Prop :=
  ∃ members, value = .object members ∧ Json.member? name members = some found

/-- The values that count as absent. -/
inductive IsAbsent : Json → Prop
  | null : IsAbsent .null
  | false : IsAbsent (.bool false)
  | zero : IsAbsent (.int 0)
  | realZero (negative : Bool) (exponent : Int) : IsAbsent (.float (.finite negative 0 exponent))
  | string : IsAbsent (.string [])
  | array : IsAbsent (.array [])
  | object : IsAbsent (.object [])

/-- The identifiers that a listing has, one for each item. -/
inductive HasIdentifiers (listing : Json) : List Json → Prop
  | absent {items : Json} (hitems : HasMember "items" listing items) (habsent : IsAbsent items) :
      HasIdentifiers listing []
  | array {items identifiers : List Json} (hitems : HasMember "items" listing (.array items))
      (hidentifiers : List.Forall₂ (HasMember "identifier") items identifiers) :
      HasIdentifiers listing identifiers

/-! ## Taking a listing apart -/

theorem isVoid_iff_isAbsent : value.isVoid = true ↔ IsAbsent value := by
  constructor
  · intro hvoid
    match value with
    | .null => exact .null
    | .bool false => exact .false
    | .int number =>
        obtain rfl : number = 0 := by simpa [Json.isVoid] using hvoid
        exact .zero
    | .float (.finite negative mantissa exponent) =>
        obtain rfl : mantissa = 0 := by simpa [Json.isVoid, Binary64.isZero] using hvoid
        exact .realZero negative exponent
    | .string [] => exact .string
    | .array [] => exact .array
    | .object [] => exact .object
  · rintro ⟨⟩ <;> rfl

theorem memberOf_eq_ok_iff {found : Json} :
    memberOf name value = .ok found ↔ HasMember name value found := by
  cases value with
  | object members =>
      cases hmember : Json.member? name members <;> simp [memberOf, HasMember, hmember]
  | _ => simp [memberOf, HasMember]

/-- Going through a list succeeds if every step does. -/
theorem mapM_eq_ok_iff {α β ε : Type} {step : α → Except ε β} {items : List α}
    {found : List β} :
    items.mapM step = .ok found ↔
      List.Forall₂ (fun item value => step item = .ok value) items found := by
  induction items generalizing found with
  | nil => cases found <;> simp [pure, Except.pure]
  | cons item items ih =>
      rw [List.mapM_cons]
      cases hstep : step item with
      | error fault => cases found <;> simp [bind, Except.bind, hstep]
      | ok value =>
          cases hrest : items.mapM step with
          | error fault => cases found <;> simp [bind, Except.bind, ← ih, hrest, hstep]
          | ok values =>
              cases found <;> simp [bind, Except.bind, pure, Except.pure, ← ih, hrest, hstep]

theorem mapM_memberOf_eq_ok_iff {items found : List Json} :
    items.mapM (memberOf name) = .ok found ↔ List.Forall₂ (HasMember name) items found := by
  simp only [mapM_eq_ok_iff, memberOf_eq_ok_iff]

/-- Texts have no members. -/
theorem not_forall₂_hasMember_of_texts {texts : List Text} (htexts : texts ≠ [])
    (found : List Json) : ¬ List.Forall₂ (HasMember name) (texts.map .string) found := by
  obtain ⟨text, rest, rfl⟩ := List.exists_cons_of_ne_nil htexts
  rintro (_ | ⟨⟨members, hobject, -⟩, -⟩)
  cases hobject

/-- What is not absent is taken apart only if it is an array. -/
theorem mapM_elements_eq_ok_iff {items : Json} (hvoid : items.isVoid = false)
    {found : List Json} :
    (elements items).bind (·.mapM (memberOf name)) = .ok found ↔
      ∃ list, items = .array list ∧ List.Forall₂ (HasMember name) list found := by
  have htexts (texts : List Text) (hsome : texts ≠ []) :
      (texts.map Json.string).mapM (memberOf name) ≠ .ok found := by
    rw [ne_eq, mapM_memberOf_eq_ok_iff]
    exact not_forall₂_hasMember_of_texts hsome found
  cases items with
  | array list => simp [elements, Except.bind, mapM_memberOf_eq_ok_iff]
  | string text =>
      have hsome : text.map (fun character => [character]) ≠ [] := by
        simpa [Json.isVoid] using hvoid
      simpa [elements, Except.bind, Function.comp_def] using htexts _ hsome
  | object members =>
      have hsome : members.map Prod.fst ≠ [] := by simpa [Json.isVoid] using hvoid
      simpa [elements, Except.bind, Function.comp_def] using htexts _ hsome
  | _ => simp [elements, Except.bind]

theorem HasMember.unique {found other : Json} (hfound : HasMember name value found)
    (hother : HasMember name value other) : found = other := by
  rw [← memberOf_eq_ok_iff] at hfound hother
  exact Except.ok.inj (hfound.symm.trans hother)

theorem hasIdentifiers_iff_of_hasMember {items : Json}
    (hitems : HasMember "items" listing items) {found : List Json} :
    HasIdentifiers listing found ↔
      IsAbsent items ∧ found = [] ∨
        ∃ list, items = .array list ∧ List.Forall₂ (HasMember "identifier") list found := by
  constructor
  · rintro (⟨hother, habsent⟩ | ⟨hother, hfound⟩)
    · obtain rfl := hitems.unique hother
      exact .inl ⟨habsent, rfl⟩
    · obtain rfl := hitems.unique hother
      exact .inr ⟨_, rfl, hfound⟩
  · rintro (⟨habsent, rfl⟩ | ⟨list, rfl, hfound⟩)
    · exact .absent hitems habsent
    · exact .array hitems hfound

/-- The identifiers of a listing are found exactly if it has them. -/
theorem identifiers_eq_ok_iff {found : List Json} :
    identifiers listing = .ok found ↔ HasIdentifiers listing found := by
  cases hlisting : memberOf "items" listing with
  | error fault =>
      have hnone (items : Json) : ¬ HasMember "items" listing items := by
        simp [← memberOf_eq_ok_iff, hlisting]
      simp only [identifiers, bind, Except.bind, hlisting, reduceCtorEq, false_iff]
      rintro (⟨hitems, -⟩ | ⟨hitems, -⟩) <;> exact hnone _ hitems
  | ok items =>
      have hitems : HasMember "items" listing items := memberOf_eq_ok_iff.mp hlisting
      rw [hasIdentifiers_iff_of_hasMember hitems, ← isVoid_iff_isAbsent]
      cases hvoid : items.isVoid with
      | true =>
          have hnone : identifiers listing = .ok [] := by
            simp [identifiers, bind, Except.bind, hlisting, hvoid]
          rw [hnone, Except.ok.injEq, eq_comm]
          refine ⟨fun hempty => .inl ⟨rfl, hempty⟩, ?_⟩
          rintro (⟨-, hempty⟩ | ⟨list, rfl, hfound⟩)
          · exact hempty
          · obtain rfl : list = [] := by simpa [Json.isVoid] using hvoid
            exact List.forall₂_nil_left_iff.mp hfound
      | false =>
          have hsome : identifiers listing =
              (elements items).bind (·.mapM (memberOf "identifier")) := by
            simp [identifiers, bind, Except.bind, hlisting, hvoid]
          rw [hsome, mapM_elements_eq_ok_iff hvoid]
          simp

/-! ## Messages -/

theorem isEncodable_detailed_readError (error : Json.ReadError) :
    error.detailed.isEncodable = true := by
  have hkind : error.kind.isEncodable = true := by
    unfold Json.ReadError.kind
    split <;> simp
  unfold Json.ReadError.detailed
  split <;> simp [hkind, Text.join]

theorem isEncodable_detailed_listingFault (fault : ListingFault) :
    fault.detailed.isEncodable = true := by
  cases fault <;> simp [ListingFault.detailed, ListingFault.kind, ListingFault.description]

/-- A failure is told by what the transport said, and everything else in texts that can be
encoded. -/
theorem isEncodable_message_releases_iff (fault : ReleasesFault) :
    (QueryError.releases fault).message.isEncodable = true ↔
      ∀ kind message, fault = .transport kind message → message.isEncodable = true := by
  cases fault <;> simp [QueryError.message, ReleasesFault.message,
    isEncodable_detailed_readError, isEncodable_detailed_listingFault]

/-! ## Outcomes of a listing -/

section Outcomes

variable [Json.Room]

variable {reply : Reply}

theorem releases_of_read (hstatus : reply.status = 200)
    (hread : Json.read reply.body = .ok value) :
    releases (.reply reply) =
      (identifiers value).mapError fun fault => .failed (.releases (.malformed fault)) := by
  simp only [releases, hstatus, hread]
  cases identifiers value <;> rfl

theorem releases_of_unreadable {error : Json.ReadError} (hstatus : reply.status = 200)
    (hread : Json.read reply.body = .error error) (hdeep : ¬ IsTooDeep error) :
    releases (.reply reply) = .error (.failed (.releases (.unreadable error))) := by
  simp only [releases, hstatus, hread]
  split <;> simp_all [IsTooDeep]

theorem releases_of_tooDeep {container : Json.Container} (hstatus : reply.status = 200)
    (hread : Json.read reply.body = .error (.unreadable (.tooDeep container))) :
    releases (.reply reply) = .error (.interrupted (.tooDeep container)) := by
  simp [releases, hstatus, hread]

theorem releases_eq_ok_iff_of_read (hstatus : reply.status = 200)
    (hread : Json.read reply.body = .ok value) {found : List Json} :
    releases (.reply reply) = .ok found ↔ HasIdentifiers value found := by
  rw [releases_of_read hstatus hread, ← identifiers_eq_ok_iff]
  cases identifiers value <;> simp [Except.mapError]

/-- A value that is no listing has a fault, which the query fails with. -/
theorem exists_fault_of_not_hasIdentifiers (hstatus : reply.status = 200)
    (hread : Json.read reply.body = .ok value) (hnone : ∀ found, ¬ HasIdentifiers value found) :
    ∃ fault, identifiers value = .error fault ∧
      FailsWith (releases (.reply reply)) (.releases (.malformed fault)) none
        (some fault.kind) := by
  cases hidentifiers : identifiers value with
  | ok found => exact absurd (identifiers_eq_ok_iff.mp hidentifiers) (hnone found)
  | error fault =>
      refine ⟨fault, rfl, ?_, rfl, rfl⟩
      rw [releases_of_read hstatus hread, hidentifiers]
      rfl

/-- The archive answered with a listing that has these identifiers. -/
def ListsReleases (outcome : Outcome) (found : List Json) : Prop :=
  ∃ reply value, outcome = .reply reply ∧ reply.status = 200 ∧
    Json.read reply.body = .ok value ∧ HasIdentifiers value found

theorem releases_of_listsReleases {outcome : Outcome} {found : List Json}
    (hlists : ListsReleases outcome found) : releases outcome = .ok found := by
  obtain ⟨reply, value, rfl, hstatus, hread, hfound⟩ := hlists
  exact (releases_eq_ok_iff_of_read hstatus hread).mpr hfound

theorem releases_of_brokenOff {outcome : Outcome} (hbroken : BrokenOff outcome) :
    ∃ cause, releases outcome = .error (.interrupted cause) := by
  cases hbroken with
  | interrupted cause => exact ⟨cause, rfl⟩
  | tooDeep hstatus _ hread => exact ⟨_, releases_of_tooDeep hstatus hread⟩

/-- A query lists releases, or it is broken off, or it fails. -/
theorem releases_cases (outcome : Outcome) :
    (∃ found, ListsReleases outcome found) ∨ BrokenOff outcome ∨
      ∃ fault, releases outcome = .error (.failed (.releases fault)) ∧
        ∀ kind message, fault = .transport kind message → outcome = .failure kind message := by
  cases outcome with
  | failure kind message => exact .inr (.inr ⟨.transport kind message, rfl, by simp⟩)
  | interrupted cause => exact .inr (.inl (.interrupted cause))
  | reply reply =>
      by_cases hstatus : reply.status = 200
      · cases hread : Json.read reply.body with
        | ok value =>
            cases hidentifiers : identifiers value with
            | ok found =>
                exact .inl ⟨found, reply, value, rfl, hstatus, hread,
                  identifiers_eq_ok_iff.mp hidentifiers⟩
            | error fault =>
                refine .inr (.inr ⟨.malformed fault, ?_, by simp⟩)
                rw [releases_of_read hstatus hread, hidentifiers]
                rfl
        | error error =>
            by_cases hdeep : IsTooDeep error
            · obtain ⟨container, rfl⟩ := hdeep
              exact .inr (.inl (.tooDeep hstatus (isBlankBody_of_tooDeep hread) hread))
            · exact .inr (.inr ⟨.unreadable error,
                releases_of_unreadable hstatus hread hdeep, by simp⟩)
      · exact .inr (.inr ⟨.status reply.status, by simp [releases, hstatus], by simp⟩)

/-- From a reply with status 200 whose body is read, exactly the identifiers of a listing are
returned, all of them, and any other value fails the query, with its fault as the cause.  So
does a body that cannot be read, with the reason for that as the cause, but one that is
nested too deeply breaks the query off. -/
theorem listReleases_returns_listing {σ : Type} (send : Sender σ) (settings : Settings)
    (apiUrl : Option Text) (state : σ) :
    let outcome := (get send settings.userAgent (orDefault apiUrl settings.scrapeUrl)
      releaseParameters state).1
    let returned := (listReleases send settings apiUrl state).1
    ∀ reply, outcome = .reply reply → reply.status = 200 →
      (∀ value, Json.read reply.body = .ok value →
        (∀ found, returned = .ok found ↔ HasIdentifiers value found) ∧
        ((∀ found, ¬ HasIdentifiers value found) → ∃ fault, identifiers value = .error fault ∧
          FailsWith returned (.releases (.malformed fault)) none (some fault.kind))) ∧
      ∀ error, Json.read reply.body = .error error →
        (¬ IsTooDeep error →
          FailsWith returned (.releases (.unreadable error)) none (some error.kind)) ∧
        ∀ container, error = .unreadable (.tooDeep container) →
          returned = .error (.interrupted (.tooDeep container)) := by
  simp only [listReleases]
  generalize (get send settings.userAgent (orDefault apiUrl settings.scrapeUrl)
    releaseParameters state).1 = outcome
  rintro reply rfl hstatus
  refine ⟨fun value hread => ⟨fun found => releases_eq_ok_iff_of_read hstatus hread, ?_⟩,
    fun error hread => ⟨fun hdeep => ?_, ?_⟩⟩
  · exact exists_fault_of_not_hasIdentifiers hstatus hread
  · exact ⟨releases_of_unreadable hstatus hread hdeep, rfl, rfl⟩
  · rintro container rfl
    exact releases_of_tooDeep hstatus hread

end Outcomes

/-- What a query for releases returns if it has this outcome. -/
def listedFrom (outcome : Outcome) : Except Unanswered (List Json) :=
  (listReleases Script.send .default none (answering outcome)).1

theorem isAskable_releases :
    isAskable Settings.default.scrapeUrl releaseParameters = true := by
  decide +kernel

theorem fst_get_releases (body : List UInt8) :
    let outcome := Outcome.reply ⟨200, none, body⟩
    (get Script.send Settings.default.userAgent Settings.default.scrapeUrl releaseParameters
      (answering outcome)).1 = outcome := by
  refine fst_get_answering isAskable_releases _ ?_
  rintro reply ⟨⟩
  rfl

theorem listedFrom_reply (body : List UInt8) :
    listedFrom (.reply ⟨200, none, body⟩) = releases (.reply ⟨200, none, body⟩) :=
  congrArg releases (fst_get_releases body)

/-- Identifiers of any type are returned, items that are a text are not taken apart, and a
document that ends too early is not read. -/
theorem listReleases_returns_listing_plain :
    listedFrom (.reply ⟨200, none,
        Utf8.encode "\x7b\x22items\x22:[\x7b\x22identifier\x22:5\x7d]\x7d"⟩) = .ok [.int 5] ∧
      FailsWith (listedFrom (.reply ⟨200, none, Utf8.encode "\x7b\x22items\x22:\x22x\x22\x7d"⟩))
        (.releases (.malformed .memberOfText)) none (some "TypeError") ∧
      FailsWith (listedFrom (.reply ⟨200, none, Utf8.encode "["⟩))
        (.releases (.unreadable (.unreadable (.malformed .expectingValue 1 1 2)))) none
        (some "JSONDecodeError") := by
  have hreturns (body : List UInt8) :=
    listReleases_returns_listing Script.send .default none
      (answering (.reply ⟨200, none, body⟩)) _ (fst_get_releases body) rfl
  refine ⟨?_, ?_, ?_⟩
  · have hread : Json.read (Utf8.encode "\x7b\x22items\x22:[\x7b\x22identifier\x22:5\x7d]\x7d") =
        .ok (.object [("items", .array [.object [("identifier", .int 5)]])]) := rfl
    refine (((hreturns _).1 _ hread).1 _).mpr (.array ⟨_, rfl, rfl⟩ ?_)
    exact .cons ⟨_, rfl, rfl⟩ .nil
  · have hread : Json.read (Utf8.encode "\x7b\x22items\x22:\x22x\x22\x7d") =
        .ok (.object [("items", .string "x")]) := rfl
    obtain ⟨fault, hfault, hfails⟩ := ((hreturns _).1 _ hread).2 (by
      intro found
      rw [← identifiers_eq_ok_iff]
      rintro ⟨⟩)
    obtain rfl : ListingFault.memberOfText = fault := Except.error.inj hfault
    exact hfails
  · exact ((hreturns (Utf8.encode "[")).2 _ rfl).1 (by rintro ⟨container, heq⟩; cases heq)

/-- More arrays than may be open. -/
def deepBody : List UInt8 := Utf8.encode (List.replicate 3000 (.char '['))

/-- A body that is nested too deeply is not read, and yet the query does not fail. -/
theorem listReleases_interrupted_of_deep_body :
    (∃ error, Json.read deepBody = .error error) ∧
      ∀ error status? cause?,
        ¬ FailsWith (listedFrom (.reply ⟨200, none, deepBody⟩)) error status? cause? := by
  have hread : Json.read deepBody = .error (.unreadable (.tooDeep .array)) :=
    Json.read_encode_of_openArrays (by decide)
  have hbroken : releases (.reply ⟨200, none, deepBody⟩) =
      .error (.interrupted (.tooDeep .array)) :=
    releases_of_tooDeep rfl hread
  refine ⟨⟨_, hread⟩, fun error status? cause? hfails => ?_⟩
  rw [FailsWith, listedFrom_reply, hbroken] at hfails
  cases hfails.1

end ShortlinkCatalog.Archive
