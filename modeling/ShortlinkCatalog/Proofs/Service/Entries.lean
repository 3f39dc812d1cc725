import ShortlinkCatalog.Proofs.Catalog.Store
import ShortlinkCatalog.Proofs.Service.Handling
import ShortlinkCatalog.Proofs.Shortener.Batch

/-!
# Entries of a catalog

The answer to a batch of URLs and the list of a stored catalog tell the same entries, which
are codes with their vanity flags.  What they tell can be sent if the name and the codes can
be encoded.
-/

namespace ShortlinkCatalog.Service

/-- A shortcode with its vanity flag. -/
abbrev Entry := Text × Bool

/-- The codes of a catalog with their flags. -/
def entriesOf (shortener : Shortener) (codes : List Text) : List Entry :=
  codes.map fun code => (code, shortener.isVanity code)

/-- What is told of entries that URLs clean to. -/
def cleanedJson (name : Text) (entries : List Entry) : Json :=
  Json.record [("shortener", .string name), ("shortcodes", .array (entries.map fun entry =>
    Json.record [("shortcode", .string entry.1), ("is_vanity", .bool entry.2)]))]

/-- Entries can be read off what is told of them. -/
theorem cleanedJson_injective (name : Text) : Function.Injective (cleanedJson name) := by
  intro left right hsame
  simp only [cleanedJson, Json.record, List.map_cons, List.map_nil, Json.object.injEq,
    List.cons.injEq, Prod.mk.injEq, Json.array.injEq, true_and, and_true] at hsame
  refine List.map_injective_iff.mpr ?_ hsame
  rintro ⟨code, isVanity⟩ ⟨other, isOtherVanity⟩ hentry
  simpa [Json.record] using hentry

/-- What is told of entries that are stored in this order. -/
def storedJson (fetchedAt name : Text) (entries : List Entry) : Json :=
  Json.record [("shortener", .string name), ("total", .int entries.length),
    ("shortcodes", .array (entries.zipIdx.map fun (entry, rank) =>
      Json.record [("shortcode", .string entry.1), ("rank", .int rank),
        ("is_vanity", .bool entry.2), ("fetched_at", .string fetchedAt)]))]

/-- What is told of rows, of which there may be more than are listed. -/
def catalogJson (fetchedAt name : Text) (total : Nat) (rows : List CatalogRow) : Json :=
  Json.record [("shortener", .string name), ("total", .int total),
    ("shortcodes", .array (rows.map (rowJson fetchedAt)))]

/-! ## What can be sent -/

theorem isSendable_cleanedJson_iff (name : Text) (entries : List Entry) :
    (cleanedJson name entries).isSendable = true ↔
      name.isEncodable = true ∧ ∀ entry ∈ entries, entry.1.isEncodable = true := by
  have hentry : ∀ entry : Entry,
      (Json.record [("shortcode", .string entry.1),
        ("is_vanity", .bool entry.2)]).isSendable = true ↔ entry.1.isEncodable = true := by
    intro entry
    rw [Json.isSendable_record_iff]
    simp [Json.isSendable]
  rw [cleanedJson, Json.isSendable_record_iff, List.forall_mem_cons, List.forall_mem_singleton,
    Json.isSendable_array_iff, List.forall_mem_map]
  simp only [hentry]
  rfl

theorem isSendable_storedJson {fetchedAt name : Text} {entries : List Entry}
    (hclock : fetchedAt.isEncodable = true) (hname : name.isEncodable = true)
    (hentries : ∀ entry ∈ entries, entry.1.isEncodable = true) :
    (storedJson fetchedAt name entries).isSendable = true := by
  rw [storedJson, Json.isSendable_record_iff]
  simp only [List.forall_mem_cons, List.not_mem_nil, false_implies, implies_true, and_true]
  refine ⟨hname, rfl, ?_⟩
  rw [Json.isSendable_array_iff, List.forall_mem_map]
  rintro ⟨entry, rank⟩ hmem
  rw [Json.isSendable_record_iff]
  simp [Json.isSendable, hclock, hentries entry (List.fst_mem_of_mem_zipIdx hmem)]

theorem isSendable_catalogJson {fetchedAt name : Text} {rows : List CatalogRow} (total : Nat)
    (hclock : fetchedAt.isEncodable = true) (hname : name.isEncodable = true)
    (hcodes : ∀ row ∈ rows, ∀ code ∈ row.shortcode, code.isEncodable = true) :
    (catalogJson fetchedAt name total rows).isSendable = true := by
  rw [catalogJson, Json.isSendable_record_iff]
  simp only [List.forall_mem_cons, List.not_mem_nil, false_implies, implies_true, and_true]
  refine ⟨hname, rfl, ?_⟩
  rw [Json.isSendable_array_iff, List.forall_mem_map]
  intro row hmem
  rw [rowJson, Json.isSendable_record_iff]
  simp only [List.forall_mem_cons, List.not_mem_nil, false_implies, implies_true, and_true]
  refine ⟨?_, rfl, rfl, hclock⟩
  cases hcode : row.shortcode with
  | none => rfl
  | some code => exact hcodes row hmem code hcode

theorem isSendable_refreshedResponse_iff (shortener : Shortener) (count : Nat) :
    (refreshedResponse shortener count).isSendable = true ↔ shortener.name.isEncodable = true := by
  refine (Json.isSendable_record_iff _).trans ?_
  simp [Json.isSendable]

/-! ## What is answered -/

theorem cleanResponse_of_ok {shortener : Shortener} {urls codes : List Text}
    (hcleaned : shortener.cleanUrls urls = .ok codes) :
    cleanResponse shortener urls =
      .ofJson 200 (cleanedJson shortener.name (entriesOf shortener codes)) := by
  simp only [cleanResponse, hcleaned, cleanedJson, entriesOf, List.map_map]
  rfl

theorem cleanResponse_of_error {shortener : Shortener} {urls : List Text} {error : CleanError}
    (hcleaned : shortener.cleanUrls urls = .error error) :
    ∃ status, (status = 400 ∨ status = 422) ∧
      cleanResponse shortener urls = .ofDetail status error.message := by
  rw [cleanResponse, hcleaned]
  cases error with
  | malformed error => exact ⟨400, .inl rfl, rfl⟩
  | mismatch error => exact ⟨422, .inr rfl, rfl⟩

theorem catalogOutcome_of_catalogRows (fetchedAt : Text) (shortener : Shortener)
    (codes : List Text) :
    catalogOutcome fetchedAt shortener.name (.ok (Catalog.catalogRows shortener codes))
        (.ok codes.length) =
      .ok (.ofJson 200 (storedJson fetchedAt shortener.name (entriesOf shortener codes))) := by
  have hrows : (Catalog.catalogRows shortener codes).map (rowJson fetchedAt) =
      (entriesOf shortener codes).zipIdx.map fun (entry, rank) =>
        Json.record [("shortcode", .string entry.1), ("rank", .int rank),
          ("is_vanity", .bool entry.2), ("fetched_at", .string fetchedAt)] := by
    rw [Catalog.catalogRows, Catalog.rankedRows, entriesOf, List.zipIdx_map, List.map_map,
      List.map_map]
    rfl
  simp only [catalogOutcome, hrows, storedJson, entriesOf, List.length_map]

/-- Among ranked entries those that a person chose come last. -/
theorem pairwise_entriesOf {shortener : Shortener} {codes : List Text}
    (hranked : codes.Pairwise fun left right =>
      shortener.rankKey left < shortener.rankKey right) :
    (entriesOf shortener codes).Pairwise fun left right => left.2 = true → right.2 = true := by
  rw [entriesOf, List.pairwise_map]
  exact hranked.imp fun hlt => Bool.le_iff_imp.mp (Shortener.isVanity_le_of_rankKey_lt hlt)

end ShortlinkCatalog.Service
