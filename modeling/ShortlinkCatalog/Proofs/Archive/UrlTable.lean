import ShortlinkCatalog.Proofs.Archive.KnownCodes

/-!
# Tables of URLs

The archive answers a query for one field with a table whose rows have one cell each.
Where the cells are URLs, nothing of the table but its header is lost on the way to the
batch that is cleaned, and so the shortcodes are those of the batch.
-/

namespace ShortlinkCatalog.Archive

/-- A table with a header and one row of one cell for each URL. -/
def urlTable (header : Row) (urls : List Text) : Json :=
  .array (.array header :: urls.map fun url => .array [.string url])

/-- The rows of a table of URLs. -/
def urlRows (urls : List Text) : List Row := urls.map fun url => [.string url]

theorem heads_urlRows (urls : List Text) :
    (urlRows urls).map List.head? = textColumn urls := by
  simp [urlRows, textColumn]

variable [Json.Room]

theorem lists_urlRows {reply : Reply} (hstatus : reply.status = 200) {header : Row}
    {urls : List Text} (hread : Json.read reply.body = .ok (urlTable header urls)) :
    Lists (.reply reply) (urlRows urls) := by
  have htable : urlTable header urls = .array ((header :: urlRows urls).map .array) := by
    simp [urlTable, urlRows]
  rw [htable] at hread
  exact ⟨reply, rfl, hstatus, .table hread⟩

/-- What the archive knows of a shortener is what a table of URLs cleans to. -/
theorem knownCodes_of_urlTable {σ : Type} (send : Sender σ) (settings : Settings)
    (shortener : Shortener) {state next : σ} {reply : Reply}
    (hreply : get send settings.userAgent settings.timemapUrl
      ((knownCodesOptions settings).parameters shortener.host) state = (.reply reply, next))
    (hstatus : reply.status = 200) {header : Row} {urls : List Text}
    (hread : Json.read reply.body = .ok (urlTable header urls)) :
    (knownCodes send settings shortener state).1 =
        (shortener.cleanUrls urls).mapError .unclean ∧
      (knownCodes send settings shortener state).2.2 = next := by
  have hlists := lists_urlRows hstatus hread
  rw [fst_knownCodes, snd_knownCodes, hreply]
  exact ⟨(codesIn_of_lists hlists).trans (codesOfRows_of_column (heads_urlRows urls)), rfl⟩

end ShortlinkCatalog.Archive
