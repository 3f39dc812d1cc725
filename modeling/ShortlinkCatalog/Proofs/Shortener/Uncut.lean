import ShortlinkCatalog.Proofs.Shortener.Candidate

/-!
# Codes that cleaning leaves as they are

Cleaning cuts a decoded path at junk, takes a slash from its end and drops the paths that
every site has.  A code without junk that ends in no slash loses nothing by that, and a
single slash after it is all that is taken.
-/

namespace ShortlinkCatalog

/-- A text in which cleaning finds nothing to cut. -/
structure IsUncut (code : Text) : Prop where
  free : ∀ character ∈ code, isJunk character = false
  ending : code.getLast? ≠ some (.char '/')
  kept : code ∉ ignoredPaths

namespace IsUncut

variable {code slash : Text} (hcode : IsUncut code) (hslash : slash = [] ∨ slash = "/")

include hcode hslash

/-- The slash is no junk either. -/
theorem isJunk_of_mem_append : ∀ character ∈ code ++ slash, isJunk character = false := by
  rw [List.forall_mem_append]
  refine ⟨hcode.free, ?_⟩
  rcases hslash with rfl | rfl <;> decide

theorem isPlaceholder_append : isPlaceholder (code ++ slash) = false := by
  apply isPlaceholder_of_getLast?
  intro character hlast
  exact hcode.isJunk_of_mem_append hslash character (List.mem_of_getLast? hlast)

theorem dropOneEnd_append : Text.dropOneEnd '/' (code ++ slash) = code := by
  rcases hslash with rfl | rfl
  · rw [List.append_nil, Text.dropOneEnd_of_ne hcode.ending]
  · exact Text.dropOneEnd_append '/' code

theorem candidate_eq {url : Url} (hdecoded : url.decodedPath = code ++ slash) :
    url.candidate = code := by
  have hkept : (code ++ slash).takeWhile (!isJunk ·) = code ++ slash := by
    rw [List.takeWhile_eq_self_iff]
    intro character hmem
    simp [hcode.isJunk_of_mem_append hslash character hmem]
  rw [Url.candidate, hdecoded, hcode.isPlaceholder_append hslash, hkept]
  exact hcode.dropOneEnd_append hslash

/-- A code that its hook leaves alone, if there is one, is the shortcode. -/
theorem shortcode_eq {url : Url} (hdecoded : url.decodedPath = code ++ slash)
    {hook : Option CleanHook} (hhook : ∀ clean ∈ hook, clean code url = code) :
    url.shortcode hook = code := by
  have hkept : ignoredPaths.contains code = false := by
    simpa using hcode.kept
  have hcandidate := hcode.candidate_eq hslash hdecoded
  cases hook with
  | none =>
      simp only [Url.shortcode, hcandidate, Text.dropOneEnd_of_ne hcode.ending, hkept]
      cases code <;> rfl
  | some clean =>
      simp only [Url.shortcode, hcandidate, hhook clean rfl, Text.dropOneEnd_of_ne hcode.ending,
        hkept]
      cases code <;> rfl

end IsUncut

end ShortlinkCatalog
