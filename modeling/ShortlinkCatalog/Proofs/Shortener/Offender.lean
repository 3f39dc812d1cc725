import Mathlib.Data.Nat.Find
import ShortlinkCatalog.Proofs.Shortener.Batch
import ShortlinkCatalog.Proofs.Url.Accepted
import ShortlinkCatalog.Shortener.BuiltIn

/-!
# The first offender of a batch

A URL offends if it cannot be read or if the code that it cleans to does not follow the
pattern.  A batch is refused exactly if one of its URLs offends, and its error is that of the
first one.  The URLs before it clean to nothing, to a new code or to one that was met before,
and it makes no difference to which; what comes after it is not looked at.
-/

namespace ShortlinkCatalog.Shortener

/-- What is wrong with a URL by itself. -/
inductive Offends (shortener : Shortener) (url : Text) : CleanError → Prop
  | malformed {reason : Url.Reason} (hparse : Url.parse url = .error ⟨url, reason⟩) :
      Offends shortener url (.malformed ⟨url, reason⟩)
  | mismatch {code : Text} {pattern : Pattern} (hclean : shortener.clean url = .ok code)
      (hcode : code ≠ []) (hpattern : shortener.pattern = some pattern)
      (hrefused : pattern.accepts code = false) :
      Offends shortener url (.mismatch ⟨shortener.name, code, pattern.text, url⟩)

/-- The URL at a place of a batch offends, and none before it does. -/
structure FirstOffence (shortener : Shortener) (urls : List Text) (place : Nat)
    (error : CleanError) : Prop where
  offends : ∃ url, urls[place]? = some url ∧ shortener.Offends url error
  first : ∀ earlier < place, ∀ url, urls[earlier]? = some url →
    ∀ other, ¬ shortener.Offends url other

variable {shortener : Shortener}

/-! ## One URL -/

/-- A URL is refused with what is wrong with it. -/
theorem cleanOne_eq_error_iff {url : Text} {error : CleanError} :
    shortener.cleanOne url = .error error ↔ shortener.Offends url error := by
  constructor
  · intro hone
    cases hparse : Url.parse url with
    | error malformed =>
        obtain ⟨other, reason⟩ := malformed
        obtain rfl : other = url := Url.url_of_parse_eq_error hparse
        simp only [cleanOne, clean, hparse, Except.map, Except.error.injEq] at hone
        subst hone
        exact .malformed hparse
    | ok parts =>
        have hclean : shortener.clean url = .ok (shortener.cleanParsed parts) :=
          clean_eq_ok_iff.mpr ⟨parts, hparse, rfl⟩
        by_cases hcode : shortener.cleanParsed parts = []
        · simp [cleanOne, hclean, hcode] at hone
        · by_cases haccepts : shortener.accepts (shortener.cleanParsed parts) = true
          · rw [cleanOne_of_accepts hclean hcode haccepts] at hone
            cases hone
          · obtain ⟨pattern, hpattern, hrefused, hmismatch⟩ :=
              cleanOne_of_not_accepts hclean hcode haccepts
            rw [hmismatch, Except.error.injEq] at hone
            subst hone
            exact .mismatch hclean hcode hpattern hrefused
  · intro hoffends
    cases hoffends with
    | malformed hparse => simp only [cleanOne, clean, hparse, Except.map]
    | mismatch hclean hcode hpattern hrefused => simp [cleanOne, hclean, hcode, hpattern, hrefused]

/-- A URL that does not offend is passed, whether or not it has a code. -/
theorem exists_cleanOne_eq_ok_iff_not_offends {url : Text} :
    (∃ found, shortener.cleanOne url = .ok found) ↔ ∀ error, ¬ shortener.Offends url error := by
  simp only [← cleanOne_eq_error_iff]
  cases shortener.cleanOne url <;> simp

/-! ## All URLs -/

/-- Nothing that follows an offender is looked at. -/
theorem cleanUrls_append_eq_error {before : List Text} {url : Text} {error : CleanError}
    (hbefore : ∀ earlier ∈ before, ∀ other, ¬ shortener.Offends earlier other)
    (hoffends : shortener.Offends url error) (after : List Text) :
    shortener.cleanUrls (before ++ url :: after) = .error error := by
  have hpassed : ∀ earlier ∈ before, ∃ found, shortener.cleanOne earlier = .ok found :=
    fun earlier hmem => exists_cleanOne_eq_ok_iff_not_offends.mpr (hbefore earlier hmem)
  obtain ⟨batch, hbatch⟩ := (@exists_foldlM_cleanNext_eq_ok_iff _ _ .empty).mpr hpassed
  have hurl : shortener.cleanNext batch url = .error error := by
    rw [cleanNext, cleanOne_eq_error_iff.mpr hoffends]
  rw [cleanUrls, List.foldlM_append, hbatch]
  simp [bind, Except.bind, hurl, Except.map]

theorem exists_cleanUrls_eq_error_iff {urls : List Text} :
    (∃ error, shortener.cleanUrls urls = .error error) ↔
      ∃ url ∈ urls, ∃ error, shortener.Offends url error := by
  have hok := @exists_cleanUrls_eq_ok_iff shortener urls
  simp only [exists_cleanOne_eq_ok_iff_not_offends] at hok
  have hresult : (∃ error, shortener.cleanUrls urls = .error error) ↔
      ¬ ∃ codes, shortener.cleanUrls urls = .ok codes := by
    cases shortener.cleanUrls urls <;> simp
  rw [hresult, hok]
  push Not
  rfl

/-- Among the URLs that offend there is a first one. -/
theorem exists_firstOffence {urls : List Text}
    (hoffends : ∃ url ∈ urls, ∃ error, shortener.Offends url error) :
    ∃ place error, shortener.FirstOffence urls place error := by
  classical
  obtain ⟨url, hmem, error, hurl⟩ := hoffends
  obtain ⟨somewhere, hsomewhere⟩ := List.mem_iff_getElem?.mp hmem
  have hplaces : ∃ place, ∃ url, urls[place]? = some url ∧ ∃ error, shortener.Offends url error :=
    ⟨somewhere, url, hsomewhere, error, hurl⟩
  obtain ⟨found, hfound, reported, hreported⟩ := Nat.find_spec hplaces
  refine ⟨Nat.find hplaces, reported, ⟨found, hfound, hreported⟩, ?_⟩
  intro earlier hearlier url hurl other hother
  exact Nat.find_min hplaces hearlier ⟨url, hurl, other, hother⟩

theorem cleanUrls_eq_error_of_firstOffence {urls others : List Text} {place : Nat}
    {error : CleanError} (hfirst : shortener.FirstOffence urls place error)
    (hsame : others.take (place + 1) = urls.take (place + 1)) :
    shortener.cleanUrls others = .error error := by
  obtain ⟨url, hurl, hoffends⟩ := hfirst.offends
  have hothers : others = urls.take place ++ url :: others.drop (place + 1) := by
    calc others = others.take (place + 1) ++ others.drop (place + 1) :=
          (List.take_append_drop _ _).symm
      _ = urls.take place ++ url :: others.drop (place + 1) := by
          rw [hsame, List.take_add_one, hurl]
          simp
  rw [hothers]
  apply cleanUrls_append_eq_error _ hoffends
  intro earlier hmem other
  obtain ⟨index, hindex⟩ := List.mem_iff_getElem?.mp hmem
  rw [List.getElem?_take, Option.ite_none_right_eq_some] at hindex
  exact hfirst.first index hindex.1 earlier hindex.2 other

/-- A batch is refused exactly if one of its URLs offends.  There is then a first one that
does, and the error is what is wrong with that one, also for every other batch that starts
with the same URLs up to it. -/
theorem cleanUrls_reports_first_offender (shortener : Shortener) (urls : List Text) :
    ((∃ error, shortener.cleanUrls urls = .error error) ↔
      ∃ url ∈ urls, ∃ error, shortener.Offends url error) ∧
    ((∃ url ∈ urls, ∃ error, shortener.Offends url error) →
      ∃ place error, shortener.FirstOffence urls place error) ∧
    ∀ place error, shortener.FirstOffence urls place error →
      shortener.cleanUrls urls = .error error ∧
      ∀ others : List Text, others.take (place + 1) = urls.take (place + 1) →
        shortener.cleanUrls others = .error error := by
  refine ⟨exists_cleanUrls_eq_error_iff, exists_firstOffence, ?_⟩
  intro place error hfirst
  exact ⟨cleanUrls_eq_error_of_firstOffence hfirst rfl,
    fun _ hsame => cleanUrls_eq_error_of_firstOffence hfirst hsame⟩

/-- A URL without a code and one whose code comes twice stand before the first offender, and a
URL that cannot be read stands behind it. -/
theorem cleanUrls_reports_first_offender_fourth :
    let urls : List Text := ["http://qr.cx/robots.txt", "http://qr.cx/a", "http://qr.cx/a",
      "http://qr.cx/a%0a", "http://qr.cx:x/"]
    let error : CleanError := .mismatch ⟨"qrcx", "a\n", "^[0-9a-z]+\\Z", "http://qr.cx/a%0a"⟩
    BuiltIn.qrcx.FirstOffence urls 3 error ∧ BuiltIn.qrcx.cleanUrls urls = .error error := by
  intro urls error
  have hfirst : BuiltIn.qrcx.FirstOffence urls 3 error := by
    refine ⟨⟨"http://qr.cx/a%0a", rfl, ?_⟩, ?_⟩
    · exact cleanOne_eq_error_iff.mp (by decide +kernel)
    · intro earlier hearlier url hurl
      rw [← exists_cleanOne_eq_ok_iff_not_offends]
      obtain rfl | rfl | rfl : earlier = 0 ∨ earlier = 1 ∨ earlier = 2 := by omega
      all_goals cases hurl
      · exact ⟨none, by decide +kernel⟩
      · exact ⟨some "a", by decide +kernel⟩
      · exact ⟨some "a", by decide +kernel⟩
  exact ⟨hfirst, ((cleanUrls_reports_first_offender BuiltIn.qrcx urls).2.2 3 error hfirst).1⟩

end ShortlinkCatalog.Shortener
