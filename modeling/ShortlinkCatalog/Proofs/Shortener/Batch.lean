import Mathlib.Data.List.Nodup
import ShortlinkCatalog.Proofs.Shortener.Ranking

/-!
# Batches of URLs

A batch is read URL by URL.  After any number of URLs, the codes that are recorded differ
from each other, they are the codes of the URLs so far, and the set of codes that have been
seen holds just these.  So a batch is accepted exactly when each of its URLs is, and its
codes are then those of the accepted URLs, ranked; the result depends on the set of the URLs
alone.
-/

namespace ShortlinkCatalog.Shortener

variable {shortener : Shortener}

/-! ## One URL -/

theorem clean_eq_ok_iff {url code : Text} :
    shortener.clean url = .ok code ↔
      ∃ parts, Url.parse url = .ok parts ∧ shortener.cleanParsed parts = code := by
  rw [clean]
  cases Url.parse url <;> simp [Except.map]

theorem cleanOne_of_accepts {url code : Text} (hclean : shortener.clean url = .ok code)
    (hcode : code ≠ []) (haccepts : shortener.accepts code = true) :
    shortener.cleanOne url = .ok (some code) := by
  simp only [cleanOne, hclean, List.isEmpty_eq_false_iff.mpr hcode, Bool.false_eq_true, if_false]
  rw [accepts] at haccepts
  cases hpattern : shortener.pattern with
  | none => rfl
  | some pattern => simp_all

/-- A code is refused by a pattern, which is there then. -/
theorem cleanOne_of_not_accepts {url code : Text} (hclean : shortener.clean url = .ok code)
    (hcode : code ≠ []) (hrefused : ¬ shortener.accepts code = true) :
    ∃ pattern, shortener.pattern = some pattern ∧ pattern.accepts code = false ∧
      shortener.cleanOne url =
        .error (.mismatch ⟨shortener.name, code, pattern.text, url⟩) := by
  simp only [cleanOne, hclean, List.isEmpty_eq_false_iff.mpr hcode, Bool.false_eq_true, if_false]
  rw [accepts] at hrefused
  cases hpattern : shortener.pattern with
  | none => simp [hpattern] at hrefused
  | some pattern => simp_all

theorem cleanOne_eq_ok_some_iff {url code : Text} :
    shortener.cleanOne url = .ok (some code) ↔
      shortener.clean url = .ok code ∧ code ≠ [] ∧ shortener.accepts code = true := by
  cases hclean : shortener.clean url with
  | error error => simp [cleanOne, hclean]
  | ok cleaned =>
      by_cases hempty : cleaned = []
      · simp only [cleanOne, hclean, hempty, List.isEmpty_nil, if_true, Except.ok.injEq,
          reduceCtorEq, false_iff]
        rintro ⟨rfl, hne, -⟩
        exact hne rfl
      · by_cases haccepts : shortener.accepts cleaned = true
        · rw [cleanOne_of_accepts hclean hempty haccepts]
          simp only [Except.ok.injEq, Option.some.injEq]
          constructor
          · rintro rfl
            exact ⟨rfl, hempty, haccepts⟩
          · exact And.left
        · obtain ⟨pattern, -, -, hone⟩ := cleanOne_of_not_accepts hclean hempty haccepts
          simp only [hone, reduceCtorEq, Except.ok.injEq, false_iff]
          rintro ⟨rfl, -, haccepted⟩
          exact haccepts haccepted

/-- A URL that can be read is refused only for its code. -/
theorem exists_cleanOne_eq_ok_iff {url : Text} :
    (∃ found, shortener.cleanOne url = .ok found) ↔
      ∃ parts, Url.parse url = .ok parts ∧
        (shortener.cleanParsed parts ≠ [] →
          shortener.accepts (shortener.cleanParsed parts) = true) := by
  cases hparse : Url.parse url with
  | error error => simp [cleanOne, clean, hparse, Except.map]
  | ok parts =>
      have hclean : shortener.clean url = .ok (shortener.cleanParsed parts) :=
        clean_eq_ok_iff.mpr ⟨parts, hparse, rfl⟩
      by_cases hempty : shortener.cleanParsed parts = []
      · simp [cleanOne, hclean, hempty]
      · by_cases haccepts : shortener.accepts (shortener.cleanParsed parts) = true
        · simp [cleanOne_of_accepts hclean hempty haccepts, haccepts]
        · obtain ⟨pattern, -, -, hone⟩ := cleanOne_of_not_accepts hclean hempty haccepts
          simp [hone, hempty, haccepts]

/-! ## The loop over a batch -/

/-- What holds of a batch when some URLs have been read. -/
structure Batch.IsOf (shortener : Shortener) (urls : List Text) (batch : Batch) : Prop where
  nodup : batch.shortcodes.toList.Nodup
  seen : ∀ code, batch.seen code = true ↔ code ∈ batch.shortcodes.toList
  codes : ∀ code, code ∈ batch.shortcodes.toList ↔
    ∃ url ∈ urls, shortener.cleanOne url = .ok (some code)

theorem Batch.isOf_empty (shortener : Shortener) : Batch.empty.IsOf shortener [] where
  nodup := List.nodup_nil
  seen := by simp [Batch.empty]
  codes := by simp [Batch.empty]

variable {urls : List Text} {url : Text} {batch next : Batch}

theorem Batch.IsOf.record (hbatch : batch.IsOf shortener urls) {code : Text}
    (hone : shortener.cleanOne url = .ok (some code)) :
    (batch.record code).IsOf shortener (urls ++ [url]) := by
  have hread : ∀ other, (∃ earlier ∈ urls ++ [url],
      shortener.cleanOne earlier = .ok (some other)) ↔
        other ∈ batch.shortcodes.toList ∨ other = code := by
    intro other
    simp [hbatch.codes, or_and_right, exists_or, hone, eq_comm]
  by_cases hseen : batch.seen code = true
  · have hmem : code ∈ batch.shortcodes.toList := (hbatch.seen code).mp hseen
    rw [Batch.record, if_pos hseen]
    refine ⟨hbatch.nodup, hbatch.seen, ?_⟩
    intro other
    rw [hread, or_iff_left_of_imp]
    rintro rfl
    exact hmem
  · have hnew : code ∉ batch.shortcodes.toList := fun hmem => hseen ((hbatch.seen code).mpr hmem)
    rw [Batch.record, if_neg hseen]
    constructor
    · rw [Array.toList_push, List.nodup_append_comm]
      exact List.nodup_cons.mpr ⟨hnew, hbatch.nodup⟩
    · intro other
      simp [hbatch.seen, or_comm]
    · intro other
      rw [hread]
      simp

/-- One URL leaves the batch one of the URLs so far. -/
theorem Batch.IsOf.cleanNext (hbatch : batch.IsOf shortener urls)
    (hnext : shortener.cleanNext batch url = .ok next) : next.IsOf shortener (urls ++ [url]) := by
  rw [Shortener.cleanNext] at hnext
  cases hone : shortener.cleanOne url with
  | error error => simp [hone] at hnext
  | ok found =>
      cases found with
      | none =>
          obtain rfl : batch = next := by simpa [hone] using hnext
          refine ⟨hbatch.nodup, hbatch.seen, ?_⟩
          intro code
          simp [hbatch.codes, or_and_right, exists_or, hone]
      | some code =>
          obtain rfl : batch.record code = next := by simpa [hone] using hnext
          exact hbatch.record hone

theorem foldlM_cleanNext_cons_eq_ok_iff {final : Batch} :
    (url :: urls).foldlM shortener.cleanNext batch = .ok final ↔ ∃ next,
      shortener.cleanNext batch url = .ok next ∧
        urls.foldlM shortener.cleanNext next = .ok final := by
  rw [List.foldlM_cons]
  cases shortener.cleanNext batch url <;> simp [bind, Except.bind]

/-- What holds after the URLs so far holds after all of them. -/
theorem Batch.IsOf.foldlM {read : List Text} (hbatch : batch.IsOf shortener read)
    (hrun : urls.foldlM shortener.cleanNext batch = .ok next) :
    next.IsOf shortener (read ++ urls) := by
  induction urls generalizing read batch with
  | nil =>
      obtain rfl : batch = next := by simpa [pure, Except.pure] using hrun
      simpa using hbatch
  | cons url urls ih =>
      obtain ⟨middle, hfirst, hrest⟩ := foldlM_cleanNext_cons_eq_ok_iff.mp hrun
      simpa using ih (hbatch.cleanNext hfirst) hrest

theorem exists_cleanNext_eq_ok_iff :
    (∃ next, shortener.cleanNext batch url = .ok next) ↔
      ∃ found, shortener.cleanOne url = .ok found := by
  rw [cleanNext]
  cases shortener.cleanOne url with
  | error error => simp
  | ok found => cases found <;> simp

/-- What has been recorded does not decide whether the URLs after it are passed. -/
theorem exists_foldlM_cleanNext_eq_ok_iff :
    (∃ next, urls.foldlM shortener.cleanNext batch = .ok next) ↔
      ∀ url ∈ urls, ∃ found, shortener.cleanOne url = .ok found := by
  induction urls generalizing batch with
  | nil => simp [pure, Except.pure]
  | cons url urls ih =>
      rw [List.forall_mem_cons, ← @exists_cleanNext_eq_ok_iff _ url batch]
      simp only [foldlM_cleanNext_cons_eq_ok_iff]
      rw [exists_comm]
      simp only [exists_and_left, ih, exists_and_right]

/-! ## Ranked batches -/

theorem cleanUrls_eq_ok_iff {codes : List Text} :
    shortener.cleanUrls urls = .ok codes ↔
      ∃ batch, urls.foldlM shortener.cleanNext Batch.empty = .ok batch ∧
        shortener.sort batch.shortcodes.toList = codes := by
  rw [cleanUrls]
  cases urls.foldlM shortener.cleanNext Batch.empty <;> simp [Except.map]

theorem exists_cleanUrls_eq_ok_iff {urls : List Text} :
    (∃ codes, shortener.cleanUrls urls = .ok codes) ↔
      ∀ url ∈ urls, ∃ found, shortener.cleanOne url = .ok found := by
  rw [← @exists_foldlM_cleanNext_eq_ok_iff _ urls Batch.empty]
  simp [cleanUrls_eq_ok_iff]

theorem mem_of_cleanUrls_eq_ok {urls codes : List Text}
    (hcleaned : shortener.cleanUrls urls = .ok codes) (code : Text) :
    code ∈ codes ↔ ∃ url ∈ urls, shortener.cleanOne url = .ok (some code) := by
  obtain ⟨batch, hrun, rfl⟩ := cleanUrls_eq_ok_iff.mp hcleaned
  rw [mem_sort, ((Batch.isOf_empty shortener).foldlM hrun).codes, List.nil_append]

theorem pairwise_of_cleanUrls_eq_ok {urls codes : List Text}
    (hcleaned : shortener.cleanUrls urls = .ok codes) :
    codes.Pairwise fun left right => shortener.rankKey left < shortener.rankKey right := by
  obtain ⟨batch, hrun, rfl⟩ := cleanUrls_eq_ok_iff.mp hcleaned
  exact shortener.pairwise_sort_of_nodup ((Batch.isOf_empty shortener).foldlM hrun).nodup

theorem nodup_of_cleanUrls_eq_ok {urls codes : List Text}
    (hcleaned : shortener.cleanUrls urls = .ok codes) : codes.Nodup :=
  (pairwise_of_cleanUrls_eq_ok hcleaned).imp fun hlt heq => hlt.ne (congrArg _ heq)

/-- The codes of an accepted batch are the codes of its URLs, since none of these is
refused by the pattern. -/
theorem mem_iff_clean_of_cleanUrls_eq_ok {urls codes : List Text}
    (hcleaned : shortener.cleanUrls urls = .ok codes) (code : Text) :
    code ∈ codes ↔ code ≠ [] ∧ ∃ url ∈ urls, shortener.clean url = .ok code := by
  rw [mem_of_cleanUrls_eq_ok hcleaned]
  constructor
  · rintro ⟨url, hmem, hone⟩
    obtain ⟨hclean, hne, -⟩ := cleanOne_eq_ok_some_iff.mp hone
    exact ⟨hne, url, hmem, hclean⟩
  · rintro ⟨hne, url, hmem, hclean⟩
    obtain ⟨parts, hparse, hcode⟩ := clean_eq_ok_iff.mp hclean
    obtain ⟨_, hparse', haccepts⟩ :=
      exists_cleanOne_eq_ok_iff.mp (exists_cleanUrls_eq_ok_iff.mp ⟨codes, hcleaned⟩ url hmem)
    obtain rfl : parts = _ := by simpa [hparse] using hparse'
    subst hcode
    exact ⟨url, hmem, cleanOne_eq_ok_some_iff.mpr ⟨hclean, hne, haccepts hne⟩⟩

/-- The result of an accepted batch is the one ranking of the set of its codes. -/
theorem cleanUrls_eq_ok_of_pairwise {urls codes : List Text}
    (hurls : ∀ url ∈ urls, ∃ found, shortener.cleanOne url = .ok found)
    (hranked : codes.Pairwise fun left right => shortener.rankKey left < shortener.rankKey right)
    (hmem : ∀ code, code ∈ codes ↔ ∃ url ∈ urls, shortener.cleanOne url = .ok (some code)) :
    shortener.cleanUrls urls = .ok codes := by
  obtain ⟨result, hresult⟩ := exists_cleanUrls_eq_ok_iff.mpr hurls
  have hsame : result = codes := by
    apply Ranking.eq_of_pairwise_lt (pairwise_of_cleanUrls_eq_ok hresult) hranked
    intro code
    rw [mem_of_cleanUrls_eq_ok hresult, hmem]
  rw [hresult, hsame]

/-- A batch is accepted exactly when each URL can be read and each code that is found
follows the pattern.  Its result is the ranking of the set of codes of its URLs, so
batches of the same URLs, in any order and any number, have the same result. -/
theorem cleanUrls_ranks_set_of_codes (shortener : Shortener) (urls : List Text) :
    ((∃ codes, shortener.cleanUrls urls = .ok codes) ↔
      ∀ url ∈ urls, ∃ parts, Url.parse url = .ok parts ∧
        (shortener.cleanParsed parts ≠ [] →
          shortener.accepts (shortener.cleanParsed parts) = true)) ∧
    ∀ codes, shortener.cleanUrls urls = .ok codes →
      (codes.Pairwise fun left right => shortener.rankKey left < shortener.rankKey right) ∧
      (∀ code, code ∈ codes ↔ code ≠ [] ∧ ∃ url ∈ urls, shortener.clean url = .ok code) ∧
      ∀ others : List Text, (∀ url, url ∈ others ↔ url ∈ urls) →
        shortener.cleanUrls others = .ok codes := by
  constructor
  · simp only [exists_cleanUrls_eq_ok_iff, exists_cleanOne_eq_ok_iff]
  · intro codes hcleaned
    refine ⟨pairwise_of_cleanUrls_eq_ok hcleaned, mem_iff_clean_of_cleanUrls_eq_ok hcleaned, ?_⟩
    intro others hsame
    have hurls := exists_cleanUrls_eq_ok_iff.mp ⟨codes, hcleaned⟩
    apply cleanUrls_eq_ok_of_pairwise
    · intro url hmem
      exact hurls url ((hsame url).mp hmem)
    · exact pairwise_of_cleanUrls_eq_ok hcleaned
    · intro code
      simp only [mem_of_cleanUrls_eq_ok hcleaned, hsame]

end ShortlinkCatalog.Shortener
