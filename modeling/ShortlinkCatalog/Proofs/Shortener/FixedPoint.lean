import ShortlinkCatalog.Proofs.Shortener.Alphabet
import ShortlinkCatalog.Proofs.Shortener.Batch
import ShortlinkCatalog.Proofs.Shortener.Link
import ShortlinkCatalog.Proofs.Shortener.Uncut
import ShortlinkCatalog.Proofs.Text.Spelling
import ShortlinkCatalog.Proofs.Url.Grammar

/-!
# Cleaned codes stay as they are

The codes of the built-in shorteners are spelled in their documented alphabets.  A link to
such a code is a URL that cleaning gives back the code of: nothing in it is an escape, junk
or a mark, and every hook leaves it alone.  So cleaning the links to a cleaned catalog gives
the same catalog.
-/

namespace ShortlinkCatalog.BuiltIn

variable {shortener : Shortener} {code : Text}

/-! ## Cleaning the link to a code -/

theorem percent_not_mem_of_code (hcode : ∀ character ∈ code, isCodeCharacter character = true) :
    .char '%' ∉ code := by
  intro hmem
  exact absurd (hcode _ hmem) (by decide)

theorem isEncodable_of_code (hcode : ∀ character ∈ code, isCodeCharacter character = true) :
    code.isEncodable = true := by
  rw [Text.isEncodable, List.all_eq_true]
  intro character hmem
  have hbounds := toNat_of_isCodeCharacter (hcode character hmem)
  rw [Bool.not_eq_true', CodePoint.isSurrogate_eq_false_iff, CodePoint.firstSurrogate]
  omega

theorem isUncut_of_code (hcode : ∀ character ∈ code, isCodeCharacter character = true) :
    IsUncut code where
  free := fun character hmem => isJunk_of_isCodeCharacter (hcode character hmem)
  ending := by
    intro hlast
    exact absurd (hcode _ (List.mem_of_getLast? hlast)) (by decide)
  kept := by
    have hdots : ∀ path ∈ ignoredPaths, CodePoint.char '.' ∈ path := by decide
    intro hmem
    exact absurd (hcode _ (hdots code hmem)) (by decide)

theorem shortcode_of_code (hcode : ∀ character ∈ code, isCodeCharacter character = true)
    {url : Url} (hpath : url.path = .char '/' :: code) {hook : Option CleanHook}
    (hhook : ∀ clean ∈ hook, clean code url = code) : url.shortcode hook = code := by
  have hpercent : .char '%' ∉ CodePoint.char '/' :: code :=
    List.not_mem_cons_of_ne_of_not_mem (by decide) (percent_not_mem_of_code hcode)
  have hencodable := isEncodable_of_code hcode
  have hdecoded : url.decodedPath = code ++ [] := by
    rw [Url.decodedPath, hpath, Percent.decode_of_not_mem hpercent hencodable, List.append_nil]
    rfl
  exact (isUncut_of_code hcode).shortcode_eq (.inl rfl) hdecoded hhook

/-! ## Hooks -/

theorem bitlyHook_of_code (hcode : ∀ character ∈ code, isCodeCharacter character = true)
    (url : Url) : bitlyHook code url = code := by
  have hkept : code.reverse.dropWhile (· == .char '+') = code.reverse := by
    rw [List.dropWhile_eq_self_iff]
    intro hlength hplus
    have hmem := List.mem_reverse.mp (List.getElem_mem hlength)
    rw [beq_iff_eq.mp hplus] at hmem
    exact absurd (hcode _ hmem) (by decide)
  rw [bitlyHook, Text.trimEnd, hkept, List.reverse_reverse]

theorem debliHook_of_code (hcode : ∀ character ∈ code, isCodeCharacter character = true)
    (url : Url) : debliHook code url = code := by
  have hstart : ("p/" : Text).isPrefixOf code = false := by
    rw [Bool.eq_false_iff, ne_eq, List.isPrefixOf_iff_prefix]
    intro hpreview
    exact absurd (hcode (.char '/') (hpreview.subset (by decide))) (by decide)
  rw [debliHook, Text.dropStart?, hstart]
  rfl

/-- The characters of the alphabet of s.uconn.edu are their own lower-case forms. -/
theorem lowerForm_of_documents {character : CodePoint}
    (hdocumented : uconn.documents character = true) (before after : Text) :
    Text.lowerForm before character after = [character] := by
  have hlower : ∀ number < 128, uconn.documents (.ofNat number) = true →
      Text.simpleLower (.ofNat number) = .ofNat number := by
    decide
  have hcode := isCodeCharacter_of_documents (by simp [shorteners]) hdocumented
  have hbounds := toNat_of_isCodeCharacter hcode
  have hsame := hlower character.toNat (by omega)
  rw [CodePoint.ofNat_toNat] at hsame
  have hsigma : (character == Text.capitalSigma) = false := by
    rw [beq_eq_false_iff_ne]
    rintro rfl
    exact absurd hcode (by decide)
  have hdotted : (character.toNat == 0x130) = false := by
    rw [beq_eq_false_iff_ne]
    omega
  simp [Text.lowerForm, hsigma, hdotted, hsame hdocumented]

theorem lowerAfter_of_documents {before : Text}
    (hcode : ∀ character ∈ code, uconn.documents character = true) :
    Text.lowerAfter before code = code := by
  induction code generalizing before with
  | nil => rfl
  | cons character code ih =>
      obtain ⟨hfirst, hrest⟩ := List.forall_mem_cons.mp hcode
      rw [Text.lowerAfter, lowerForm_of_documents hfirst, ih hrest]
      rfl

/-- A hook leaves the codes of its shortener alone. -/
theorem hook_of_documents (hbuiltIn : shortener ∈ shorteners)
    (hdocumented : ∀ character ∈ code, shortener.documents character = true) (url : Url) :
    ∀ hook ∈ shortener.hook, hook code url = code := by
  have hcode : ∀ character ∈ code, isCodeCharacter character = true :=
    fun character hmem => isCodeCharacter_of_documents hbuiltIn (hdocumented character hmem)
  simp only [shorteners, List.mem_cons, List.not_mem_nil, or_false] at hbuiltIn
  rcases hbuiltIn with rfl | rfl | rfl | rfl | rfl
  · rintro hook ⟨rfl⟩
    exact bitlyHook_of_code hcode url
  · rintro hook ⟨rfl⟩
    exact debliHook_of_code hcode url
  · rintro hook ⟨⟩
  · rintro hook ⟨rfl⟩
    exact bitlyHook_of_code hcode url
  · rintro hook ⟨rfl⟩
    exact lowerAfter_of_documents hdocumented

/-! ## Reading the link to a code -/

theorem isControl_of_code (hcode : ∀ character ∈ code, isCodeCharacter character = true) :
    ∀ character ∈ code, Text.isControl character = false := by
  intro character hmem
  have hbounds := toNat_of_isCodeCharacter (hcode character hmem)
  simp only [Text.isControl, Bool.or_eq_false_iff, decide_eq_false_iff_not]
  omega

theorem exists_parse_link (hbuiltIn : shortener ∈ shorteners)
    (hcode : ∀ character ∈ code, isCodeCharacter character = true) :
    ∃ url, Url.parse (shortener.baseUrl ++ code) = .ok url ∧ url.path = .char '/' :: code := by
  have hfree : ∀ mark, isCodeCharacter mark = false → mark ∉ code := by
    intro mark hmark hmem
    rw [hcode mark hmem] at hmark
    cases hmark
  have hquestion := hfree (.char '?') (by decide)
  have hnumber := hfree (.char '#') (by decide)
  have hescaped := Percent.isEscaped_of_not_mem (percent_not_mem_of_code hcode)
  obtain ⟨url, hparse⟩ := (exists_parse_link_iff hbuiltIn hquestion hnumber).mpr
    ⟨isControl_of_code hcode, hescaped⟩
  refine ⟨url, hparse, ?_⟩
  rw [← (Url.parse_eq_ok_iff.mp hparse).2.2, path_link hbuiltIn,
    Url.pathStart_eq_self hquestion hnumber]

theorem clean_link (hbuiltIn : shortener ∈ shorteners)
    (hdocumented : ∀ character ∈ code, shortener.documents character = true) :
    shortener.clean (shortener.baseUrl ++ code) = .ok code := by
  have hcode : ∀ character ∈ code, isCodeCharacter character = true :=
    fun character hmem => isCodeCharacter_of_documents hbuiltIn (hdocumented character hmem)
  obtain ⟨url, hparse, hpath⟩ := exists_parse_link hbuiltIn hcode
  refine Shortener.clean_eq_ok_iff.mpr ⟨url, hparse, ?_⟩
  exact shortcode_of_code hcode hpath (hook_of_documents hbuiltIn hdocumented url)

/-! ## Cleaned catalogs -/

theorem documents_of_cleanUrls (hbuiltIn : shortener ∈ shorteners) {urls codes : List Text}
    (hcleaned : shortener.cleanUrls urls = .ok codes) (hmem : code ∈ codes) :
    code ≠ [] ∧ ∀ character ∈ code, shortener.documents character = true := by
  obtain ⟨url, -, hone⟩ := (Shortener.mem_of_cleanUrls_eq_ok hcleaned code).mp hmem
  obtain ⟨-, -, haccepts⟩ := Shortener.cleanOne_eq_ok_some_iff.mp hone
  exact (accepts_iff hbuiltIn).mp haccepts

theorem cleanOne_link (hbuiltIn : shortener ∈ shorteners) {urls codes : List Text}
    (hcleaned : shortener.cleanUrls urls = .ok codes) (hmem : code ∈ codes) :
    shortener.cleanOne (shortener.baseUrl ++ code) = .ok (some code) := by
  obtain ⟨hne, hdocumented⟩ := documents_of_cleanUrls hbuiltIn hcleaned hmem
  exact Shortener.cleanOne_eq_ok_some_iff.mpr
    ⟨clean_link hbuiltIn hdocumented, hne, (accepts_iff hbuiltIn).mpr ⟨hne, hdocumented⟩⟩

/-- The codes that a built-in shortener cleans out of any URLs are spelled in its
documented alphabet, which is ASCII without marks, junk or line ends.  Cleaning the
link to such a code gives the code, and cleaning the links to all of them, in any
order, gives the same catalog again. -/
theorem cleanUrls_fixed_points (shortener : Shortener) (hbuiltIn : shortener ∈ shorteners)
    (urls codes : List Text) (hcleaned : shortener.cleanUrls urls = .ok codes) :
    (∀ code ∈ codes, code ≠ [] ∧ ∀ character ∈ code,
      shortener.documents character = true ∧ Text.isAscii character = true ∧
        character ∉ ("/.%\n" : Text) ∧ isJunk character = false) ∧
    (∀ code ∈ codes, shortener.clean (shortener.baseUrl ++ code) = .ok code) ∧
    ∀ order : List Text, order.Perm codes →
      shortener.cleanUrls (order.map (shortener.baseUrl ++ ·)) = .ok codes := by
  refine ⟨?_, ?_, ?_⟩
  · intro code hmem
    obtain ⟨hne, hdocumented⟩ := documents_of_cleanUrls hbuiltIn hcleaned hmem
    refine ⟨hne, ?_⟩
    intro character hcharacter
    have hcode := isCodeCharacter_of_documents hbuiltIn (hdocumented character hcharacter)
    exact ⟨hdocumented character hcharacter, isAscii_of_isCodeCharacter hcode,
      not_mem_of_isCodeCharacter hcode (by decide), isJunk_of_isCodeCharacter hcode⟩
  · intro code hmem
    exact clean_link hbuiltIn (documents_of_cleanUrls hbuiltIn hcleaned hmem).2
  · intro order hperm
    apply Shortener.cleanUrls_eq_ok_of_pairwise
    · simp only [List.mem_map]
      rintro url ⟨code, hcode, rfl⟩
      exact ⟨some code, cleanOne_link hbuiltIn hcleaned (hperm.mem_iff.mp hcode)⟩
    · exact Shortener.pairwise_of_cleanUrls_eq_ok hcleaned
    · intro code
      simp only [List.mem_map, exists_exists_and_eq_and]
      constructor
      · intro hmem
        exact ⟨code, hperm.mem_iff.mpr hmem, cleanOne_link hbuiltIn hcleaned hmem⟩
      · rintro ⟨other, hother, hone⟩
        have hmem := hperm.mem_iff.mp hother
        rw [cleanOne_link hbuiltIn hcleaned hmem] at hone
        cases hone
        exact hmem

/-- The Kelvin sign is not ASCII, but its lower-case form is the letter k, and the two
links that clean to `key` and `b` are not the ones that the catalog is read back from. -/
theorem cleanUrls_fixed_points_kelvin :
    uconn ∈ shorteners ∧
      uconn.cleanUrls ["https://s.uconn.edu/\u212aEY%3E", "https://s.uconn.edu/b/"] =
        .ok ["b", "key"] ∧
      uconn.cleanUrls ["https://s.uconn.edu/key", "https://s.uconn.edu/b"] =
        .ok ["b", "key"] := by
  have hbuiltIn : uconn ∈ shorteners := by simp [shorteners]
  have hkelvin : uconn.cleanOne "https://s.uconn.edu/\u212aEY%3E" = .ok (some "key") := by
    decide +kernel
  have hslash : uconn.cleanOne "https://s.uconn.edu/b/" = .ok (some "b") := by
    decide +kernel
  have hcleaned : uconn.cleanUrls ["https://s.uconn.edu/\u212aEY%3E", "https://s.uconn.edu/b/"] =
      .ok ["b", "key"] := by
    apply Shortener.cleanUrls_eq_ok_of_pairwise
    · simp [hkelvin, hslash]
    · simp only [List.pairwise_pair]
      decide
    · intro code
      simp [hkelvin, hslash, or_comm, eq_comm]
  have hagain := (cleanUrls_fixed_points uconn hbuiltIn _ _ hcleaned).2.2 ["key", "b"]
    (.swap _ _ _)
  have hlinks : [("key" : Text), "b"].map (uconn.baseUrl ++ ·) =
      [("https://s.uconn.edu/key" : Text), "https://s.uconn.edu/b"] := by
    decide
  rw [hlinks] at hagain
  exact ⟨hbuiltIn, hcleaned, hagain⟩

end ShortlinkCatalog.BuiltIn
