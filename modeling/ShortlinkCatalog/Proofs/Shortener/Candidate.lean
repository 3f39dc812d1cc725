import ShortlinkCatalog.Proofs.Text.Cut
import ShortlinkCatalog.Shortener.Clean

/-!
# What a hook gets to see

Cleaning hands a candidate to the hook of a shortener and goes on with what the hook makes of
it.  A candidate holds something, and no junk, so what a hook makes of other texts does not
matter.  What it gives back loses a slash and is refused if it is a path of every web site, as
the candidate itself would be.
-/

namespace ShortlinkCatalog

/-- A text that cleaning may hand to a hook. -/
structure IsCandidate (text : Text) : Prop where
  nonempty : text ≠ []
  free : ∀ character ∈ text, isJunk character = false

/-- A stand-in ends in a bracket, which is junk. -/
theorem isPlaceholder_of_getLast? {text : Text}
    (hlast : ∀ character ∈ text.getLast?, isJunk character = false) :
    isPlaceholder text = false := by
  rw [isPlaceholder, Bool.and_eq_false_iff]
  right
  rw [beq_eq_false_iff_ne]
  intro hbracket
  exact absurd (hlast _ hbracket) (by decide)

namespace Url

variable {url : Url}

/-! ## Decoded paths -/

theorem decodedPath_of_head?_ne
    (hhead : (Percent.decode url.path).head? ≠ some (.char '/')) :
    url.decodedPath = Percent.decode url.path := by
  rw [decodedPath]
  split
  · rename_i heq
    exact absurd (congrArg List.head? heq) hhead
  · rfl

theorem decodedPath_of_slash {rest : Text} (hdecode : Percent.decode url.path = .char '/' :: rest) :
    url.decodedPath = rest := by
  rw [decodedPath, hdecode]
  rfl

/-- Only a first slash is left out, and what goes on with the path is none. -/
theorem decodedPath_eq_append {extended : Url} {character : CodePoint} {after : Text}
    (hne : character ≠ .char '/')
    (hdecode : Percent.decode extended.path = Percent.decode url.path ++ character :: after) :
    extended.decodedPath = url.decodedPath ++ character :: after := by
  by_cases hslash : (Percent.decode url.path).head? = some (.char '/')
  · obtain ⟨rest, hrest⟩ := List.head?_eq_some_iff.mp hslash
    rw [hrest, List.cons_append] at hdecode
    rw [decodedPath_of_slash hrest, decodedPath_of_slash hdecode]
  · have hhead : (Percent.decode extended.path).head? ≠ some (.char '/') := by
      rw [hdecode, List.head?_append]
      cases hfirst : (Percent.decode url.path).head? with
      | none => simpa using hne
      | some first => simpa [hfirst] using hslash
    rw [decodedPath_of_head?_ne hslash, decodedPath_of_head?_ne hhead, hdecode]

/-! ## Candidates -/

/-- Stand-ins give no candidate, and any other path is cut before its junk. -/
theorem isJunk_of_mem_candidate : ∀ character ∈ url.candidate, isJunk character = false := by
  intro character hmem
  rw [candidate] at hmem
  split_ifs at hmem
  · cases hmem
  · have hcut := (Text.isPrefix_dropOneEnd _ _).subset hmem
    simpa using List.mem_takeWhile_imp hcut

theorem isCandidate_candidate (hne : url.candidate ≠ []) : IsCandidate url.candidate :=
  ⟨hne, isJunk_of_mem_candidate⟩

theorem shortcode_of_candidate_nil (hnil : url.candidate = []) (hook : Option CleanHook) :
    url.shortcode hook = [] := by
  simp [shortcode, hnil]

/-- Behind a candidate only the answer of the hook counts. -/
theorem shortcode_of_candidate_ne_nil (hne : url.candidate ≠ []) (hook : CleanHook) :
    url.shortcode (some hook) =
      if Text.dropOneEnd '/' (hook url.candidate url) ∈ ignoredPaths then []
      else Text.dropOneEnd '/' (hook url.candidate url) := by
  simp only [shortcode, List.isEmpty_eq_false_iff.mpr hne, Bool.false_eq_true, if_false,
    List.contains_iff_mem]

theorem shortcode_eq_iff {code : Text} (hne : code ≠ []) (hook : CleanHook) :
    url.shortcode (some hook) = code ↔
      url.candidate ≠ [] ∧ code ∉ ignoredPaths ∧
        Text.dropOneEnd '/' (hook url.candidate url) = code := by
  by_cases hnil : url.candidate = []
  · rw [shortcode_of_candidate_nil hnil]
    exact iff_of_false hne.symm fun hcode => hcode.1 hnil
  · rw [shortcode_of_candidate_ne_nil hnil]
    split_ifs with hignored
    · refine iff_of_false hne.symm ?_
      rintro ⟨-, hkept, rfl⟩
      exact hkept hignored
    · constructor
      · rintro rfl
        exact ⟨hnil, hignored, rfl⟩
      · exact fun hcode => hcode.2.2

theorem shortcode_congr {left right : CleanHook}
    (hagree : ∀ text, IsCandidate text → left text url = right text url) :
    url.shortcode (some left) = url.shortcode (some right) := by
  by_cases hnil : url.candidate = []
  · rw [shortcode_of_candidate_nil hnil, shortcode_of_candidate_nil hnil]
  · rw [shortcode_of_candidate_ne_nil hnil, shortcode_of_candidate_ne_nil hnil,
      hagree url.candidate (isCandidate_candidate hnil)]

/-- A shortcode is what the hook makes of a candidate, less a slash. -/
theorem shortcode_cases (hook : CleanHook) :
    url.shortcode (some hook) = [] ∨ ∃ text, IsCandidate text ∧
      url.shortcode (some hook) = Text.dropOneEnd '/' (hook text url) := by
  by_cases hnil : url.candidate = []
  · exact .inl (shortcode_of_candidate_nil hnil _)
  · rw [shortcode_of_candidate_ne_nil hnil]
    split_ifs
    · exact .inl rfl
    · exact .inr ⟨url.candidate, isCandidate_candidate hnil, rfl⟩

theorem shortcode_not_mem_ignoredPaths (hook : CleanHook) :
    url.shortcode (some hook) ∉ ignoredPaths := by
  have hempty : ([] : Text) ∉ ignoredPaths := by decide
  by_cases hnil : url.candidate = []
  · rwa [shortcode_of_candidate_nil hnil]
  · rw [shortcode_of_candidate_ne_nil hnil]
    split_ifs with hignored
    · exact hempty
    · exact hignored

end Url

namespace Shortener

/-- Hooks that agree on candidates clean every URL alike.  With any hook, a shortcode is
empty or what the hook makes of some candidate, less one slash at its end, and it is none of
the paths that every web site has. -/
theorem hook_sees_candidates (shortener : Shortener) (url : Url) :
    (∀ left right : CleanHook, (∀ text, IsCandidate text → left text url = right text url) →
      { shortener with hook := some left }.cleanParsed url =
        { shortener with hook := some right }.cleanParsed url) ∧
    ∀ hook : CleanHook,
      ({ shortener with hook := some hook }.cleanParsed url = [] ∨
        ∃ text, IsCandidate text ∧ { shortener with hook := some hook }.cleanParsed url =
          Text.dropOneEnd '/' (hook text url)) ∧
      { shortener with hook := some hook }.cleanParsed url ∉
        (["favicon.ico", "robots.txt"] : List Text) := by
  refine ⟨fun left right => Url.shortcode_congr, ?_⟩
  intro hook
  exact ⟨Url.shortcode_cases hook, Url.shortcode_not_mem_ignoredPaths hook⟩

/-- Two hooks that differ on junk and on the empty text, and a path with junk: it is cut off
before either hook is asked, and so is the slash before it. -/
theorem hook_sees_candidates_junk :
    cleanParsed ⟨"s", "x", "http://x/", "", none, some fun text _ => text ++ "//", none⟩
        ⟨"http", "x", "/sig/%E2%80%99+", [], []⟩ =
      cleanParsed ⟨"s", "x", "http://x/", "", none, some fun text _ =>
          if text.isEmpty || text.any isJunk then "phantom" else text ++ "//", none⟩
        ⟨"http", "x", "/sig/%E2%80%99+", [], []⟩ := by
  apply (hook_sees_candidates ⟨"s", "x", "http://x/", "", none, none, none⟩ _).1
  intro text htext
  have hfree : text.any isJunk = false := by
    simpa using htext.free
  rw [hfree, List.isEmpty_eq_false_iff.mpr htext.nonempty]
  rfl

end Shortener

end ShortlinkCatalog
