import Mathlib.Data.List.Forall2
import ShortlinkCatalog.Proofs.Shortener.Batch
import ShortlinkCatalog.Proofs.Shortener.Candidate
import ShortlinkCatalog.Proofs.Url.AsciiCase
import ShortlinkCatalog.Shortener.BuiltIn

/-!
# Codes without case

The codes of s.uconn.edu are in lower case however a link is spelled.  Changing the case of
letters in a path leaves the cuts before the hook where they are, since junk, slashes and the
brackets of stand-ins are no letters; the hook then makes the same code of both candidates.
So a batch of such links is accepted with either spelling or with none, and has one result.
-/

namespace ShortlinkCatalog

/-! ## Candidates -/

theorem isPlaceholder_map_lowerAscii (text : Text) :
    isPlaceholder (text.map Text.lowerAscii) = isPlaceholder text := by
  have hopen : Text.isAsciiLetter (.char '<') = false := by decide
  have hclose : Text.isAsciiLetter (.char '>') = false := by decide
  rw [Bool.eq_iff_iff, isPlaceholder, isPlaceholder]
  simp only [Bool.and_eq_true, beq_iff_eq]
  exact and_congr (Text.head?_map_lowerAscii_eq_iff hopen text)
    (Text.getLast?_map_lowerAscii_eq_iff hclose text)

namespace Url

variable {left right : Url}

theorem decodedPath_of_sameLetters (hescaped : Percent.IsEscaped left.path)
    (hletters : Text.SameLetters left.path right.path) :
    Text.SameLetters left.decodedPath right.decodedPath := by
  have hslash : Text.isAsciiLetter (.char '/') = false := by decide
  have hdecode := Percent.decode_of_sameLetters hescaped hletters
  by_cases hhead : (Percent.decode left.path).head? = some (.char '/')
  · obtain ⟨rest, hrest⟩ := List.head?_eq_some_iff.mp hhead
    rw [hrest, Text.sameLetters_cons_iff] at hdecode
    obtain ⟨first, others, hothers, hfirst, hsame⟩ := hdecode
    obtain rfl : first = .char '/' := (Text.lowerAscii_eq_iff hslash first).mp hfirst.symm
    rwa [decodedPath_of_slash hrest, decodedPath_of_slash hothers]
  · have hother : (Percent.decode right.path).head? ≠ some (.char '/') := by
      rw [← Text.head?_map_lowerAscii_eq_iff hslash, hdecode] at hhead
      rwa [Text.head?_map_lowerAscii_eq_iff hslash] at hhead
    rwa [decodedPath_of_head?_ne hhead, decodedPath_of_head?_ne hother]

theorem candidate_of_sameLetters
    (hletters : Text.SameLetters left.decodedPath right.decodedPath) :
    Text.SameLetters left.candidate right.candidate := by
  have hslash : Text.isAsciiLetter (.char '/') = false := by decide
  have hjunk : ∀ character, (!isJunk (Text.lowerAscii character)) = !isJunk character :=
    Text.apply_lowerAscii (!isJunk ·) (by decide)
  have hplaceholder : isPlaceholder left.decodedPath = isPlaceholder right.decodedPath := by
    rw [← isPlaceholder_map_lowerAscii, hletters, isPlaceholder_map_lowerAscii]
  rw [candidate, candidate, hplaceholder]
  split_ifs
  · rfl
  · rw [Text.SameLetters, ← Text.dropOneEnd_map_lowerAscii hslash,
      ← Text.takeWhile_map_lowerAscii hjunk, hletters, Text.takeWhile_map_lowerAscii hjunk,
      Text.dropOneEnd_map_lowerAscii hslash]

end Url

/-! ## Batches of other spellings -/

namespace Shortener

variable {shortener : Shortener}

/-- URLs with one code take a batch further in one way. -/
theorem cleanNext_congr {url other code : Text} (hurl : shortener.clean url = .ok code)
    (hother : shortener.clean other = .ok code) (batch next : Batch) :
    shortener.cleanNext batch url = .ok next ↔ shortener.cleanNext batch other = .ok next := by
  by_cases hcode : code = []
  · simp [cleanNext, cleanOne, hurl, hother, hcode]
  · by_cases haccepts : shortener.accepts code = true
    · simp only [cleanNext, cleanOne_of_accepts hurl hcode haccepts,
        cleanOne_of_accepts hother hcode haccepts]
    · obtain ⟨_, -, -, hone⟩ := cleanOne_of_not_accepts hurl hcode haccepts
      obtain ⟨_, -, -, honeOther⟩ := cleanOne_of_not_accepts hother hcode haccepts
      simp [cleanNext, hone, honeOther]

/-- Batches whose URLs have the same codes one by one have the same result.  Their errors may
differ, since these carry the URLs. -/
theorem cleanUrls_congr {urls others : List Text}
    (hclean : List.Forall₂ (fun url other =>
      ∃ code, shortener.clean url = .ok code ∧ shortener.clean other = .ok code) urls others)
    (codes : List Text) :
    shortener.cleanUrls urls = .ok codes ↔ shortener.cleanUrls others = .ok codes := by
  have hrun : ∀ batch final, urls.foldlM shortener.cleanNext batch = .ok final ↔
      others.foldlM shortener.cleanNext batch = .ok final := by
    induction hclean with
    | nil => exact fun _ _ => Iff.rfl
    | cons hfirst _ ih =>
        obtain ⟨code, hurl, hother⟩ := hfirst
        intro batch final
        simp only [foldlM_cleanNext_cons_eq_ok_iff, cleanNext_congr hurl hother, ih]
  simp only [cleanUrls_eq_ok_iff, hrun]

end Shortener

namespace BuiltIn

variable {urls others : List Text} {url other : Text}

theorem shortcode_uconnHook_of_sameLetters {left right : Url}
    (hletters : Text.SameLetters left.candidate right.candidate) :
    left.shortcode (some uconnHook) = right.shortcode (some uconnHook) := by
  have hnil : left.candidate = [] ↔ right.candidate = [] := by
    rw [← List.length_eq_zero_iff, hletters.length_eq, List.length_eq_zero_iff]
  by_cases hleft : left.candidate = []
  · rw [Url.shortcode_of_candidate_nil hleft, Url.shortcode_of_candidate_nil (hnil.mp hleft)]
  · have hhook : uconnHook left.candidate left = uconnHook right.candidate right :=
      Text.toLower_of_sameLetters hletters
    rw [Url.shortcode_of_candidate_ne_nil hleft,
      Url.shortcode_of_candidate_ne_nil (hnil.not.mp hleft), hhook]

theorem clean_uconn_of_isRecased (haccepted : ∃ parts, Url.parse url = .ok parts)
    (hrecased : Url.IsRecased url other) :
    ∃ code, uconn.clean url = .ok code ∧ uconn.clean other = .ok code := by
  obtain ⟨parts, hparse⟩ := haccepted
  obtain ⟨changed, hletters, hother⟩ := Url.parse_of_isRecased hrecased hparse
  have hescaped : Percent.IsEscaped parts.path :=
    (Url.parse_accounts_for_text hparse).2.escaped _ (by simp)
  have hcandidate : Text.SameLetters parts.candidate
      ({ parts with path := changed } : Url).candidate :=
    Url.candidate_of_sameLetters (Url.decodedPath_of_sameLetters hescaped hletters)
  refine ⟨_, Shortener.clean_eq_ok_iff.mpr ⟨parts, hparse, rfl⟩,
    Shortener.clean_eq_ok_iff.mpr ⟨_, hother, ?_⟩⟩
  exact (shortcode_uconnHook_of_sameLetters hcandidate).symm

/-- In accepted URLs of s.uconn.edu, the case of ASCII letters in the paths makes no difference
to any code, nor to whether a batch is accepted or to its result. -/
theorem uconn_ignores_case (haccepted : ∀ url ∈ urls, ∃ parts, Url.parse url = .ok parts)
    (hrecased : List.Forall₂ Url.IsRecased urls others) :
    List.Forall₂ (fun url other =>
      ∃ code, uconn.clean url = .ok code ∧ uconn.clean other = .ok code) urls others ∧
    ∀ codes, uconn.cleanUrls urls = .ok codes ↔ uconn.cleanUrls others = .ok codes := by
  have hclean : List.Forall₂ (fun url other =>
      ∃ code, uconn.clean url = .ok code ∧ uconn.clean other = .ok code) urls others := by
    have hboth := (List.forall₂_and_left urls others).mpr ⟨haccepted, hrecased⟩
    exact hboth.imp fun url other hpair => clean_uconn_of_isRecased hpair.1 hpair.2
  exact ⟨hclean, Shortener.cleanUrls_congr hclean⟩

/-- A batch in two spellings: a Kelvin sign and an escaped letter in front of a bracket, with a
sigma and a query behind it, and a name that is no shortcode. -/
theorem uconn_ignores_case_kelvin :
    (∀ url ∈ (["https://s.uconn.edu/H\u212a%4a)\u03a3?Ab", "/Robots.TXT"] : List Text),
        ∃ parts, Url.parse url = .ok parts) ∧
      List.Forall₂ Url.IsRecased ["https://s.uconn.edu/H\u212a%4a)\u03a3?Ab", "/Robots.TXT"]
        ["https://s.uconn.edu/h\u212a%4A)\u03a3?Ab", "/rOBOTS.tXT"] ∧
      uconn.cleanUrls ["https://s.uconn.edu/h\u212a%4A)\u03a3?Ab", "/rOBOTS.tXT"] =
        .ok ["hkj"] := by
  have haccepted : ∀ url ∈
      (["https://s.uconn.edu/H\u212a%4a)\u03a3?Ab", "/Robots.TXT"] : List Text),
      ∃ parts, Url.parse url = .ok parts := by
    simp only [List.forall_mem_cons, List.not_mem_nil, false_implies, implies_true, and_true]
    exact ⟨⟨⟨"https", "s.uconn.edu", "/H\u212a%4a)\u03a3", "Ab", []⟩, by decide +kernel⟩,
      ⟨⟨[], [], "/Robots.TXT", [], []⟩, by decide +kernel⟩⟩
  have hlink : Url.IsRecased "https://s.uconn.edu/H\u212a%4a)\u03a3?Ab"
      "https://s.uconn.edu/h\u212a%4A)\u03a3?Ab" := by
    refine ⟨"https://s.uconn.edu", "/H\u212a%4a)\u03a3", "?Ab", "/h\u212a%4A)\u03a3",
      ?_, ?_, ?_, ?_, ?_⟩ <;> decide +kernel
  have hrobots : Url.IsRecased "/Robots.TXT" "/rOBOTS.tXT" := by
    refine ⟨[], "/Robots.TXT", [], "/rOBOTS.tXT", ?_, ?_, ?_, ?_, ?_⟩ <;> decide +kernel
  have hrecased : List.Forall₂ Url.IsRecased
      ["https://s.uconn.edu/H\u212a%4a)\u03a3?Ab", "/Robots.TXT"]
      ["https://s.uconn.edu/h\u212a%4A)\u03a3?Ab", "/rOBOTS.tXT"] :=
    .cons hlink (.cons hrobots .nil)
  have hkelvin : uconn.cleanOne "https://s.uconn.edu/H\u212a%4a)\u03a3?Ab" =
      .ok (some "hkj") := by
    decide +kernel
  have hname : uconn.cleanOne "/Robots.TXT" = .ok none := by
    decide +kernel
  refine ⟨haccepted, hrecased, ((uconn_ignores_case haccepted hrecased).2 _).mp ?_⟩
  apply Shortener.cleanUrls_eq_ok_of_pairwise
  · simp [hkelvin, hname]
  · exact List.pairwise_singleton _ _
  · simp [hkelvin, hname, eq_comm]

end BuiltIn

end ShortlinkCatalog
