import ShortlinkCatalog.Proofs.Text.CodePoint
import ShortlinkCatalog.Proofs.Text.Cut
import ShortlinkCatalog.Url.Basic

/-!
# Written URLs

An absolute URL is written as its parts with their marks between them.  Cutting a
written URL gives the parts back, the scheme in lower case, as long as no part holds a
mark that would end it.
-/

namespace ShortlinkCatalog.Url

/-- A part behind its mark, if there is one. -/
def marked (mark : CodePoint) : Option Text → Text
  | none => []
  | some text => mark :: text

/-- A URL with an authority in its written form; query and fragment may be missing. -/
def written (scheme authority path : Text) (query fragment : Option Text) : Text :=
  scheme ++ "://" ++ authority ++ path ++ marked '?' query ++ marked '#' fragment

theorem splitFirst_append_marked {mark : CodePoint} {before : Text} (after : Option Text)
    (hfree : mark ∉ before) :
    Text.splitFirst mark (before ++ marked mark after) = (before, after) := by
  cases after with
  | none => simpa [marked] using Text.splitFirst_of_not_mem hfree
  | some after => exact Text.splitFirst_append hfree

/-- The first mark can be in one place only. -/
theorem splitFirst_eq_iff {mark : CodePoint} {text before : Text} {after : Option Text} :
    Text.splitFirst mark text = (before, after) ↔
      text = before ++ marked mark after ∧ mark ∉ before := by
  constructor
  · intro hsplit
    by_cases hmem : mark ∈ text
    · obtain ⟨left, right, rfl, hfree⟩ := List.eq_append_cons_of_mem hmem
      rw [Text.splitFirst_append hfree] at hsplit
      cases hsplit
      exact ⟨rfl, hfree⟩
    · rw [Text.splitFirst_of_not_mem hmem] at hsplit
      cases hsplit
      exact ⟨by simp [marked], hmem⟩
  · rintro ⟨rfl, hfree⟩
    exact splitFirst_append_marked after hfree

theorem isSchemeCharacter_of_isScheme {scheme : Text} (hscheme : isScheme scheme = true) :
    ∀ character ∈ scheme, isSchemeCharacter character = true := by
  cases scheme with
  | nil => simp
  | cons first rest =>
      rw [isScheme, Bool.and_eq_true, List.all_eq_true] at hscheme
      intro character hmem
      rcases List.mem_cons.mp hmem with rfl | hrest
      · simp [isSchemeCharacter, hscheme.1]
      · exact hscheme.2 character hrest

theorem colon_not_mem_of_isScheme {scheme : Text} (hscheme : isScheme scheme = true) :
    CodePoint.char ':' ∉ scheme := by
  intro hmem
  have hcolon := isSchemeCharacter_of_isScheme hscheme _ hmem
  revert hcolon
  decide

/-- A scheme begins with a letter, which is no blank. -/
theorem dropWhile_isLeadingBlank_of_isScheme {scheme rest : Text}
    (hscheme : isScheme scheme = true) :
    (scheme ++ rest).dropWhile isLeadingBlank = scheme ++ rest := by
  cases scheme with
  | nil => cases hscheme
  | cons first scheme =>
      rw [isScheme, Bool.and_eq_true] at hscheme
      have hfirst : isLeadingBlank first = false := by
        have hletter := (Text.isAsciiLetter_iff first).mp hscheme.1
        simp only [isLeadingBlank, decide_eq_false_iff_not]
        omega
      simp [hfirst]

theorem cutScheme_append {scheme rest : Text} (hscheme : isScheme scheme = true) :
    cutScheme (scheme ++ .char ':' :: rest) = (scheme.map Text.lowerAscii, rest) := by
  rw [cutScheme, Text.splitFirst_append (colon_not_mem_of_isScheme hscheme)]
  simp [hscheme]

theorem cutAuthority_append {authority rest : Text}
    (hauthority : ∀ character ∈ authority, isAuthorityEnd character = false)
    (hrest : ∀ character ∈ rest.head?, isAuthorityEnd character = true) :
    cutAuthority (.char '/' :: .char '/' :: (authority ++ rest)) = (authority, rest) := by
  have hbefore : ∀ character ∈ authority, (!isAuthorityEnd character) = true := by
    simpa using hauthority
  have hafter : ∀ character ∈ rest.head?, (!isAuthorityEnd character) = false := by
    simpa using hrest
  rw [cutAuthority, Text.takeWhile_append_of_stop hbefore hafter,
    Text.dropWhile_append_of_stop hbefore hafter]

/-- What follows an authority ends it. -/
theorem isAuthorityEnd_of_mem_head? {path : Text} {query fragment : Option Text}
    (hpath : ∀ character ∈ path.head?, character = .char '/') :
    ∀ character ∈ (path ++ marked '?' query ++ marked '#' fragment).head?,
      isAuthorityEnd character = true := by
  cases path with
  | cons first path =>
      obtain rfl := hpath first rfl
      simp [isAuthorityEnd]
  | nil => cases query <;> cases fragment <;> simp [isAuthorityEnd, marked]

theorem cut_written {scheme authority path : Text} {query fragment : Option Text}
    (hscheme : isScheme scheme = true)
    (hauthority : ∀ character ∈ authority, isAuthorityEnd character = false)
    (hpath : ∀ character ∈ path.head?, character = .char '/')
    (hquestion : .char '?' ∉ path) (hnumber : .char '#' ∉ path)
    (hquery : ∀ text ∈ query, .char '#' ∉ text) :
    cut (written scheme authority path query fragment) =
      ⟨scheme.map Text.lowerAscii, authority, path, query.getD [], fragment.getD []⟩ := by
  have hfree : .char '#' ∉ path ++ marked '?' query := by
    cases query with
    | none => simpa [marked] using hnumber
    | some query => simpa [marked, hnumber] using hquery query rfl
  have hwritten : written scheme authority path query fragment =
      scheme ++ .char ':' :: .char '/' :: .char '/' ::
        (authority ++ (path ++ marked '?' query ++ marked '#' fragment)) := by
    have hmarks : ("://" : Text) = [.char ':', .char '/', .char '/'] := by decide
    simp [written, hmarks]
  rw [cut, hwritten, dropWhile_isLeadingBlank_of_isScheme hscheme, cutScheme_append hscheme]
  simp only [cutAuthority_append hauthority (isAuthorityEnd_of_mem_head? hpath),
    splitFirst_append_marked fragment hfree, splitFirst_append_marked query hquestion]

end ShortlinkCatalog.Url
