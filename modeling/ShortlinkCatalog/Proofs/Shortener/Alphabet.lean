import ShortlinkCatalog.Proofs.Pattern.Match
import ShortlinkCatalog.Proofs.Text.CodePoint

/-!
# Alphabets of the built-in shorteners

The description of an alphabet names ranges of characters, and the pattern of a built-in
shortener stands for the texts of its alphabet.  No alphabet has more than letters, digits,
the underscore and the hyphen, so a code holds nothing that means something in a URL.
-/

namespace ShortlinkCatalog

namespace Shortener

/-- The ranges that the description of an alphabet names.  Two characters with a hyphen
between them are the ends of a range, and every other character stands for itself. -/
def alphabetRanges : Text → List (CodePoint × CodePoint)
  | first :: '-' :: last :: rest => (first, last) :: alphabetRanges rest
  | character :: rest => (character, character) :: alphabetRanges rest
  | [] => []

/-- Whether a character belongs to the documented alphabet. -/
def documents (shortener : Shortener) (character : CodePoint) : Bool :=
  (alphabetRanges shortener.alphabet).any fun range =>
    range.1 ≤ character && character ≤ range.2

end Shortener

namespace BuiltIn

/-- Letters, digits, the underscore and the hyphen. -/
def codeRanges : List (CodePoint × CodePoint) :=
  [digits, upperLetters, lowerLetters, exactly '_', exactly '-']

/-- A character that some built-in shortener may use in its codes. -/
def isCodeCharacter (character : CodePoint) : Bool :=
  codeRanges.any fun range => range.1 ≤ character && character ≤ range.2

variable {shortener : Shortener} {code : Text}

/-- The pattern of a built-in shortener stands for the texts of its alphabet. -/
theorem exists_pattern_eq_wholly (hbuiltIn : shortener ∈ shorteners) :
    ∃ written, shortener.pattern =
      some ((wholly (Shortener.alphabetRanges shortener.alphabet)).toPattern written) := by
  simp only [shorteners, List.mem_cons, List.not_mem_nil, or_false] at hbuiltIn
  rcases hbuiltIn with rfl | rfl | rfl | rfl | rfl <;> exact ⟨_, rfl⟩

theorem accepts_iff (hbuiltIn : shortener ∈ shorteners) :
    shortener.accepts code = true ↔
      code ≠ [] ∧ ∀ character ∈ code, shortener.documents character = true := by
  obtain ⟨written, hpattern⟩ := exists_pattern_eq_wholly hbuiltIn
  rw [Shortener.accepts, hpattern]
  exact accepts_wholly_iff written code

theorem isCodeCharacter_of_documents (hbuiltIn : shortener ∈ shorteners) {character : CodePoint}
    (hdocumented : shortener.documents character = true) : isCodeCharacter character = true := by
  have hranges : ∀ shortener ∈ shorteners,
      ∀ range ∈ Shortener.alphabetRanges shortener.alphabet, range ∈ codeRanges := by
    decide
  obtain ⟨range, hrange, hbounds⟩ := List.any_eq_true.mp hdocumented
  exact List.any_eq_true.mpr ⟨range, hranges shortener hbuiltIn range hrange, hbounds⟩

theorem toNat_of_isCodeCharacter {character : CodePoint}
    (hcode : isCodeCharacter character = true) :
    45 ≤ character.toNat ∧ character.toNat ≤ 122 := by
  have hbounds : ∀ range ∈ codeRanges, 45 ≤ range.1.toNat ∧ range.2.toNat ≤ 122 := by
    decide
  obtain ⟨range, hrange, hmem⟩ := List.any_eq_true.mp hcode
  simp only [Bool.and_eq_true, decide_eq_true_eq, CodePoint.le_iff_toNat_le] at hmem
  have hrangeBounds := hbounds range hrange
  omega

theorem isAscii_of_isCodeCharacter {character : CodePoint}
    (hcode : isCodeCharacter character = true) : Text.isAscii character = true := by
  have hbounds := toNat_of_isCodeCharacter hcode
  rw [Text.isAscii_iff]
  omega

/-- No mark, no junk and no line end is a code character. -/
theorem not_mem_of_isCodeCharacter {character : CodePoint} {others : Text}
    (hcode : isCodeCharacter character = true)
    (hothers : ∀ other ∈ others, isCodeCharacter other = false) : character ∉ others := by
  intro hmem
  rw [hothers character hmem] at hcode
  cases hcode

theorem isJunk_of_isCodeCharacter {character : CodePoint}
    (hcode : isCodeCharacter character = true) : isJunk character = false := by
  have hfree : character ∉ ("\x22])>&\u2019\xa0" : Text) :=
    not_mem_of_isCodeCharacter hcode (by decide)
  simpa [isJunk] using hfree

end BuiltIn

end ShortlinkCatalog
