import Mathlib.Data.List.Infix
import ShortlinkCatalog.Proofs.Text.CodePoint
import ShortlinkCatalog.Text.Percent

/-!
# Percent signs that begin escapes

A text is well formed if two hexadecimal digits follow each of its percent signs.  The
check goes from escape to escape and so never looks at the digits of one again; since no
digit is a percent sign, it overlooks nothing.
-/

namespace ShortlinkCatalog

namespace Text

/-- The hexadecimal digits are three ranges of numbers. -/
theorem toNat_of_hexValue? {character : CodePoint} {value : Nat}
    (hvalue : hexValue? character = some value) :
    (48 ≤ character.toNat ∧ character.toNat ≤ 57 ∧ value = character.toNat - 48) ∨
      (97 ≤ character.toNat ∧ character.toNat ≤ 102 ∧ value = character.toNat - 87) ∨
      (65 ≤ character.toNat ∧ character.toNat ≤ 70 ∧ value = character.toNat - 55) := by
  have hnumbers : ((CodePoint.char '0').toNat = 48 ∧ (CodePoint.char '9').toNat = 57) ∧
      ((CodePoint.char 'a').toNat = 97 ∧ (CodePoint.char 'f').toNat = 102) ∧
      (CodePoint.char 'A').toNat = 65 ∧ (CodePoint.char 'F').toNat = 70 := by
    decide
  simp only [hexValue?, isAsciiDigit, Bool.and_eq_true, decide_eq_true_eq,
    CodePoint.le_iff_toNat_le, hnumbers] at hvalue
  grind

theorem toNat_of_isHexDigit {character : CodePoint} (hdigit : isHexDigit character = true) :
    (48 ≤ character.toNat ∧ character.toNat ≤ 57) ∨
      (97 ≤ character.toNat ∧ character.toNat ≤ 102) ∨
      (65 ≤ character.toNat ∧ character.toNat ≤ 70) := by
  obtain ⟨value, hvalue⟩ := Option.isSome_iff_exists.mp hdigit
  obtain ⟨hleast, hmost, -⟩ | ⟨hleast, hmost, -⟩ | ⟨hleast, hmost, -⟩ := toNat_of_hexValue? hvalue
  · exact .inl ⟨hleast, hmost⟩
  · exact .inr (.inl ⟨hleast, hmost⟩)
  · exact .inr (.inr ⟨hleast, hmost⟩)

theorem ne_percent_of_isHexDigit {character : CodePoint} (hdigit : isHexDigit character = true) :
    character ≠ .char '%' := by
  rintro rfl
  exact absurd hdigit (by decide)

end Text

namespace Percent

/-- A text that starts with two hexadecimal digits. -/
def StartsWithDigits (text : Text) : Prop :=
  ∃ first second rest, text = first :: second :: rest ∧
    Text.isHexDigit first = true ∧ Text.isHexDigit second = true

/-- Every percent sign is followed by two hexadecimal digits. -/
def IsEscaped (text : Text) : Prop :=
  ∀ after, .char '%' :: after <:+ text → StartsWithDigits after

theorem isEscaped_nil : IsEscaped [] := by
  intro after hsuffix
  simp at hsuffix

theorem isEscaped_cons_iff (character : CodePoint) (text : Text) :
    IsEscaped (character :: text) ↔
      (character = .char '%' → StartsWithDigits text) ∧ IsEscaped text := by
  simp only [IsEscaped, List.suffix_cons_iff, List.cons.injEq, or_imp, forall_and]
  constructor
  · rintro ⟨hfirst, hrest⟩
    exact ⟨fun hpercent => hfirst text ⟨hpercent.symm, rfl⟩, hrest⟩
  · rintro ⟨hfirst, hrest⟩
    refine ⟨?_, hrest⟩
    rintro after ⟨hpercent, rfl⟩
    exact hfirst hpercent.symm

theorem isEscaped_append {before after : Text} (hbefore : IsEscaped before)
    (hafter : IsEscaped after) : IsEscaped (before ++ after) := by
  induction before with
  | nil => exact hafter
  | cons character before ih =>
      rw [isEscaped_cons_iff] at hbefore
      rw [List.cons_append, isEscaped_cons_iff]
      refine ⟨?_, ih hbefore.2⟩
      intro hpercent
      obtain ⟨first, second, rest, rfl, hdigits⟩ := hbefore.1 hpercent
      exact ⟨first, second, rest ++ after, rfl, hdigits⟩

/-- The check finds exactly the texts whose percent signs all begin escapes. -/
theorem wellFormed_iff (text : Text) : wellFormed text = true ↔ IsEscaped text := by
  induction text using wellFormed.induct with
  | case1 => exact iff_of_true rfl isEscaped_nil
  | case2 first second rest hdigits ih =>
      obtain ⟨hfirst, hsecond⟩ := Bool.and_eq_true_iff.mp hdigits
      have hstart : StartsWithDigits (first :: second :: rest) :=
        ⟨first, second, rest, rfl, hfirst, hsecond⟩
      rw [wellFormed, if_pos hdigits, ih]
      simp [isEscaped_cons_iff, hstart, Text.ne_percent_of_isHexDigit hfirst,
        Text.ne_percent_of_isHexDigit hsecond]
  | case3 first second rest hdigits =>
      rw [wellFormed, if_neg hdigits, isEscaped_cons_iff]
      refine iff_of_false Bool.false_ne_true ?_
      rintro ⟨hstart, -⟩
      obtain ⟨_, _, _, heq, hfirst, hsecond⟩ := hstart rfl
      cases heq
      exact hdigits (Bool.and_eq_true_iff.mpr ⟨hfirst, hsecond⟩)
  | case4 text hshort =>
      rw [wellFormed, isEscaped_cons_iff]
      · refine iff_of_false Bool.false_ne_true ?_
        rintro ⟨hstart, -⟩
        obtain ⟨first, second, rest, heq, -, -⟩ := hstart rfl
        exact hshort first second rest heq
      · exact hshort
  | case5 character text hlong hne ih =>
      rw [wellFormed, ih, isEscaped_cons_iff]
      · exact ⟨fun hrest => ⟨fun hpercent => (hne hpercent).elim, hrest⟩, And.right⟩
      · exact hlong
      · exact hne

/-- Where a percent sign begins an escape, the decoder finds one. -/
theorem isSome_escape?_of_startsWithDigits {after : Text} (hstart : StartsWithDigits after) :
    (escape? (.char '%' :: after)).isSome = true := by
  obtain ⟨first, second, rest, rfl, hfirst, hsecond⟩ := hstart
  obtain ⟨high, hhigh⟩ := Option.isSome_iff_exists.mp hfirst
  obtain ⟨low, hlow⟩ := Option.isSome_iff_exists.mp hsecond
  simp [escape?, hhigh, hlow]

end Percent

end ShortlinkCatalog
