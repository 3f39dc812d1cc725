import Mathlib.Data.List.Lex
import Mathlib.Data.List.TakeWhile
import ShortlinkCatalog.Text.Encodable

/-!
# Numbers of code points

A code point is determined by its number, so texts are ordered like the lists of the
numbers of their code points.  The order is total, since the order of numbers is.  The
classes of ASCII characters are ranges of numbers, and only the surrogates are out of
reach of UTF-8.
-/

namespace ShortlinkCatalog

namespace CodePoint

/-- The number of a character is never that of a surrogate. -/
theorem toNat_char_not_surrogate (value : Char) :
    ¬ (firstSurrogate ≤ value.toNat ∧ value.toNat < afterSurrogates) := by
  have hvalid := value.valid
  simp only [firstSurrogate, afterSurrogates, Char.toNat, UInt32.isValidChar,
    Nat.isValidChar] at hvalid ⊢
  omega

@[simp]
theorem ofNat_toNat (character : CodePoint) : ofNat character.toNat = character := by
  cases character with
  | char value =>
      rw [toNat, ofNat, dif_neg (toNat_char_not_surrogate value), Char.ofNat_toNat]
  | surrogate index =>
      have hbound : firstSurrogate ≤ firstSurrogate + index.val ∧
          firstSurrogate + index.val < afterSurrogates := by
        simp only [firstSurrogate, afterSurrogates]
        omega
      simp [toNat, ofNat, hbound]

theorem toNat_injective : Function.Injective toNat :=
  Function.LeftInverse.injective ofNat_toNat

theorem toNat_ofNat_of_lt {code : Nat} (hcode : code < firstSurrogate) :
    (ofNat code).toNat = code := by
  have hsurrogate : ¬ (firstSurrogate ≤ code ∧ code < afterSurrogates) := by omega
  have hvalid : code.isValidChar := by
    left
    exact hcode
  rw [ofNat, dif_neg hsurrogate, toNat, Char.ofNat, dif_pos hvalid]
  rfl

theorem le_iff_toNat_le (left right : CodePoint) :
    left ≤ right ↔ left.toNat ≤ right.toNat := Iff.rfl

theorem toNat_lt (character : CodePoint) : character.toNat < 0x110000 := by
  cases character with
  | char value =>
      have hvalid := value.valid
      simp only [toNat, Char.toNat, UInt32.isValidChar, Nat.isValidChar] at hvalid ⊢
      omega
  | surrogate index =>
      simp only [toNat, firstSurrogate]
      omega

theorem isSurrogate_eq_false_iff (character : CodePoint) :
    character.isSurrogate = false ↔
      ¬ (firstSurrogate ≤ character.toNat ∧ character.toNat < afterSurrogates) := by
  cases character with
  | char value => exact iff_of_true rfl (toNat_char_not_surrogate value)
  | surrogate index =>
      have hindex := index.isLt
      simp only [isSurrogate, toNat, firstSurrogate, afterSurrogates, reduceCtorEq, false_iff,
        not_not]
      omega

end CodePoint

namespace Text

theorem map_toNat_injective : Function.Injective (List.map CodePoint.toNat) :=
  List.map_injective_iff.mpr CodePoint.toNat_injective

theorem le_iff_map_toNat_le (left right : Text) :
    le left right = true ↔ left.map CodePoint.toNat ≤ right.map CodePoint.toNat := by
  rw [← not_lt]
  induction left generalizing right with
  | nil => simp [le]
  | cons first left ih =>
      cases right with
      | nil => simp [le]
      | cons second right =>
          rw [le, List.map_cons, List.map_cons, List.cons_lt_cons_iff, not_or, not_and, ← ih]
          rcases lt_trichotomy first.toNat second.toNat with hlt | heq | hgt
          · simp [hlt, hlt.not_gt, hlt.ne']
          · simp [heq]
          · simp [hgt, hgt.not_gt]

/-! ## Classes of ASCII characters -/

theorem isAsciiLetter_iff (character : CodePoint) :
    isAsciiLetter character = true ↔
      (97 ≤ character.toNat ∧ character.toNat ≤ 122) ∨
        (65 ≤ character.toNat ∧ character.toNat ≤ 90) := by
  simp only [isAsciiLetter, Bool.or_eq_true, Bool.and_eq_true, decide_eq_true_eq]
  exact Iff.rfl

theorem isAscii_iff (character : CodePoint) :
    isAscii character = true ↔ character.toNat < 128 := by
  simp [isAscii]

/-! ## Encodable texts -/

theorem drop_length_takeWhile (member : CodePoint → Bool) (text : Text) :
    text.drop (text.takeWhile member).length = text.dropWhile member := by
  have hsplit : text.takeWhile member ++ text.dropWhile member = text :=
    List.takeWhile_append_dropWhile
  have hleft : (text.takeWhile member ++ text.dropWhile member).drop
      (text.takeWhile member).length = text.dropWhile member := List.drop_left
  rwa [hsplit] at hleft

/-- A text has an encoding exactly when all of its characters are in reach. -/
theorem encodeFault_eq_none_iff (encoding reason : Text) (outOfReach : CodePoint → Bool)
    (text : Text) :
    encodeFault encoding reason outOfReach text = none ↔
      ∀ character ∈ text, outOfReach character = false := by
  rw [encodeFault, drop_length_takeWhile]
  cases hrest : text.dropWhile (!outOfReach ·) with
  | nil => simpa using hrest
  | cons first rest =>
      have hmem : first ∈ text := (List.dropWhile_suffix _).subset (hrest ▸ List.mem_cons_self)
      have hfirst : outOfReach first = true := by
        have hstop := List.head?_dropWhile_not (!outOfReach ·) text
        simpa [hrest] using hstop
      rw [List.takeWhile_cons_of_pos hfirst]
      simp only [reduceCtorEq, false_iff, not_forall]
      exact ⟨first, hmem, by simp [hfirst]⟩

theorem utf8Fault_eq_none_iff (text : Text) :
    utf8Fault text = none ↔ text.isEncodable = true := by
  rw [utf8Fault, encodeFault_eq_none_iff, isEncodable, List.all_eq_true]
  simp

end Text

end ShortlinkCatalog
