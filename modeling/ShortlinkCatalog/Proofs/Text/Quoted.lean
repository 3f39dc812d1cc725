import ShortlinkCatalog.Proofs.Text.CodePoint
import ShortlinkCatalog.Text.Quoted

/-!
# Quoted texts can be encoded

A quoted text shows the printable characters as they are and escapes all others.  No surrogate
is printable, so whatever a text holds, UTF-8 reaches every character that it is quoted with.
-/

namespace ShortlinkCatalog

/-! ## Ranges -/

/-- The ranges that end below a code point are passed over. -/
theorem CodeRanges.contains_dropWhile {bound code : Nat} (hbound : bound ≤ code)
    (ranges : CodeRanges) :
    CodeRanges.contains code (ranges.dropWhile (·.2 < bound)) = ranges.contains code := by
  induction ranges with
  | nil => rfl
  | cons range ranges ih =>
      obtain ⟨first, last⟩ := range
      by_cases hlast : last < bound
      · have hpassed : ¬ code ≤ last := by omega
        rw [List.dropWhile_cons_of_pos (by simpa using hlast), ih, contains, if_neg hpassed]
      · rw [List.dropWhile_cons_of_neg (by simpa using hlast)]

namespace Text

theorem isPrintable_of_isSurrogate {character : CodePoint}
    (hsurrogate : character.isSurrogate = true) : isPrintable character = false := by
  have hhead : (unprintableRanges.dropWhile (·.2 < CodePoint.firstSurrogate)).head? =
      some (0xd7fc, 0xf8ff) := by
    decide +kernel
  obtain ⟨others, hranges⟩ := List.head?_eq_some_iff.mp hhead
  obtain ⟨hfirst, hlast⟩ : CodePoint.firstSurrogate ≤ character.toNat ∧
      character.toNat < CodePoint.afterSurrogates := by
    by_contra hout
    rw [(CodePoint.isSurrogate_eq_false_iff character).mpr hout] at hsurrogate
    cases hsurrogate
  rw [isPrintable, ← CodeRanges.contains_dropWhile hfirst, hranges, CodeRanges.contains]
  simp only [CodePoint.firstSurrogate, CodePoint.afterSurrogates] at hfirst hlast
  rw [if_pos (by omega), Bool.not_eq_false', decide_eq_true_eq]
  omega

/-! ## Texts that can be encoded -/

@[simp]
theorem isEncodable_nil : isEncodable [] = true := rfl

@[simp]
theorem isEncodable_cons (character : CodePoint) (text : Text) :
    isEncodable (character :: text) = (!character.isSurrogate && text.isEncodable) := rfl

@[simp]
theorem isEncodable_append (left right : Text) :
    isEncodable (left ++ right) = (left.isEncodable && right.isEncodable) :=
  List.all_append

@[simp]
theorem isSurrogate_char (value : Char) : (CodePoint.char value).isSurrogate = false := rfl

theorem isEncodable_map_char (characters : List Char) :
    isEncodable (characters.map .char) = true := by
  rw [isEncodable, List.all_map, List.all_eq_true]
  intro character _
  rfl

@[simp]
theorem isEncodable_ofString (text : String) : (ofString text).isEncodable = true :=
  isEncodable_map_char text.toList

@[simp]
theorem isEncodable_ofNat (value : Nat) : (ofNat value).isEncodable = true :=
  isEncodable_map_char _

@[simp]
theorem isEncodable_ofInt (value : Int) : (ofInt value).isEncodable = true := by
  cases value <;> simp [ofInt]

theorem isEncodable_flatMap {text : Text} {spelling : CodePoint → Text}
    (hspelling : ∀ character ∈ text, (spelling character).isEncodable = true) :
    isEncodable (text.flatMap spelling) = true := by
  rw [isEncodable, List.all_flatMap, List.all_eq_true]
  exact hspelling

theorem isEncodable_join {separator : Text} {pieces : List Text}
    (hseparator : separator.isEncodable = true)
    (hpieces : ∀ piece ∈ pieces, piece.isEncodable = true) :
    (join separator pieces).isEncodable = true := by
  cases pieces with
  | nil => rfl
  | cons piece pieces =>
      obtain ⟨hpiece, hrest⟩ := List.forall_mem_cons.mp hpieces
      rw [join, isEncodable_append, hpiece, Bool.true_and, isEncodable, List.all_flatMap,
        List.all_eq_true]
      intro other hmem
      rw [← isEncodable, isEncodable_append, hseparator, hrest other hmem, Bool.and_self]

@[simp]
theorem isEncodable_lowerHex (value width : Nat) : (lowerHex value width).isEncodable = true := by
  have hdigit : ∀ digit < 16, (lowerHexDigit digit).isSurrogate = false := by decide
  induction width generalizing value with
  | zero => rfl
  | succ width ih => simp [lowerHex, ih, hdigit (value % 16) (Nat.mod_lt _ (by decide))]

/-! ## Quoting -/

@[simp]
theorem isEncodable_escapeCode (code : Nat) : (escapeCode code).isEncodable = true := by
  unfold escapeCode
  split_ifs <;> simp

theorem isEncodable_escapeCharacter {mark : CodePoint} (hmark : mark.isSurrogate = false)
    (character : CodePoint) : (escapeCharacter mark character).isEncodable = true := by
  unfold escapeCharacter
  split_ifs with hescaped hline hreturn htab hprintable
  · have hsame : character = mark ∨ character = .char '\x5c' := by simpa using hescaped
    rcases hsame with rfl | rfl <;> simp [hmark]
  · simp
  · simp
  · simp
  · rw [isEncodable_cons, isEncodable_nil, Bool.and_true, Bool.not_eq_true', Bool.eq_false_iff]
    intro hsurrogate
    rw [isPrintable_of_isSurrogate hsurrogate] at hprintable
    cases hprintable
  · exact isEncodable_escapeCode _

theorem isSurrogate_quoteMark (text : Text) : (quoteMark text).isSurrogate = false := by
  unfold quoteMark
  split_ifs <;> rfl

@[simp]
theorem isEncodable_quoted (text : Text) : (quoted text).isEncodable = true := by
  have hmark := isSurrogate_quoteMark text
  simp [quoted, hmark, isEncodable_flatMap fun _ _ => isEncodable_escapeCharacter hmark _]

@[simp]
theorem isEncodable_quotedOctets (octets : List UInt8) :
    (quotedOctets octets).isEncodable = true := by
  have hmark := isSurrogate_quoteMark (octets.map fun octet => CodePoint.ofNat octet.toNat)
  simp only [quotedOctets, isEncodable_append, isEncodable_ofString, isEncodable_cons, hmark,
    isEncodable_nil, Bool.not_false, Bool.and_true, Bool.true_and]
  apply isEncodable_flatMap
  intro character _
  split_ifs
  · exact isEncodable_escapeCharacter hmark character
  · simp

end Text

end ShortlinkCatalog
