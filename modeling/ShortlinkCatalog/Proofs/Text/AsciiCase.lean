import ShortlinkCatalog.Proofs.Text.Boundary
import ShortlinkCatalog.Text.Case

/-!
# The case of ASCII letters

Texts that differ in nothing but the case of ASCII letters are the same text in lower case.
Every class that has both forms of a letter or none cuts them at the same places.  Their
percent escapes stand for the same octets, so they decode to such texts again; and since a
letter has case in either form, they have one lower-case form, final sigmas included.
-/

namespace ShortlinkCatalog

namespace Text

/-- Texts that differ in nothing but the case of ASCII letters. -/
def SameLetters (left right : Text) : Prop := left.map lowerAscii = right.map lowerAscii

instance (left right : Text) : Decidable (SameLetters left right) :=
  inferInstanceAs (Decidable (left.map lowerAscii = right.map lowerAscii))

variable {left right : Text}

/-! ## Characters -/

theorem lowerAscii_cases (character : CodePoint) :
    lowerAscii character = character ∨ ∃ number < 26,
      character = CodePoint.ofNat (65 + number) ∧
        lowerAscii character = CodePoint.ofNat (97 + number) := by
  have hnumbers : (CodePoint.char 'A').toNat = 65 ∧ (CodePoint.char 'Z').toNat = 90 := by decide
  rw [lowerAscii]
  split_ifs with hcapital
  · simp only [Bool.and_eq_true, decide_eq_true_eq, CodePoint.le_iff_toNat_le, hnumbers]
      at hcapital
    refine .inr ⟨character.toNat - 65, by omega, ?_, ?_⟩
    · rw [Nat.add_sub_cancel' hcapital.1, CodePoint.ofNat_toNat]
    · congr 1
      omega
  · exact .inl rfl

/-- What does not tell the two forms of a letter apart can be asked of lower case. -/
theorem apply_lowerAscii {Value : Type*} (view : CodePoint → Value)
    (hletters : ∀ number < 26, view (.ofNat (97 + number)) = view (.ofNat (65 + number)))
    (character : CodePoint) : view (lowerAscii character) = view character := by
  rcases lowerAscii_cases character with hsame | ⟨number, hnumber, hcapital, hlower⟩
  · rw [hsame]
  · rw [hlower, hcapital, hletters number hnumber]

theorem lowerAscii_lowerAscii (character : CodePoint) :
    lowerAscii (lowerAscii character) = lowerAscii character :=
  apply_lowerAscii _ (by decide) character

theorem isControl_lowerAscii (character : CodePoint) :
    isControl (lowerAscii character) = isControl character :=
  apply_lowerAscii _ (by decide) character

theorem lowerAscii_eq_iff {mark : CodePoint} (hmark : isAsciiLetter mark = false)
    (character : CodePoint) : lowerAscii character = mark ↔ character = mark := by
  have hletters : ∀ number < 26, isAsciiLetter (.ofNat (65 + number)) = true ∧
      isAsciiLetter (.ofNat (97 + number)) = true := by
    decide
  rcases lowerAscii_cases character with hsame | ⟨number, hnumber, hcapital, hlower⟩
  · rw [hsame]
  · refine iff_of_false ?_ ?_
    · rintro rfl
      rw [hlower, (hletters number hnumber).2] at hmark
      cases hmark
    · rintro rfl
      rw [hcapital, (hletters number hnumber).1] at hmark
      cases hmark

/-- Only a letter has two forms. -/
theorem isSurrogate_of_ne_of_lowerAscii_eq {character other : CodePoint} (hne : character ≠ other)
    (hsame : lowerAscii character = lowerAscii other) :
    character.isSurrogate = false ∧ other.isSurrogate = false := by
  have hlower : ∀ character, (lowerAscii character).isSurrogate = character.isSurrogate :=
    apply_lowerAscii CodePoint.isSurrogate (by decide)
  have hcapitals : ∀ number < 26, (CodePoint.ofNat (65 + number)).isSurrogate = false := by decide
  have hboth : character.isSurrogate = other.isSurrogate := by
    rw [← hlower character, hsame, hlower other]
  rw [← hboth, and_self]
  rcases lowerAscii_cases character with hfixed | ⟨number, hnumber, rfl, -⟩
  · rcases lowerAscii_cases other with hother | ⟨number, hnumber, rfl, -⟩
    · rw [hfixed, hother] at hsame
      exact absurd hsame hne
    · rw [hboth, hcapitals number hnumber]
  · exact hcapitals number hnumber

/-! ## Cuts -/

section Cuts

variable {member : CodePoint → Bool}
  (hmember : ∀ character, member (lowerAscii character) = member character)

include hmember

theorem takeWhile_map_lowerAscii (text : Text) :
    (text.map lowerAscii).takeWhile member = (text.takeWhile member).map lowerAscii := by
  rw [List.takeWhile_map, Function.comp_def]
  simp only [hmember]

theorem dropWhile_map_lowerAscii (text : Text) :
    (text.map lowerAscii).dropWhile member = (text.dropWhile member).map lowerAscii := by
  rw [List.dropWhile_map, Function.comp_def]
  simp only [hmember]

theorem forall_of_sameLetters (hletters : SameLetters left right) {value : Bool}
    (hleft : ∀ character ∈ left, member character = value) :
    ∀ character ∈ right, member character = value := by
  have hlower : ∀ character ∈ left.map lowerAscii, member character = value := by
    simpa [hmember] using hleft
  rw [SameLetters] at hletters
  rw [hletters] at hlower
  simpa [hmember] using hlower

end Cuts

theorem not_mem_of_sameLetters {mark : CodePoint} (hmark : isAsciiLetter mark = false)
    (hletters : SameLetters left right) (hmem : mark ∉ left) : mark ∉ right := by
  have hlower : mark ∉ left.map lowerAscii := by
    simpa [lowerAscii_eq_iff hmark] using hmem
  rw [SameLetters] at hletters
  rw [hletters] at hlower
  simpa [lowerAscii_eq_iff hmark] using hlower

theorem head?_map_lowerAscii_eq_iff {mark : CodePoint} (hmark : isAsciiLetter mark = false)
    (text : Text) : (text.map lowerAscii).head? = some mark ↔ text.head? = some mark := by
  simp [List.head?_map, lowerAscii_eq_iff hmark]

theorem getLast?_map_lowerAscii_eq_iff {mark : CodePoint} (hmark : isAsciiLetter mark = false)
    (text : Text) : (text.map lowerAscii).getLast? = some mark ↔ text.getLast? = some mark := by
  simp [List.getLast?_map, lowerAscii_eq_iff hmark]

theorem dropOneEnd_map_lowerAscii {mark : CodePoint} (hmark : isAsciiLetter mark = false)
    (text : Text) :
    dropOneEnd mark (text.map lowerAscii) = (dropOneEnd mark text).map lowerAscii := by
  rw [dropOneEnd, dropOneEnd]
  simp only [getLast?_map_lowerAscii_eq_iff hmark]
  split_ifs
  · rw [List.map_dropLast]
  · rfl

theorem splitFirst_map_lowerAscii {mark : CodePoint} (hmark : isAsciiLetter mark = false)
    (text : Text) :
    splitFirst mark (text.map lowerAscii) =
      ((splitFirst mark text).1.map lowerAscii,
        (splitFirst mark text).2.map (List.map lowerAscii)) := by
  have hmember (character : CodePoint) :
      (lowerAscii character != mark) = (character != mark) := by
    rw [Bool.eq_iff_iff, bne_iff_ne, bne_iff_ne, ne_eq, ne_eq, lowerAscii_eq_iff hmark]
  rw [splitFirst, splitFirst, takeWhile_map_lowerAscii hmember, dropWhile_map_lowerAscii hmember]
  cases text.dropWhile (· != mark) <;> rfl

/-! ## Lower case -/

theorem meetsCased_map_lowerAscii (text : Text) :
    meetsCased (text.map lowerAscii) = meetsCased text := by
  have hignorable : ∀ character,
      isCaseIgnorable (lowerAscii character) = isCaseIgnorable character :=
    apply_lowerAscii _ (by decide)
  have hcased : ∀ character, isCased (lowerAscii character) = isCased character :=
    apply_lowerAscii _ (by decide)
  rw [meetsCased, meetsCased, dropWhile_map_lowerAscii hignorable]
  cases text.dropWhile isCaseIgnorable with
  | nil => rfl
  | cons first rest => exact hcased first

theorem lowerForm_map_lowerAscii (before after : Text) (character : CodePoint) :
    lowerForm (before.map lowerAscii) (lowerAscii character) (after.map lowerAscii) =
      lowerForm before character after := by
  have hsigma : ∀ character,
      (lowerAscii character == capitalSigma) = (character == capitalSigma) :=
    apply_lowerAscii (· == capitalSigma) (by decide)
  have hdotted : ∀ character,
      ((lowerAscii character).toNat == 0x130) = (character.toNat == 0x130) :=
    apply_lowerAscii (·.toNat == 0x130) (by decide)
  have hsimple : ∀ character, simpleLower (lowerAscii character) = simpleLower character :=
    apply_lowerAscii _ (by decide)
  rw [lowerForm, lowerForm, meetsCased_map_lowerAscii, meetsCased_map_lowerAscii, hsigma, hdotted,
    hsimple]

theorem lowerAfter_map_lowerAscii (before text : Text) :
    lowerAfter (before.map lowerAscii) (text.map lowerAscii) = lowerAfter before text := by
  induction text generalizing before with
  | nil => rfl
  | cons character text ih =>
      rw [List.map_cons, lowerAfter, lowerAfter, lowerForm_map_lowerAscii, ← List.map_cons, ih]

/-- The lower-case form of a text does not depend on the case of its ASCII letters. -/
theorem toLower_of_sameLetters (hletters : SameLetters left right) :
    toLower left = toLower right := by
  calc
    toLower left = lowerAfter [] (left.map lowerAscii) := (lowerAfter_map_lowerAscii [] left).symm
    _ = lowerAfter [] (right.map lowerAscii) := by rw [hletters]
    _ = toLower right := lowerAfter_map_lowerAscii [] right

/-! ## Pairs of texts -/

theorem SameLetters.refl (text : Text) : SameLetters text text := rfl

theorem SameLetters.append {leftAfter rightAfter : Text} (hletters : SameLetters left right)
    (hafter : SameLetters leftAfter rightAfter) :
    SameLetters (left ++ leftAfter) (right ++ rightAfter) := by
  rw [SameLetters] at hletters hafter ⊢
  rw [List.map_append, List.map_append, hletters, hafter]

theorem SameLetters.length_eq (hletters : SameLetters left right) : left.length = right.length := by
  simpa [SameLetters] using congrArg List.length hletters

theorem sameLetters_cons_iff {character : CodePoint} :
    SameLetters (character :: left) right ↔ ∃ other rest, right = other :: rest ∧
      lowerAscii character = lowerAscii other ∧ SameLetters left rest := by
  rw [SameLetters, List.map_cons, eq_comm, List.map_eq_cons_iff]
  simp only [SameLetters, eq_comm]

end Text

namespace Percent

variable {left right : Text}

/-! ## Escapes -/

theorem hexValue?_of_lowerAscii_eq {character other : CodePoint}
    (hsame : Text.lowerAscii character = Text.lowerAscii other) :
    Text.hexValue? character = Text.hexValue? other := by
  have hvalue : ∀ character,
      Text.hexValue? (Text.lowerAscii character) = Text.hexValue? character :=
    Text.apply_lowerAscii _ (by decide)
  rw [← hvalue character, hsame, hvalue other]

theorem eq_percent_iff_of_lowerAscii_eq {character other : CodePoint}
    (hsame : Text.lowerAscii character = Text.lowerAscii other) :
    character = .char '%' ↔ other = .char '%' := by
  have hpercent : Text.isAsciiLetter (.char '%') = false := by decide
  rw [← Text.lowerAscii_eq_iff hpercent character, hsame, Text.lowerAscii_eq_iff hpercent]

theorem startsWithDigits_of_sameLetters (hletters : Text.SameLetters left right)
    (hleft : StartsWithDigits left) : StartsWithDigits right := by
  obtain ⟨first, second, rest, rfl, hfirst, hsecond⟩ := hleft
  obtain ⟨otherFirst, others, rfl, hsameFirst, hletters⟩ := Text.sameLetters_cons_iff.mp hletters
  obtain ⟨otherSecond, others, rfl, hsameSecond, -⟩ := Text.sameLetters_cons_iff.mp hletters
  refine ⟨otherFirst, otherSecond, others, rfl, ?_, ?_⟩
  · rwa [Text.isHexDigit, ← hexValue?_of_lowerAscii_eq hsameFirst]
  · rwa [Text.isHexDigit, ← hexValue?_of_lowerAscii_eq hsameSecond]

theorem isEscaped_of_sameLetters (hletters : Text.SameLetters left right)
    (hleft : IsEscaped left) : IsEscaped right := by
  induction left generalizing right with
  | nil =>
      obtain rfl : right = [] := List.map_eq_nil_iff.mp hletters.symm
      exact isEscaped_nil
  | cons character left ih =>
      obtain ⟨other, rest, rfl, hsame, hletters⟩ := Text.sameLetters_cons_iff.mp hletters
      rw [isEscaped_cons_iff] at hleft ⊢
      refine ⟨?_, ih hletters hleft.2⟩
      intro hpercent
      exact startsWithDigits_of_sameLetters hletters
        (hleft.1 ((eq_percent_iff_of_lowerAscii_eq hsame).mpr hpercent))

/-! ## Decoding -/

/-- Two texts that stand for the same pieces, with no escape left open at their ends. -/
structure ReadAlike (left right : Text) : Prop where
  leftEscaped : IsEscaped left
  rightEscaped : IsEscaped right
  pieces : pieces left = pieces right

namespace ReadAlike

variable {leftAfter rightAfter : Text}

theorem nil : ReadAlike [] [] := ⟨isEscaped_nil, isEscaped_nil, rfl⟩

theorem append (hbefore : ReadAlike left right) (hafter : ReadAlike leftAfter rightAfter) :
    ReadAlike (left ++ leftAfter) (right ++ rightAfter) where
  leftEscaped := isEscaped_append hbefore.leftEscaped hafter.leftEscaped
  rightEscaped := isEscaped_append hbefore.rightEscaped hafter.rightEscaped
  pieces := by
    rw [pieces_append hbefore.leftEscaped, pieces_append hbefore.rightEscaped, hbefore.pieces,
      hafter.pieces]

theorem literal {character : CodePoint} (hne : character ≠ .char '%') :
    ReadAlike [character] [character] := by
  have hescaped : IsEscaped [character] := by
    simp [isEscaped_cons_iff, hne, isEscaped_nil]
  exact ⟨hescaped, hescaped, rfl⟩

/-- An escape stands for one octet, whatever the case of its digits. -/
theorem escape {first second otherFirst otherSecond : CodePoint}
    (hfirst : Text.lowerAscii first = Text.lowerAscii otherFirst)
    (hsecond : Text.lowerAscii second = Text.lowerAscii otherSecond)
    (hdigits : (Text.isHexDigit first && Text.isHexDigit second) = true) :
    ReadAlike [.char '%', first, second] [.char '%', otherFirst, otherSecond] := by
  have hletters : Text.SameLetters [.char '%', first, second]
      [.char '%', otherFirst, otherSecond] := by
    simp [Text.SameLetters, hfirst, hsecond]
  have hescaped : IsEscaped [.char '%', first, second] := by
    simp [← wellFormed_iff, wellFormed, hdigits]
  refine ⟨hescaped, isEscaped_of_sameLetters hletters hescaped, ?_⟩
  obtain ⟨hhigh, hlow⟩ := Bool.and_eq_true_iff.mp hdigits
  obtain ⟨high, hhigh⟩ := Option.isSome_iff_exists.mp hhigh
  obtain ⟨low, hlow⟩ := Option.isSome_iff_exists.mp hlow
  have hotherHigh := hexValue?_of_lowerAscii_eq hfirst
  have hotherLow := hexValue?_of_lowerAscii_eq hsecond
  rw [hhigh] at hotherHigh
  rw [hlow] at hotherLow
  simp [Percent.pieces, piecesAfter, escape?, hhigh, hlow, ← hotherHigh, ← hotherLow]

theorem decode_eq (halike : ReadAlike left right) : decode left = decode right := by
  rw [decode, halike.pieces, decode]

end ReadAlike

/-- Texts that read alike may stand before texts that differ in case: a letter in two forms is
read by itself, and up to there the texts go on reading alike. -/
theorem decode_append_of_sameLetters {before other : Text} (halike : ReadAlike before other)
    (hleft : IsEscaped left) (hletters : Text.SameLetters left right) :
    Text.SameLetters (decode (before ++ left)) (decode (other ++ right)) := by
  rw [← wellFormed_iff] at hleft
  induction left using wellFormed.induct generalizing before other right with
  | case1 =>
      obtain rfl : right = [] := List.map_eq_nil_iff.mp hletters.symm
      rw [List.append_nil, List.append_nil, halike.decode_eq]
      exact .refl _
  | case2 first second rest hdigits ih =>
      rw [wellFormed, if_pos hdigits] at hleft
      obtain ⟨percent, others, rfl, hpercent, hdigitsOn⟩ := Text.sameLetters_cons_iff.mp hletters
      obtain ⟨otherFirst, others, rfl, hfirst, hsecondOn⟩ :=
        Text.sameLetters_cons_iff.mp hdigitsOn
      obtain ⟨otherSecond, others, rfl, hsecond, hrest⟩ := Text.sameLetters_cons_iff.mp hsecondOn
      obtain rfl := (eq_percent_iff_of_lowerAscii_eq hpercent).mp rfl
      have hdecoded := ih (halike.append (.escape hfirst hsecond hdigits)) hleft hrest
      simpa using hdecoded
  | case3 first second rest hdigits =>
      rw [wellFormed, if_neg hdigits] at hleft
      cases hleft
  | case4 text hshort =>
      rw [wellFormed] at hleft
      · cases hleft
      · exact hshort
  | case5 character text hlong hne ih =>
      rw [wellFormed] at hleft
      · obtain ⟨otherCharacter, others, rfl, hsame, hrest⟩ :=
          Text.sameLetters_cons_iff.mp hletters
        have hpercent : character ≠ .char '%' := hne
        -- one character goes on with what was read before it; a letter in two forms ends it
        by_cases heq : character = otherCharacter
        · subst heq
          have hdecoded := ih (halike.append (.literal hpercent)) hleft hrest
          simpa using hdecoded
        · have hotherPercent : otherCharacter ≠ .char '%' :=
            (eq_percent_iff_of_lowerAscii_eq hsame).not.mp hpercent
          obtain ⟨hencodable, hotherEncodable⟩ := Text.isSurrogate_of_ne_of_lowerAscii_eq heq hsame
          have hdecoded := ih .nil hleft hrest
          rw [decode_append_literal hpercent hencodable halike.leftEscaped,
            decode_append_literal hotherPercent hotherEncodable halike.rightEscaped,
            halike.decode_eq]
          exact .append (.refl _) (Text.sameLetters_cons_iff.mpr ⟨_, _, rfl, hsame, hdecoded⟩)
      · exact hlong
      · exact hne

/-- Decoding keeps the case of letters out of all else. -/
theorem decode_of_sameLetters (hleft : IsEscaped left) (hletters : Text.SameLetters left right) :
    Text.SameLetters (decode left) (decode right) :=
  decode_append_of_sameLetters .nil hleft hletters

end Percent

end ShortlinkCatalog
