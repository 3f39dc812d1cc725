import ShortlinkCatalog.Json.Token
import ShortlinkCatalog.Proofs.Text.Escape

/-!
# Spellings of a quoted text

Between quotes a character may stand for itself, unless it is a quote, a backslash or a
control character, or be replaced by an escape: by a letter, by the four digits of its
number, or by those of two surrogates if its number is larger.  A text without surrogates is
read back from all of its spellings, since no half of a pair is then taken for a character
and no two characters for a pair.
-/

namespace ShortlinkCatalog.Json

/-- Four hexadecimal digits, in either case, that write a number. -/
inductive FourDigits (code : Nat) : Text → Prop
  | digits {first second third fourth : CodePoint}
      (hfirst : Text.hexValue? first = some (code / 0x1000))
      (hsecond : Text.hexValue? second = some (code / 0x100 % 0x10))
      (hthird : Text.hexValue? third = some (code / 0x10 % 0x10))
      (hfourth : Text.hexValue? fourth = some (code % 0x10)) :
      FourDigits code [first, second, third, fourth]

/-- What may stand for a character in a quoted text. -/
inductive SpellsCharacter (character : CodePoint) : Text → Prop
  | literal (hquote : character ≠ .char '\x22') (hbackslash : character ≠ .char '\x5c')
      (hcontrol : 0x20 ≤ character.toNat) : SpellsCharacter character [character]
  | letter {letter : CodePoint} (hletter : simpleEscape? letter = some character) :
      SpellsCharacter character [.char '\x5c', letter]
  | code {digits : Text} (hdigits : FourDigits character.toNat digits) :
      SpellsCharacter character (.char '\x5c' :: .char 'u' :: digits)
  | pair {high low : Text} (hlarge : 0x10000 ≤ character.toNat)
      (hhigh : FourDigits (0xd800 + (character.toNat - 0x10000) / 0x400) high)
      (hlow : FourDigits (0xdc00 + (character.toNat - 0x10000) % 0x400) low) :
      SpellsCharacter character
        (.char '\x5c' :: .char 'u' :: (high ++ .char '\x5c' :: .char 'u' :: low))

/-- `SpellsText text written` if `written` may stand between quotes for `text`. -/
inductive SpellsText : Text → Text → Prop
  | nil : SpellsText [] []
  | cons {character : CodePoint} {spelling text written : Text}
      (hcharacter : SpellsCharacter character spelling) (hrest : SpellsText text written) :
      SpellsText (character :: text) (spelling ++ written)

/-! ## Escapes -/

variable {code : Nat} {digits : Text} {character : CodePoint}

theorem FourDigits.length_eq (hdigits : FourDigits code digits) : digits.length = 4 := by
  cases hdigits
  rfl

theorem codeUnit?_of_fourDigits (hdigits : FourDigits code digits) (rest : Text) :
    codeUnit? (digits ++ rest) = some code := by
  cases hdigits with
  | digits hfirst hsecond hthird hfourth =>
      simp [codeUnit?, hfirst, hsecond, hthird, hfourth]
      omega

theorem unicodeEscape_of_fourDigits (hdigits : FourDigits code digits)
    (hcode : isHighSurrogate code = false) (position : Nat) {rest : Text} (hrest : rest ≠ []) :
    unicodeEscape position (digits ++ rest) = .ok (CodePoint.ofNat code, 4) := by
  have hdrop : (digits ++ rest).drop 4 = rest := by
    rw [← hdigits.length_eq, List.drop_left]
  simp [unicodeEscape, hdrop, hrest, codeUnit?_of_fourDigits hdigits, hcode]

theorem unicodeEscape_of_pair {high low : Nat} {highDigits lowDigits : Text}
    (hhighDigits : FourDigits high highDigits) (hlowDigits : FourDigits low lowDigits)
    (hhigh : isHighSurrogate high = true) (hlow : isLowSurrogate low = true) (position : Nat)
    {rest : Text} (hrest : rest ≠ []) :
    unicodeEscape position (highDigits ++ .char '\x5c' :: .char 'u' :: (lowDigits ++ rest)) =
      .ok (pairCharacter high low, 10) := by
  have hdrop (digits rest : Text) (hlength : digits.length = 4) :
      (digits ++ rest).drop 4 = rest := by
    rw [← hlength, List.drop_left]
  simp [unicodeEscape, hdrop, hhighDigits.length_eq, hlowDigits.length_eq, hrest,
    codeUnit?_of_fourDigits hhighDigits, codeUnit?_of_fourDigits hlowDigits, hhigh, hlow]

theorem pairCharacter_halves (hlarge : 0x10000 ≤ character.toNat) :
    pairCharacter (0xd800 + (character.toNat - 0x10000) / 0x400)
      (0xdc00 + (character.toNat - 0x10000) % 0x400) = character := by
  have hcode : 0x10000 + (0xd800 + (character.toNat - 0x10000) / 0x400 - 0xd800) * 0x400 +
      (0xdc00 + (character.toNat - 0x10000) % 0x400 - 0xdc00) = character.toNat := by
    omega
  rw [pairCharacter, hcode, CodePoint.ofNat_toNat]

/-! ## Texts read back -/

/-- What belongs to an escape that has been read is passed over. -/
theorem scanText_append (start : Nat) (done : Text) (position : Nat) (used rest : Text) :
    scanText start done position used.length (used ++ rest) =
      scanText start done (position + used.length) 0 rest := by
  induction used generalizing position with
  | nil => rfl
  | cons character used ih =>
      rw [List.length_cons, List.cons_append, scanText, ih, Nat.add_assoc, Nat.add_comm 1]

theorem scanText_backslash (start : Nat) (done : Text) (position : Nat) {used rest : Text}
    (hescape : escape start position (used ++ rest) = .ok (character, used.length)) :
    scanText start done position 0 (.char '\x5c' :: (used ++ rest)) =
      scanText start (character :: done) (position + (used.length + 1)) 0 rest := by
  have hquote : (CodePoint.char '\x5c' == CodePoint.char '\x22') = false := by decide
  rw [scanText]
  simp only [hquote, Bool.false_eq_true, if_false, beq_self_eq_true, if_true, hescape]
  rw [scanText_append, Nat.add_assoc, Nat.add_comm 1]

/-- A spelled character is read, and what stands for it is passed over. -/
theorem scanText_of_spellsCharacter (hsurrogate : character.isSurrogate = false)
    {spelling : Text} (hspells : SpellsCharacter character spelling) (start : Nat) (done : Text)
    (position : Nat) {rest : Text} (hrest : rest ≠ []) :
    scanText start done position 0 (spelling ++ rest) =
      scanText start (character :: done) (position + spelling.length) 0 rest := by
  rw [CodePoint.isSurrogate_eq_false_iff] at hsurrogate
  simp only [CodePoint.firstSurrogate, CodePoint.afterSurrogates] at hsurrogate
  have hlast := character.toNat_lt
  cases hspells with
  | literal hquote hbackslash hcontrol =>
      have hplain : ¬ character.toNat < 0x20 := by omega
      simp [scanText, hquote, hbackslash, hplain]
  | @letter letter hletter =>
      have hescape : escape start position ([letter] ++ rest) = .ok (character, 1) := by
        have hne : letter ≠ .char 'u' := by
          rintro rfl
          cases hletter
        rw [List.singleton_append, escape]
        · rw [hletter]
        · exact hne
      exact scanText_backslash start done position hescape
  | @code digits hdigits =>
      have hhigh : isHighSurrogate character.toNat = false := by
        simp only [isHighSurrogate, Bool.and_eq_false_iff, decide_eq_false_iff_not]
        omega
      have hescape : escape start position ((.char 'u' :: digits) ++ rest) =
          .ok (character, (CodePoint.char 'u' :: digits).length) := by
        rw [List.cons_append, escape, unicodeEscape_of_fourDigits hdigits hhigh _ hrest,
          CodePoint.ofNat_toNat, List.length_cons, hdigits.length_eq]
        rfl
      exact scanText_backslash start done position hescape
  | @pair high low hlarge hhigh hlow =>
      have hisHigh : isHighSurrogate (0xd800 + (character.toNat - 0x10000) / 0x400) = true := by
        simp only [isHighSurrogate, Bool.and_eq_true, decide_eq_true_eq]
        omega
      have hisLow : isLowSurrogate (0xdc00 + (character.toNat - 0x10000) % 0x400) = true := by
        simp only [isLowSurrogate, Bool.and_eq_true, decide_eq_true_eq]
        omega
      have hescape : escape start position
          ((.char 'u' :: (high ++ .char '\x5c' :: .char 'u' :: low)) ++ rest) =
            .ok (character,
              (CodePoint.char 'u' :: (high ++ .char '\x5c' :: .char 'u' :: low)).length) := by
        have hsplit : high ++ .char '\x5c' :: .char 'u' :: low ++ rest =
            high ++ .char '\x5c' :: .char 'u' :: (low ++ rest) := by simp
        rw [List.cons_append, hsplit, escape,
          unicodeEscape_of_pair hhigh hlow hisHigh hisLow _ hrest, pairCharacter_halves hlarge]
        simp [hhigh.length_eq, hlow.length_eq, Except.map]
      exact scanText_backslash start done position hescape

/-- A quoted text is read back from its spelling, up to the quote after it. -/
theorem scanText_of_spellsText {text written : Text} (hencodable : text.isEncodable = true)
    (hspells : SpellsText text written) (start : Nat) (done : Text) (position : Nat)
    (rest : Text) :
    scanText start done position 0 (written ++ .char '\x22' :: rest) =
      (.text (done.reverse ++ text), position + (written.length + 1)) := by
  induction hspells generalizing done position with
  | nil => simp [scanText]
  | @cons character spelling text written hcharacter _ ih =>
      rw [Text.isEncodable, List.all_cons, Bool.and_eq_true, Bool.not_eq_true'] at hencodable
      have hrest : written ++ .char '\x22' :: rest ≠ [] := by simp
      rw [List.append_assoc,
        scanText_of_spellsCharacter hencodable.1 hcharacter start done position hrest,
        ih hencodable.2]
      simp [Nat.add_assoc]

end ShortlinkCatalog.Json
