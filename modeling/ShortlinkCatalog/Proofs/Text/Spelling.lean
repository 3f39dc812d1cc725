import ShortlinkCatalog.Proofs.Text.Escape
import ShortlinkCatalog.Proofs.Text.Utf8

/-!
# Spellings of a text

A text can be written in a URL in many ways, since every character may stand for itself or
be replaced by the escapes of its octets, with digits in either case.  Only some characters
have to be escaped.  All spellings of a text are well formed and decode to it: escapes of
one character are never interrupted, so the reader of octets stands between characters
wherever a literal one comes.
-/

namespace ShortlinkCatalog.Percent

/-- A text that writes octets as escapes, one after the other. -/
inductive Escapes : List UInt8 → Text → Prop
  | nil : Escapes [] []
  | cons {octet : UInt8} {high low : CodePoint} {octets : List UInt8} {text : Text}
      (hhigh : Text.hexValue? high = some (octet.toNat / 16))
      (hlow : Text.hexValue? low = some (octet.toNat % 16)) (hrest : Escapes octets text) :
      Escapes (octet :: octets) (.char '%' :: high :: low :: text)

/-- `Spells isReserved written text` if `written` spells `text`: each character stands for
itself, unless it is reserved, or is replaced by the escapes of its octets. -/
inductive Spells (isReserved : CodePoint → Bool) : Text → Text → Prop
  | nil : Spells isReserved [] []
  | literal {character : CodePoint} {written text : Text} (hfree : isReserved character = false)
      (hrest : Spells isReserved written text) :
      Spells isReserved (character :: written) (character :: text)
  | escaped {character : CodePoint} {escapes written text : Text}
      (hescapes : Escapes (Utf8.encodeCharacter character) escapes)
      (hrest : Spells isReserved written text) :
      Spells isReserved (escapes ++ written) (character :: text)

variable {isReserved : CodePoint → Bool} {written text : Text} {octets : List UInt8}

/-! ## Escapes -/

theorem startsWithDigits_of_hexValue? {high low : CodePoint} {highValue lowValue : Nat}
    (hhigh : Text.hexValue? high = some highValue) (hlow : Text.hexValue? low = some lowValue)
    (rest : Text) : StartsWithDigits (high :: low :: rest) :=
  ⟨high, low, rest, rfl, Option.isSome_of_eq_some hhigh, Option.isSome_of_eq_some hlow⟩

theorem escape?_eq_octet {octet : UInt8} {high low : CodePoint}
    (hhigh : Text.hexValue? high = some (octet.toNat / 16))
    (hlow : Text.hexValue? low = some (octet.toNat % 16)) (rest : Text) :
    escape? (.char '%' :: high :: low :: rest) = some octet := by
  have hvalue : 16 * (octet.toNat / 16) + octet.toNat % 16 = octet.toNat :=
    Nat.div_add_mod octet.toNat 16
  simp only [escape?, hhigh, hlow, hvalue, UInt8.ofNat_toNat]

/-- Escapes are read as the octets that they write. -/
theorem piecesAfter_zero_of_escapes {escapes : Text} (hescapes : Escapes octets escapes)
    (rest : Text) :
    piecesAfter 0 (escapes ++ rest) = octets.map .octet ++ piecesAfter 0 rest := by
  induction hescapes with
  | nil => rfl
  | @cons octet high low octets text hhigh hlow hrest ih =>
      have hescape := escape?_eq_octet hhigh hlow (text ++ rest)
      rw [List.cons_append, List.cons_append, List.cons_append, piecesAfter, hescape]
      simp [piecesAfter, ih]

theorem isEscaped_append_of_escapes {escapes rest : Text} (hescapes : Escapes octets escapes)
    (hrest : IsEscaped rest) : IsEscaped (escapes ++ rest) := by
  induction hescapes with
  | nil => exact hrest
  | @cons octet high low octets text hhigh hlow _ ih =>
      have hstart := startsWithDigits_of_hexValue? hhigh hlow (text ++ rest)
      have hhighDigit := Text.ne_percent_of_isHexDigit (Option.isSome_of_eq_some hhigh)
      have hlowDigit := Text.ne_percent_of_isHexDigit (Option.isSome_of_eq_some hlow)
      simp [isEscaped_cons_iff, hstart, hhighDigit, hlowDigit, ih]

theorem mem_of_escapes {escapes : Text} (hescapes : Escapes octets escapes) :
    ∀ character ∈ escapes, character = .char '%' ∨ Text.isHexDigit character = true := by
  induction hescapes with
  | nil => simp
  | cons hhigh hlow _ ih =>
      refine List.forall_mem_cons.mpr ⟨.inl rfl, ?_⟩
      refine List.forall_mem_cons.mpr ⟨.inr (Option.isSome_of_eq_some hhigh), ?_⟩
      exact List.forall_mem_cons.mpr ⟨.inr (Option.isSome_of_eq_some hlow), ih⟩

/-- Escapes hold no other character than percent signs and digits. -/
theorem not_mem_of_escapes {escapes : Text} (hescapes : Escapes octets escapes)
    {character : CodePoint} (hpercent : character ≠ .char '%')
    (hdigit : Text.isHexDigit character = false) : character ∉ escapes := by
  intro hmem
  rcases mem_of_escapes hescapes character hmem with heq | heq
  · exact hpercent heq
  · rw [hdigit] at heq
    cases heq

/-! ## Spellings -/

theorem Spells.append {otherWritten other : Text} (hspells : Spells isReserved written text)
    (hother : Spells isReserved otherWritten other) :
    Spells isReserved (written ++ otherWritten) (text ++ other) := by
  induction hspells with
  | nil => exact hother
  | literal hfree _ ih => exact .literal hfree ih
  | escaped hescapes _ ih =>
      rw [List.append_assoc]
      exact .escaped hescapes ih

/-- What stands in a spelling is literal or belongs to an escape. -/
theorem mem_of_spells (hspells : Spells isReserved written text) :
    ∀ character ∈ written, isReserved character = false ∨ character = .char '%' ∨
      Text.isHexDigit character = true := by
  induction hspells with
  | nil => simp
  | literal hfree _ ih => exact List.forall_mem_cons.mpr ⟨.inl hfree, ih⟩
  | escaped hescapes _ ih =>
      intro character hmem
      rcases List.mem_append.mp hmem with hmem | hmem
      · exact .inr (mem_of_escapes hescapes character hmem)
      · exact ih character hmem

theorem ne_percent_of_free (hpercent : isReserved (.char '%') = true) {character : CodePoint}
    (hfree : isReserved character = false) : character ≠ .char '%' := by
  rintro rfl
  rw [hpercent] at hfree
  cases hfree

/-- Spellings are well formed if percent signs are escaped. -/
theorem isEscaped_of_spells (hpercent : isReserved (.char '%') = true)
    (hspells : Spells isReserved written text) : IsEscaped written := by
  induction hspells with
  | nil => exact isEscaped_nil
  | literal hfree _ ih =>
      have hne := ne_percent_of_free hpercent hfree
      exact (isEscaped_cons_iff _ _).mpr ⟨fun heq => absurd heq hne, ih⟩
  | escaped hescapes _ ih => exact isEscaped_append_of_escapes hescapes ih

theorem piecesAfter_zero_cons_of_ne {character : CodePoint} {rest : Text}
    (hne : character ≠ .char '%') :
    piecesAfter 0 (character :: rest) = piece character :: piecesAfter 0 rest := by
  have hnone : escape? (character :: rest) = none := by
    rw [escape?]
    rintro - - - ⟨rfl, -⟩
    exact hne rfl
  rw [piecesAfter, hnone]

/-- A literal character ends nothing where no character is unfinished. -/
theorem step_piece {reader : Utf8.Reader} (hpending : reader.pending = none)
    (character : CodePoint) :
    step reader (piece character) =
      ⟨.character character :: reader.events, reader.position + 1, none⟩ := by
  cases hascii : Text.isAscii character with
  | true =>
      have hbound := (Text.isAscii_iff character).mp hascii
      have hoctet := Utf8.toNat_octet (show character.toNat < 0x100 by omega)
      rw [piece, if_pos hascii, step, Utf8.Reader.step_ascii_octet hpending (by rwa [hoctet]),
        hoctet, CodePoint.ofNat_toNat]
  | false =>
      simp only [piece, hascii, Bool.false_eq_true, if_false, step, Utf8.Reader.put,
        Utf8.Reader.abandon, hpending]

/-- The reader gives back the characters of a text that is spelled, the last one first. -/
theorem foldl_step_of_spells (hpercent : isReserved (.char '%') = true)
    (hspells : Spells isReserved written text) (hencodable : text.isEncodable = true)
    {reader : Utf8.Reader} (hpending : reader.pending = none) :
    ∃ position, (piecesAfter 0 written).foldl step reader =
      ⟨text.reverse.map .character ++ reader.events, position, none⟩ := by
  induction hspells generalizing reader with
  | nil =>
      obtain ⟨events, position, pending⟩ := reader
      obtain rfl : pending = none := hpending
      exact ⟨position, rfl⟩
  | @literal character written text hfree _ ih =>
      rw [Text.isEncodable, List.all_cons, Bool.and_eq_true] at hencodable
      have hne := ne_percent_of_free hpercent hfree
      obtain ⟨position, hread⟩ := @ih hencodable.2
        ⟨.character character :: reader.events, reader.position + 1, none⟩ rfl
      refine ⟨position, ?_⟩
      rw [piecesAfter_zero_cons_of_ne hne, List.foldl_cons, step_piece hpending, hread]
      simp
  | @escaped character escapes written text hescapes _ ih =>
      rw [Text.isEncodable, List.all_cons, Bool.and_eq_true, Bool.not_eq_true'] at hencodable
      obtain ⟨position, hread⟩ := @ih hencodable.2
        ⟨.character character :: reader.events,
          reader.position + (Utf8.encodeCharacter character).length, none⟩ rfl
      refine ⟨position, ?_⟩
      rw [piecesAfter_zero_of_escapes hescapes, List.foldl_append, List.foldl_map]
      simp only [step, Utf8.foldl_step_encodeCharacter hpending hencodable.1, hread]
      simp

/-- Every spelling of a text decodes to it. -/
theorem decode_of_spells (hpercent : isReserved (.char '%') = true)
    (hspells : Spells isReserved written text) (hencodable : text.isEncodable = true) :
    decode written = text := by
  obtain ⟨position, hread⟩ := foldl_step_of_spells hpercent hspells hencodable
    (rfl : Utf8.Reader.start.pending = none)
  rw [decode, pieces, hread]
  simp [Utf8.Reader.finish, Utf8.Reader.abandon, Utf8.Reader.start, Utf8.Event.lossy,
    Function.comp_def]

/-! ## Texts that spell themselves -/

theorem spells_self (hfree : ∀ character ∈ text, isReserved character = false) :
    Spells isReserved text text := by
  induction text with
  | nil => exact .nil
  | cons character text ih =>
      obtain ⟨hfirst, hrest⟩ := List.forall_mem_cons.mp hfree
      exact .literal hfirst (ih hrest)

/-- Without a percent sign there is nothing to decode. -/
theorem decode_of_not_mem (hpercent : .char '%' ∉ text) (hencodable : text.isEncodable = true) :
    decode text = text := by
  have hspells : Spells (· == .char '%') text text := by
    apply spells_self
    intro character hmem
    exact beq_eq_false_iff_ne.mpr fun heq => hpercent (heq ▸ hmem)
  exact decode_of_spells (by decide) hspells hencodable

theorem isEscaped_of_not_mem (hpercent : .char '%' ∉ text) : IsEscaped text := by
  intro after hsuffix
  exact absurd (hsuffix.subset List.mem_cons_self) hpercent

end ShortlinkCatalog.Percent
