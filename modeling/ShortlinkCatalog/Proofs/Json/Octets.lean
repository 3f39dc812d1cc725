import ShortlinkCatalog.Json.Encoding
import ShortlinkCatalog.Proofs.Text.Utf8

/-!
# Documents in UTF-8

A document whose first octet is ASCII and that has no zero among its octets is taken for
UTF-8, since no byte order mark starts it.  Its octets are read back as its characters: the
reader looks out for the octets of surrogates, but these never occur in a text without any.
-/

namespace ShortlinkCatalog

namespace Utf8

theorem textOf_map_character (text : Text) : textOf (text.map .character) = .ok text := by
  rw [textOf, List.foldl_reverse]
  induction text with
  | nil => rfl
  | cons character text ih =>
      rw [List.map_cons, List.foldr_cons, ih]
      rfl

/-- A zero octet writes a NUL. -/
theorem zero_not_mem_encodeCharacter {character : CodePoint} (hnul : character.toNat ≠ 0) :
    0 ∉ encodeCharacter character := by
  have hzero {value : Nat} (hbound : value < 0x100) (hvalue : value ≠ 0) :
      (0 : UInt8) ≠ UInt8.ofNat value := by
    intro heq
    have hoctet := toNat_octet hbound
    rw [← heq] at hoctet
    exact hvalue hoctet.symm
  have hlast := character.toNat_lt
  rw [encodeCharacter]
  split_ifs <;> simp only [List.mem_cons, List.not_mem_nil, or_false, not_or]
  · exact hzero (by omega) hnul
  · exact ⟨hzero (by omega) (by omega), hzero (by omega) (by omega)⟩
  · exact ⟨hzero (by omega) (by omega), hzero (by omega) (by omega), hzero (by omega) (by omega)⟩
  · exact ⟨hzero (by omega) (by omega), hzero (by omega) (by omega), hzero (by omega) (by omega),
      hzero (by omega) (by omega)⟩

theorem zero_not_mem_encode {text : Text} (hnul : ∀ character ∈ text, character.toNat ≠ 0) :
    0 ∉ encode text := by
  rw [encode, List.mem_flatMap]
  rintro ⟨character, hmem, hzero⟩
  exact zero_not_mem_encodeCharacter (hnul character hmem) hzero

/-- An ASCII character is its own octet. -/
theorem encodeCharacter_of_ascii {character : CodePoint} (hascii : character.toNat < 0x80) :
    encodeCharacter character = [UInt8.ofNat character.toNat] := by
  rw [encodeCharacter, if_pos hascii]

end Utf8

namespace Json

/-! ## Octets of surrogates -/

variable {reader : Utf8.Reader} {octet : UInt8} {after : List UInt8}

theorem writtenSurrogate?_of_ne (hne : octet ≠ 0xed) :
    writtenSurrogate? (octet :: after) = none := by
  rw [writtenSurrogate?]
  rintro - - - ⟨rfl, -⟩
  exact hne rfl

theorem writtenSurrogate?_of_lt {second : UInt8} (hsecond : second.toNat < 0xa0) :
    writtenSurrogate? (octet :: second :: after) = none := by
  have hlow : ¬ (0xa0 : UInt8) ≤ second := by
    rw [UInt8.le_iff_toNat_le, not_le]
    exact hsecond
  unfold writtenSurrogate?
  split
  · rename_i heq
    obtain ⟨-, rfl, -⟩ := by simpa using heq
    simp [hlow]
  · rfl

/-- An octet that begins no surrogate is taken by itself. -/
theorem takeOctets_cons (hfree : writtenSurrogate? (octet :: after) = none) :
    takeOctets reader 0 (octet :: after) = takeOctets (reader.step octet) 0 after := by
  rw [takeOctets, hfree]

theorem takeOctets_cons_of_toNat_ne (hne : octet.toNat ≠ 0xed) :
    takeOctets reader 0 (octet :: after) = takeOctets (reader.step octet) 0 after := by
  apply takeOctets_cons
  apply writtenSurrogate?_of_ne
  rintro rfl
  exact hne rfl

/-- The octets of a character that is no surrogate are taken one by one. -/
theorem takeOctets_encodeCharacter {character : CodePoint}
    (hsurrogate : character.isSurrogate = false) :
    takeOctets reader 0 (Utf8.encodeCharacter character ++ after) =
      takeOctets ((Utf8.encodeCharacter character).foldl Utf8.Reader.step reader) 0 after := by
  rw [CodePoint.isSurrogate_eq_false_iff] at hsurrogate
  simp only [CodePoint.firstSurrogate, CodePoint.afterSurrogates] at hsurrogate
  have hlast := character.toNat_lt
  have htake {reader : Utf8.Reader} {value : Nat} {after : List UInt8} (hbound : value < 0x100)
      (hne : value ≠ 0xed) :
      takeOctets reader 0 (UInt8.ofNat value :: after) =
        takeOctets (reader.step (UInt8.ofNat value)) 0 after := by
    apply takeOctets_cons_of_toNat_ne
    rwa [Utf8.toNat_octet hbound]
  rw [Utf8.encodeCharacter]
  split_ifs with hone htwo hthree
  · exact htake (by omega) (by omega)
  · simp only [List.cons_append, List.nil_append, List.foldl_cons, List.foldl_nil]
    rw [htake (by omega) (by omega), htake (by omega) (by omega)]
  · simp only [List.cons_append, List.nil_append, List.foldl_cons, List.foldl_nil]
    have hfirst : takeOctets reader 0 (UInt8.ofNat (0xe0 + character.toNat / 0x1000) ::
        UInt8.ofNat (0x80 + character.toNat / 0x40 % 0x40) ::
        UInt8.ofNat (0x80 + character.toNat % 0x40) :: after) =
        takeOctets (reader.step (UInt8.ofNat (0xe0 + character.toNat / 0x1000))) 0
          (UInt8.ofNat (0x80 + character.toNat / 0x40 % 0x40) ::
            UInt8.ofNat (0x80 + character.toNat % 0x40) :: after) := by
      by_cases hlead : character.toNat / 0x1000 = 0xd
      · -- the bounds of the second octet leave surrogates out
        apply takeOctets_cons
        apply writtenSurrogate?_of_lt
        rw [Utf8.toNat_octet (by omega)]
        omega
      · exact htake (by omega) (by omega)
    rw [hfirst, htake (by omega) (by omega), htake (by omega) (by omega)]
  · simp only [List.cons_append, List.nil_append, List.foldl_cons, List.foldl_nil]
    rw [htake (by omega) (by omega), htake (by omega) (by omega), htake (by omega) (by omega),
      htake (by omega) (by omega)]

theorem takeOctets_encode {text : Text} (hencodable : text.isEncodable = true)
    (hpending : reader.pending = none) :
    ∃ position, takeOctets reader 0 (Utf8.encode text) =
      ⟨(text.map .character).reverse ++ reader.events, position, none⟩ := by
  induction text generalizing reader with
  | nil =>
      obtain ⟨events, position, pending⟩ := reader
      obtain rfl : pending = none := hpending
      exact ⟨position, rfl⟩
  | cons character text ih =>
      rw [Text.isEncodable, List.all_cons, Bool.and_eq_true, Bool.not_eq_true'] at hencodable
      have hnext : (⟨.character character :: reader.events,
          reader.position + (Utf8.encodeCharacter character).length, none⟩ :
            Utf8.Reader).pending = none := rfl
      obtain ⟨position, hread⟩ := ih hencodable.2 hnext
      refine ⟨position, ?_⟩
      rw [Utf8.encode, List.flatMap_cons, takeOctets_encodeCharacter hencodable.1,
        Utf8.foldl_step_encodeCharacter hpending hencodable.1, ← Utf8.encode, hread]
      simp

/-- What is written in UTF-8 is read back. -/
theorem decodeUtf8_encode {text : Text} (hencodable : text.isEncodable = true) :
    decodeUtf8 (Utf8.encode text) = .ok text := by
  obtain ⟨position, hread⟩ := takeOctets_encode hencodable
    (rfl : Utf8.Reader.start.pending = none)
  rw [decodeUtf8, hread]
  simp [Utf8.Reader.finish, Utf8.Reader.abandon, Utf8.Reader.start, Utf8.textOf_map_character]

/-! ## The encoding of a document -/

variable {octets : List UInt8}

theorem exists_head_of_mem_byteOrderMarks {mark : List UInt8} {encoding : Encoding}
    (hmem : (mark, encoding) ∈ byteOrderMarks) :
    ∃ first rest, mark = first :: rest ∧ (first = 0 ∨ 0x80 ≤ first.toNat) := by
  simp only [byteOrderMarks, List.mem_cons, Prod.mk.injEq, List.not_mem_nil, or_false] at hmem
  rcases hmem with ⟨rfl, -⟩ | ⟨rfl, -⟩ | ⟨rfl, -⟩ | ⟨rfl, -⟩ | ⟨rfl, -⟩ <;>
    exact ⟨_, _, rfl, by decide⟩

theorem detectUnmarked_of_zero_not_mem (hzero : 0 ∉ octets) : detectUnmarked octets = .utf8 := by
  have hne : ∀ octet ∈ octets, (octet == 0) = false := by
    intro octet hmem
    rw [beq_eq_false_iff_ne]
    rintro rfl
    exact hzero hmem
  match octets with
  | [] => rfl
  | [_] => rfl
  | [first, second] => simp [detectUnmarked, hne first, hne second]
  | [_, _, _] => rfl
  | first :: second :: _ :: _ :: _ => simp [detectUnmarked, hne first, hne second]

theorem detect_of_ascii_head (hzero : 0 ∉ octets)
    (hhead : ∀ octet ∈ octets.head?, octet.toNat < 0x80) : detect octets = (.utf8, 0) := by
  rw [detect, List.find?_eq_none.mpr]
  · simp only [detectUnmarked_of_zero_not_mem hzero]
  · rintro ⟨mark, encoding⟩ hmem hprefix
    obtain ⟨first, rest, rfl, hfirst⟩ := exists_head_of_mem_byteOrderMarks hmem
    obtain ⟨after, rfl⟩ := List.isPrefixOf_iff_prefix.mp hprefix
    rcases hfirst with rfl | hlarge
    · exact hzero (by simp)
    · have hsmall := hhead first (by simp)
      omega

/-- A document in UTF-8 is decoded. -/
theorem decodeOctets_encode {text : Text} (hencodable : text.isEncodable = true)
    (hnul : ∀ character ∈ text, character.toNat ≠ 0)
    (hhead : ∀ character ∈ text.head?, character.toNat < 0x80) :
    decodeOctets (Utf8.encode text) = .ok text := by
  have hdetect : detect (Utf8.encode text) = (.utf8, 0) := by
    apply detect_of_ascii_head (Utf8.zero_not_mem_encode hnul)
    cases text with
    | nil => simp [Utf8.encode]
    | cons character text =>
        have hascii : character.toNat < 0x80 := hhead character rfl
        have hoctet := Utf8.toNat_octet (show character.toNat < 0x100 by omega)
        rw [Utf8.encode, List.flatMap_cons, Utf8.encodeCharacter_of_ascii hascii]
        simp [hoctet, hascii]
  rw [decodeOctets, hdetect]
  exact decodeUtf8_encode hencodable

end Json

end ShortlinkCatalog
