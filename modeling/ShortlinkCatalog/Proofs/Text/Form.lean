import ShortlinkCatalog.Proofs.Json.Octets
import ShortlinkCatalog.Proofs.Text.Cut
import ShortlinkCatalog.Proofs.Text.Spelling
import ShortlinkCatalog.Text.Form

/-!
# Encoded forms read back

An encoded text holds only letters, digits and a few marks.  The marks between fields and
between a key and its value are not among them, so a query is cut back into the fields that
it was put together from.  With spaces in the place of plus signs, an encoded text is a
spelling of the text: a plus sign of the text itself has been escaped before.
-/

namespace ShortlinkCatalog

theorem Text.hexValue?_upperHexDigit {value : Nat} (hvalue : value < 16) :
    hexValue? (upperHexDigit value) = some value := by
  have hall : ∀ value < 16, hexValue? (upperHexDigit value) = some value := by decide
  exact hall value hvalue

namespace Percent

theorem escapes_flatMap_escapeOctet (octets : List UInt8) :
    Escapes octets (octets.flatMap escapeOctet) := by
  induction octets with
  | nil => exact .nil
  | cons octet octets ih =>
      have hoctet := octet.toNat_lt
      exact .cons (Text.hexValue?_upperHexDigit (by omega))
        (Text.hexValue?_upperHexDigit (by omega)) ih

/-- Every character may be spelled by its escapes. -/
theorem spells_escapes (isReserved : CodePoint → Bool) (character : CodePoint) :
    Spells isReserved ((Utf8.encodeCharacter character).flatMap escapeOctet) [character] := by
  have hescapes := escapes_flatMap_escapeOctet (Utf8.encodeCharacter character)
  rw [← List.append_nil (List.flatMap _ _)]
  exact .escaped hescapes .nil

end Percent

namespace Form

/-! ## Texts -/

/-- An encoded text is made of the characters that stand for single octets. -/
theorem all_encodeText {member : CodePoint → Bool}
    (hmember : ∀ octet, (encodeOctet octet).all member = true) (text : Text) :
    (encodeText text).all member = true := by
  rw [encodeText, List.all_flatMap, List.all_eq_true]
  exact fun octet _ => hmember octet

theorem not_mem_encodeText {mark : CodePoint}
    (hmark : ∀ octet, (encodeOctet octet).all (· != mark) = true) (text : Text) :
    mark ∉ encodeText text := by
  intro hmem
  have hne := List.all_eq_true.mp (all_encodeText hmark text) mark hmem
  simp at hne

theorem ampersand_not_mem_encodeText (text : Text) : .char '&' ∉ encodeText text :=
  not_mem_encodeText (Utf8.forall_octet (by decide +kernel)) text

theorem equals_not_mem_encodeText (text : Text) : .char '=' ∉ encodeText text :=
  not_mem_encodeText (Utf8.forall_octet (by decide +kernel)) text

/-- A space in the place of a plus sign. -/
def spaced (character : CodePoint) : CodePoint := if character == '+' then ' ' else character

/-- An octet past ASCII is escaped, and its escape has no plus sign. -/
theorem map_spaced_encodeOctet_of_ge :
    ∀ octet : UInt8, 0x80 ≤ octet.toNat →
      (encodeOctet octet).map spaced = Percent.escapeOctet octet :=
  Utf8.forall_octet (by decide +kernel)

/-- An octet of ASCII is escaped or stands for its character, which is no percent sign. -/
theorem map_spaced_encodeOctet_of_lt :
    ∀ octet : UInt8, octet.toNat < 0x80 →
      (encodeOctet octet).map spaced = Percent.escapeOctet octet ∨
        (encodeOctet octet).map spaced = [.ofNat octet.toNat] ∧
          (CodePoint.ofNat octet.toNat == .char '%') = false :=
  Utf8.forall_octet (by decide +kernel)

/-- The encoding of a character stands for it or is made of its escapes. -/
theorem spells_encodeCharacter (character : CodePoint) :
    Percent.Spells (· == .char '%')
      (((Utf8.encodeCharacter character).flatMap encodeOctet).map spaced) [character] := by
  rcases Nat.lt_or_ge character.toNat 0x80 with hascii | hlarge
  · have hoctet := Utf8.toNat_octet (show character.toNat < 0x100 by omega)
    have hescaped := Percent.spells_escapes (· == .char '%') character
    rw [Utf8.encodeCharacter_of_ascii hascii, List.flatMap_singleton] at hescaped ⊢
    rcases map_spaced_encodeOctet_of_lt (.ofNat character.toNat) (by rwa [hoctet]) with
      hwritten | ⟨hwritten, hfree⟩
    · rwa [hwritten]
    · rw [hoctet, CodePoint.ofNat_toNat] at hwritten hfree
      rw [hwritten]
      exact .literal hfree .nil
  · have hwritten : ((Utf8.encodeCharacter character).flatMap encodeOctet).map spaced =
        (Utf8.encodeCharacter character).flatMap Percent.escapeOctet := by
      rw [List.map_flatMap]
      refine List.flatMap_congr fun octet hmem => ?_
      exact map_spaced_encodeOctet_of_ge octet
        (Utf8.le_toNat_of_mem_encodeCharacter hlarge octet hmem)
    rw [hwritten]
    exact Percent.spells_escapes (· == .char '%') character

theorem spells_encodeText (text : Text) :
    Percent.Spells (· == .char '%') ((encodeText text).map spaced) text := by
  induction text with
  | nil => exact .nil
  | cons character text ih =>
      have hcons : (encodeText (character :: text)).map spaced =
          ((Utf8.encodeCharacter character).flatMap encodeOctet).map spaced ++
            (encodeText text).map spaced := by
        simp [encodeText, Utf8.encode]
      rw [hcons]
      exact (spells_encodeCharacter character).append ih

theorem decodeText_encodeText {text : Text} (hencodable : text.isEncodable = true) :
    decodeText (encodeText text) = text :=
  Percent.decode_of_spells (by decide) (spells_encodeText text) hencodable

/-! ## Fields -/

theorem fault?_eq_none_iff {fields : Fields} :
    fault? fields = none ↔
      ∀ field ∈ fields, field.1.isEncodable = true ∧ field.2.isEncodable = true := by
  simp only [fault?, List.findSome?_eq_none_iff, Option.or_eq_none_iff, Text.utf8Fault_eq_none_iff]

theorem ampersand_not_mem_encodeField (field : Text × Text) : .char '&' ∉ encodeField field := by
  have hequals : CodePoint.char '&' ∉ Text.ofString "=" := by decide
  rw [encodeField, List.mem_append, List.mem_append, not_or, not_or]
  exact ⟨⟨ampersand_not_mem_encodeText field.1, hequals⟩, ampersand_not_mem_encodeText field.2⟩

theorem decodeField_encodeField {field : Text × Text} (hkey : field.1.isEncodable = true)
    (hvalue : field.2.isEncodable = true) : decodeField (encodeField field) = field := by
  have hcut : Text.splitFirst '=' (encodeField field) =
      (encodeText field.1, some (encodeText field.2)) := by
    rw [encodeField, List.append_assoc]
    exact Text.splitFirst_append (equals_not_mem_encodeText field.1)
  simp only [decodeField, hcut, Option.getD_some, decodeText_encodeText hkey,
    decodeText_encodeText hvalue]

theorem encodeField_ne_nil (field : Text × Text) : (encodeField field).isEmpty = false := by
  have hequals : CodePoint.char '=' ∈ encodeField field := by
    simp [encodeField, Text.ofString]
  rw [List.isEmpty_eq_false_iff_exists_mem]
  exact ⟨_, hequals⟩

/-- Fields that can be encoded are read back from the query that they make. -/
theorem decode_encode {fields : Fields} (hencodable : fault? fields = none) :
    decode (encode fields) = fields := by
  rw [fault?_eq_none_iff] at hencodable
  cases fields with
  | nil => rfl
  | cons field fields =>
      have hfree : ∀ piece ∈ (field :: fields).map encodeField, CodePoint.char '&' ∉ piece := by
        rw [List.forall_mem_map]
        exact fun field _ => ampersand_not_mem_encodeField field
      have hfull : ((field :: fields).map encodeField).filter (!·.isEmpty) =
          (field :: fields).map encodeField := by
        rw [List.filter_eq_self, List.forall_mem_map]
        exact fun field _ => by rw [encodeField_ne_nil, Bool.not_false]
      have hback : ((field :: fields).map encodeField).map decodeField = field :: fields := by
        rw [List.map_map]
        refine (List.map_congr_left fun found hmem => ?_).trans (List.map_id _)
        obtain ⟨hkey, hvalue⟩ := hencodable found hmem
        exact decodeField_encodeField hkey hvalue
      rw [decode, encode, Text.splitAll_join (by simp) hfree, hfull, hback]

/-- Different fields make different queries. -/
theorem encode_injective {fields others : Fields} (hfields : fault? fields = none)
    (hothers : fault? others = none) (heq : encode fields = encode others) : fields = others := by
  rw [← decode_encode hfields, heq, decode_encode hothers]

end Form

end ShortlinkCatalog
