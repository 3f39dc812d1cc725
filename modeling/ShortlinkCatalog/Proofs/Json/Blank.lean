import ShortlinkCatalog.Proofs.Json.Octets
import ShortlinkCatalog.Text.Blank

/-!
# Blank documents

Blank octets are ASCII, so they are read one by one, and what they spell has no token or
one that starts no value.  So a blank document is no JSON, and whoever looks for blanks
first overlooks no value.
-/

namespace ShortlinkCatalog

namespace Json

variable {octets : List UInt8}

/-- The characters that ASCII octets spell. -/
def spelled (octets : List UInt8) : Text := octets.map fun octet => CodePoint.ofNat octet.toNat

theorem toNat_ofNat_octet (octet : UInt8) :
    (CodePoint.ofNat octet.toNat).toNat = octet.toNat := by
  have hbound := octet.toNat_lt
  apply CodePoint.toNat_ofNat_of_lt
  rw [CodePoint.firstSurrogate]
  omega

theorem encode_spelled (hascii : ∀ octet ∈ octets, octet.toNat < 0x80) :
    Utf8.encode (spelled octets) = octets := by
  induction octets with
  | nil => rfl
  | cons octet octets ih =>
      obtain ⟨hoctet, hrest⟩ := List.forall_mem_cons.mp hascii
      have hnumber := toNat_ofNat_octet octet
      rw [spelled, List.map_cons, Utf8.encode, List.flatMap_cons,
        Utf8.encodeCharacter_of_ascii (by rwa [hnumber]), hnumber, UInt8.ofNat_toNat]
      exact congrArg (octet :: ·) (ih hrest)

theorem isEncodable_spelled (hascii : ∀ octet ∈ octets, octet.toNat < 0x80) :
    (spelled octets).isEncodable = true := by
  rw [Text.isEncodable, List.all_eq_true]
  intro character hmem
  obtain ⟨octet, hoctet, rfl⟩ := List.mem_map.mp hmem
  have hbound := hascii octet hoctet
  rw [Bool.not_eq_true', CodePoint.isSurrogate_eq_false_iff, toNat_ofNat_octet,
    CodePoint.firstSurrogate]
  omega

/-- Whether an octet is an ASCII blank. -/
def isBlankOctet (octet : UInt8) : Bool := Text.isAsciiBlank (CodePoint.ofNat octet.toNat)

theorem toNat_of_isAsciiBlank {character : CodePoint}
    (hblank : Text.isAsciiBlank character = true) :
    character.toNat = 32 ∨ 9 ≤ character.toNat ∧ character.toNat ≤ 13 := by
  simp only [Text.isAsciiBlank, Bool.or_eq_true, Bool.and_eq_true, beq_iff_eq,
    decide_eq_true_eq] at hblank
  apply hblank.imp_left
  rintro rfl
  rfl

theorem toNat_of_isBlankOctet {octet : UInt8} (hblank : isBlankOctet octet = true) :
    octet.toNat = 32 ∨ 9 ≤ octet.toNat ∧ octet.toNat ≤ 13 := by
  rw [← toNat_ofNat_octet octet]
  exact toNat_of_isAsciiBlank hblank

/-- A blank document is decoded octet by octet. -/
theorem decodeOctets_of_blank (hblank : ∀ octet ∈ octets, isBlankOctet octet = true) :
    decodeOctets octets = .ok (spelled octets) := by
  have hascii : ∀ octet ∈ octets, octet.toNat < 0x80 := by
    intro octet hmem
    have hnumber := toNat_of_isBlankOctet (hblank octet hmem)
    omega
  have hzero : 0 ∉ octets := by
    intro hmem
    cases hblank 0 hmem
  have hdetect : detect octets = (.utf8, 0) := by
    apply detect_of_ascii_head hzero
    intro octet hhead
    exact hascii octet (List.mem_of_mem_head? hhead)
  rw [decodeOctets, hdetect]
  calc
    decodeUtf8 octets = decodeUtf8 (Utf8.encode (spelled octets)) := by rw [encode_spelled hascii]
    _ = .ok (spelled octets) := decodeUtf8_encode (isEncodable_spelled hascii)

theorem tokensFrom_eq_append (done : List Placed) (position next : Nat) (text : Text) :
    tokensFrom done position next text = done.reverse ++ tokensFrom [] position next text := by
  induction text generalizing done position next with
  | nil => simp [tokensFrom]
  | cons character text ih =>
      rw [tokensFrom, tokensFrom]
      split
      · exact ih done (position + 1) next
      · obtain ⟨token, after⟩ := tokenAt position character text
        simp only
        rw [ih (_ :: done), ih [_]]
        simp

/-- A blank that is no separator starts no value. -/
theorem tokenAt_of_blank {character : CodePoint} (hblank : Text.isAsciiBlank character = true)
    (hseparator : isSeparator character = false) (position : Nat) (rest : Text) :
    tokenAt position character rest = (.other, position + 1) := by
  have hall : ∀ code < 33, Text.isAsciiBlank (.ofNat code) = true →
      isSeparator (.ofNat code) = false →
        CodePoint.ofNat code = .char '\x0b' ∨ CodePoint.ofNat code = .char '\x0c' := by
    decide
  have hbound := toNat_of_isAsciiBlank hblank
  have htab := hall character.toNat (by omega)
  rw [CodePoint.ofNat_toNat] at htab
  rcases htab hblank hseparator with rfl | rfl
  · rfl
  · rfl

/-- What a blank text spells has no token, or one that starts no value. -/
theorem tokensFrom_of_blank {text : Text}
    (hblank : ∀ character ∈ text, Text.isAsciiBlank character = true) (position : Nat) :
    tokensFrom [] position 0 text = [] ∨
      ∃ place rest, tokensFrom [] position 0 text = ⟨.other, place⟩ :: rest := by
  induction text generalizing position with
  | nil => exact .inl rfl
  | cons character text ih =>
      obtain ⟨hcharacter, hrest⟩ := List.forall_mem_cons.mp hblank
      rw [tokensFrom]
      split
      · exact ih hrest (position + 1)
      · rename_i hseparator
        right
        simp only [Nat.not_lt_zero, decide_false, Bool.false_or, Bool.not_eq_true] at hseparator
        refine ⟨position, tokensFrom [] (position + 1) (position + 1) text, ?_⟩
        rw [tokenAt_of_blank hcharacter hseparator]
        simp only
        rw [tokensFrom_eq_append]
        rfl

variable [Room]

theorem exists_parse_eq_malformed_of_blank {text : Text}
    (hblank : ∀ character ∈ text, Text.isAsciiBlank character = true) :
    ∃ kind position, parse text = .error (.malformed kind position) := by
  obtain htokens | ⟨place, rest, htokens⟩ := tokensFrom_of_blank hblank 0
  · simp [parse, tokens, htokens, run, State.finish]
  · simp [parse, tokens, htokens, run, State.step, readValue]

/-- A blank document is malformed. -/
theorem exists_read_eq_malformed_of_blank
    (hblank : ∀ octet ∈ octets, isBlankOctet octet = true) :
    ∃ kind position line column,
      read octets = .error (.unreadable (.malformed kind position line column)) := by
  have hspelled : ∀ character ∈ spelled octets, Text.isAsciiBlank character = true := by
    intro character hmem
    obtain ⟨octet, hoctet, rfl⟩ := List.mem_map.mp hmem
    exact hblank octet hoctet
  obtain ⟨kind, position, hfault⟩ := exists_parse_eq_malformed_of_blank hspelled
  simp [read, decodeOctets_of_blank hblank, hfault, Fault.locate]

/-- A blank document is no JSON. -/
theorem read_ne_ok_of_blank (hblank : ∀ octet ∈ octets, isBlankOctet octet = true)
    (value : Json) : read octets ≠ .ok value := by
  obtain ⟨kind, position, line, column, hmalformed⟩ := exists_read_eq_malformed_of_blank hblank
  simp [hmalformed]

end Json

end ShortlinkCatalog
