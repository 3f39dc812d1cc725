import ShortlinkCatalog.Proofs.Text.CodePoint
import ShortlinkCatalog.Text.Utf8

/-!
# Characters read back from their octets

The octets of a character that is no surrogate are read back as this character, whatever
was read before, as long as no character is left unfinished.  The first octet tells how
many follow and between which bounds the next one lies; those bounds leave out exactly
the numbers that have a shorter form, those of surrogates and those past the last code
point.
-/

namespace ShortlinkCatalog

namespace Utf8

theorem toNat_octet {value : Nat} (hvalue : value < 0x100) :
    (UInt8.ofNat value).toNat = value := by
  rw [UInt8.toNat_ofNat']
  omega

/-- A property of octets can be decided by their numbers. -/
theorem forall_octet {property : UInt8 → Prop}
    (hnumbers : ∀ code < 256, property (.ofNat code)) : ∀ octet, property octet := by
  intro octet
  have hoctet := hnumbers octet.toNat octet.toNat_lt
  rwa [UInt8.ofNat_toNat] at hoctet

/-- Characters past ASCII are written with octets past ASCII. -/
theorem le_toNat_of_mem_encodeCharacter {character : CodePoint}
    (hlarge : 0x80 ≤ character.toNat) :
    ∀ octet ∈ encodeCharacter character, 0x80 ≤ octet.toNat := by
  have hlast := character.toNat_lt
  have hge {value : Nat} (hleast : 0x80 ≤ value) (hmost : value < 0x100) :
      0x80 ≤ (UInt8.ofNat value).toNat := by
    rwa [toNat_octet hmost]
  rw [encodeCharacter]
  split_ifs <;> simp only [List.forall_mem_cons, List.not_mem_nil, false_imp_iff, implies_true,
    and_true]
  · omega
  · exact ⟨hge (by omega) (by omega), hge (by omega) (by omega)⟩
  · exact ⟨hge (by omega) (by omega), hge (by omega) (by omega), hge (by omega) (by omega)⟩
  · exact ⟨hge (by omega) (by omega), hge (by omega) (by omega), hge (by omega) (by omega),
      hge (by omega) (by omega)⟩

namespace Reader

variable {reader : Reader}

/-- Between characters, an octet below 128 is a character. -/
theorem step_ascii_octet (hpending : reader.pending = none) {octet : UInt8}
    (hascii : octet.toNat < 0x80) :
    reader.step octet =
      ⟨.character (CodePoint.ofNat octet.toNat) :: reader.events, reader.position + 1, none⟩ := by
  rw [step, hpending]
  simp [begin, lead, hascii]

/-- Between characters, an octet that begins a longer form is kept as pending. -/
theorem step_lead (hpending : reader.pending = none) {octet : UInt8} {pending : Pending}
    (hlead : lead octet = .more pending) :
    reader.step octet = ⟨reader.events, reader.position + 1, some pending⟩ := by
  simp only [step, hpending, begin, hlead]

/-- Six more bits of a character, which are its last ones. -/
theorem step_last {pending : Pending} (hpending : reader.pending = some pending)
    (hmissing : pending.missing = 1) {bits : Nat} (hbits : bits < 0x40)
    (hlow : pending.low ≤ 0x80 + bits) (hhigh : 0x80 + bits ≤ pending.high) :
    reader.step (UInt8.ofNat (0x80 + bits)) =
      ⟨.character (CodePoint.ofNat (pending.code * 0x40 + bits)) :: reader.events,
        reader.position + 1, none⟩ := by
  have hoctet := toNat_octet (show 0x80 + bits < 0x100 by omega)
  simp only [step, hpending, hoctet, hlow, hhigh, hmissing, decide_true, Bool.and_self, if_true,
    le_refl, Nat.add_sub_cancel_left]

/-- Six more bits of a character, which are not its last ones. -/
theorem step_more {pending : Pending} (hpending : reader.pending = some pending)
    (hmissing : 1 < pending.missing) {bits : Nat} (hbits : bits < 0x40)
    (hlow : pending.low ≤ 0x80 + bits) (hhigh : 0x80 + bits ≤ pending.high) :
    reader.step (UInt8.ofNat (0x80 + bits)) =
      ⟨reader.events, reader.position + 1,
        some ⟨pending.code * 0x40 + bits, pending.taken + 1, pending.missing - 1, 0x80, 0xbf⟩⟩ := by
  have hoctet := toNat_octet (show 0x80 + bits < 0x100 by omega)
  have hnotLast : ¬ pending.missing ≤ 1 := by omega
  simp only [step, hpending, hoctet, hlow, hhigh, hnotLast, decide_true, Bool.and_self, if_true,
    if_false, Nat.add_sub_cancel_left]

end Reader

/-! ## What first octets announce -/

theorem lead_two {bits : Nat} (hleast : 2 ≤ bits) (hmost : bits < 0x20) :
    lead (UInt8.ofNat (0xc0 + bits)) = .more ⟨bits, 1, 1, 0x80, 0xbf⟩ := by
  have hoctet := toNat_octet (show 0xc0 + bits < 0x100 by omega)
  simp only [lead, hoctet]
  rw [if_neg (by omega), if_neg (by omega), if_pos (by omega), Nat.add_sub_cancel_left]

theorem lead_three {bits : Nat} (hmost : bits < 0x10) :
    lead (UInt8.ofNat (0xe0 + bits)) =
      .more ⟨bits, 1, 2, if bits = 0 then 0xa0 else 0x80, if bits = 0xd then 0x9f else 0xbf⟩ := by
  have hoctet := toNat_octet (show 0xe0 + bits < 0x100 by omega)
  have hshort : 0xe0 + bits = 0xe0 ↔ bits = 0 := by omega
  have hsurrogate : 0xe0 + bits = 0xed ↔ bits = 0xd := by omega
  simp only [lead, hoctet, hshort, hsurrogate, Nat.add_sub_cancel_left]
  rw [if_neg (by omega), if_neg (by omega), if_neg (by omega), if_pos (by omega)]

theorem lead_four {bits : Nat} (hmost : bits < 5) :
    lead (UInt8.ofNat (0xf0 + bits)) =
      .more ⟨bits, 1, 3, if bits = 0 then 0x90 else 0x80, if bits = 4 then 0x8f else 0xbf⟩ := by
  have hoctet := toNat_octet (show 0xf0 + bits < 0x100 by omega)
  have hshort : 0xf0 + bits = 0xf0 ↔ bits = 0 := by omega
  have hlast : 0xf0 + bits = 0xf4 ↔ bits = 4 := by omega
  simp only [lead, hoctet, hshort, hlast, Nat.add_sub_cancel_left]
  rw [if_neg (by omega), if_neg (by omega), if_neg (by omega), if_neg (by omega),
    if_pos (by omega)]

/-! ## Whole characters -/

variable {reader : Reader} {code : Nat}

theorem foldl_step_two (hpending : reader.pending = none) (hleast : 0x80 ≤ code)
    (hmost : code < 0x800) :
    [UInt8.ofNat (0xc0 + code / 0x40), UInt8.ofNat (0x80 + code % 0x40)].foldl
        Reader.step reader =
      ⟨.character (CodePoint.ofNat code) :: reader.events, reader.position + 2, none⟩ := by
  have hcode : code / 0x40 * 0x40 + code % 0x40 = code := Nat.div_add_mod' code 0x40
  rw [List.foldl_cons, Reader.step_lead hpending (lead_two (by omega) (by omega)),
    List.foldl_cons, Reader.step_last rfl rfl (Nat.mod_lt _ (by omega)) (by simp) (by simp; omega)]
  simp only [hcode, List.foldl_nil]

theorem foldl_step_three (hpending : reader.pending = none) (hleast : 0x800 ≤ code)
    (hmost : code < 0x10000)
    (hsurrogate : ¬ (CodePoint.firstSurrogate ≤ code ∧ code < CodePoint.afterSurrogates)) :
    [UInt8.ofNat (0xe0 + code / 0x1000), UInt8.ofNat (0x80 + code / 0x40 % 0x40),
        UInt8.ofNat (0x80 + code % 0x40)].foldl Reader.step reader =
      ⟨.character (CodePoint.ofNat code) :: reader.events, reader.position + 3, none⟩ := by
  simp only [CodePoint.firstSurrogate, CodePoint.afterSurrogates] at hsurrogate
  have hhigh : code / 0x1000 * 0x40 + code / 0x40 % 0x40 = code / 0x40 := by omega
  have hcode : code / 0x40 * 0x40 + code % 0x40 = code := Nat.div_add_mod' code 0x40
  rw [List.foldl_cons, Reader.step_lead hpending (lead_three (by omega)), List.foldl_cons,
    Reader.step_more rfl (by simp) (Nat.mod_lt _ (by omega)) (by grind) (by grind),
    List.foldl_cons, Reader.step_last rfl rfl (Nat.mod_lt _ (by omega)) (by simp) (by simp; omega)]
  simp only [hhigh, hcode, List.foldl_nil]

theorem foldl_step_four (hpending : reader.pending = none) (hleast : 0x10000 ≤ code)
    (hmost : code < 0x110000) :
    [UInt8.ofNat (0xf0 + code / 0x40000), UInt8.ofNat (0x80 + code / 0x1000 % 0x40),
        UInt8.ofNat (0x80 + code / 0x40 % 0x40), UInt8.ofNat (0x80 + code % 0x40)].foldl
        Reader.step reader =
      ⟨.character (CodePoint.ofNat code) :: reader.events, reader.position + 4, none⟩ := by
  have hhighest : code / 0x40000 * 0x40 + code / 0x1000 % 0x40 = code / 0x1000 := by omega
  have hhigh : code / 0x1000 * 0x40 + code / 0x40 % 0x40 = code / 0x40 := by omega
  have hcode : code / 0x40 * 0x40 + code % 0x40 = code := Nat.div_add_mod' code 0x40
  rw [List.foldl_cons, Reader.step_lead hpending (lead_four (by omega)), List.foldl_cons,
    Reader.step_more rfl (by simp) (Nat.mod_lt _ (by omega)) (by grind) (by grind),
    List.foldl_cons,
    Reader.step_more rfl (by simp) (Nat.mod_lt _ (by omega)) (by simp) (by simp; omega),
    List.foldl_cons, Reader.step_last rfl rfl (Nat.mod_lt _ (by omega)) (by simp) (by simp; omega)]
  simp only [hhighest, hhigh, hcode, List.foldl_nil]

/-- The octets of a character are read back as the character. -/
theorem foldl_step_encodeCharacter (hpending : reader.pending = none) {character : CodePoint}
    (hsurrogate : character.isSurrogate = false) :
    (encodeCharacter character).foldl Reader.step reader =
      ⟨.character character :: reader.events,
        reader.position + (encodeCharacter character).length, none⟩ := by
  rw [CodePoint.isSurrogate_eq_false_iff] at hsurrogate
  have hlast := character.toNat_lt
  rw [encodeCharacter]
  split_ifs with hone htwo hthree
  · have hoctet := toNat_octet (show character.toNat < 0x100 by omega)
    simp [Reader.step_ascii_octet hpending (show (UInt8.ofNat character.toNat).toNat < 0x80 by
      rwa [hoctet]), hoctet]
  · simpa using foldl_step_two hpending (by omega) htwo
  · simpa using foldl_step_three hpending (by omega) hthree hsurrogate
  · simpa using foldl_step_four hpending (by omega) hlast

end Utf8

end ShortlinkCatalog
