import ShortlinkCatalog.Proofs.Url.Accepted
import ShortlinkCatalog.Proofs.Url.Address

/-!
# Accepted authorities

The checks of an authority stop at the first fault.  An authority without a fault is
described here by what it looks like: its brackets hold an address, its port is a number in
range, and its host has characters of hosts only and no broken escapes.
-/

namespace ShortlinkCatalog.Url

/-! ## Brackets -/

/-- The brackets of an authority are in their places.  A host in brackets is an address, and
only a port may follow it; the closing bracket may be missing if there is one in the user
information.  Brackets in the user information alone are not enough for an address with
colons. -/
inductive BracketsSound (authority : Text) : Prop
  | absent (hopen : .char '[' ∉ authority) (hclose : .char ']' ∉ authority)
  | host {address : Text} {after : Option Text} (hclose : .char ']' ∈ authority)
      (hhost : hostPart authority = .char '[' :: (address ++ marked ']' after))
      (hfree : .char ']' ∉ address) (haddress : IsAddress address)
      (hport : ∀ text ∈ after, text = [] ∨ ∃ port, text = .char ':' :: port)
  | userInformation {address : Text} {port : Option Text} (hopen : .char '[' ∈ authority)
      (hclose : .char ']' ∈ authority) (hfree : .char '[' ∉ hostPart authority)
      (hhost : hostPart authority = address ++ marked ':' port) (hcolon : .char ':' ∉ address)
      (haddress : isFutureAddress address = true)

theorem hostPart_suffix (authority : Text) : hostPart authority <:+ authority :=
  Text.afterLast_suffix '@' authority

/-- Without a colon, only a future address is an address. -/
theorem isAddress_iff_of_colon_not_mem {address : Text} (hcolon : .char ':' ∉ address) :
    IsAddress address ↔ isFutureAddress address = true := by
  constructor
  · rintro (hfuture | hipv6)
    · exact hfuture
    · exact absurd (colon_mem_of_isIPv6 hipv6) hcolon
  · exact .inl

/-- Where there are brackets of both kinds, the host part decides. -/
theorem bracketFault_of_mem {authority : Text} (hopen : .char '[' ∈ authority)
    (hclose : .char ']' ∈ authority) :
    bracketFault authority =
      match Text.splitFirst '[' (hostPart authority) with
      | (before, some bracketed) =>
          let (address, after) := Text.splitFirst ']' bracketed
          let after := after.getD []
          if !before.isEmpty then some .misplacedBracket
          else if !after.isEmpty && after.head? != some (.char ':') then some .misplacedBracket
          else addressFault address
      | (_, none) => addressFault (Text.splitFirst ':' (hostPart authority)).1 := by
  rw [bracketFault, List.contains_iff_mem.mpr hopen, List.contains_iff_mem.mpr hclose]
  rfl

theorem bracketFault_of_open_in_host {authority before address : Text} {after : Option Text}
    (hclose : .char ']' ∈ authority)
    (hhost : hostPart authority = before ++ .char '[' :: (address ++ marked ']' after))
    (hbefore : .char '[' ∉ before) (hfree : .char ']' ∉ address) :
    bracketFault authority = none ↔
      before = [] ∧ (∀ text ∈ after, text = [] ∨ ∃ port, text = .char ':' :: port) ∧
        IsAddress address := by
  have hopen : .char '[' ∈ authority := by
    apply (hostPart_suffix authority).subset
    simp [hhost]
  have hport : (!(after.getD []).isEmpty && (after.getD []).head? != some (.char ':')) = false ↔
      ∀ text ∈ after, text = [] ∨ ∃ port, text = .char ':' :: port := by
    cases after with
    | none => simp
    | some after => cases after <;> simp
  rw [bracketFault_of_mem hopen hclose, hhost, Text.splitFirst_append hbefore]
  simp only [splitFirst_append_marked after hfree]
  rw [← hport, ← addressFault_eq_none_iff]
  split_ifs with hnonempty hmisplaced
  · simp only [false_iff]
    rintro ⟨rfl, -⟩
    simp at hnonempty
  · simp [hmisplaced]
  · simp [show before = [] by simpa using hnonempty, hmisplaced]

theorem bracketFault_of_open_in_user {authority address : Text} {port : Option Text}
    (hopen : .char '[' ∈ authority) (hclose : .char ']' ∈ authority)
    (hfree : .char '[' ∉ hostPart authority)
    (hhost : hostPart authority = address ++ marked ':' port) (hcolon : .char ':' ∉ address) :
    bracketFault authority = none ↔ isFutureAddress address = true := by
  have hsplit : Text.splitFirst ':' (hostPart authority) = (address, port) := by
    rw [hhost, splitFirst_append_marked port hcolon]
  rw [bracketFault_of_mem hopen hclose, Text.splitFirst_of_not_mem hfree, hsplit,
    ← isAddress_iff_of_colon_not_mem hcolon, ← addressFault_eq_none_iff]

theorem bracketFault_eq_none_iff (authority : Text) :
    bracketFault authority = none ↔ BracketsSound authority := by
  constructor
  · intro hnone
    by_cases hopen : .char '[' ∈ authority <;> by_cases hclose : .char ']' ∈ authority
    -- both kinds of bracket: only what stands behind the user information is looked at
    · by_cases hhost : .char '[' ∈ hostPart authority
      · obtain ⟨before, bracketed, hhost, hbefore⟩ := List.eq_append_cons_of_mem hhost
        cases hsplit : Text.splitFirst ']' bracketed with
        | mk address after =>
            obtain ⟨rfl, hfree⟩ := splitFirst_eq_iff.mp hsplit
            obtain ⟨rfl, hport, haddress⟩ :=
              (bracketFault_of_open_in_host hclose hhost hbefore hfree).mp hnone
            exact .host hclose hhost hfree haddress hport
      · cases hsplit : Text.splitFirst ':' (hostPart authority) with
        | mk address port =>
            obtain ⟨heq, hcolon⟩ := splitFirst_eq_iff.mp hsplit
            exact .userInformation hopen hclose hhost heq hcolon
              ((bracketFault_of_open_in_user hopen hclose hhost heq hcolon).mp hnone)
    · simp [bracketFault, hopen, hclose] at hnone
    · simp [bracketFault, hopen, hclose] at hnone
    · exact .absent hopen hclose
  · intro hsound
    cases hsound with
    | absent hopen hclose => simp [bracketFault, hopen, hclose]
    | host hclose hhost hfree haddress hport =>
        exact (bracketFault_of_open_in_host hclose hhost List.not_mem_nil hfree).mpr
          ⟨rfl, hport, haddress⟩
    | userInformation hopen hclose hfree hhost hcolon haddress =>
        exact (bracketFault_of_open_in_user hopen hclose hfree hhost hcolon).mpr haddress

/-! ## Ports -/

/-- The text of a port is empty or a number in range, written with digits of ASCII that are
not too many to be read. -/
structure IsPort (text : Text) : Prop where
  digits : ∀ character ∈ text, Text.isAsciiDigit character = true
  length : text.length ≤ 4300
  range : Decimal.natOfDigits text ≤ 65535

theorem isPort_nil : IsPort [] := ⟨by simp, by simp, by simp [Decimal.natOfDigits]⟩

theorem exists_port_eq_ok_iff (authority : Text) :
    (∃ value, port authority = .ok value) ↔ IsPort (portText authority) := by
  simp only [port]
  split_ifs with hempty hdigits hlength hrange
  · rw [List.isEmpty_iff.mp hempty]
    exact iff_of_true ⟨none, rfl⟩ isPort_nil
  · refine iff_of_false (by simp) fun hport => ?_
    simp [List.all_eq_true.mpr hport.digits] at hdigits
  · exact iff_of_false (by simp) fun hport => Nat.not_le_of_gt hlength hport.length
  · refine iff_of_true ⟨_, rfl⟩ ⟨?_, Nat.le_of_not_gt hlength, hrange⟩
    simpa using hdigits
  · exact iff_of_false (by simp) fun hport => hrange hport.range

theorem le_of_port_eq_ok {authority : Text} {value : Option Nat}
    (hport : port authority = .ok value) : ∀ number ∈ value, number ≤ 65535 := by
  simp only [port] at hport
  split_ifs at hport with _ _ _ hrange
  · cases hport
    simp
  · cases hport
    simpa using hrange

/-! ## Authorities -/

structure IsAuthority (authority : Text) : Prop where
  brackets : BracketsSound authority
  marks : ∀ character ∈ authority, isMarkLike character = false
  port : IsPort (portText authority)
  host : ∀ character ∈ hostPart authority, isHostCharacter character = true
  escaped : Percent.IsEscaped (hostPart authority)

theorem hostFault_eq_none_iff (authority : Text) :
    hostFault authority = none ↔
      ∀ character ∈ hostPart authority, isHostCharacter character = true := by
  rw [hostFault, Option.map_eq_none_iff, List.find?_eq_none]
  simp

theorem markFault_eq_none_iff (authority : Text) :
    markFault authority = none ↔ ∀ character ∈ authority, isMarkLike character = false := by
  rw [markFault]
  simp

theorem faultOfAuthority_eq_none_iff (authority : Text) :
    faultOfAuthority authority = none ↔ IsAuthority authority := by
  have hfault : faultOfAuthority authority = none ↔ bracketFault authority = none ∧
      markFault authority = none ∧ (∃ value, port authority = .ok value) ∧
        hostFault authority = none ∧ escapeFault ⟨[], authority, [], [], []⟩ = none := by
    rw [faultOfAuthority, fault]
    cases port authority <;> simp
  have hescape : escapeFault ⟨[], authority, [], [], []⟩ = none ↔
      Percent.IsEscaped (hostPart authority) := by
    rw [← Percent.wellFormed_iff]
    simp [escapeFault, Percent.wellFormed]
  rw [hfault, bracketFault_eq_none_iff, markFault_eq_none_iff, exists_port_eq_ok_iff,
    hostFault_eq_none_iff, hescape]
  constructor
  · rintro ⟨hbrackets, hmarks, hport, hhost, hescaped⟩
    exact ⟨hbrackets, hmarks, hport, hhost, hescaped⟩
  · intro hsound
    exact ⟨hsound.brackets, hsound.marks, hsound.port, hsound.host, hsound.escaped⟩

end ShortlinkCatalog.Url
