import Mathlib.Data.Bool.Basic
import ShortlinkCatalog.Proofs.Text.Cut
import ShortlinkCatalog.Proofs.Text.Escape
import ShortlinkCatalog.Url.Parse

/-!
# Addresses in brackets

A host in brackets is looked at for a future address, an IPv4 address and an IPv6 address,
in this order.  The order does not matter for what is accepted: no text is an address of two
kinds, since an IPv6 address has colons, an IPv4 address has none, and a future address
begins with a letter that no group of hexadecimal digits has.
-/

namespace ShortlinkCatalog.Url

/-- A text that may stand in brackets. -/
def IsAddress (host : Text) : Prop := isFutureAddress host = true ∨ isIPv6 host = true

theorem head?_of_isFutureAddress {host : Text} (hfuture : isFutureAddress host = true) :
    host.head? = some (.char 'v') := by
  revert hfuture
  fun_cases isFutureAddress host <;> simp

/-! ## IPv4 -/

theorem isAsciiDigit_of_isIPv4Octet {octet : Text} (hoctet : isIPv4Octet octet = true) :
    ∀ character ∈ octet, Text.isAsciiDigit character = true := by
  simp only [isIPv4Octet, Bool.and_eq_true, List.all_eq_true] at hoctet
  exact hoctet.1.1.2

theorem colon_not_mem_of_isIPv4 {host : Text} (hipv4 : isIPv4 host = true) :
    .char ':' ∉ host := by
  intro hmem
  obtain ⟨octet, hoctet, hcolon⟩ :=
    Text.exists_piece_of_mem hmem (show CodePoint.char ':' ≠ .char '.' by decide)
  rw [isIPv4, Bool.and_eq_true, List.all_eq_true] at hipv4
  have hdigit := isAsciiDigit_of_isIPv4Octet (hipv4.2 octet hoctet) _ hcolon
  exact absurd hdigit (by decide)

/-! ## IPv6 -/

/-- The groups that are not empty have hexadecimal digits. -/
theorem isHextet_of_areIPv6Groups {groups : List Text} (hgroups : areIPv6Groups groups = true) :
    ∀ group ∈ groups, group ≠ [] → isHextet group = true := by
  intro group hmem hne
  have hfilter : group ∈ groups.filter (!·.isEmpty) :=
    List.mem_filter.mpr ⟨hmem, by simpa using hne⟩
  simp only [areIPv6Groups] at hgroups
  split at hgroups
  · cases hgroups
  · split at hgroups
    · rw [Bool.and_eq_true, List.all_eq_true] at hgroups
      exact hgroups.2 group hmem
    · rw [Bool.and_eq_true, List.all_eq_true] at hgroups
      exact hgroups.2 group hfilter

/-- Only the last group may be replaced. -/
theorem mem_of_ipv6Groups? {text : Text} {groups : List Text}
    (hgroups : ipv6Groups? text = some groups) :
    ∀ group ∈ (Text.splitAll ':' text).dropLast, group ∈ groups := by
  intro group hmem
  simp only [ipv6Groups?] at hgroups
  split at hgroups
  · split_ifs at hgroups
    · obtain rfl := Option.some.inj hgroups
      exact List.mem_append_left _ hmem
    · obtain rfl := Option.some.inj hgroups
      exact List.mem_of_mem_dropLast hmem
  · cases hgroups

theorem exists_groups_of_isIPv6Address {text : Text} (haddress : isIPv6Address text = true) :
    3 ≤ (Text.splitAll ':' text).length ∧
      ∃ groups, ipv6Groups? text = some groups ∧ areIPv6Groups groups = true := by
  rw [isIPv6Address, Bool.and_eq_true, decide_eq_true_eq] at haddress
  obtain ⟨hlength, hgroups⟩ := haddress
  split at hgroups
  · exact ⟨hlength, _, ‹_›, hgroups⟩
  · cases hgroups

theorem colon_mem_of_isIPv6Address {text : Text} (haddress : isIPv6Address text = true) :
    .char ':' ∈ text := by
  by_contra hfree
  obtain ⟨hlength, -⟩ := exists_groups_of_isIPv6Address haddress
  rw [Text.splitAll_eq_splitOn, List.splitOn_eq_singleton hfree] at hlength
  simp at hlength

/-- An IPv6 address begins with a colon or with a hexadecimal digit. -/
theorem isHexDigit_of_isIPv6Address {first : CodePoint} {rest : Text}
    (haddress : isIPv6Address (first :: rest) = true) (hcolon : first ≠ .char ':') :
    Text.isHexDigit first = true := by
  obtain ⟨hlength, groups, hgroups, hsound⟩ := exists_groups_of_isIPv6Address haddress
  obtain ⟨group, others, hothers⟩ :=
    List.exists_cons_of_ne_nil (List.splitOn_ne_nil (CodePoint.char ':') rest)
  have hsplit : Text.splitAll ':' (first :: rest) = (first :: group) :: others := by
    rw [Text.splitAll_eq_splitOn, List.splitOn_cons_eq_if_modifyHead, hothers]
    simp [hcolon]
  have hmem : first :: group ∈ (Text.splitAll ':' (first :: rest)).dropLast := by
    rw [hsplit] at hlength ⊢
    obtain ⟨second, others, rfl⟩ : ∃ second rest, others = second :: rest := by
      cases others with
      | nil => simp at hlength
      | cons second others => exact ⟨second, others, rfl⟩
    simp
  have hhextet := isHextet_of_areIPv6Groups hsound _ (mem_of_ipv6Groups? hgroups _ hmem)
    (List.cons_ne_nil first group)
  simp only [isHextet, Bool.and_eq_true, List.all_eq_true] at hhextet
  exact hhextet.2 first List.mem_cons_self

/-! ## Either kind -/

/-- An IPv6 address stands before the scope, if there is one. -/
theorem exists_isIPv6Address_prefix {host : Text} (hipv6 : isIPv6 host = true) :
    ∃ address, address <+: host ∧ isIPv6Address address = true := by
  rw [isIPv6] at hipv6
  refine ⟨(Text.splitFirst '%' host).1, List.takeWhile_prefix _, ?_⟩
  split at hipv6
  · next hsplit => rwa [hsplit]
  · next hsplit =>
      rw [hsplit]
      simp only [Bool.and_eq_true] at hipv6
      exact hipv6.2

theorem colon_mem_of_isIPv6 {host : Text} (hipv6 : isIPv6 host = true) : .char ':' ∈ host := by
  obtain ⟨address, hprefix, haddress⟩ := exists_isIPv6Address_prefix hipv6
  exact hprefix.subset (colon_mem_of_isIPv6Address haddress)

theorem head?_ne_of_isIPv6 {host : Text} (hipv6 : isIPv6 host = true) :
    host.head? ≠ some (.char 'v') := by
  obtain ⟨address, ⟨scope, rfl⟩, haddress⟩ := exists_isIPv6Address_prefix hipv6
  cases address with
  | nil => exact absurd haddress (by decide)
  | cons first rest =>
      intro hhead
      obtain rfl : first = .char 'v' := by simpa using hhead
      exact absurd (isHexDigit_of_isIPv6Address haddress (by decide)) (by decide)

/-- What may stand in brackets does not depend on the order of the tests. -/
theorem addressFault_eq_none_iff (host : Text) : addressFault host = none ↔ IsAddress host := by
  rw [addressFault, IsAddress]
  constructor
  · intro hnone
    split_ifs at hnone with _ hfuture _ hipv6
    · exact .inl hfuture
    · exact .inr hipv6
  · rintro (hfuture | hipv6)
    · rw [if_pos (by simpa using head?_of_isFutureAddress hfuture), if_pos hfuture]
    · have hipv4 : ¬ isIPv4 host = true :=
        fun hipv4 => colon_not_mem_of_isIPv4 hipv4 (colon_mem_of_isIPv6 hipv6)
      rw [if_neg (by simpa using head?_ne_of_isIPv6 hipv6), if_neg hipv4, if_pos hipv6]

end ShortlinkCatalog.Url
