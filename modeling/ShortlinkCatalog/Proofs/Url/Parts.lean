import ShortlinkCatalog.Proofs.Text.AsciiCase
import ShortlinkCatalog.Proofs.Url.Authority

/-!
# The parts of accepted URLs

Cutting a text leaves nothing out: with their marks between them, and with the scheme as
it was spelled, the parts of a URL are the text again.  No part holds a mark that would
have ended it.  That holds of every text; what an accepted text adds is that the parts are
sound, so that a port is a number in range and escapes can be decoded.
-/

namespace ShortlinkCatalog.Url

/-- The parts of a URL as they stand in a text, where all but the path may be missing. -/
structure Writing where
  scheme : Option Text
  authority : Option Text
  path : Text
  query : Option Text
  fragment : Option Text

namespace Writing

/-- A scheme with the colon after it. -/
def schemed : Option Text → Text
  | none => []
  | some scheme => scheme ++ [.char ':']

/-- An authority with the two slashes before it. -/
def authorized : Option Text → Text
  | none => []
  | some authority => .char '/' :: .char '/' :: authority

/-- The text in which the parts stand. -/
def text (writing : Writing) : Text :=
  schemed writing.scheme ++ authorized writing.authority ++ writing.path
    ++ marked '?' writing.query ++ marked '#' writing.fragment

/-- The parts as a reader returns them: missing ones are empty, the scheme is in lower
case. -/
def url (writing : Writing) : Url where
  scheme := (writing.scheme.getD []).map Text.lowerAscii
  authority := writing.authority.getD []
  path := writing.path
  query := writing.query.getD []
  fragment := writing.fragment.getD []

end Writing

/-- The parts of `url` account for the whole of `text`, and none of them goes on past a
mark that ends it. -/
structure Accounts (text : Text) (url : Url) : Prop where
  written : ∃ writing : Writing, writing.text = text ∧ writing.url = url ∧
    ∀ scheme ∈ writing.scheme, isScheme scheme = true
  authority : ∀ character ∈ url.authority, isAuthorityEnd character = false
  path : .char '?' ∉ url.path ∧ .char '#' ∉ url.path
  query : .char '#' ∉ url.query
  rooted : url.authority ≠ [] → url.path = [] ∨ ∃ rest, url.path = .char '/' :: rest

/-! ## Cutting -/

/-- A scheme is cut off as it is spelled, or there is none. -/
theorem exists_cutScheme_eq (text : Text) :
    ∃ scheme : Option Text, text = Writing.schemed scheme ++ (cutScheme text).2 ∧
      (cutScheme text).1 = (scheme.getD []).map Text.lowerAscii ∧
      ∀ spelling ∈ scheme, isScheme spelling = true := by
  rw [cutScheme]
  cases hsplit : Text.splitFirst ':' text with
  | mk before after =>
      obtain ⟨rfl, -⟩ := splitFirst_eq_iff.mp hsplit
      cases after with
      | none => exact ⟨none, by simp [Writing.schemed], by simp, by simp⟩
      | some after =>
          by_cases hscheme : isScheme before = true
          · refine ⟨some before, ?_, ?_, ?_⟩
            · simp [hscheme, Writing.schemed, marked]
            · simp [hscheme]
            · simpa using hscheme
          · exact ⟨none, by simp [hscheme, Writing.schemed], by simp [hscheme], by simp⟩

/-- What is cut off as an authority stands behind two slashes and ends at a mark. -/
theorem exists_cutAuthority_eq (text : Text) :
    ∃ authority : Option Text, text = Writing.authorized authority ++ (cutAuthority text).2 ∧
      (cutAuthority text).1 = authority.getD [] ∧
      (∀ character ∈ (cutAuthority text).1, isAuthorityEnd character = false) ∧
      ((cutAuthority text).1 ≠ [] →
        ∀ character ∈ (cutAuthority text).2.head?, isAuthorityEnd character = true) := by
  fun_cases cutAuthority text with
  | case1 rest =>
      refine ⟨some (rest.takeWhile (!isAuthorityEnd ·)), ?_, rfl, ?_, ?_⟩
      · simp [Writing.authorized]
      · intro character hmem
        simpa using List.mem_takeWhile_imp hmem
      · intro _ character hmem
        have hhead := List.head?_dropWhile_not (!isAuthorityEnd ·) rest
        rw [hmem] at hhead
        simpa using hhead
  | case2 => exact ⟨none, by simp [Writing.authorized], rfl, by simp, by simp⟩

theorem mem_marked_of_mem {mark character : CodePoint} {part : Option Text}
    (hmem : character ∈ part.getD []) : character ∈ marked mark part := by
  cases part with
  | none => cases hmem
  | some part => exact List.mem_cons_of_mem mark hmem

theorem mem_schemed_of_mem {character : CodePoint} {scheme : Option Text}
    (hmem : character ∈ scheme.getD []) : character ∈ Writing.schemed scheme := by
  cases scheme with
  | none => cases hmem
  | some scheme => exact List.mem_append_left _ hmem

theorem mem_authorized_of_mem {character : CodePoint} {authority : Option Text}
    (hmem : character ∈ authority.getD []) : character ∈ Writing.authorized authority := by
  cases authority with
  | none => cases hmem
  | some authority => exact List.mem_cons_of_mem _ (List.mem_cons_of_mem _ hmem)

/-- What follows the authority is a path with the query and the fragment behind it. -/
theorem exists_cutPath_eq (rest : Text) :
    ∃ path query fragment, rest = path ++ marked '?' query ++ marked '#' fragment ∧
      Text.splitFirst '#' rest = (path ++ marked '?' query, fragment) ∧
      Text.splitFirst '?' (path ++ marked '?' query) = (path, query) ∧
      (.char '?' ∉ path ∧ .char '#' ∉ path) ∧ .char '#' ∉ query.getD [] := by
  cases hfragment : Text.splitFirst '#' rest with
  | mk before fragment =>
      cases hquery : Text.splitFirst '?' before with
      | mk path query =>
          obtain ⟨rfl, hnumber⟩ := splitFirst_eq_iff.mp hfragment
          obtain ⟨rfl, hquestion⟩ := splitFirst_eq_iff.mp hquery
          rw [List.mem_append, not_or] at hnumber
          refine ⟨path, query, fragment, rfl, rfl, hquery, ⟨hquestion, hnumber.1⟩, ?_⟩
          exact fun hmem => hnumber.2 (mem_marked_of_mem hmem)

/-- Behind an authority, only a slash can begin a path. -/
theorem rooted_of_isAuthorityEnd {path rest : Text}
    (hpath : .char '?' ∉ path ∧ .char '#' ∉ path)
    (hend : ∀ character ∈ (path ++ rest).head?, isAuthorityEnd character = true) :
    path = [] ∨ ∃ others, path = .char '/' :: others := by
  cases path with
  | nil => exact .inl rfl
  | cons first others =>
      have hfirst := hend first rfl
      simp only [isAuthorityEnd, Bool.or_eq_true, beq_iff_eq, or_assoc] at hfirst
      rcases hfirst with rfl | rfl | rfl
      · exact .inr ⟨others, rfl⟩
      · exact absurd List.mem_cons_self hpath.1
      · exact absurd List.mem_cons_self hpath.2

/-- The parts of any text account for it, the blanks before it aside. -/
theorem accounts_cut (text : Text) : Accounts (text.dropWhile isLeadingBlank) (cut text) := by
  obtain ⟨scheme, hscheme, hlower, hspelled⟩ :=
    exists_cutScheme_eq (text.dropWhile isLeadingBlank)
  obtain ⟨authority, hauthority, hreturned, hfree, hend⟩ :=
    exists_cutAuthority_eq (cutScheme (text.dropWhile isLeadingBlank)).2
  obtain ⟨path, query, fragment, hrest, hfragment, hsplit, hpath, hquery⟩ :=
    exists_cutPath_eq (cutAuthority (cutScheme (text.dropWhile isLeadingBlank)).2).2
  have hcut : cut text = Writing.url ⟨scheme, authority, path, query, fragment⟩ := by
    simp only [cut, hlower, hreturned, hfragment, hsplit, Writing.url]
  have hwhole : Writing.text ⟨scheme, authority, path, query, fragment⟩ =
      text.dropWhile isLeadingBlank := by
    rw [hscheme, hauthority, hrest]
    simp [Writing.text]
  rw [hreturned] at hfree hend
  rw [hrest, List.append_assoc] at hend
  rw [hcut]
  exact ⟨⟨_, hwhole, rfl, hspelled⟩, hfree, hpath, hquery,
    fun hne => rooted_of_isAuthorityEnd hpath (hend hne)⟩

/-! ## Accepted texts -/

theorem dropWhile_isLeadingBlank_of_free {text : Text}
    (hfree : ∀ character ∈ text, Text.isControl character = false) :
    text.dropWhile isLeadingBlank = text.dropWhile (· == .char ' ') := by
  induction text with
  | nil => rfl
  | cons first text ih =>
      obtain ⟨hfirst, hrest⟩ := List.forall_mem_cons.mp hfree
      have hspace : first = .char ' ' ↔ first.toNat = 0x20 :=
        CodePoint.toNat_injective.eq_iff.symm
      have hblank : isLeadingBlank first = (first == .char ' ') := by
        simp only [Text.isControl, Bool.or_eq_false_iff, decide_eq_false_iff_not] at hfirst
        rw [isLeadingBlank, Bool.eq_iff_iff, decide_eq_true_eq, beq_iff_eq, hspace]
        omega
      rw [List.dropWhile_cons, List.dropWhile_cons, hblank, ih hrest]

/-- No part holds a control character if the text holds none. -/
theorem isControl_of_accounts {text : Text} {url : Url} (haccounts : Accounts text url)
    (hfree : ∀ character ∈ text, Text.isControl character = false) :
    ∀ part ∈ [url.scheme, url.authority, url.path, url.query, url.fragment],
      ∀ character ∈ part, Text.isControl character = false := by
  obtain ⟨writing, rfl, rfl, -⟩ := haccounts.written
  simp only [Writing.text, List.forall_mem_append] at hfree
  obtain ⟨⟨⟨⟨hscheme, hauthority⟩, hpath⟩, hquery⟩, hfragment⟩ := hfree
  simp only [List.forall_mem_cons, Writing.url, List.forall_mem_map]
  refine ⟨?_, ?_, hpath, ?_, ?_, by simp⟩
  · intro character hmem
    rw [Text.isControl_lowerAscii]
    exact hscheme character (mem_schemed_of_mem hmem)
  · exact fun character hmem => hauthority character (mem_authorized_of_mem hmem)
  · exact fun character hmem => hquery character (mem_marked_of_mem hmem)
  · exact fun character hmem => hfragment character (mem_marked_of_mem hmem)

/-- What the parts of an accepted URL can be relied on for.  An escape is decodable if it is
found where the decoder looks for one, at a percent sign. -/
structure IsSound (url : Url) : Prop where
  controls : ∀ part ∈ [url.scheme, url.authority, url.path, url.query, url.fragment],
    ∀ character ∈ part, Text.isControl character = false
  host : ∀ character ∈ hostPart url.authority, isHostCharacter character = true
  port : ∃ value, port url.authority = .ok value ∧ ∀ number ∈ value, number ≤ 65535
  escaped : ∀ part ∈ [hostPart url.authority, url.path, url.fragment], Percent.IsEscaped part
  decodable : ∀ after, .char '%' :: after <:+ url.path →
    ∃ octet, Percent.escape? (.char '%' :: after) = some octet

/-- The parts of an accepted URL account for its text, the spaces before it aside, and are
sound. -/
theorem parse_accounts_for_text {text : Text} {url : Url} (hparse : parse text = .ok url) :
    Accounts (text.dropWhile (· == .char ' ')) url ∧ IsSound url := by
  obtain ⟨hfree, hfault, rfl⟩ := parse_eq_ok_iff.mp hparse
  obtain ⟨hauthority, hpath, hfragment⟩ := (fault_eq_none_iff (cut text)).mp hfault
  have hsound := (faultOfAuthority_eq_none_iff (cut text).authority).mp hauthority
  have haccounts := accounts_cut text
  rw [dropWhile_isLeadingBlank_of_free hfree] at haccounts
  have hescaped : Percent.IsEscaped (cut text).path := (Percent.wellFormed_iff _).mp hpath
  refine ⟨haccounts, ?_, hsound.host, ?_, ?_, ?_⟩
  · apply isControl_of_accounts haccounts
    exact fun character hmem => hfree character ((List.dropWhile_suffix _).subset hmem)
  · obtain ⟨value, hvalue⟩ := (exists_port_eq_ok_iff _).mpr hsound.port
    exact ⟨value, hvalue, le_of_port_eq_ok hvalue⟩
  · simp only [List.forall_mem_cons, List.not_mem_nil, false_implies, implies_true, and_true]
    exact ⟨hsound.escaped, hescaped, (Percent.wellFormed_iff _).mp hfragment⟩
  · intro after hsuffix
    have hstart := hescaped after hsuffix
    exact Option.isSome_iff_exists.mp (Percent.isSome_escape?_of_startsWithDigits hstart)

/-- The parts of an accepted URL whose user information has a colon and a broken escape,
whose host is an IPv6 address, and whose escapes spell a letter of two octets. -/
theorem parse_accounts_for_text_bracketed :
    parse " HTTP://a:b%@[::1]:080/%C3%a9//?q%#%2F" =
        .ok ⟨"http", "a:b%@[::1]:080", "/%C3%a9//", "q%", "%2F"⟩ ∧
      Accounts ((" HTTP://a:b%@[::1]:080/%C3%a9//?q%#%2F" : Text).dropWhile (· == .char ' '))
        ⟨"http", "a:b%@[::1]:080", "/%C3%a9//", "q%", "%2F"⟩ ∧
      IsSound ⟨"http", "a:b%@[::1]:080", "/%C3%a9//", "q%", "%2F"⟩ :=
  ⟨by decide +kernel, parse_accounts_for_text (by decide +kernel)⟩

end ShortlinkCatalog.Url
