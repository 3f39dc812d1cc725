import ShortlinkCatalog.Proofs.Url.Authority

/-!
# The grammar of absolute URLs

An absolute URL is put together from its parts, and whether it is accepted can be read off
the parts.  Nothing in the checks looks at the percent signs of the user information or of
the query.
-/

namespace ShortlinkCatalog.Url

/-- The parts of an absolute URL that is accepted. -/
structure IsReadable (authority path : Text) (query fragment : Option Text) : Prop where
  controls : ∀ part ∈ [authority, path, query.getD [], fragment.getD []],
    ∀ character ∈ part, Text.isControl character = false
  authority : IsAuthority authority
  path : Percent.IsEscaped path
  fragment : Percent.IsEscaped (fragment.getD [])

variable {scheme authority path : Text} {query fragment : Option Text}

/-! ## Written URLs -/

/-- The parts of an absolute URL hold no mark that would end them. -/
structure AreParts (scheme authority path : Text) (query : Option Text) : Prop where
  scheme : isScheme scheme = true
  authority : ∀ character ∈ authority, isAuthorityEnd character = false
  rooted : path = [] ∨ ∃ rest, path = .char '/' :: rest
  path : .char '?' ∉ path ∧ .char '#' ∉ path
  query : ∀ text ∈ query, .char '#' ∉ text

theorem isControl_of_isSchemeCharacter {character : CodePoint}
    (hcharacter : isSchemeCharacter character = true) : Text.isControl character = false := by
  have hnumbers : ((CodePoint.char '0').toNat = 48 ∧ (CodePoint.char '9').toNat = 57) ∧
      (CodePoint.char '+').toNat = 43 ∧ (CodePoint.char '-').toNat = 45 ∧
      (CodePoint.char '.').toNat = 46 := by
    decide
  simp only [isSchemeCharacter, Bool.or_eq_true, Text.isAsciiLetter_iff, Text.isAsciiDigit,
    Bool.and_eq_true, decide_eq_true_eq, CodePoint.le_iff_toNat_le, hnumbers, beq_iff_eq,
    ← CodePoint.toNat_injective.eq_iff] at hcharacter
  simp only [Text.isControl, Bool.or_eq_false_iff, decide_eq_false_iff_not]
  omega

theorem isControl_marked_iff {mark : CodePoint} (hmark : Text.isControl mark = false)
    (part : Option Text) :
    (∀ character ∈ marked mark part, Text.isControl character = false) ↔
      ∀ character ∈ part.getD [], Text.isControl character = false := by
  cases part with
  | none => rfl
  | some part => simp [marked, hmark]

theorem isControl_written_iff (hscheme : isScheme scheme = true) :
    (∀ character ∈ written scheme authority path query fragment,
        Text.isControl character = false) ↔
      ∀ part ∈ [authority, path, query.getD [], fragment.getD []],
        ∀ character ∈ part, Text.isControl character = false := by
  have hfree : ∀ character ∈ scheme, Text.isControl character = false := by
    intro character hmem
    exact isControl_of_isSchemeCharacter (isSchemeCharacter_of_isScheme hscheme character hmem)
  have hmarks : ∀ character ∈ ("://" : Text), Text.isControl character = false := by decide
  have hquestion : Text.isControl (.char '?') = false := by decide
  have hnumber : Text.isControl (.char '#') = false := by decide
  simp only [written, List.forall_mem_append, isControl_marked_iff hquestion,
    isControl_marked_iff hnumber, iff_true_intro hfree, iff_true_intro hmarks, true_and,
    List.forall_mem_cons, List.not_mem_nil, false_implies, implies_true, and_true, and_assoc]

theorem parse_written_eq_ok_iff (hparts : AreParts scheme authority path query) {url : Url} :
    parse (written scheme authority path query fragment) = .ok url ↔
      IsReadable authority path query fragment ∧
        url = ⟨scheme.map Text.lowerAscii, authority, path, query.getD [], fragment.getD []⟩ := by
  have hhead : ∀ character ∈ path.head?, character = .char '/' := by
    rcases hparts.rooted with rfl | ⟨rest, rfl⟩ <;> simp
  rw [parse_eq_ok_iff, isControl_written_iff hparts.scheme, cut_written hparts.scheme
    hparts.authority hhead hparts.path.1 hparts.path.2 hparts.query, fault_eq_none_iff,
    faultOfAuthority_eq_none_iff, Percent.wellFormed_iff, Percent.wellFormed_iff]
  constructor
  · rintro ⟨hcontrols, ⟨hauthority, hpath, hfragment⟩, rfl⟩
    exact ⟨⟨hcontrols, hauthority, hpath, hfragment⟩, rfl⟩
  · rintro ⟨hreadable, rfl⟩
    exact ⟨hreadable.controls,
      ⟨hreadable.authority, hreadable.path, hreadable.fragment⟩, rfl⟩

theorem exists_parse_written_eq_ok_iff (hparts : AreParts scheme authority path query) :
    (∃ url, parse (written scheme authority path query fragment) = .ok url) ↔
      IsReadable authority path query fragment := by
  simp only [parse_written_eq_ok_iff hparts, exists_and_left, exists_eq, and_true]

/-! ## User information and query -/

/-- An authority with the user information before the host, if there is any. -/
def withUser : Option Text → Text → Text
  | none, host => host
  | some user, host => user ++ .char '@' :: host

/-- A text from which the percent signs are left out. -/
def withoutPercents (text : Text) : Text := text.filter (· != .char '%')

theorem mem_withoutPercents_iff {character : CodePoint} {text : Text} :
    character ∈ withoutPercents text ↔ character ∈ text ∧ character ≠ .char '%' := by
  simp [withoutPercents]

theorem mem_withUser_iff {character : CodePoint} (hne : character ≠ .char '%')
    (user : Option Text) (host : Text) :
    character ∈ withUser (user.map withoutPercents) host ↔ character ∈ withUser user host := by
  cases user with
  | none => rfl
  | some user => simp [withUser, mem_withoutPercents_iff, hne]

theorem hostPart_withUser (user : Option Text) (host : Text) :
    hostPart (withUser user host) = hostPart host := by
  cases user with
  | none => rfl
  | some user => exact Text.afterLast_append_cons '@' user host

theorem mem_query_iff {character : CodePoint} (hne : character ≠ .char '%')
    (query : Option Text) :
    character ∈ (query.map withoutPercents).getD [] ↔ character ∈ query.getD [] := by
  cases query with
  | none => rfl
  | some query => simp [mem_withoutPercents_iff, hne]

section SameCharacters

variable {left right : Text}
  (hmem : ∀ character, character ≠ .char '%' → (character ∈ left ↔ character ∈ right))

include hmem

/-- A class without the percent sign cannot tell texts apart that differ in percent signs. -/
theorem forall_of_same_characters {member : CodePoint → Bool}
    (hpercent : member (.char '%') = false)
    (hleft : ∀ character ∈ left, member character = false) :
    ∀ character ∈ right, member character = false := by
  intro character hcharacter
  by_cases hequal : character = .char '%'
  · rw [hequal, hpercent]
  · exact hleft character ((hmem character hequal).mpr hcharacter)

theorem bracketsSound_of_same_host (hhost : hostPart left = hostPart right)
    (hleft : BracketsSound left) : BracketsSound right := by
  have hopen := hmem (.char '[') (by decide)
  have hclose := hmem (.char ']') (by decide)
  cases hleft with
  | absent hnoOpen hnoClose => exact .absent (mt hopen.mpr hnoOpen) (mt hclose.mpr hnoClose)
  | host hsome heq hfree haddress hport =>
      exact .host (hclose.mp hsome) (hhost ▸ heq) hfree haddress hport
  | userInformation hsomeOpen hsomeClose hfree heq hcolon haddress =>
      exact .userInformation (hopen.mp hsomeOpen) (hclose.mp hsomeClose) (hhost ▸ hfree)
        (hhost ▸ heq) hcolon haddress

/-- The percent signs before the host part do not matter for an authority. -/
theorem isAuthority_of_same_host (hhost : hostPart left = hostPart right)
    (hleft : IsAuthority left) : IsAuthority right where
  brackets := bracketsSound_of_same_host hmem hhost hleft.brackets
  marks := forall_of_same_characters hmem (by decide) hleft.marks
  port := by
    rw [portText, ← hhost]
    exact hleft.port
  host := hhost ▸ hleft.host
  escaped := hhost ▸ hleft.escaped

theorem isReadable_of_same_host (hhost : hostPart left = hostPart right)
    {other : Option Text}
    (hquery : ∀ character, character ≠ .char '%' →
      (character ∈ query.getD [] ↔ character ∈ other.getD []))
    (hleft : IsReadable left path query fragment) : IsReadable right path other fragment where
  controls := by
    have hcontrols := hleft.controls
    simp only [List.forall_mem_cons] at hcontrols ⊢
    obtain ⟨hauthority, hpath, hwritten, hrest⟩ := hcontrols
    exact ⟨forall_of_same_characters hmem (by decide) hauthority, hpath,
      forall_of_same_characters hquery (by decide) hwritten, hrest⟩
  authority := isAuthority_of_same_host hmem hhost hleft.authority
  path := hleft.path
  fragment := hleft.fragment

end SameCharacters

/-- A URL stays as readable as it is without the percent signs of its user information and
its query. -/
theorem isReadable_withoutPercents_iff (user : Option Text) (host : Text) :
    IsReadable (withUser (user.map withoutPercents) host) path (query.map withoutPercents)
        fragment ↔
      IsReadable (withUser user host) path query fragment := by
  have hhost : hostPart (withUser (user.map withoutPercents) host) =
      hostPart (withUser user host) := by
    rw [hostPart_withUser, hostPart_withUser]
  constructor
  · exact isReadable_of_same_host (fun _ hne => mem_withUser_iff hne user host) hhost
      fun _ hne => mem_query_iff hne query
  · exact isReadable_of_same_host (fun _ hne => (mem_withUser_iff hne user host).symm)
      hhost.symm fun _ hne => (mem_query_iff hne query).symm

theorem areParts_withoutPercents {user : Option Text} {host : Text}
    (hparts : AreParts scheme (withUser user host) path query) :
    AreParts scheme (withUser (user.map withoutPercents) host) path
      (query.map withoutPercents) where
  scheme := hparts.scheme
  authority := forall_of_same_characters (fun _ hne => (mem_withUser_iff hne user host).symm)
    (by decide) hparts.authority
  rooted := hparts.rooted
  path := hparts.path
  query := by
    intro text htext
    obtain ⟨written, hwritten, rfl⟩ := Option.map_eq_some_iff.mp htext
    exact fun hmem => hparts.query written hwritten (mem_withoutPercents_iff.mp hmem).1

/-! ## The grammar -/

/-- An absolute URL is accepted exactly if its parts are readable, and is then returned in
them; the error of any other carries the URL.  Percent signs in the user information and in
the query, whatever follows them, make no difference. -/
theorem parse_written_iff_isReadable (hparts : AreParts scheme authority path query) :
    ((∃ url, parse (written scheme authority path query fragment) = .ok url) ↔
        IsReadable authority path query fragment) ∧
      (IsReadable authority path query fragment →
        parse (written scheme authority path query fragment) =
          .ok ⟨scheme.map Text.lowerAscii, authority, path, query.getD [], fragment.getD []⟩) ∧
      (¬ IsReadable authority path query fragment →
        ∃ reason, parse (written scheme authority path query fragment) =
          .error ⟨written scheme authority path query fragment, reason⟩) ∧
      ∀ user host, authority = withUser user host →
        ((∃ url, parse (written scheme (withUser (user.map withoutPercents) host) path
            (query.map withoutPercents) fragment) = .ok url) ↔
          ∃ url, parse (written scheme authority path query fragment) = .ok url) := by
  refine ⟨exists_parse_written_eq_ok_iff hparts, ?_, ?_, ?_⟩
  · intro hreadable
    exact (parse_written_eq_ok_iff hparts).mpr ⟨hreadable, rfl⟩
  · intro hunreadable
    cases hparse : parse (written scheme authority path query fragment) with
    | ok url => exact absurd ((parse_written_eq_ok_iff hparts).mp hparse).1 hunreadable
    | error error =>
        obtain ⟨url, reason⟩ := error
        obtain rfl : url = _ := url_of_parse_eq_error hparse
        exact ⟨reason, rfl⟩
  · rintro user host rfl
    rw [exists_parse_written_eq_ok_iff (areParts_withoutPercents hparts),
      exists_parse_written_eq_ok_iff hparts, isReadable_withoutPercents_iff]

/-- The grammar for a URL with percent signs that begin no escapes in the user information
and in the query, an IPv6 host with an empty port, and a path that ends in a slash. -/
theorem parse_written_iff_isReadable_percents :
    AreParts "hTtp" "a%:%g@[::1]:" "/%2f/" (some "%?") ∧
      IsReadable "a%:%g@[::1]:" "/%2f/" (some "%?") (some "#%c3") := by
  have hparts : AreParts "hTtp" "a%:%g@[::1]:" "/%2f/" (some "%?") :=
    ⟨by decide, by decide, .inr ⟨"%2f/", by decide⟩, by decide, by decide⟩
  refine ⟨hparts, (parse_written_iff_isReadable hparts).1.mp ?_⟩
  exact ⟨⟨"http", "a%:%g@[::1]:", "/%2f/", "%?", "#%c3"⟩, by decide +kernel⟩

end ShortlinkCatalog.Url
