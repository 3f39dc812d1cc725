import ShortlinkCatalog.Proofs.Shortener.Batch
import ShortlinkCatalog.Proofs.Shortener.Candidate
import ShortlinkCatalog.Proofs.Text.Boundary
import ShortlinkCatalog.Proofs.Url.Extended
import ShortlinkCatalog.Shortener.BuiltIn

/-!
# Corruption behind a link

A page that a link was captured from leaves a query, a fragment or junk behind it, and then
anything.  Nothing of that can move into the scheme or the authority of a link that has a
path, so it goes on with the path, and it is read there as it would be by itself: the junk
begins a character, which ends one that the link has left unfinished as the end of the link
does.  Cleaning cuts the path at the junk, and what is left is what the link has.
-/

namespace ShortlinkCatalog

/-- What is left behind a link: a query, a fragment, or junk as it is or in escapes, and
anything after it. -/
inductive IsCorruption : Text → Prop
  | query (rest : Text) : IsCorruption (.char '?' :: rest)
  | fragment (rest : Text) : IsCorruption (.char '#' :: rest)
  | junk {character : CodePoint} (hjunk : isJunk character = true) (rest : Text) :
      IsCorruption (character :: rest)
  | escapedJunk {character : CodePoint} {escapes : Text} (hjunk : isJunk character = true)
      (hescapes : Percent.Escapes (Utf8.encodeCharacter character) escapes) (rest : Text) :
      IsCorruption (escapes ++ rest)

variable {character : CodePoint} {tail : Text}

/-! ## Junk -/

theorem ne_of_isJunk (hjunk : isJunk character = true) {other : CodePoint}
    (hother : isJunk other = false) : character ≠ other := by
  rintro rfl
  rw [hjunk] at hother
  cases hother

/-- Junk spells no scheme, and it can be written down. -/
theorem properties_of_isJunk (hjunk : isJunk character = true) :
    Url.isSchemeCharacter character = false ∧ character.isSurrogate = false := by
  have hall : ∀ character ∈ ("\x22])>&\u2019\xa0" : Text),
      Url.isSchemeCharacter character = false ∧ character.isSurrogate = false := by
    decide
  exact hall character (by simpa [isJunk] using hjunk)

/-- Junk has no part in the marks of a URL. -/
theorem goesOn_of_isJunk (hjunk : isJunk character = true) (rest : Text) :
    Url.GoesOn (character :: rest) := by
  rintro _ ⟨rfl⟩
  exact ⟨(properties_of_isJunk hjunk).1, ne_of_isJunk hjunk (by decide),
    ne_of_isJunk hjunk (by decide)⟩

/-! ## Corruption behind a path -/

/-- The escapes of a character begin with a percent sign. -/
theorem goesOn_of_escapes {escapes : Text}
    (hescapes : Percent.Escapes (Utf8.encodeCharacter character) escapes) (rest : Text) :
    Url.GoesOn (escapes ++ rest) := by
  generalize hoctets : Utf8.encodeCharacter character = octets at hescapes
  cases hescapes with
  | nil => exact absurd hoctets (Utf8.encodeCharacter_ne_nil character)
  | cons =>
      rintro _ ⟨rfl⟩
      decide

theorem goesOn_of_isCorruption (htail : IsCorruption tail) : Url.GoesOn tail := by
  cases htail with
  | query rest =>
      rintro _ ⟨rfl⟩
      decide
  | fragment rest =>
      rintro _ ⟨rfl⟩
      decide
  | junk hjunk rest => exact goesOn_of_isJunk hjunk rest
  | escapedJunk _ hescapes rest => exact goesOn_of_escapes hescapes rest

/-- The part of a corruption that belongs to the path is nothing, or starts with junk that
is spelled in one of its ways. -/
theorem pathStart_of_isCorruption (htail : IsCorruption tail) :
    Url.pathStart tail = [] ∨ ∃ character written rest, isJunk character = true ∧
      Percent.Spells (· == .char '%') written [character] ∧
      Url.pathStart tail = written ++ rest := by
  cases htail with
  | query rest => exact .inl (Url.pathStart_question rest)
  | fragment rest => exact .inl (Url.pathStart_number rest)
  | @junk character hjunk rest =>
      have hspells : Percent.Spells (· == .char '%') [character] [character] :=
        .literal (beq_eq_false_iff_ne.mpr (ne_of_isJunk hjunk (by decide))) .nil
      have hquestion : .char '?' ∉ [character] := by
        simpa using (ne_of_isJunk hjunk (by decide)).symm
      have hnumber : .char '#' ∉ [character] := by
        simpa using (ne_of_isJunk hjunk (by decide)).symm
      exact .inr ⟨character, [character], Url.pathStart rest, hjunk, hspells,
        Url.pathStart_append hquestion hnumber rest⟩
  | @escapedJunk character escapes hjunk hescapes rest =>
      have hspells : Percent.Spells (· == .char '%') escapes [character] := by
        simpa using Percent.Spells.escaped hescapes .nil
      have hquestion : .char '?' ∉ escapes :=
        Percent.not_mem_of_escapes hescapes (by decide) (by decide)
      have hnumber : .char '#' ∉ escapes :=
        Percent.not_mem_of_escapes hescapes (by decide) (by decide)
      exact .inr ⟨character, escapes, Url.pathStart rest, hjunk, hspells,
        Url.pathStart_append hquestion hnumber rest⟩

namespace Url

variable {url extended : Url}

/-! ## Candidates -/

/-- A path that goes on with junk has the same candidate. -/
theorem candidate_eq_of_append {after : Text} (hjunk : isJunk character = true)
    (hstart : url.decodedPath.head? ≠ some (.char '<'))
    (hdecoded : extended.decodedPath = url.decodedPath ++ character :: after) :
    extended.candidate = url.candidate := by
  have hcharacter : character ≠ .char '<' := ne_of_isJunk hjunk (by decide)
  have hplaceholder : isPlaceholder url.decodedPath = false := by
    simp [isPlaceholder, hstart]
  have hextended : isPlaceholder extended.decodedPath = false := by
    rw [hdecoded]
    cases hpath : url.decodedPath with
    | nil => simp [isPlaceholder, hcharacter]
    | cons first rest =>
        rw [hpath] at hstart
        simp_all [isPlaceholder]
  have hcut : (character :: after).takeWhile (!isJunk ·) = [] := by
    simp [hjunk]
  have hkept : extended.decodedPath.takeWhile (!isJunk ·) =
      url.decodedPath.takeWhile (!isJunk ·) := by
    rw [hdecoded, List.takeWhile_append, hcut]
    split_ifs with hlength
    · rw [List.append_nil, (List.takeWhile_prefix _).eq_of_length hlength]
    · rfl
  rw [candidate, candidate, hplaceholder, hextended, hkept]

end Url

/-! ## Cleaning -/

/-- A hook that goes by what it is to clean. -/
def CleanHook.IsLocal (hook : CleanHook) : Prop :=
  ∀ candidate left right, hook candidate left = hook candidate right

theorem BuiltIn.isLocal_of_mem_shorteners {shortener : Shortener}
    (hbuiltIn : shortener ∈ BuiltIn.shorteners) : ∀ hook ∈ shortener.hook, hook.IsLocal := by
  simp only [BuiltIn.shorteners, List.mem_cons, List.not_mem_nil, or_false] at hbuiltIn
  rcases hbuiltIn with rfl | rfl | rfl | rfl | rfl <;> rintro hook ⟨rfl⟩ <;>
    exact fun _ _ _ => rfl

theorem Url.shortcode_eq_of_candidate_eq {url extended : Url} {hook : Option CleanHook}
    (hhook : ∀ clean ∈ hook, clean.IsLocal) (hcandidate : extended.candidate = url.candidate) :
    extended.shortcode hook = url.shortcode hook := by
  cases hook with
  | none => simp only [shortcode, hcandidate]
  | some clean =>
      simp only [shortcode, hcandidate, hhook clean rfl url.candidate extended url]

namespace Shortener

/-- A link with a path that names no stand-in cleans to the same code whatever corruption
follows it, for a shortener without a hook or with one of those that are built in. -/
theorem clean_append_corruption {shortener : Shortener} {url : Text} {parts extended : Url}
    (hhook : ∀ hook ∈ shortener.hook, ∃ builtIn ∈ BuiltIn.shorteners, builtIn.hook = some hook)
    (hparse : Url.parse url = .ok parts) (hpath : parts.path ≠ [])
    (hquestion : .char '?' ∉ url) (hnumber : .char '#' ∉ url)
    (hstart : parts.decodedPath.head? ≠ some (.char '<')) (htail : IsCorruption tail)
    (hextended : Url.parse (url ++ tail) = .ok extended) :
    ∃ shortcode, shortener.clean url = .ok shortcode ∧
      shortener.clean (url ++ tail) = .ok shortcode := by
  have hlocal : ∀ hook ∈ shortener.hook, hook.IsLocal := by
    intro hook hmem
    obtain ⟨builtIn, hbuiltIn, hsome⟩ := hhook hook hmem
    exact BuiltIn.isLocal_of_mem_shorteners hbuiltIn hook hsome
  have hescaped : Percent.IsEscaped parts.path :=
    (Url.parse_accounts_for_text hparse).2.escaped _ (by simp)
  have hcut : parts = Url.cut url := (Url.parse_eq_ok_iff.mp hparse).2.2.symm
  have hcutExtended : extended = Url.cut (url ++ tail) :=
    (Url.parse_eq_ok_iff.mp hextended).2.2.symm
  have hpaths : extended.path = parts.path ++ Url.pathStart tail := by
    rw [hcut] at hpath
    rw [hcut, hcutExtended]
    exact Url.path_cut_append hquestion hnumber hpath (goesOn_of_isCorruption htail)
  have hcandidate : extended.candidate = parts.candidate := by
    obtain hnone | ⟨character, written, rest, hjunk, hspells, hsome⟩ :=
      pathStart_of_isCorruption htail
    · rw [hnone, List.append_nil] at hpaths
      rw [Url.candidate, Url.candidate, Url.decodedPath, Url.decodedPath, hpaths]
    · have hdecode := Percent.decode_append_spells (by decide) hspells
        (properties_of_isJunk hjunk).2 hescaped rest
      rw [← hsome, ← hpaths] at hdecode
      exact Url.candidate_eq_of_append hjunk hstart
        (Url.decodedPath_eq_append (ne_of_isJunk hjunk (by decide)) hdecode)
  refine ⟨shortener.cleanParsed parts, clean_eq_ok_iff.mpr ⟨parts, hparse, rfl⟩, ?_⟩
  exact clean_eq_ok_iff.mpr
    ⟨extended, hextended, Url.shortcode_eq_of_candidate_eq hlocal hcandidate⟩

/-- A link that ends within a character of three octets, followed by an escaped quotation
mark that begins with the same two, a host, a query and a broken escape in it. -/
theorem clean_append_corruption_quote :
    Url.parse "https://s.uconn.edu/Ab%E2%80" =
        .ok ⟨"https", "s.uconn.edu", "/Ab%E2%80", [], []⟩ ∧
      IsCorruption "%e2%80%99/<://x@y>?%" ∧
      Url.parse ("https://s.uconn.edu/Ab%E2%80" ++ "%e2%80%99/<://x@y>?%") =
        .ok ⟨"https", "s.uconn.edu", "/Ab%E2%80%e2%80%99/<://x@y>", "%", []⟩ ∧
      ∃ shortcode, BuiltIn.uconn.clean "https://s.uconn.edu/Ab%E2%80" = .ok shortcode ∧
        BuiltIn.uconn.clean ("https://s.uconn.edu/Ab%E2%80" ++ "%e2%80%99/<://x@y>?%") =
          .ok shortcode := by
  have hparse : Url.parse "https://s.uconn.edu/Ab%E2%80" =
      .ok ⟨"https", "s.uconn.edu", "/Ab%E2%80", [], []⟩ := by
    decide +kernel
  have hextended : Url.parse ("https://s.uconn.edu/Ab%E2%80" ++ "%e2%80%99/<://x@y>?%") =
      .ok ⟨"https", "s.uconn.edu", "/Ab%E2%80%e2%80%99/<://x@y>", "%", []⟩ := by
    decide +kernel
  have hescapes : Percent.Escapes (Utf8.encodeCharacter '\u2019') "%e2%80%99" :=
    .cons (by decide) (by decide)
      (.cons (by decide) (by decide) (.cons (by decide) (by decide) .nil))
  have htail : IsCorruption "%e2%80%99/<://x@y>?%" :=
    .escapedJunk (by decide) hescapes "/<://x@y>?%"
  have hhook : ∀ hook ∈ BuiltIn.uconn.hook,
      ∃ builtIn ∈ BuiltIn.shorteners, builtIn.hook = some hook :=
    fun _ hmem => ⟨BuiltIn.uconn, by simp [BuiltIn.shorteners], hmem⟩
  exact ⟨hparse, htail, hextended, clean_append_corruption hhook hparse (by decide) (by decide)
    (by decide) (by decide) htail hextended⟩

end Shortener

end ShortlinkCatalog
