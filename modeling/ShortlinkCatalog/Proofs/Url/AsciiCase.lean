import ShortlinkCatalog.Proofs.Url.Extended

/-!
# The case of letters in a path

A URL is cut at marks, which are no letters, and whether something is spelled like a scheme
does not depend on the case of its letters.  So if the case of some ASCII letters in the path
of a URL is changed, it is still cut at the same places and accepted if it was, and every
other part is what it was.
-/

namespace ShortlinkCatalog.Url

variable {text other : Text}

/-- Of two texts, the second one is the first with some ASCII letters of its path in the other
case. -/
def IsRecased (text other : Text) : Prop :=
  ∃ before path after changed, text = before ++ (path ++ after) ∧
    afterAuthority text = path ++ after ∧ (cut text).path = path ∧
    Text.SameLetters path changed ∧ other = before ++ (changed ++ after)

/-! ## Cuts of texts in lower case -/

theorem isScheme_map_lowerAscii (text : Text) :
    isScheme (text.map Text.lowerAscii) = isScheme text := by
  have hletter : ∀ character,
      Text.isAsciiLetter (Text.lowerAscii character) = Text.isAsciiLetter character :=
    Text.apply_lowerAscii _ (by decide)
  have hcharacter : ∀ character,
      isSchemeCharacter (Text.lowerAscii character) = isSchemeCharacter character :=
    Text.apply_lowerAscii _ (by decide)
  cases text with
  | nil => rfl
  | cons first rest =>
      rw [List.map_cons, isScheme, isScheme, hletter, List.all_map, Function.comp_def]
      simp only [hcharacter]

theorem cutScheme_map_lowerAscii (text : Text) :
    cutScheme (text.map Text.lowerAscii) =
      ((cutScheme text).1, (cutScheme text).2.map Text.lowerAscii) := by
  have hcolon : Text.isAsciiLetter (.char ':') = false := by decide
  rw [cutScheme, cutScheme, Text.splitFirst_map_lowerAscii hcolon]
  cases Text.splitFirst (.char ':') text with
  | mk scheme rest =>
      cases rest with
      | none => rfl
      | some rest =>
          simp only [Option.map_some, isScheme_map_lowerAscii]
          split_ifs
          · simp [Text.lowerAscii_lowerAscii]
          · rfl

theorem cutAuthority_map_lowerAscii (text : Text) :
    cutAuthority (text.map Text.lowerAscii) =
      ((cutAuthority text).1.map Text.lowerAscii, (cutAuthority text).2.map Text.lowerAscii) := by
  have hend : ∀ character,
      (!isAuthorityEnd (Text.lowerAscii character)) = !isAuthorityEnd character :=
    Text.apply_lowerAscii (!isAuthorityEnd ·) (by decide)
  have hslash : Text.isAsciiLetter (.char '/') = false := by decide
  fun_cases cutAuthority text with
  | case1 rest =>
      have hlower : Text.lowerAscii (.char '/') = .char '/' := by decide
      rw [List.map_cons, List.map_cons, hlower, cutAuthority, Text.takeWhile_map_lowerAscii hend,
        Text.dropWhile_map_lowerAscii hend]
  | case2 _ hslashes =>
      rw [cutAuthority]
      · rfl
      · intro rest hrest
        obtain ⟨first, others, rfl, hfirst, hothers⟩ := List.map_eq_cons_iff.mp hrest
        obtain ⟨second, others, rfl, hsecond, -⟩ := List.map_eq_cons_iff.mp hothers
        rw [Text.lowerAscii_eq_iff hslash] at hfirst hsecond
        exact hslashes others (by rw [hfirst, hsecond])

section SameLetters

variable (hletters : Text.SameLetters text other)

include hletters

theorem sameLetters_dropWhile_isLeadingBlank :
    Text.SameLetters (text.dropWhile isLeadingBlank) (other.dropWhile isLeadingBlank) := by
  have hblank : ∀ character,
      isLeadingBlank (Text.lowerAscii character) = isLeadingBlank character :=
    Text.apply_lowerAscii _ (by decide)
  rw [Text.SameLetters, ← Text.dropWhile_map_lowerAscii hblank, hletters,
    Text.dropWhile_map_lowerAscii hblank]

theorem cutScheme_of_sameLetters :
    (cutScheme text).1 = (cutScheme other).1 ∧
      Text.SameLetters (cutScheme text).2 (cutScheme other).2 := by
  have hcut := cutScheme_map_lowerAscii text
  rw [hletters, cutScheme_map_lowerAscii, Prod.mk.injEq] at hcut
  exact ⟨hcut.1.symm, hcut.2.symm⟩

theorem cutAuthority_of_sameLetters :
    Text.SameLetters (cutAuthority text).1 (cutAuthority other).1 ∧
      Text.SameLetters (cutAuthority text).2 (cutAuthority other).2 := by
  have hcut := cutAuthority_map_lowerAscii text
  rw [hletters, cutAuthority_map_lowerAscii, Prod.mk.injEq] at hcut
  exact ⟨hcut.1.symm, hcut.2.symm⟩

end SameLetters

/-! ## Texts with other letters in the path -/

theorem authority_suffix_of_append {before rest : Text} (htext : text = before ++ rest)
    (hafter : afterAuthority text = rest) : (cut text).authority <:+ before := by
  obtain ⟨start, hstart⟩ := authority_append_suffix text
  rw [hafter, ← List.append_assoc] at hstart
  exact ⟨start, List.append_cancel_right (hstart.trans htext)⟩

/-- What follows the authority is cut at its own marks. -/
theorem cut_of_afterAuthority {path : Text} {query fragment : Option Text}
    (hafter : afterAuthority text = path ++ marked '?' query ++ marked '#' fragment)
    (hquestion : .char '?' ∉ path) (hnumber : .char '#' ∉ path)
    (hquery : .char '#' ∉ query.getD []) :
    cut text =
      ⟨(cut text).scheme, (cut text).authority, path, query.getD [], fragment.getD []⟩ := by
  have hfree : .char '#' ∉ path ++ marked '?' query := by
    cases query with
    | none => simpa [marked] using hnumber
    | some query => simpa [marked, hnumber] using hquery
  have hcut : cut text = ⟨(cut text).scheme, (cut text).authority,
      (Text.splitFirst '?' (Text.splitFirst '#' (afterAuthority text)).1).1,
      (Text.splitFirst '?' (Text.splitFirst '#' (afterAuthority text)).1).2.getD [],
      (Text.splitFirst '#' (afterAuthority text)).2.getD []⟩ := rfl
  rw [hafter, splitFirst_append_marked fragment hfree,
    splitFirst_append_marked query hquestion] at hcut
  exact hcut

theorem sameLetters_of_isRecased (hrecased : IsRecased text other) :
    Text.SameLetters text other := by
  obtain ⟨before, path, after, changed, htext, -, -, hletters, hother⟩ := hrecased
  have hrest : Text.SameLetters (path ++ after) (changed ++ after) := hletters.append (.refl _)
  rw [htext, hother]
  exact .append (.refl before) hrest

theorem cut_of_isRecased (hrecased : IsRecased text other) :
    ∃ changed, Text.SameLetters (cut text).path changed ∧
      cut other = { cut text with path := changed } := by
  have hwhole := sameLetters_of_isRecased hrecased
  obtain ⟨hscheme, hrest⟩ :=
    cutScheme_of_sameLetters (sameLetters_dropWhile_isLeadingBlank hwhole)
  obtain ⟨hauthority, hend⟩ := cutAuthority_of_sameLetters hrest
  obtain ⟨before, path, after, changed, htext, hafter, hpath, hletters, hother⟩ := hrecased
  -- nothing gets longer, so the path and the authority begin at the same places
  have hlength : (afterAuthority other).length = (changed ++ after).length := by
    rw [List.length_append, ← hletters.length_eq, ← List.length_append, ← hafter]
    exact hend.length_eq.symm
  have hbehind : afterAuthority other = changed ++ after :=
    (List.suffix_of_suffix_length_le (afterAuthority_suffix other) ⟨before, hother.symm⟩
      hlength.le).eq_of_length hlength
  have hsame : (cut other).authority = (cut text).authority :=
    (List.suffix_of_suffix_length_le (authority_suffix_of_append hother hbehind)
      (authority_suffix_of_append htext hafter) hauthority.length_eq.ge).eq_of_length
      hauthority.length_eq.symm
  -- the marks behind the path are the same ones
  obtain ⟨start, query, fragment, hmarks, -, -, ⟨hquestion, hnumber⟩, hquery⟩ :=
    exists_cutPath_eq (afterAuthority text)
  have hcut := cut_of_afterAuthority hmarks hquestion hnumber hquery
  obtain rfl : path = start := hpath.symm.trans (congrArg Url.path hcut)
  rw [hafter, List.append_assoc] at hmarks
  rw [List.append_cancel_left hmarks, ← List.append_assoc] at hbehind
  have hchanged := cut_of_afterAuthority hbehind
    (Text.not_mem_of_sameLetters (by decide) hletters hquestion)
    (Text.not_mem_of_sameLetters (by decide) hletters hnumber) hquery
  refine ⟨changed, by rwa [hpath], ?_⟩
  have hspelled : (cut other).scheme = (cut text).scheme := hscheme.symm
  rw [hchanged, hspelled, hsame, hcut]

/-- A URL whose path has some letters in the other case is accepted with all else as it was. -/
theorem parse_of_isRecased {url : Url} (hrecased : IsRecased text other)
    (hparse : parse text = .ok url) :
    ∃ changed, Text.SameLetters url.path changed ∧
      parse other = .ok { url with path := changed } := by
  obtain ⟨hfree, hfault, rfl⟩ := parse_eq_ok_iff.mp hparse
  obtain ⟨changed, hletters, hcut⟩ := cut_of_isRecased hrecased
  obtain ⟨hauthority, hpath, hfragment⟩ := (fault_eq_none_iff _).mp hfault
  refine ⟨changed, hletters, parse_eq_ok_iff.mpr ⟨?_, ?_, hcut⟩⟩
  · exact Text.forall_of_sameLetters Text.isControl_lowerAscii (sameLetters_of_isRecased hrecased)
      hfree
  · rw [hcut, fault_eq_none_iff, Percent.wellFormed_iff]
    rw [Percent.wellFormed_iff] at hpath
    exact ⟨hauthority, Percent.isEscaped_of_sameLetters hletters hpath, hfragment⟩

end ShortlinkCatalog.Url
