import ShortlinkCatalog.Proofs.Url.Parts

/-!
# URLs that go on

A text that is written behind a URL with a path belongs to the path, up to the first mark
in it, if nothing in it can be taken for the end of a scheme or the start of an authority.
What was cut from the URL before the path is then cut from the longer one, too.
-/

namespace ShortlinkCatalog.Url

/-- What of a text is its path, if the path is at the start. -/
def pathStart (text : Text) : Text := (text.takeWhile (· != .char '#')).takeWhile (· != .char '?')

/-- What follows the authority of a URL. -/
def afterAuthority (text : Text) : Text :=
  (cutAuthority (cutScheme (text.dropWhile isLeadingBlank)).2).2

/-- A text that goes on with no scheme and ends none, and completes no pair of slashes. -/
def GoesOn (tail : Text) : Prop :=
  ∀ character ∈ tail.head?,
    isSchemeCharacter character = false ∧ character ≠ .char ':' ∧ character ≠ .char '/'

variable {text before tail : Text}

theorem path_cut (text : Text) : (cut text).path = pathStart (afterAuthority text) := rfl

/-! ## Paths -/

theorem pathStart_append (hquestion : .char '?' ∉ before) (hnumber : .char '#' ∉ before)
    (after : Text) : pathStart (before ++ after) = before ++ pathStart after := by
  have hfree {mark : CodePoint} (hmark : mark ∉ before) :
      ∀ character ∈ before, (character != mark) = true := by
    intro character hmem
    exact bne_iff_ne.mpr fun heq => hmark (heq ▸ hmem)
  rw [pathStart, List.takeWhile_append_of_pos (hfree hnumber),
    List.takeWhile_append_of_pos (hfree hquestion), pathStart]

theorem pathStart_eq_self (hquestion : .char '?' ∉ text) (hnumber : .char '#' ∉ text) :
    pathStart text = text := by
  simpa [pathStart] using pathStart_append hquestion hnumber []

theorem pathStart_question (rest : Text) : pathStart (.char '?' :: rest) = [] := by
  simp [pathStart]

theorem pathStart_number (rest : Text) : pathStart (.char '#' :: rest) = [] := by
  simp [pathStart]

/-- A path ends at a mark, or where the text ends. -/
theorem exists_pathStart_append (text : Text) :
    ∃ rest, text = pathStart text ++ rest ∧
      ∀ character ∈ rest.head?, character = .char '?' ∨ character = .char '#' := by
  obtain ⟨path, query, fragment, htext, -, -, ⟨hquestion, hnumber⟩, -⟩ := exists_cutPath_eq text
  have hmarks : pathStart (marked '?' query ++ marked '#' fragment) = [] := by
    cases query <;> cases fragment <;> simp [pathStart, marked]
  refine ⟨marked '?' query ++ marked '#' fragment, ?_, ?_⟩
  · rw [htext, List.append_assoc, pathStart_append hquestion hnumber, hmarks, List.append_nil]
  · cases query <;> cases fragment <;> simp [marked]

/-! ## What stands before the path -/

/-- A colon behind the text ends no scheme, since what goes on with the text spells none. -/
theorem snd_cutScheme_append (htail : GoesOn tail) :
    (cutScheme (text ++ tail)).2 = (cutScheme text).2 ++ tail := by
  by_cases hcolon : .char ':' ∈ text
  · obtain ⟨left, right, rfl, hleft⟩ := List.eq_append_cons_of_mem hcolon
    rw [cutScheme, cutScheme, List.append_assoc, List.cons_append, Text.splitFirst_append hleft,
      Text.splitFirst_append hleft]
    by_cases hscheme : isScheme left = true <;> simp [hscheme]
  · have htext : (cutScheme text).2 = text := by
      rw [cutScheme, Text.splitFirst_of_not_mem hcolon]
    rw [htext, cutScheme]
    by_cases hmem : .char ':' ∈ tail
    · obtain ⟨left, right, rfl, hleft⟩ := List.eq_append_cons_of_mem hmem
      have hfree : .char ':' ∉ text ++ left := by simp [hcolon, hleft]
      have hscheme : ¬ isScheme (text ++ left) = true := by
        intro hscheme
        cases left with
        | nil => exact (htail (.char ':') rfl).2.1 rfl
        | cons first left =>
            have hfirst := isSchemeCharacter_of_isScheme hscheme first (by simp)
            rw [(htail first rfl).1] at hfirst
            cases hfirst
      rw [← List.append_assoc, Text.splitFirst_append hfree]
      simp [hscheme]
    · rw [Text.splitFirst_of_not_mem (by simp [hcolon, hmem])]

theorem snd_cutAuthority_append (htail : GoesOn tail) (hne : (cutAuthority text).2 ≠ []) :
    (cutAuthority (text ++ tail)).2 = (cutAuthority text).2 ++ tail := by
  fun_cases cutAuthority text with
  | case1 rest =>
      rw [cutAuthority] at hne
      rw [List.cons_append, List.cons_append, cutAuthority, List.dropWhile_append, if_neg]
      simpa using hne
  | case2 _ hslashes =>
      have htext : (cutAuthority text).2 = text := by
        rw [cutAuthority]
        exact hslashes
      have hboth : ∀ rest, text ++ tail ≠ .char '/' :: .char '/' :: rest := by
        intro rest heq
        rcases List.append_eq_cons_iff.mp heq with ⟨rfl, -⟩ | ⟨others, rfl, hothers⟩
        · exact hne htext
        · rcases List.append_eq_cons_iff.mp hothers.symm with ⟨rfl, rfl⟩ | ⟨left, rfl, -⟩
          · exact (htail (.char '/') rfl).2.2 rfl
          · exact hslashes left rfl
      rw [cutAuthority]
      exact hboth

theorem afterAuthority_append (htail : GoesOn tail) (hne : afterAuthority text ≠ []) :
    afterAuthority (text ++ tail) = afterAuthority text ++ tail := by
  have hblank : text.dropWhile isLeadingBlank ≠ [] := by
    intro hempty
    rw [afterAuthority, hempty] at hne
    exact hne (by decide)
  have hdrop : (text ++ tail).dropWhile isLeadingBlank = text.dropWhile isLeadingBlank ++ tail := by
    rw [List.dropWhile_append, if_neg (by simpa using hblank)]
  rw [afterAuthority, hdrop, snd_cutScheme_append htail, snd_cutAuthority_append htail hne,
    afterAuthority]

/-- The authority stands right before what follows it. -/
theorem authority_append_suffix (text : Text) :
    (cut text).authority ++ afterAuthority text <:+ text := by
  obtain ⟨authority, hauthority, hreturned, -⟩ :=
    exists_cutAuthority_eq (cutScheme (text.dropWhile isLeadingBlank)).2
  obtain ⟨scheme, hscheme, -⟩ := exists_cutScheme_eq (text.dropWhile isLeadingBlank)
  have hcut : (cut text).authority = authority.getD [] := hreturned
  have hrest : (cut text).authority ++ afterAuthority text <:+
      (cutScheme (text.dropWhile isLeadingBlank)).2 := by
    rw [hcut, hauthority]
    cases authority with
    | none => exact List.suffix_rfl
    | some authority => exact ⟨[.char '/', .char '/'], rfl⟩
  exact (hrest.trans ⟨_, hscheme.symm⟩).trans (List.dropWhile_suffix _)

theorem afterAuthority_suffix (text : Text) : afterAuthority text <:+ text :=
  (List.suffix_append _ _).trans (authority_append_suffix text)

/-- What goes on with a URL that ends with its path goes on with the path. -/
theorem path_cut_append (hquestion : .char '?' ∉ text) (hnumber : .char '#' ∉ text)
    (hpath : (cut text).path ≠ []) (htail : GoesOn tail) :
    (cut (text ++ tail)).path = (cut text).path ++ pathStart tail := by
  have hsubset := (afterAuthority_suffix text).subset
  have hrestQuestion : .char '?' ∉ afterAuthority text := fun hmem => hquestion (hsubset hmem)
  have hrestNumber : .char '#' ∉ afterAuthority text := fun hmem => hnumber (hsubset hmem)
  have hwhole : (cut text).path = afterAuthority text :=
    pathStart_eq_self hrestQuestion hrestNumber
  rw [hwhole] at hpath ⊢
  rw [path_cut, afterAuthority_append htail hpath, pathStart_append hrestQuestion hrestNumber]

end ShortlinkCatalog.Url
