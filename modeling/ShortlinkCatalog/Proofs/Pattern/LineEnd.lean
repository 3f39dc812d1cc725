import ShortlinkCatalog.Pattern.Reader
import ShortlinkCatalog.Proofs.Pattern.Strict

/-!
# Line ends and a newline at the end

A code is refused if the match that is found leaves one newline, since a line end also holds
before a newline at the end.  What made the match stop there is not looked at, and what line
ends let through before is not either.  So the rule is not that of the strict form: it refuses
codes that this one matches, where a match happens to stop before a newline, and accepts codes
that it does not match, where a line end holds before a newline that the rest of the
expression takes.  Both agree on codes that no newline ends, and for anchored expressions.
-/

namespace ShortlinkCatalog.Regex

variable {regex : Regex} {place found : Place} {change : Bool → Regex} {written code : Text}

/-! ## Codes that no newline ends -/

/-- Where every line end is the end of the text, the strict expression finds what the other one
does, and no newline is left. -/
theorem accepts_iff_of_no_newline {kind : Bool → Bool}
    (hends : ∀ everyLine, kind everyLine = true → ∀ place : Place, place.text = code →
      place.endsLine everyLine = decide (place.rest = []))
    (hkind : regex.lineEndsAre kind = true) (hcode : ¬ ("\n" : Text) <:+ code) :
    (regex.toPattern written).accepts code = true ↔ regex.strict.Matches code := by
  have hsame : regex.strict.Matches code ↔ regex.Matches code := by
    constructor
    all_goals
      rintro ⟨passed, after, rfl, hmatch⟩
      have hplace : matchesAt regex.strict ⟨passed.reverse, after, []⟩ =
          matchesAt regex ⟨passed.reverse, after, []⟩ :=
        matchesAt_strict hends hkind (by simp [Place.text])
      exact ⟨passed, after, rfl, by simpa [hplace] using hmatch⟩
  rw [hsame, matches_iff_isSome_search, accepts_toPattern_iff, Option.isSome_iff_exists]
  constructor
  · rintro ⟨rest, hrest, -⟩
    obtain ⟨found, hsearch, -⟩ := Option.map_eq_some_iff.mp hrest
    exact ⟨found, hsearch⟩
  · rintro ⟨found, hsearch⟩
    refine ⟨found.rest, by rw [remainder?, hsearch, Option.map_some], ?_⟩
    intro hrest
    apply hcode
    rw [text_of_search_eq_some hsearch, hrest]
    exact List.suffix_append _ _

theorem accepts_iff_of_single_line (hsingle : regex.isSingleLine = true)
    (hcode : ¬ ("\n" : Text) <:+ code) :
    (regex.toPattern written).accepts code = true ↔ regex.strict.Matches code := by
  refine accepts_iff_of_no_newline ?_ hsingle hcode
  rintro everyLine hkind place rfl
  obtain rfl : everyLine = false := by simpa using hkind
  have hrest : place.rest ≠ "\n" := by
    intro hrest
    exact hcode ⟨place.before.reverse, by rw [Place.text, hrest]⟩
  simp [Place.endsLine, hrest]

theorem accepts_iff_of_newline_not_mem (hcode : .char '\n' ∉ code) :
    (regex.toPattern written).accepts code = true ↔ regex.strict.Matches code := by
  refine accepts_iff_of_no_newline ?_ (lineEndsAre_true regex)
    fun hsuffix => hcode (hsuffix.subset (by decide))
  rintro everyLine - place rfl
  have hrest : .char '\n' ∉ place.rest := fun hmem => hcode (List.mem_append_right _ hmem)
  have hsame : place.rest ≠ "\n" := by
    intro heq
    exact hrest (heq ▸ List.mem_singleton_self _)
  have hhead : place.rest.head? ≠ some (.char '\n') :=
    fun hhead => hrest (List.mem_of_mem_head? hhead)
  simp [Place.endsLine, hsame, hhead]

/-! ## Newlines that are left or taken -/

theorem matches_of_strict (hplain : regex.isPlain = true) (hmatches : regex.strict.Matches code) :
    regex.Matches code := by
  obtain ⟨passed, after, hcode, hmatch⟩ := hmatches
  obtain ⟨found, hfound⟩ := List.exists_mem_of_ne_nil _ hmatch
  exact ⟨passed, after, hcode, List.ne_nil_of_mem (mem_matchesAt_of_strict hplain hfound)⟩

theorem accepts_iff_of_strict_matches (hplain : regex.isPlain = true)
    (hmatches : regex.strict.Matches code) :
    (regex.toPattern written).accepts code = true ↔ regex.remainder? code ≠ some "\n" := by
  obtain ⟨found, hsearch⟩ := Option.isSome_iff_exists.mp
    (matches_iff_isSome_search.mp (matches_of_strict hplain hmatches))
  rw [accepts_toPattern_iff, remainder?, hsearch]
  simp

theorem accepts_iff_of_not_strict_matches (hsingle : regex.isSingleLine = true)
    (hplain : regex.isPlain = true) (hmatches : ¬ regex.strict.Matches code) :
    (regex.toPattern written).accepts code = true ↔ regex.remainder? code = some [] := by
  rw [accepts_toPattern_iff]
  constructor
  · rintro ⟨rest, hrest, hne⟩
    obtain ⟨found, hsearch, rfl⟩ := Option.map_eq_some_iff.mp hrest
    obtain ⟨passed, after, hcode, hmem⟩ := exists_of_search_eq_some hsearch
    rcases mem_matchesAt_strict_or_isLate hsingle hplain hmem with hstrict | hlate
    · exact absurd ⟨passed, after, hcode, List.ne_nil_of_mem hstrict⟩ hmatches
    · rw [hrest, hlate.resolve_right hne]
  · intro hrest
    exact ⟨[], hrest, by decide⟩

/-! ## Line ends at the end -/

/-- Whether nothing follows a line end.  A line end before every newline does not count as one
at the end. -/
def lineEndsLast : Regex → Bool
  | lineEnd everyLine => !everyLine
  | sequence first second => first.hasNoLineEnd && second.lineEndsLast
  | choice first second | ifTaken _ first second => first.lineEndsLast && second.lineEndsLast
  | group _ body => body.lineEndsLast
  | repeated body _ _ _ | look _ _ body | atomic body => body.hasNoLineEnd
  | _ => true

theorem isPlain_of_hasNoLineEnd (hnone : regex.hasNoLineEnd = true) : regex.isPlain = true := by
  rw [hasNoLineEnd] at hnone
  induction regex <;> simp_all [lineEndsAre, isPlain, hasNoLineEnd]

theorem isPlain_of_lineEndsLast (hlast : regex.lineEndsLast = true) : regex.isPlain = true := by
  induction regex with
  | repeated body least most lazy => exact isPlain_of_hasNoLineEnd hlast
  | sequence first second _ ihSecond =>
      obtain ⟨hfirst, hsecond⟩ := Bool.and_eq_true_iff.mp hlast
      exact Bool.and_eq_true_iff.mpr ⟨isPlain_of_hasNoLineEnd hfirst, ihSecond hsecond⟩
  | _ => simp_all [lineEndsLast, isPlain]

/-- A match that does not stop before a newline is one with text ends. -/
theorem mem_matchesAt_strict_of_lineEndsLast (hlast : regex.lineEndsLast = true)
    (hfound : found ∈ regex.matchesAt place) (hrest : found.rest ≠ "\n") :
    found ∈ regex.strict.matchesAt place := by
  rw [strict]
  induction regex generalizing place found with
  | nothing | one | between | textEnd | same => exact hfound
  | lineEnd everyLine =>
      obtain rfl : everyLine = false := by simpa [lineEndsLast] using hlast
      obtain ⟨rfl, hend⟩ := mem_matchesAt_lineEnd_iff.mp hfound
      exact mem_matchesAt_textEnd_iff.mpr ⟨rfl, (endsLine_false_iff.mp hend).resolve_right hrest⟩
  | sequence first second _ ihSecond =>
      obtain ⟨hfirst, hsecond⟩ := Bool.and_eq_true_iff.mp hlast
      obtain ⟨middle, hmiddle, hfound⟩ := mem_matchesAt_sequence_iff.mp hfound
      rw [mapEnds, mapEnds_of_hasNoLineEnd hfirst]
      exact mem_matchesAt_sequence_iff.mpr ⟨middle, hmiddle, ihSecond hsecond hfound hrest⟩
  | choice first second ihFirst ihSecond =>
      obtain ⟨hfirst, hsecond⟩ := Bool.and_eq_true_iff.mp hlast
      exact List.mem_append.mpr ((List.mem_append.mp hfound).imp (ihFirst hfirst · hrest)
        (ihSecond hsecond · hrest))
  | repeated | look | atomic => rwa [mapEnds, mapEnds_of_hasNoLineEnd hlast]
  | group number body ih =>
      obtain ⟨inner, hinner, rfl⟩ := List.mem_map.mp hfound
      exact List.mem_map.mpr ⟨inner, ih hlast hinner hrest, rfl⟩
  | ifTaken number thenBody elseBody ihThen ihElse =>
      obtain ⟨hthen, helse⟩ := Bool.and_eq_true_iff.mp hlast
      rw [mapEnds, matchesAt]
      rw [matchesAt] at hfound
      by_cases htaken : (place.groups.lookup number).isSome = true
      · rw [if_pos htaken] at hfound ⊢
        exact ihThen hthen hfound hrest
      · rw [if_neg htaken] at hfound ⊢
        exact ihElse helse hfound hrest

theorem accepts_iff_of_lineEndsLast (hlast : regex.lineEndsLast = true) :
    (regex.toPattern written).accepts code = true ↔
      regex.strict.Matches code ∧ regex.remainder? code ≠ some "\n" := by
  by_cases hmatches : regex.strict.Matches code
  · rw [accepts_iff_of_strict_matches (isPlain_of_lineEndsLast hlast) hmatches,
      and_iff_right hmatches]
  · simp only [hmatches, false_and, iff_false, accepts_toPattern_iff]
    rintro ⟨rest, hrest, hne⟩
    obtain ⟨found, hsearch, rfl⟩ := Option.map_eq_some_iff.mp hrest
    obtain ⟨passed, after, hcode, hmem⟩ := exists_of_search_eq_some hsearch
    exact hmatches ⟨passed, after, hcode,
      List.ne_nil_of_mem (mem_matchesAt_strict_of_lineEndsLast hlast hmem hne)⟩

/-! ## Anchored expressions -/

/-- Whether each match ends at a line end or a text end. -/
def endsText : Regex → Bool
  | lineEnd everyLine => !everyLine
  | textEnd => true
  | sequence _ second => second.endsText
  | choice first second | ifTaken _ first second => first.endsText && second.endsText
  | repeated body least _ _ => least != 0 && body.endsText
  | group _ body | atomic body => body.endsText
  | _ => false

/-- Each match ends at a line end or a text end, none takes a newline, and behind a newline
nothing is matched at the end of a text. -/
structure IsAnchored (regex : Regex) : Prop where
  single : regex.isSingleLine = true
  ending : regex.endsText = true
  free : regex.mayTake '\n' = false
  nonempty : ∀ before : Text, regex.matchesAt ⟨.char '\n' :: before, [], []⟩ = [] ∧
    regex.strict.matchesAt ⟨.char '\n' :: before, [], []⟩ = []

section Ending

variable {late : Place → Prop}
  (hlate : ∀ start stop : Place, start.Reaches (fun _ => true) stop → late start → late stop)

include hlate

/-- What holds where line ends and text ends match, and from there on, holds after each match
of an expression that ends so. -/
theorem late_of_endsText (hends : ∀ place, ∀ found ∈ (change false).matchesAt place, late found)
    (htext : ∀ place : Place, place.rest = [] → late place) (hending : regex.endsText = true)
    (hfound : found ∈ (regex.mapEnds change).matchesAt place) : late found := by
  induction regex generalizing place found with
  | nothing | one | between | same | look => cases hending
  | lineEnd everyLine =>
      obtain rfl : everyLine = false := by simpa [endsText] using hending
      exact hends place found hfound
  | textEnd =>
      obtain ⟨rfl, hrest⟩ := mem_matchesAt_textEnd_iff.mp hfound
      exact htext found hrest
  | sequence first second _ ihSecond =>
      obtain ⟨middle, -, hrest⟩ := mem_matchesAt_sequence_iff.mp hfound
      exact ihSecond hending hrest
  | choice first second ihFirst ihSecond =>
      obtain ⟨hfirst, hsecond⟩ := Bool.and_eq_true_iff.mp hending
      exact (List.mem_append.mp hfound).elim (ihFirst hfirst) (ihSecond hsecond)
  | repeated body least most lazy ih =>
      obtain ⟨hleast, hbody⟩ := Bool.and_eq_true_iff.mp hending
      obtain ⟨count, rfl⟩ := Nat.exists_eq_succ_of_ne_zero (by simpa using hleast)
      obtain ⟨middle, hmiddle, hrest⟩ := List.mem_flatMap.mp hfound
      obtain ⟨first, hfirst, hothers⟩ := List.mem_flatMap.mp hmiddle
      -- the first repetition is there, and the others go on from it
      have hreaches : ∀ start, ∀ stop ∈ (body.mapEnds change).matchesAt start,
          start.Reaches (fun _ => true) stop :=
        fun _ _ hstop => (reaches_of_mem_matchesAt hstop).imp fun _ _ => rfl
      exact hlate _ _ (.of_reflTransGen hreaches
        ((reflTransGen_of_mem_times hothers).trans (reflTransGen_of_mem_upTo hrest)))
        (ih hbody hfirst)
  | group number body ih =>
      obtain ⟨inner, hinner, rfl⟩ := List.mem_map.mp hfound
      exact hlate _ _ ⟨[], by simp [Place.note]⟩ (ih hending hinner)
  | atomic body ih =>
      exact ih hending (List.mem_of_mem_head? (by simpa [mapEnds, matchesAt] using hfound))
  | ifTaken number thenBody elseBody ihThen ihElse =>
      obtain ⟨hthen, helse⟩ := Bool.and_eq_true_iff.mp hending
      rw [mapEnds, matchesAt] at hfound
      split at hfound
      · exact ihThen hthen hfound
      · exact ihElse helse hfound

end Ending

theorem isLate_of_endsText (hending : regex.endsText = true)
    (hfound : found ∈ regex.matchesAt place) : found.IsLate := by
  rw [← mapEnds_lineEnd regex] at hfound
  refine late_of_endsText (fun _ _ hreaches => hreaches.isLate) ?_ (fun _ => .inl) hending hfound
  intro place found hfound
  obtain ⟨rfl, hend⟩ := mem_matchesAt_lineEnd_iff.mp hfound
  exact endsLine_false_iff.mp hend

theorem rest_eq_nil_of_endsText (hending : regex.endsText = true)
    (hfound : found ∈ regex.strict.matchesAt place) : found.rest = [] := by
  refine late_of_endsText (fun start stop hreaches hstart => ?_) ?_ (fun _ => id) hending hfound
  · exact List.suffix_nil.mp (hstart ▸ hreaches.suffix)
  · intro place found hfound
    obtain ⟨rfl, hrest⟩ := mem_matchesAt_textEnd_iff.mp hfound
    exact hrest

/-- A match that takes no newline and leaves nothing begins behind the newlines of a text, so it
takes nothing of a text that a newline ends. -/
theorem exists_of_newline_taken (hfree : regex.mayTake '\n' = false) {passed after : Text}
    (hnewline : ("\n" : Text) <:+ passed ++ after)
    (hfound : found ∈ regex.matchesAt ⟨passed.reverse, after, []⟩) (hrest : found.rest = []) :
    ∃ before, found ∈ regex.matchesAt ⟨.char '\n' :: before, [], []⟩ := by
  obtain ⟨before, hbefore⟩ := hnewline
  obtain ⟨taken, -, htaken, hmay⟩ := reaches_of_mem_matchesAt hfound
  obtain rfl : after = taken := by simpa [hrest] using htaken
  rcases List.eq_nil_or_concat after with rfl | ⟨others, last, rfl⟩
  · refine ⟨before.reverse, ?_⟩
    obtain rfl : before ++ [.char '\n'] = passed := by simpa [Text.ofString] using hbefore
    simpa using hfound
  · obtain rfl : CodePoint.char '\n' = last := by
      have hlast := congrArg List.getLast? hbefore
      simpa [Text.ofString, ← List.append_assoc] using hlast
    have htaken : regex.mayTake '\n' = true := hmay _ (by simp)
    rw [hfree] at htaken
    cases htaken

theorem accepts_iff_of_isAnchored (hanchored : regex.IsAnchored) :
    (regex.toPattern written).accepts code = true ↔ regex.strict.Matches code := by
  by_cases hnewline : ("\n" : Text) <:+ code
  · apply iff_of_false
    · rw [accepts_toPattern_iff]
      rintro ⟨rest, hrest, hne⟩
      obtain ⟨found, hsearch, rfl⟩ := Option.map_eq_some_iff.mp hrest
      obtain ⟨passed, after, rfl, hmem⟩ := exists_of_search_eq_some hsearch
      obtain ⟨before, hbehind⟩ := exists_of_newline_taken hanchored.free hnewline hmem
        ((isLate_of_endsText hanchored.ending hmem).resolve_right hne)
      rw [(hanchored.nonempty before).1] at hbehind
      cases hbehind
    · rintro ⟨passed, after, rfl, hmatch⟩
      obtain ⟨found, hmem⟩ := List.exists_mem_of_ne_nil _ hmatch
      obtain ⟨before, hbehind⟩ := exists_of_newline_taken
        ((mayTake_strict _ regex).trans hanchored.free) hnewline hmem
        (rest_eq_nil_of_endsText hanchored.ending hmem)
      rw [(hanchored.nonempty before).2] at hbehind
      cases hbehind
  · exact accepts_iff_of_single_line hanchored.single hnewline

/-! ## The rule for newlines -/

/-- A code is accepted exactly if a match is found that leaves something else than one newline.
A code without newlines, or one that no newline ends if line ends do not hold before every
newline, is accepted exactly if the expression with text ends matches.  Otherwise, of a plain
expression:

* A code that the expression with text ends matches is refused if the match that is found
  leaves one newline, and else accepted.
* A code that it does not match is accepted if the match that is found leaves nothing, because
  it takes the newline behind a line end, and else refused.
* If line ends stand at the end only, a code is accepted exactly if the expression with text
  ends matches and the match that is found does not leave one newline.

An anchored expression accepts exactly what the expression with text ends matches. -/
theorem accepts_iff_strict_matches (regex : Regex) (written code : Text) :
    ((regex.toPattern written).accepts code = true ↔
      ∃ rest, regex.remainder? code = some rest ∧ rest ≠ "\n") ∧
    (.char '\n' ∉ code ∨ regex.isSingleLine = true ∧ ¬ ("\n" : Text) <:+ code →
      ((regex.toPattern written).accepts code = true ↔ regex.strict.Matches code)) ∧
    (regex.isPlain = true → regex.strict.Matches code →
      ((regex.toPattern written).accepts code = true ↔
        regex.remainder? code ≠ some "\n")) ∧
    (regex.isPlain = true → regex.isSingleLine = true → ¬ regex.strict.Matches code →
      ((regex.toPattern written).accepts code = true ↔ regex.remainder? code = some [])) ∧
    (regex.lineEndsLast = true →
      ((regex.toPattern written).accepts code = true ↔
        regex.strict.Matches code ∧ regex.remainder? code ≠ some "\n")) ∧
    (regex.IsAnchored →
      ((regex.toPattern written).accepts code = true ↔ regex.strict.Matches code)) := by
  refine ⟨accepts_toPattern_iff, ?_, accepts_iff_of_strict_matches,
    fun hplain hsingle => accepts_iff_of_not_strict_matches hsingle hplain,
    accepts_iff_of_lineEndsLast, accepts_iff_of_isAnchored⟩
  rintro (hcode | ⟨hsingle, hcode⟩)
  · exact accepts_iff_of_newline_not_mem hcode
  · exact accepts_iff_of_single_line hsingle hcode

/-- A line end after four letters or digits. -/
def fourCharacters : Regex := .inSequence
  [.textStart, .repeated (BuiltIn.oneOf [BuiltIn.lowerLetters, BuiltIn.digits]) 4 (some 4) false,
    .lineEnd false]

/-- A digit anywhere, without any line end. -/
def someDigit : Regex := BuiltIn.oneOf [BuiltIn.digits]

/-- A letter at a line end, and the newline behind it. -/
def newlineBehind : Regex := .inSequence
  [BuiltIn.oneOf [BuiltIn.exactly 'a'], .lineEnd false, BuiltIn.oneOf [BuiltIn.exactly '\n']]

example : parse? "^[a-z0-9]\x7b4\x7d$" = some fourCharacters := rfl
example : parse? "[0-9]" = some someDigit := rfl
example : parse? "a$\n" = some newlineBehind := rfl

theorem fourCharacters_isAnchored : fourCharacters.IsAnchored where
  single := by decide
  ending := by decide
  free := by decide
  nonempty := by
    intro before
    have hstart : textStart.matchesAt ⟨.char '\n' :: before, [], []⟩ = [] := by
      simp [textStart, matchesAt]
    have hsequence : ∀ others : Regex,
        matchesAt (.sequence textStart others) ⟨.char '\n' :: before, [], []⟩ = [] := by
      intro others
      rw [matchesAt, hstart, List.flatMap_nil]
    exact ⟨hsequence _, hsequence _⟩

/-- A code of four characters is accepted, and with a newline behind it refused.  A digit before
a newline is refused although the strict form matches, and a letter with the newline behind its
line end is accepted although the strict form does not match. -/
theorem accepts_iff_strict_matches_newlines :
    (fourCharacters.isSingleLine = true ∧ ¬ ("\n" : Text) <:+ "ab12" ∧
      fourCharacters.strict.Matches "ab12") ∧
    (fourCharacters.IsAnchored ∧ ¬ fourCharacters.strict.Matches "ab12\n") ∧
    (fourCharacters.lineEndsLast = true ∧
      (fourCharacters.toPattern "^[a-z0-9]\x7b4\x7d$").accepts "ab12\n" = false) ∧
    (someDigit.isPlain = true ∧ someDigit.strict.Matches "5\n" ∧
      (someDigit.toPattern "[0-9]").accepts "5\n" = false) ∧
    (newlineBehind.isPlain = true ∧ newlineBehind.isSingleLine = true ∧
      ¬ newlineBehind.strict.Matches "a\n" ∧
      (newlineBehind.toPattern "a$\n").accepts "a\n" = true) := by
  have hfour := accepts_iff_strict_matches fourCharacters "^[a-z0-9]\x7b4\x7d$"
  have hdigit := accepts_iff_strict_matches someDigit "[0-9]" "5\n"
  have hnewline := accepts_iff_strict_matches newlineBehind "a$\n" "a\n"
  refine ⟨⟨by decide, by decide, ?_⟩, ⟨fourCharacters_isAnchored, ?_⟩, ⟨by decide, ?_⟩,
    ⟨by decide, ?_, ?_⟩, ⟨by decide, by decide, ?_, ?_⟩⟩
  · exact ((hfour "ab12").2.1 (.inr ⟨by decide, by decide⟩)).mp (by decide)
  · exact mt ((hfour "ab12\n").2.2.2.2.2 fourCharacters_isAnchored).mpr (by decide)
  · rw [Bool.eq_false_iff, ne_eq, (hfour "ab12\n").2.2.2.2.1 (by decide)]
    rw [matches_iff_isSome_search]
    decide
  · exact matches_iff_isSome_search.mpr (by decide)
  · rw [Bool.eq_false_iff, ne_eq,
      hdigit.2.2.1 (by decide) (matches_iff_isSome_search.mpr (by decide))]
    decide
  · exact mt matches_iff_isSome_search.mp (by decide)
  · exact (hnewline.2.2.2.1 (by decide) (by decide)
      (mt matches_iff_isSome_search.mp (by decide))).mpr (by decide)

/-- The rule is not that of the strict form, and differs from it in both directions: a digit
before a newline is refused although there is no line end, and a newline is taken behind a line
end. -/
theorem strict_matches_fails_both_ways :
    (someDigit.strict = someDigit ∧ someDigit.strict.Matches "5\n" ∧
      ¬ ((someDigit.toPattern "[0-9]").accepts "5\n" = true ↔ someDigit.strict.Matches "5\n")) ∧
    (¬ newlineBehind.strict.Matches "a\n" ∧
      ¬ ((newlineBehind.toPattern "a$\n").accepts "a\n" = true ↔
        newlineBehind.strict.Matches "a\n")) := by
  have hdigit : someDigit.strict.Matches "5\n" := matches_iff_isSome_search.mpr (by decide)
  have hnewline : ¬ newlineBehind.strict.Matches "a\n" :=
    mt matches_iff_isSome_search.mp (by decide)
  refine ⟨⟨rfl, hdigit, ?_⟩, hnewline, ?_⟩
  · rw [iff_true_right hdigit]
    decide
  · rw [iff_false_right hnewline, not_not]
    decide

end ShortlinkCatalog.Regex
