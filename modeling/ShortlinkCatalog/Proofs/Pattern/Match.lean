import Mathlib.Data.List.Basic
import Mathlib.Logic.Relation
import ShortlinkCatalog.Shortener.BuiltIn

/-!
# What a match says

A place after a match lies behind a text that the expression takes, and a match that a search
finds begins somewhere in the text.  Repetitions only go on from one place to the next, so what
every step of a repetition keeps is kept by all of it.  Patterns that stand for a whole text of
one class accept exactly the texts of that class.
-/

namespace ShortlinkCatalog

namespace Regex

open Relation

variable {regex body : Regex} {place found : Place} {text : Text}

/-! ## What is taken -/

/-- Whether a match may take a character.  What a group has taken is not looked into. -/
def mayTake (character : CodePoint) : Regex → Bool
  | one member => member character
  | same _ _ => true
  | sequence first second | choice first second | ifTaken _ first second =>
      first.mayTake character || second.mayTake character
  | repeated body _ _ _ | group _ body | atomic body => body.mayTake character
  | _ => false

/-- `found` lies behind `place`, and the characters between them pass a test. -/
def Place.Reaches (may : CodePoint → Bool) (place found : Place) : Prop :=
  ∃ taken : Text, found.before = taken.reverse ++ place.before ∧
    place.rest = taken ++ found.rest ∧ ∀ character ∈ taken, may character = true

namespace Place.Reaches

variable {may other : CodePoint → Bool} {start middle stop : Place}

theorem refl (may : CodePoint → Bool) (place : Place) : Reaches may place place :=
  ⟨[], by simp⟩

theorem trans (hfirst : Reaches may start middle) (hsecond : Reaches may middle stop) :
    Reaches may start stop := by
  obtain ⟨first, hbefore, hrest, hmay⟩ := hfirst
  obtain ⟨second, hbefore', hrest', hmay'⟩ := hsecond
  refine ⟨first ++ second, by simp [hbefore', hbefore], by simp [hrest, hrest'], ?_⟩
  intro character hmem
  exact (List.mem_append.mp hmem).elim (hmay character) (hmay' character)

theorem imp (hreaches : Reaches may start stop)
    (himp : ∀ character, may character = true → other character = true) :
    Reaches other start stop := by
  obtain ⟨taken, hbefore, hrest, hmay⟩ := hreaches
  exact ⟨taken, hbefore, hrest, fun character hmem => himp character (hmay character hmem)⟩

theorem of_reflTransGen {step : Place → List Place}
    (hstep : ∀ start, ∀ stop ∈ step start, Reaches may start stop)
    (hsteps : ReflTransGen (fun start stop => stop ∈ step start) start stop) :
    Reaches may start stop := by
  induction hsteps with
  | refl => exact .refl may start
  | tail _ hlast ih => exact ih.trans (hstep _ _ hlast)

theorem suffix (hreaches : Reaches may start stop) : stop.rest <:+ start.rest := by
  obtain ⟨taken, -, hrest, -⟩ := hreaches
  exact ⟨taken, hrest.symm⟩

end Place.Reaches

/-! ## Single characters -/

theorem pass?_eq_some_iff {member : CodePoint → Bool} :
    place.pass? member = some found ↔ ∃ character, place.rest = character :: found.rest ∧
      member character = true ∧ found.before = character :: place.before ∧
        found.groups = place.groups := by
  obtain ⟨before, rest, groups⟩ := place
  obtain ⟨foundBefore, foundRest, foundGroups⟩ := found
  cases rest with
  | nil => simp [Place.pass?]
  | cons character rest =>
      by_cases hmember : member character = true
      · simp only [Place.pass?, hmember, if_true, Option.some.injEq, Place.mk.injEq,
          List.cons.injEq]
        constructor
        · rintro ⟨rfl, rfl, rfl⟩
          exact ⟨character, ⟨rfl, rfl⟩, hmember, rfl, rfl⟩
        · rintro ⟨_, ⟨rfl, rfl⟩, -, rfl, rfl⟩
          exact ⟨rfl, rfl, rfl⟩
      · simp only [Place.pass?, hmember, Bool.false_eq_true, if_false, reduceCtorEq,
          List.cons.injEq, false_iff]
        rintro ⟨_, ⟨rfl, -⟩, hother, -⟩
        exact hmember hother

theorem reaches_of_pass? {member : CodePoint → Bool} (hfound : place.pass? member = some found) :
    place.Reaches member found := by
  obtain ⟨character, hrest, hmember, hbefore, -⟩ := pass?_eq_some_iff.mp hfound
  exact ⟨[character], hbefore, hrest, by simpa using hmember⟩

theorem reaches_of_passAll? {alike : CodePoint → CodePoint → Bool} {taken : Text}
    (hfound : place.passAll? alike taken = some found) : place.Reaches (fun _ => true) found := by
  induction taken generalizing place with
  | nil =>
      obtain rfl : place = found := by simpa [Place.passAll?] using hfound
      exact .refl _ place
  | cons character taken ih =>
      rw [Place.passAll?] at hfound
      cases hnext : place.pass? (alike character) with
      | none => simp [hnext] at hfound
      | some next =>
          rw [hnext] at hfound
          exact ((reaches_of_pass? hnext).imp fun _ _ => rfl).trans (ih hfound)

/-! ## Repetitions -/

theorem reflTransGen_of_mem_times {step : Place → List Place} {count : Nat}
    (hfound : found ∈ times step count place) :
    ReflTransGen (fun start stop => stop ∈ step start) place found := by
  induction count generalizing place with
  | zero =>
      obtain rfl := List.mem_singleton.mp hfound
      exact .refl
  | succ count ih =>
      obtain ⟨middle, hmiddle, hrest⟩ := List.mem_flatMap.mp hfound
      exact .head hmiddle (ih hrest)

/-- A place after some steps is the first one, or one step leads to a place that is the last
one or from which the rest of the steps leads there. -/
theorem mem_upTo_succ_iff {step : Place → List Place} {lazy : Bool} {fuel : Nat}
    {most : Option Nat} :
    found ∈ upTo step lazy (fuel + 1) most place ↔ found = place ∨
      most ≠ some 0 ∧ ∃ middle ∈ step place,
        (middle.rest.length < place.rest.length ∧
            found ∈ upTo step lazy fuel (most.map (· - 1)) middle ∨
          place.rest.length ≤ middle.rest.length ∧ found = middle) := by
  have hfurther : (found ∈ (if most = some 0 then [] else
      (step place).flatMap fun middle =>
        if middle.rest.length < place.rest.length then
          upTo step lazy fuel (most.map (· - 1)) middle
        else [middle])) ↔ most ≠ some 0 ∧ ∃ middle ∈ step place,
        (middle.rest.length < place.rest.length ∧
            found ∈ upTo step lazy fuel (most.map (· - 1)) middle ∨
          place.rest.length ≤ middle.rest.length ∧ found = middle) := by
    by_cases hmost : most = some 0
    · simp [hmost]
    · simp only [hmost, if_false, List.mem_flatMap, ne_eq, not_false_eq_true, true_and]
      apply exists_congr
      intro middle
      by_cases hshorter : middle.rest.length < place.rest.length
      · simp [hshorter, Nat.not_le_of_lt hshorter]
      · simp [hshorter, Nat.le_of_not_lt hshorter]
  rw [upTo]
  cases lazy
  · rw [if_neg Bool.false_ne_true, List.mem_append, hfurther, List.mem_singleton, or_comm]
  · rw [if_pos rfl, List.mem_cons, hfurther]

theorem reflTransGen_of_mem_upTo {step : Place → List Place} {lazy : Bool} {fuel : Nat}
    {most : Option Nat} (hfound : found ∈ upTo step lazy fuel most place) :
    ReflTransGen (fun start stop => stop ∈ step start) place found := by
  induction fuel generalizing most place with
  | zero =>
      obtain rfl := List.mem_singleton.mp hfound
      exact .refl
  | succ fuel ih =>
      rcases mem_upTo_succ_iff.mp hfound with rfl | ⟨-, middle, hmiddle, ⟨-, hrest⟩ | ⟨-, rfl⟩⟩
      · exact .refl
      · exact .head hmiddle (ih hrest)
      · exact .single hmiddle

theorem reflTransGen_of_mem_repeated {least : Nat} {most : Option Nat} {lazy : Bool}
    (hfound : found ∈ (repeated body least most lazy).matchesAt place) :
    ReflTransGen (fun start stop => stop ∈ body.matchesAt start) place found := by
  obtain ⟨middle, hmiddle, hrest⟩ := List.mem_flatMap.mp hfound
  exact (reflTransGen_of_mem_times hmiddle).trans (reflTransGen_of_mem_upTo hrest)

/-! ## Matches -/

theorem mem_matchesAt_one_iff {member : CodePoint → Bool} :
    found ∈ (one member).matchesAt place ↔ place.pass? member = some found := by
  rw [matchesAt, Option.mem_toList]

theorem mem_matchesAt_lineEnd_iff {everyLine : Bool} :
    found ∈ (lineEnd everyLine).matchesAt place ↔
      found = place ∧ place.endsLine everyLine = true := by
  simp [matchesAt, and_comm]

theorem mem_matchesAt_textEnd_iff :
    found ∈ textEnd.matchesAt place ↔ found = place ∧ place.rest = [] := by
  simp [matchesAt, and_comm]

theorem mem_matchesAt_textStart_iff :
    found ∈ textStart.matchesAt place ↔ found = place ∧ place.before = [] := by
  simp [matchesAt, textStart, and_comm]

theorem mem_matchesAt_sequence_iff {first second : Regex} :
    found ∈ (sequence first second).matchesAt place ↔
      ∃ middle ∈ first.matchesAt place, found ∈ second.matchesAt middle :=
  List.mem_flatMap

/-- A look moves nowhere. -/
theorem rest_of_mem_matchesAt_look {back : Nat} {wanted : Bool}
    (hfound : found ∈ (look back wanted body).matchesAt place) :
    found.before = place.before ∧ found.rest = place.rest := by
  rw [matchesAt] at hfound
  cases wanted <;> split at hfound <;> simp at hfound <;> simp [hfound]

/-- A match leads behind characters that it may take. -/
theorem reaches_of_mem_matchesAt (hfound : found ∈ regex.matchesAt place) :
    place.Reaches (regex.mayTake ·) found := by
  induction regex generalizing place found with
  | nothing =>
      obtain rfl := List.mem_singleton.mp hfound
      exact .refl _ found
  | one member => exact reaches_of_pass? (mem_matchesAt_one_iff.mp hfound)
  | between holds | lineEnd everyLine | textEnd =>
      obtain ⟨-, rfl⟩ : _ ∧ found = place := by simpa [matchesAt] using hfound
      exact .refl _ found
  | sequence first second ihFirst ihSecond =>
      obtain ⟨middle, hmiddle, hrest⟩ := mem_matchesAt_sequence_iff.mp hfound
      exact ((ihFirst hmiddle).imp (by simp +contextual [mayTake])).trans
        ((ihSecond hrest).imp (by simp +contextual [mayTake]))
  | choice first second ihFirst ihSecond =>
      rcases List.mem_append.mp hfound with hfirst | hsecond
      · exact (ihFirst hfirst).imp (by simp +contextual [mayTake])
      · exact (ihSecond hsecond).imp (by simp +contextual [mayTake])
  | repeated body least most lazy ih =>
      exact .of_reflTransGen (fun _ _ hstep => ih hstep) (reflTransGen_of_mem_repeated hfound)
  | group number body ih =>
      obtain ⟨inner, hinner, rfl⟩ := List.mem_map.mp hfound
      -- a note changes neither what is before the place nor what is left
      obtain ⟨taken, hreached⟩ := ih hinner
      exact ⟨taken, hreached⟩
  | same number alike =>
      simp only [matchesAt, Option.mem_toList, Option.bind_eq_some_iff] at hfound
      obtain ⟨taken, -, hpassed⟩ := hfound
      exact reaches_of_passAll? hpassed
  | look back wanted body ih =>
      obtain ⟨hbefore, hrest⟩ := rest_of_mem_matchesAt_look hfound
      exact ⟨[], by simpa using hbefore, by simpa using hrest.symm, by simp⟩
  | atomic body ih =>
      exact ih (List.mem_of_mem_head? (by simpa [matchesAt] using hfound))
  | ifTaken number thenBody elseBody ihThen ihElse =>
      rw [matchesAt] at hfound
      split at hfound
      · exact (ihThen hfound).imp (by simp +contextual [mayTake])
      · exact (ihElse hfound).imp (by simp +contextual [mayTake])

/-! ## Repetitions of a class -/

section Class

variable {member : CodePoint → Bool} {taken rest before : Text} {groups : List (Nat × Text)}

theorem mem_times_one (hmember : ∀ character ∈ taken, member character = true) :
    (⟨taken.reverse ++ before, rest, groups⟩ : Place) ∈
      times (one member).matchesAt taken.length ⟨before, taken ++ rest, groups⟩ := by
  induction taken generalizing before with
  | nil => simp [times]
  | cons character taken ih =>
      obtain ⟨hfirst, hothers⟩ := List.forall_mem_cons.mp hmember
      refine List.mem_flatMap.mpr ⟨⟨character :: before, taken ++ rest, groups⟩, ?_, ?_⟩
      · simp [matchesAt, Place.pass?, hfirst]
      · simpa using ih hothers

theorem mem_upTo_one {lazy : Bool} {fuel : Nat} (hfuel : taken.length ≤ fuel)
    (hmember : ∀ character ∈ taken, member character = true) :
    (⟨taken.reverse ++ before, rest, groups⟩ : Place) ∈
      upTo (one member).matchesAt lazy fuel none ⟨before, taken ++ rest, groups⟩ := by
  induction fuel generalizing taken before with
  | zero =>
      obtain rfl : taken = [] := by simpa using hfuel
      simp [upTo]
  | succ fuel ih =>
      cases taken with
      | nil => exact mem_upTo_succ_iff.mpr (.inl rfl)
      | cons character taken =>
          obtain ⟨hfirst, hothers⟩ := List.forall_mem_cons.mp hmember
          refine mem_upTo_succ_iff.mpr (.inr ⟨by simp,
            ⟨character :: before, taken ++ rest, groups⟩, ?_, .inl ⟨by simp, ?_⟩⟩)
          · simp [matchesAt, Place.pass?, hfirst]
          · simpa using ih (by simpa using hfuel) hothers

/-- Every number of members, from the least one on, is a match of a repeated class. -/
theorem mem_matchesAt_repeated_one {least : Nat} {lazy : Bool} (hleast : least ≤ taken.length)
    (hmember : ∀ character ∈ taken, member character = true) :
    (⟨taken.reverse ++ before, rest, groups⟩ : Place) ∈
      (repeated (one member) least none lazy).matchesAt ⟨before, taken ++ rest, groups⟩ := by
  have hsplit : taken = taken.take least ++ taken.drop least := (List.take_append_drop ..).symm
  refine List.mem_flatMap.mpr
    ⟨⟨(taken.take least).reverse ++ before, taken.drop least ++ rest, groups⟩, ?_, ?_⟩
  · have htimes := @mem_times_one member (taken.take least) (taken.drop least ++ rest) before groups
      fun character hmem => hmember character (List.mem_of_mem_take hmem)
    rwa [List.length_take, Nat.min_eq_left hleast, ← List.append_assoc, ← hsplit] at htimes
  · have hupTo := @mem_upTo_one member (taken.drop least) rest
      ((taken.take least).reverse ++ before) groups lazy ((taken.drop least ++ rest).length + 1)
      (by simp; omega) fun character hmem => hmember character (List.mem_of_mem_drop hmem)
    rwa [← List.append_assoc, ← List.reverse_append, ← hsplit] at hupTo

theorem length_of_mem_times_one {count : Nat}
    (hfound : found ∈ times (one member).matchesAt count place) :
    found.rest.length + count = place.rest.length := by
  induction count generalizing place with
  | zero =>
      obtain rfl := List.mem_singleton.mp hfound
      rfl
  | succ count ih =>
      obtain ⟨middle, hmiddle, hrest⟩ := List.mem_flatMap.mp hfound
      obtain ⟨character, hplace, -⟩ := pass?_eq_some_iff.mp (mem_matchesAt_one_iff.mp hmiddle)
      rw [hplace, List.length_cons, ← ih hrest, Nat.add_assoc]

end Class

/-! ## Searching -/

/-- A match that is found begins at some place of the text. -/
theorem exists_of_searchFrom_eq_some {before : Text}
    (hfound : regex.searchFrom before text = some found) :
    ∃ passed after, text = passed ++ after ∧
      found ∈ regex.matchesAt ⟨passed.reverse ++ before, after, []⟩ := by
  induction text generalizing before with
  | nil =>
      rw [searchFrom] at hfound
      split at hfound
      · rename_i place hhead
        obtain rfl := Option.some.inj hfound
        exact ⟨[], [], rfl, List.mem_of_mem_head? hhead⟩
      · cases hfound
  | cons character text ih =>
      rw [searchFrom] at hfound
      split at hfound
      · rename_i place hhead
        obtain rfl := Option.some.inj hfound
        exact ⟨[], character :: text, rfl, List.mem_of_mem_head? hhead⟩
      · obtain ⟨passed, after, rfl, hmem⟩ := ih hfound
        exact ⟨character :: passed, after, rfl, by simpa using hmem⟩

/-- A search finds a match if there is one. -/
theorem isSome_searchFrom_append {before passed after : Text}
    (hfound : found ∈ regex.matchesAt ⟨passed.reverse ++ before, after, []⟩) :
    (regex.searchFrom before (passed ++ after)).isSome = true := by
  induction passed generalizing before with
  | nil =>
      obtain ⟨first, others, hplaces⟩ := List.exists_cons_of_ne_nil (List.ne_nil_of_mem hfound)
      rw [List.reverse_nil, List.nil_append] at hplaces
      unfold searchFrom
      simp [hplaces]
  | cons character passed ih =>
      rw [List.cons_append, searchFrom]
      cases (regex.matchesAt ⟨before, character :: (passed ++ after), []⟩).head? with
      | some place => rfl
      | none => exact ih (by simpa using hfound)

/-- There is a match somewhere in the text. -/
def Matches (regex : Regex) (text : Text) : Prop :=
  ∃ passed after, text = passed ++ after ∧ regex.matchesAt ⟨passed.reverse, after, []⟩ ≠ []

theorem exists_of_search_eq_some (hfound : regex.search text = some found) :
    ∃ passed after, text = passed ++ after ∧
      found ∈ regex.matchesAt ⟨passed.reverse, after, []⟩ := by
  simpa using exists_of_searchFrom_eq_some hfound

theorem matches_iff_isSome_search : regex.Matches text ↔ (regex.search text).isSome = true := by
  constructor
  · rintro ⟨passed, after, rfl, hmatch⟩
    obtain ⟨found, hfound⟩ := List.exists_mem_of_ne_nil _ hmatch
    exact isSome_searchFrom_append (by simpa using hfound)
  · intro hsome
    obtain ⟨found, hfound⟩ := Option.isSome_iff_exists.mp hsome
    obtain ⟨passed, after, htext, hmem⟩ := exists_of_search_eq_some hfound
    exact ⟨passed, after, htext, List.ne_nil_of_mem hmem⟩

/-- What is before a match that is found, what it takes and what is left make up the text. -/
theorem text_of_search_eq_some (hfound : regex.search text = some found) :
    text = found.before.reverse ++ found.rest := by
  obtain ⟨passed, after, rfl, hmem⟩ := exists_of_search_eq_some hfound
  obtain ⟨taken, hbefore, hrest, -⟩ := reaches_of_mem_matchesAt hmem
  obtain rfl : after = taken ++ found.rest := hrest
  simp [hbefore]

/-! ## Accepting -/

/-- What is left of a text after the leftmost match. -/
def remainder? (regex : Regex) (text : Text) : Option Text := (regex.search text).map (·.rest)

/-- A text ends in a newline that begins one character before its end if that is what is left. -/
theorem newline_left_iff (before rest : Text) :
    ((before ++ rest).getLast? = some (.char '\n') ∧
      before.length + 1 = (before ++ rest).length) ↔ rest = "\n" := by
  have hnewline : ("\n" : Text) = [.char '\n'] := rfl
  rw [hnewline, List.length_append, Nat.add_right_inj]
  constructor
  · rintro ⟨hlast, hlength⟩
    obtain ⟨character, rfl⟩ := List.length_eq_one_iff.mp hlength.symm
    simpa using hlast
  · rintro rfl
    simp

/-- A code is accepted if a match is found that leaves something else than one newline. -/
theorem accepts_toPattern_iff {written code : Text} :
    (regex.toPattern written).accepts code = true ↔
      ∃ rest, regex.remainder? code = some rest ∧ rest ≠ "\n" := by
  simp only [Pattern.accepts, toPattern, remainder?]
  cases hsearch : regex.search code with
  | none => simp
  | some found =>
      have hleft := newline_left_iff found.before.reverse found.rest
      rw [← text_of_search_eq_some hsearch, List.length_reverse] at hleft
      simp only [Option.map_some, Option.some.injEq, exists_eq_left', ne_eq, ← hleft]
      simp [imp_iff_not_or]

end Regex

namespace BuiltIn

open Regex

variable {ranges : List (CodePoint × CodePoint)} {place found : Regex.Place} {text : Text}

@[simp] theorem contains_ofRanges (character : CodePoint) :
    (CharacterClass.ofRanges ranges).contains false character =
      ranges.any fun range => range.1 ≤ character && character ≤ range.2 := by
  simp [CharacterClass.contains, CharacterClass.ofRanges, CharacterClass.itemContains,
    List.any_map, Function.comp_def]

theorem mem_matchesAt_wholly_iff :
    found ∈ (wholly ranges).matchesAt place ↔ place.before = [] ∧
      found ∈ (repeated (oneOf ranges) 1 none false).matchesAt place ∧ found.rest = [] := by
  have hwholly : wholly ranges =
      .sequence textStart (.sequence (.repeated (oneOf ranges) 1 none false) textEnd) := rfl
  simp only [hwholly, mem_matchesAt_sequence_iff, mem_matchesAt_textStart_iff,
    mem_matchesAt_textEnd_iff]
  constructor
  · rintro ⟨_, ⟨rfl, hbefore⟩, _, hrepeated, rfl, hrest⟩
    exact ⟨hbefore, hrepeated, hrest⟩
  · rintro ⟨hbefore, hrepeated, hrest⟩
    exact ⟨place, ⟨rfl, hbefore⟩, found, hrepeated, rfl, hrest⟩

/-- A pattern for whole texts of a class accepts the texts of the class that are not
empty. -/
theorem accepts_wholly_iff (written text : Text) :
    ((wholly ranges).toPattern written).accepts text = true ↔ text ≠ [] ∧
      ∀ character ∈ text,
        (ranges.any fun range => range.1 ≤ character && character ≤ range.2) = true := by
  rw [accepts_toPattern_iff]
  constructor
  · rintro ⟨rest, hrest, -⟩
    obtain ⟨found, hsearch, rfl⟩ := Option.map_eq_some_iff.mp hrest
    obtain ⟨passed, after, rfl, hmem⟩ := exists_of_search_eq_some hsearch
    obtain ⟨hstart, hrepeated, hend⟩ := mem_matchesAt_wholly_iff.mp hmem
    obtain rfl : passed = [] := by simpa using hstart
    obtain ⟨taken, -, htaken, hmay⟩ := reaches_of_mem_matchesAt hrepeated
    obtain rfl : after = taken := by simpa [hend] using htaken
    refine ⟨?_, by simpa [mayTake, oneOf] using hmay⟩
    rintro rfl
    obtain ⟨middle, hfirst, -⟩ := List.mem_flatMap.mp hrepeated
    simpa using length_of_mem_times_one hfirst
  · rintro ⟨hne, hmember⟩
    have hmatch : (⟨text.reverse, [], []⟩ : Place) ∈ (wholly ranges).matchesAt ⟨[], text, []⟩ := by
      have hrepeated := @mem_matchesAt_repeated_one
        ((CharacterClass.ofRanges ranges).contains false ·) text [] [] [] 1 false
        (List.length_pos_iff.mpr hne) (by simpa using hmember)
      exact mem_matchesAt_wholly_iff.mpr ⟨rfl, by simpa [oneOf] using hrepeated, rfl⟩
    obtain ⟨found, hsearch⟩ : ∃ found, (wholly ranges).search text = some found :=
      Option.isSome_iff_exists.mp
        (matches_iff_isSome_search.mp ⟨[], text, rfl, List.ne_nil_of_mem hmatch⟩)
    obtain ⟨passed, after, rfl, hmem⟩ := exists_of_search_eq_some hsearch
    obtain ⟨-, -, hend⟩ := mem_matchesAt_wholly_iff.mp hmem
    exact ⟨[], by rw [remainder?, hsearch, Option.map_some, hend], by decide⟩

end BuiltIn

end ShortlinkCatalog
