import ShortlinkCatalog.Proofs.Pattern.Match

/-!
# Text ends for line ends

A line end holds at the end of a text and before a newline that ends it, so an expression with
line ends can match more than the same expression with text ends in their place, its strict
form.  Where line ends hold at the end of a text alone, both have the same matches.  Otherwise,
and unless a line end stands where only the preferred match counts, the strict form has those
matches that go over no line end before a newline.  Behind such a line end there is at most
the newline.
-/

namespace ShortlinkCatalog.Regex

/-! ## Text ends for line ends -/

/-- The expression with something else in the place of its line ends. -/
def mapEnds (change : Bool → Regex) : Regex → Regex
  | lineEnd everyLine => change everyLine
  | sequence first second => .sequence (first.mapEnds change) (second.mapEnds change)
  | choice first second => .choice (first.mapEnds change) (second.mapEnds change)
  | repeated body least most lazy => .repeated (body.mapEnds change) least most lazy
  | group number body => .group number (body.mapEnds change)
  | look back wanted body => .look back wanted (body.mapEnds change)
  | atomic body => .atomic (body.mapEnds change)
  | ifTaken number thenBody elseBody =>
      .ifTaken number (thenBody.mapEnds change) (elseBody.mapEnds change)
  | regex => regex

/-- The expression with text ends in the place of its line ends. -/
def strict (regex : Regex) : Regex := regex.mapEnds fun _ => .textEnd

/-- Whether all line ends are of some kinds. -/
def lineEndsAre (kind : Bool → Bool) : Regex → Bool
  | lineEnd everyLine => kind everyLine
  | sequence first second | choice first second | ifTaken _ first second =>
      first.lineEndsAre kind && second.lineEndsAre kind
  | repeated body _ _ _ | group _ body | look _ _ body | atomic body => body.lineEndsAre kind
  | _ => true

def hasNoLineEnd (regex : Regex) : Bool := regex.lineEndsAre fun _ => false

/-- Whether no line end holds before every newline. -/
def isSingleLine (regex : Regex) : Bool := regex.lineEndsAre (!·)

/-- Whether no line end stands in an expression of which only the preferred match counts, or
only whether it has one. -/
def isPlain : Regex → Bool
  | sequence first second | choice first second | ifTaken _ first second =>
      first.isPlain && second.isPlain
  | repeated body _ _ _ | group _ body => body.isPlain
  | look _ _ body | atomic body => body.hasNoLineEnd
  | _ => true

variable {regex : Regex} {place found : Place} {change : Bool → Regex}

theorem mapEnds_lineEnd (regex : Regex) : regex.mapEnds .lineEnd = regex := by
  induction regex <;> simp_all [mapEnds]

theorem mapEnds_of_hasNoLineEnd (hnone : regex.hasNoLineEnd = true) :
    regex.mapEnds change = regex := by
  rw [hasNoLineEnd] at hnone
  induction regex <;> simp_all [mapEnds, lineEndsAre]

theorem mayTake_strict (character : CodePoint) (regex : Regex) :
    regex.strict.mayTake character = regex.mayTake character := by
  rw [strict]
  induction regex <;> simp_all [mapEnds, mayTake]

theorem lineEndsAre_true (regex : Regex) : regex.lineEndsAre (fun _ => true) = true := by
  induction regex <;> simp_all [lineEndsAre]

/-! ## Texts that no newline ends -/

namespace Place

/-- The whole text around a place. -/
def text (place : Place) : Text := place.before.reverse ++ place.rest

theorem Reaches.text_eq {may : CodePoint → Bool} {start stop : Place}
    (hreaches : Reaches may start stop) : stop.text = start.text := by
  obtain ⟨taken, hbefore, hrest, -⟩ := hreaches
  simp [text, hbefore, hrest]

theorem text_of_back? {back : Nat} {start : Place} (hback : place.back? back = some start) :
    start.text = place.text := by
  induction back generalizing place with
  | zero =>
      obtain rfl : place = start := by simpa [back?] using hback
      rfl
  | succ back ih =>
      obtain ⟨before, rest, groups⟩ := place
      cases before with
      | nil => cases hback
      | cons character before =>
          rw [ih (show back? back ⟨before, character :: rest, groups⟩ = some start from hback)]
          simp [text]

end Place

section Agreement

variable {step other : Place → List Place} {text : Text}

theorem times_congr (hkeeps : ∀ start, ∀ stop ∈ step start, stop.text = start.text)
    (hstep : ∀ start, start.text = text → other start = step start) {count : Nat}
    (hplace : place.text = text) : times other count place = times step count place := by
  induction count generalizing place with
  | zero => rfl
  | succ count ih =>
      rw [times, times, hstep place hplace]
      exact List.flatMap_congr fun middle hmiddle => ih ((hkeeps _ _ hmiddle).trans hplace)

theorem upTo_congr (hkeeps : ∀ start, ∀ stop ∈ step start, stop.text = start.text)
    (hstep : ∀ start, start.text = text → other start = step start) {lazy : Bool} {fuel : Nat}
    {most : Option Nat} (hplace : place.text = text) :
    upTo other lazy fuel most place = upTo step lazy fuel most place := by
  induction fuel generalizing most place with
  | zero => rfl
  | succ fuel ih =>
      have hfurther : ∀ middle ∈ step place,
          upTo other lazy fuel (most.map (· - 1)) middle =
            upTo step lazy fuel (most.map (· - 1)) middle :=
        fun middle hmiddle => ih ((hkeeps _ _ hmiddle).trans hplace)
      have hflatMap : ((step place).flatMap fun middle =>
            if middle.rest.length < place.rest.length then
              upTo other lazy fuel (most.map (· - 1)) middle else [middle]) =
          (step place).flatMap fun middle =>
            if middle.rest.length < place.rest.length then
              upTo step lazy fuel (most.map (· - 1)) middle else [middle] :=
        List.flatMap_congr fun middle hmiddle => by rw [hfurther middle hmiddle]
      rw [upTo, upTo, hstep place hplace, hflatMap]

/-- If line ends of the kinds in an expression hold at the end of a text alone, text ends
change nothing in its matches, nor in their order. -/
theorem matchesAt_strict {kind : Bool → Bool}
    (hends : ∀ everyLine, kind everyLine = true → ∀ place : Place, place.text = text →
      place.endsLine everyLine = decide (place.rest = []))
    (hkind : regex.lineEndsAre kind = true) (hplace : place.text = text) :
    regex.strict.matchesAt place = regex.matchesAt place := by
  have hkeeps : ∀ regex : Regex, ∀ start, ∀ stop ∈ regex.matchesAt start,
      stop.text = start.text :=
    fun _ _ _ hstop => (reaches_of_mem_matchesAt hstop).text_eq
  rw [strict]
  induction regex generalizing place with
  | nothing | one | between | textEnd | same => rfl
  | lineEnd everyLine => simp [mapEnds, matchesAt, hends everyLine hkind place hplace]
  | sequence first second ihFirst ihSecond =>
      obtain ⟨hfirst, hsecond⟩ := Bool.and_eq_true_iff.mp hkind
      rw [mapEnds, matchesAt, matchesAt, ihFirst hfirst hplace]
      exact List.flatMap_congr fun middle hmiddle =>
        ihSecond hsecond ((hkeeps _ _ _ hmiddle).trans hplace)
  | choice first second ihFirst ihSecond =>
      obtain ⟨hfirst, hsecond⟩ := Bool.and_eq_true_iff.mp hkind
      rw [mapEnds, matchesAt, matchesAt, ihFirst hfirst hplace, ihSecond hsecond hplace]
  | repeated body least most lazy ih =>
      have hstep : ∀ start : Place, start.text = text →
          (body.mapEnds fun _ => .textEnd).matchesAt start = body.matchesAt start :=
        fun start hstart => ih hkind hstart
      rw [mapEnds, matchesAt, matchesAt, times_congr (hkeeps body) hstep hplace]
      refine List.flatMap_congr fun middle hmiddle => upTo_congr (hkeeps body) hstep ?_
      exact (Place.Reaches.of_reflTransGen (fun _ _ hstop => reaches_of_mem_matchesAt hstop)
        (reflTransGen_of_mem_times hmiddle)).text_eq.trans hplace
  | group number body ih => rw [mapEnds, matchesAt, matchesAt, ih hkind hplace]
  | look back wanted body ih =>
      rw [mapEnds, matchesAt, matchesAt]
      cases hback : place.back? back with
      | none => rfl
      | some start =>
          simp only [Option.bind_some, ih hkind ((Place.text_of_back? hback).trans hplace)]
  | atomic body ih => rw [mapEnds, matchesAt, matchesAt, ih hkind hplace]
  | ifTaken number thenBody elseBody ihThen ihElse =>
      obtain ⟨hthen, helse⟩ := Bool.and_eq_true_iff.mp hkind
      rw [mapEnds, matchesAt, matchesAt, ihThen hthen hplace, ihElse helse hplace]

end Agreement

/-! ## Newlines that are left or taken -/

/-- At most the newline at the end of a text is left. -/
def Place.IsLate (place : Place) : Prop := place.rest = [] ∨ place.rest = "\n"

theorem Place.Reaches.isLate {may : CodePoint → Bool} {start stop : Place}
    (hreaches : Reaches may start stop) (hstart : start.IsLate) : stop.IsLate := by
  rcases hstart with hrest | hrest
  · exact .inl (List.suffix_nil.mp (hrest ▸ hreaches.suffix))
  · have hsuffix : stop.rest <:+ [.char '\n'] := by
      rw [show [CodePoint.char '\n'] = ("\n" : Text) from rfl, ← hrest]
      exact hreaches.suffix
    exact (List.suffix_cons_iff.mp hsuffix).symm.imp List.suffix_nil.mp id

section Refinement

variable {late : Place → Prop}
  (hlate : ∀ start stop : Place, start.Reaches (fun _ => true) stop → late start → late stop)

include hlate

section Steps

variable {step other : Place → List Place}
  (hreaches : ∀ start, ∀ stop ∈ step start, start.Reaches (fun _ => true) stop)
  (hstep : ∀ start, ∀ stop ∈ step start, stop ∈ other start ∨ late stop)

include hreaches hstep

theorem mem_times_or_late {count : Nat} (hfound : found ∈ times step count place) :
    found ∈ times other count place ∨ late found := by
  induction count generalizing place with
  | zero => exact .inl hfound
  | succ count ih =>
      obtain ⟨middle, hmiddle, hrest⟩ := List.mem_flatMap.mp hfound
      rcases hstep place middle hmiddle with hother | hmiddleLate
      · exact (ih hrest).imp_left fun hothers => List.mem_flatMap.mpr ⟨middle, hother, hothers⟩
      · exact .inr (hlate _ _ (.of_reflTransGen hreaches (reflTransGen_of_mem_times hrest))
          hmiddleLate)

theorem mem_upTo_or_late {lazy : Bool} {fuel : Nat} {most : Option Nat}
    (hfound : found ∈ upTo step lazy fuel most place) :
    found ∈ upTo other lazy fuel most place ∨ late found := by
  induction fuel generalizing most place with
  | zero => exact .inl hfound
  | succ fuel ih =>
      rw [mem_upTo_succ_iff] at hfound ⊢
      rcases hfound with rfl | ⟨hmost, middle, hmiddle, hrest⟩
      · exact .inl (.inl rfl)
      · rcases hstep place middle hmiddle with hother | hmiddleLate
        · rcases hrest with ⟨hshorter, hrest⟩ | hlast
          · exact (ih hrest).imp_left fun hothers =>
              .inr ⟨hmost, middle, hother, .inl ⟨hshorter, hothers⟩⟩
          · exact .inl (.inr ⟨hmost, middle, hother, .inr hlast⟩)
        · right
          rcases hrest with ⟨-, hrest⟩ | ⟨-, rfl⟩
          · exact hlate _ _ (.of_reflTransGen hreaches (reflTransGen_of_mem_upTo hrest))
              hmiddleLate
          · exact hmiddleLate

end Steps

/-- Let the matches of some ends be matches of some others, or be late.  Then the same holds of
plain expressions with such ends, since what follows a late place is late. -/
theorem mem_matchesAt_mapEnds_or_late {left right : Bool → Regex} {kind : Bool → Bool}
    (hends : ∀ everyLine, kind everyLine = true → ∀ place,
      ∀ found ∈ (left everyLine).matchesAt place,
        found ∈ (right everyLine).matchesAt place ∨ late found)
    (hkind : regex.lineEndsAre kind = true) (hplain : regex.isPlain = true)
    (hfound : found ∈ (regex.mapEnds left).matchesAt place) :
    found ∈ (regex.mapEnds right).matchesAt place ∨ late found := by
  have hreaches : ∀ regex : Regex, ∀ start, ∀ stop ∈ regex.matchesAt start,
      start.Reaches (fun _ => true) stop :=
    fun _ _ _ hstop => (reaches_of_mem_matchesAt hstop).imp fun _ _ => rfl
  induction regex generalizing place found with
  | nothing | one | between | textEnd | same => exact .inl hfound
  | lineEnd everyLine => exact hends everyLine hkind place found hfound
  | sequence first second ihFirst ihSecond =>
      obtain ⟨hkindFirst, hkindSecond⟩ := Bool.and_eq_true_iff.mp hkind
      obtain ⟨hplainFirst, hplainSecond⟩ := Bool.and_eq_true_iff.mp hplain
      obtain ⟨middle, hmiddle, hrest⟩ := mem_matchesAt_sequence_iff.mp hfound
      rcases ihFirst hkindFirst hplainFirst hmiddle with hother | hmiddleLate
      · exact (ihSecond hkindSecond hplainSecond hrest).imp_left fun hothers =>
          mem_matchesAt_sequence_iff.mpr ⟨middle, hother, hothers⟩
      · exact .inr (hlate _ _ (hreaches _ _ _ hrest) hmiddleLate)
  | choice first second ihFirst ihSecond =>
      obtain ⟨hkindFirst, hkindSecond⟩ := Bool.and_eq_true_iff.mp hkind
      obtain ⟨hplainFirst, hplainSecond⟩ := Bool.and_eq_true_iff.mp hplain
      rcases List.mem_append.mp hfound with hfirst | hsecond
      · exact (ihFirst hkindFirst hplainFirst hfirst).imp_left (List.mem_append_left _)
      · exact (ihSecond hkindSecond hplainSecond hsecond).imp_left (List.mem_append_right _)
  | repeated body least most lazy ih =>
      have hstep := fun start stop => @ih start stop hkind hplain
      obtain ⟨middle, hmiddle, hrest⟩ := List.mem_flatMap.mp hfound
      rcases mem_times_or_late hlate (hreaches _) hstep hmiddle with hother | hmiddleLate
      · exact (mem_upTo_or_late hlate (hreaches _) hstep hrest).imp_left fun hothers =>
          List.mem_flatMap.mpr ⟨middle, hother, hothers⟩
      · exact .inr (hlate _ _
          (.of_reflTransGen (hreaches _) (reflTransGen_of_mem_upTo hrest)) hmiddleLate)
  | group number body ih =>
      obtain ⟨inner, hinner, rfl⟩ := List.mem_map.mp hfound
      refine (ih hkind hplain hinner).imp (fun hother => List.mem_map.mpr ⟨inner, hother, rfl⟩) ?_
      exact hlate _ _ ⟨[], by simp [Place.note]⟩
  | look back wanted body ih =>
      left
      rwa [mapEnds, mapEnds_of_hasNoLineEnd hplain] at hfound ⊢
  | atomic body ih =>
      left
      rwa [mapEnds, mapEnds_of_hasNoLineEnd hplain] at hfound ⊢
  | ifTaken number thenBody elseBody ihThen ihElse =>
      obtain ⟨hkindThen, hkindElse⟩ := Bool.and_eq_true_iff.mp hkind
      obtain ⟨hplainThen, hplainElse⟩ := Bool.and_eq_true_iff.mp hplain
      rw [mapEnds, matchesAt] at hfound ⊢
      by_cases htaken : (place.groups.lookup number).isSome = true
      · rw [if_pos htaken] at hfound ⊢
        exact ihThen hkindThen hplainThen hfound
      · rw [if_neg htaken] at hfound ⊢
        exact ihElse hkindElse hplainElse hfound

end Refinement

/-- Line ends match whatever text ends match. -/
theorem mem_matchesAt_of_strict (hplain : regex.isPlain = true)
    (hfound : found ∈ regex.strict.matchesAt place) : found ∈ regex.matchesAt place := by
  have hends : ∀ everyLine : Bool, true = true → ∀ place : Place,
      ∀ found ∈ textEnd.matchesAt place, found ∈ (lineEnd everyLine).matchesAt place ∨ False := by
    intro everyLine _ place found hfound
    obtain ⟨rfl, hrest⟩ := mem_matchesAt_textEnd_iff.mp hfound
    exact .inl (mem_matchesAt_lineEnd_iff.mpr ⟨rfl, by simp [Place.endsLine, hrest]⟩)
  have hmem := mem_matchesAt_mapEnds_or_late (fun _ _ _ => id) hends (lineEndsAre_true regex)
    hplain hfound
  rwa [mapEnds_lineEnd, or_false] at hmem

theorem endsLine_false_iff : place.endsLine false = true ↔ place.IsLate := by
  simp [Place.endsLine, Place.IsLate]

/-- A match that text ends do not have goes over a line end before a newline, behind which
there is at most the newline. -/
theorem mem_matchesAt_strict_or_isLate (hsingle : regex.isSingleLine = true)
    (hplain : regex.isPlain = true) (hfound : found ∈ regex.matchesAt place) :
    found ∈ regex.strict.matchesAt place ∨ found.IsLate := by
  have hends : ∀ everyLine : Bool, (!everyLine) = true → ∀ place : Place,
      ∀ found ∈ (lineEnd everyLine).matchesAt place,
        found ∈ textEnd.matchesAt place ∨ found.IsLate := by
    rintro everyLine hkind place found hfound
    obtain rfl : everyLine = false := by simpa using hkind
    obtain ⟨rfl, hend⟩ := mem_matchesAt_lineEnd_iff.mp hfound
    exact .inr (endsLine_false_iff.mp hend)
  rw [← mapEnds_lineEnd regex] at hfound
  exact mem_matchesAt_mapEnds_or_late (fun _ _ hreaches => hreaches.isLate) hends hsingle hplain
    hfound

end ShortlinkCatalog.Regex
