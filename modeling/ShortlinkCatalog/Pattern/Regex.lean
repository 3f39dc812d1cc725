import ShortlinkCatalog.Pattern.Basic

/-!
# Regular expressions

A regular expression is matched by backtracking.  A match is the list of the places that may
be left after it in order of preference: the first alternative before the others, more
repetitions before fewer or, if the repetition is lazy, fewer before more.  The first of them
is the match.  What holds of single characters and of neighbours is any test, so classes,
their complements, case and the edges of words are all the same here; flags act on such tests
and on line ends alone.
-/

namespace ShortlinkCatalog

inductive Regex
  | nothing
  /-- One character that passes a test. -/
  | one (member : CodePoint → Bool)
  /-- A test of the characters before and after a place. -/
  | between (holds : Option CodePoint → Option CodePoint → Bool)
  /-- The end of a text or the place before a newline that ends it; with `everyLine` the
  place before every newline. -/
  | lineEnd (everyLine : Bool)
  | textEnd
  | sequence (first second : Regex)
  | choice (first second : Regex)
  | repeated (body : Regex) (least : Nat) (most : Option Nat) (lazy : Bool)
  /-- Notes what `body` takes under a number. -/
  | group (number : Nat) (body : Regex)
  /-- What a group has taken once more, up to a likeness of characters. -/
  | same (number : Nat) (alike : CodePoint → CodePoint → Bool)
  /-- Whether `body` matches from `back` characters before the place on is what is wanted; a
  match moves nowhere. -/
  | look (back : Nat) (wanted : Bool) (body : Regex)
  /-- The preferred match of `body` and no other. -/
  | atomic (body : Regex)
  /-- One of two expressions, by whether a group has taken something. -/
  | ifTaken (number : Nat) (thenBody elseBody : Regex)

namespace Regex

/-- A place in a text: what is before it, backwards, what is left, and what the groups have
taken, the latest first. -/
structure Place where
  before : Text
  rest : Text
  groups : List (Nat × Text)
deriving DecidableEq, Repr

namespace Place

/-- The start of a text. -/
def start (text : Text) : Place := ⟨[], text, []⟩

/-- The place behind the next character, if that passes a test. -/
def pass? (member : CodePoint → Bool) (place : Place) : Option Place :=
  match place.rest with
  | [] => none
  | character :: rest =>
      if member character then some ⟨character :: place.before, rest, place.groups⟩ else none

/-- The place behind a text, up to a likeness of characters. -/
def passAll? (alike : CodePoint → CodePoint → Bool) : Text → Place → Option Place
  | [], place => some place
  | character :: text, place =>
      match place.pass? (alike character) with
      | none => none
      | some place => passAll? alike text place

/-- The place some characters before this one. -/
def back? : Nat → Place → Option Place
  | 0, place => some place
  | count + 1, place =>
      match place.before with
      | [] => none
      | character :: before => back? count ⟨before, character :: place.rest, place.groups⟩

/-- Whether a line ends here. -/
def endsLine (place : Place) (everyLine : Bool) : Bool :=
  place.rest = [] || place.rest = "\n" || everyLine && place.rest.head? = some '\n'

/-- The place with a note of what a group has taken since `start`. -/
def note (number : Nat) (start place : Place) : Place :=
  { place with
    groups := (number, start.rest.take (start.rest.length - place.rest.length)) :: place.groups }

end Place

/-! ## Matching -/

/-- The places after a number of steps. -/
def times (step : Place → List Place) : Nat → Place → List Place
  | 0, place => [place]
  | count + 1, place => (step place).flatMap (times step count)

/-- The places after any number of steps up to `most`, where a step that takes nothing is the
last one.  The others take a character each, so `fuel` for one step more than there are
characters is enough. -/
def upTo (step : Place → List Place) (lazy : Bool) : Nat → Option Nat → Place → List Place
  | 0, _, place => [place]
  | fuel + 1, most, place =>
      let further := if most = some 0 then [] else
        (step place).flatMap fun found =>
          if found.rest.length < place.rest.length then
            upTo step lazy fuel (most.map (· - 1)) found
          else [found]
      if lazy then place :: further else further ++ [place]

/-- The places after a match that begins at `place`, the preferred one first. -/
def matchesAt : Regex → Place → List Place
  | nothing, place => [place]
  | one member, place => (place.pass? member).toList
  | between holds, place => if holds place.before.head? place.rest.head? then [place] else []
  | lineEnd everyLine, place => if place.endsLine everyLine then [place] else []
  | textEnd, place => if place.rest = [] then [place] else []
  | sequence first second, place => (first.matchesAt place).flatMap second.matchesAt
  | choice first second, place => first.matchesAt place ++ second.matchesAt place
  | repeated body least most lazy, place =>
      (times body.matchesAt least place).flatMap fun found =>
        upTo body.matchesAt lazy (found.rest.length + 1) (most.map (· - least)) found
  | group number body, place => (body.matchesAt place).map (Place.note number place)
  | same number alike, place =>
      ((place.groups.lookup number).bind fun taken => place.passAll? alike taken).toList
  | look back wanted body, place =>
      match (place.back? back).bind fun start => (body.matchesAt start).head? with
      | some found => if wanted then [{ place with groups := found.groups }] else []
      | none => if wanted then [] else [place]
  | atomic body, place => (body.matchesAt place).head?.toList
  | ifTaken number thenBody elseBody, place =>
      if (place.groups.lookup number).isSome then thenBody.matchesAt place
      else elseBody.matchesAt place

/-- The place after the leftmost match that begins behind the text `before`, read backwards. -/
def searchFrom (regex : Regex) (before : Text) (text : Text) : Option Place :=
  match (regex.matchesAt ⟨before, text, []⟩).head? with
  | some place => some place
  | none =>
      match text with
      | [] => none
      | character :: rest => searchFrom regex (character :: before) rest

/-- The place after the leftmost match. -/
def search (regex : Regex) (text : Text) : Option Place := searchFrom regex [] text

/-- Whether there is a match at the start of a text. -/
def matchesStart (regex : Regex) (text : Text) : Bool :=
  !(regex.matchesAt (.start text)).isEmpty

/-- The pattern that searches for a regular expression. -/
def toPattern (regex : Regex) (text : Text) : Pattern :=
  { text, searchEnd := fun code => (regex.search code).map (·.before.length) }

/-! ## Derived expressions -/

/-- The start of a text. -/
def textStart : Regex := between fun before _ => before.isNone

/-- The start of a text and the place behind every newline. -/
def lineStart : Regex := between fun before _ => before.all (· == CodePoint.char '\n')

/-- The expressions one after the other. -/
def inSequence : List Regex → Regex
  | [] => .nothing
  | [regex] => regex
  | regex :: others => .sequence regex (inSequence others)

end Regex

end ShortlinkCatalog
