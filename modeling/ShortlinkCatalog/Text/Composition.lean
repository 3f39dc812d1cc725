import ShortlinkCatalog.Text.Basic
import ShortlinkCatalog.Text.CombiningClass
import ShortlinkCatalog.Text.Composite

/-!
# Composed texts

One accented letter can be written in several ways.  A text is composed if it is its
own canonical form: every composite is taken apart, marks are put into the order of
their classes, and what can be put together again is, from left to right.  Hangul
syllables are composites by arithmetic; all others come from the table.
-/

namespace ShortlinkCatalog.Text

/-! ## Hangul -/

namespace Hangul

def firstSyllable : Nat := 0xac00
def firstLead : Nat := 0x1100
def firstVowel : Nat := 0x1161

/-- The code point before the first final consonant. -/
def beforeFinals : Nat := 0x11a7

def leads : Nat := 19
def vowels : Nat := 21

/-- The number of final consonants, of which the first is none. -/
def finals : Nat := 28

def isSyllable (code : Nat) : Bool :=
  firstSyllable ≤ code && code < firstSyllable + leads * vowels * finals

/-- A syllable without its final consonant and that consonant, or its lead and vowel. -/
def parts (code : Nat) : Nat × Nat :=
  let index := code - firstSyllable
  if index % finals = 0 then
    (firstLead + index / finals / vowels, firstVowel + index / finals % vowels)
  else (code - index % finals, beforeFinals + index % finals)

def compose? (first second : Nat) : Option Nat :=
  if firstLead ≤ first && first < firstLead + leads
      && firstVowel ≤ second && second < firstVowel + vowels then
    some (firstSyllable + ((first - firstLead) * vowels + (second - firstVowel)) * finals)
  else if isSyllable first && (first - firstSyllable) % finals = 0
      && beforeFinals < second && second < beforeFinals + finals then
    some (first + (second - beforeFinals))
  else none

end Hangul

/-! ## Canonical form -/

/-- The two characters that a composite stands for. -/
def parts? (code : Nat) : Option (Nat × Nat) :=
  if Hangul.isSyllable code then some (Hangul.parts code) else composites.lookup code

/-- The composite of two characters. -/
def compose? (first second : Nat) : Option Nat :=
  (Hangul.compose? first second).or
    ((composites.find? fun entry => entry.2.1 == first && entry.2.2 == second).map (·.1))

/-- Takes a composite apart, its first part up to `depth` times. -/
def decomposeWithin : Nat → Nat → List Nat
  | 0, code => [code]
  | depth + 1, code =>
      match parts? code with
      | none => [code]
      | some (first, second) => decomposeWithin depth first ++ [second]

/-- No composite stands for more than four characters. -/
def decompose (code : Nat) : List Nat := decomposeWithin 3 code

/-- Puts a code point before others, but after marks of lower classes. -/
def placeMark (code : Nat) : List Nat → List Nat
  | [] => [code]
  | next :: rest =>
      if 0 < combiningClass next && combiningClass next < combiningClass code then
        next :: placeMark code rest
      else code :: next :: rest

def orderMarks (codes : List Nat) : List Nat := codes.foldr placeMark []

/-- Composes code points with the last starter, where `starter` is that one if there is
one and `marks` are those after it that did not compose, last first.  A mark of the
same or a higher class in between keeps a character from composing. -/
def composeAfter (starter : Option Nat) (marks : List Nat) : List Nat → List Nat
  | [] => starter.toList ++ marks.reverse
  | code :: rest =>
      let isOpen := match marks with
        | [] => true
        | mark :: _ => combiningClass mark < combiningClass code
      match (if isOpen then starter else none).bind (compose? · code) with
      | some composite => composeAfter (some composite) marks rest
      | none =>
          if combiningClass code = 0 then
            starter.toList ++ marks.reverse ++ composeAfter (some code) [] rest
          else composeAfter starter (code :: marks) rest

def canonicalForm (codes : List Nat) : List Nat :=
  composeAfter none [] (orderMarks (codes.flatMap decompose))

/-- Whether a text is composed. -/
def isComposed (text : Text) : Bool :=
  let codes := text.map CodePoint.toNat
  !codes.any (replacedRanges.contains ·) && canonicalForm codes == codes

end ShortlinkCatalog.Text
