import ShortlinkCatalog.Text.Blank
import ShortlinkCatalog.Text.CaseMap
import ShortlinkCatalog.Text.DecimalDigit

/-!
# Classes of characters

A class is what a regular expression writes in brackets: characters, ranges of them, and
classes with a name, or all characters but these.  Without regard to case, a character is in
a class if some character with the same case forms is, whichever of the two is the capital.
-/

namespace ShortlinkCatalog

/-- What characters have in common that differ in case only. -/
def Text.caseKey (character : CodePoint) : Text := Text.upperForm (Text.simpleLower character)

inductive ClassItem
  | range (bounds : CodePoint × CodePoint)
  | digit (wanted : Bool)
  | blank (wanted : Bool)
deriving DecidableEq, Repr

structure CharacterClass where
  excluded : Bool
  items : List ClassItem
deriving DecidableEq, Repr

namespace CharacterClass

def ofRanges (ranges : List (CodePoint × CodePoint)) : CharacterClass := ⟨false, ranges.map .range⟩

/-- The class of one character. -/
def single (character : CodePoint) : CharacterClass := ofRanges [(character, character)]

/-- Whether a character has the case forms of some character of a range. -/
def rangeHasKey (bounds : CodePoint × CodePoint) (key : Text) : Bool :=
  (List.range' bounds.1.toNat (bounds.2.toNat + 1 - bounds.1.toNat)).any fun code =>
    Text.caseKey (CodePoint.ofNat code) == key

def itemContains (ignoreCase : Bool) (character : CodePoint) : ClassItem → Bool
  | .range bounds =>
      if ignoreCase then rangeHasKey bounds (Text.caseKey character)
      else bounds.1 ≤ character && character ≤ bounds.2
  | .digit wanted => Text.isDecimalDigit character == wanted
  | .blank wanted => Text.isBlank character == wanted

def contains (charClass : CharacterClass) (ignoreCase : Bool) (character : CodePoint) : Bool :=
  let found := charClass.items.any (itemContains ignoreCase character)
  if charClass.excluded then !found else found

end CharacterClass

end ShortlinkCatalog
