import ShortlinkCatalog.Text.CaseMap
import ShortlinkCatalog.Text.Cased

/-!
# Lower and upper case of texts

Upper case maps each character on its own.  Lower case does too, but for the
capital sigma: at the end of a word it becomes the final form.  It ends a word when,
ignorable characters apart, a cased character comes before it and none comes next.
-/

namespace ShortlinkCatalog.Text

def capitalSigma : CodePoint := '\u03a3'

/-- Whether the first character that is not ignorable has case. -/
def meetsCased (text : Text) : Bool :=
  match text.dropWhile isCaseIgnorable with
  | [] => false
  | character :: _ => isCased character

/-- The lower-case form of `character` between the text `before`, read backwards,
and the text `after`. -/
def lowerForm (before : Text) (character : CodePoint) (after : Text) : Text :=
  if character == capitalSigma then
    if meetsCased before && !meetsCased after then ['\u03c2'] else ['\u03c3']
  else if character.toNat == 0x130 then ['i', '\u0307']
  else [simpleLower character]

def lowerAfter (before : Text) : Text → Text
  | [] => []
  | character :: rest =>
      lowerForm before character rest ++ lowerAfter (character :: before) rest

def toLower (text : Text) : Text := lowerAfter [] text

def toUpper (text : Text) : Text := text.flatMap upperForm

end ShortlinkCatalog.Text
