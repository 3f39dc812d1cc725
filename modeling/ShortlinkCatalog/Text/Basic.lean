import ShortlinkCatalog.Text.CodePoint

/-!
# Texts

A text is a list of code points, so that length, order and slicing are all by
code point.  This module holds the cuts that the rest of the library makes:
before and after a mark, at every mark, and at either end.  Every cut is an
operator on lists, so each law about it is a law about `takeWhile`, `dropWhile`
or `foldr`.
-/

namespace ShortlinkCatalog

abbrev Text := List CodePoint

namespace Text

def ofString (text : String) : Text := text.toList.map .char

instance : Coe String Text := ⟨ofString⟩

/-- The text before the first `mark`, and the text after it if there is one. -/
def splitFirst (mark : CodePoint) (text : Text) : Text × Option Text :=
  (text.takeWhile (· != mark),
    match text.dropWhile (· != mark) with
    | [] => none
    | _ :: rest => some rest)

/-- The text before the last `mark` if there is one, and the text after it. -/
def splitLast (mark : CodePoint) (text : Text) : Option Text × Text :=
  let (after, before) := splitFirst mark text.reverse
  (before.map List.reverse, after.reverse)

/-- The text after the last `mark`, which is the whole text if there is none. -/
def afterLast (mark : CodePoint) (text : Text) : Text :=
  (text.reverse.takeWhile (· != mark)).reverse

/-- The pieces between the marks; a text without marks is one piece. -/
def splitAll (mark : CodePoint) (text : Text) : List Text :=
  let pieces := text.foldr (fun character (pieces : Text × List Text) =>
    if character = mark then ([], pieces.1 :: pieces.2)
    else (character :: pieces.1, pieces.2)) ([], [])
  pieces.1 :: pieces.2

/-- The pieces with `separator` between them. -/
def join (separator : Text) : List Text → Text
  | [] => []
  | piece :: pieces => piece ++ pieces.flatMap (separator ++ ·)

/-- `text` without `start`, if it starts so. -/
def dropStart? (start text : Text) : Option Text :=
  if start.isPrefixOf text then some (text.drop start.length) else none

/-- Drops one trailing `mark`, if there is one. -/
def dropOneEnd (mark : CodePoint) (text : Text) : Text :=
  if text.getLast? = some mark then text.dropLast else text

/-- Drops every trailing character of the class. -/
def trimEnd (member : CodePoint → Bool) (text : Text) : Text :=
  (text.reverse.dropWhile member).reverse

/-- Drops the characters of the class at both ends. -/
def trim (member : CodePoint → Bool) (text : Text) : Text :=
  trimEnd member (text.dropWhile member)

/-- Order by code point; a text comes before its extensions. -/
def le : Text → Text → Bool
  | [], _ => true
  | _ :: _, [] => false
  | first :: left, second :: right =>
      if first.toNat < second.toNat then true
      else if second.toNat < first.toNat then false
      else le left right

/-- Whether a text holds no surrogate, so that it can be written in UTF-8. -/
def isEncodable (text : Text) : Bool := text.all (!·.isSurrogate)

def isAscii (character : CodePoint) : Bool := character.toNat < 0x80

def isAsciiLetter (character : CodePoint) : Bool :=
  ('a' ≤ character && character ≤ 'z') || ('A' ≤ character && character ≤ 'Z')

def isAsciiDigit (character : CodePoint) : Bool := '0' ≤ character && character ≤ '9'

/-- C0 controls and delete. -/
def isControl (character : CodePoint) : Bool :=
  character.toNat < 0x20 || character.toNat = 0x7f

def lowerAscii (character : CodePoint) : CodePoint :=
  if 'A' ≤ character && character ≤ 'Z' then CodePoint.ofNat (character.toNat + 32)
  else character

/-- The value of a hexadecimal digit in either case. -/
def hexValue? (character : CodePoint) : Option Nat :=
  if isAsciiDigit character then some (character.toNat - 48)
  else if 'a' ≤ character && character ≤ 'f' then some (character.toNat - 87)
  else if 'A' ≤ character && character ≤ 'F' then some (character.toNat - 55)
  else none

def isHexDigit (character : CodePoint) : Bool := (hexValue? character).isSome

def lowerHexDigit (value : Nat) : CodePoint :=
  if value < 10 then CodePoint.ofNat (48 + value) else CodePoint.ofNat (87 + value)

def upperHexDigit (value : Nat) : CodePoint :=
  if value < 10 then CodePoint.ofNat (48 + value) else CodePoint.ofNat (55 + value)

/-- The last `width` lower-case hexadecimal digits of `value`. -/
def lowerHex (value : Nat) : Nat → Text
  | 0 => []
  | width + 1 => lowerHex (value / 16) width ++ [lowerHexDigit (value % 16)]

/-- Capital hexadecimal digits, of which there are at least `width`. -/
def upperHex (width value : Nat) : Text :=
  let digits := (Nat.toDigits 16 value).map fun digit => CodePoint.char digit.toUpper
  List.replicate (width - digits.length) (CodePoint.char '0') ++ digits

/-- The decimal digits of a number. -/
def ofNat (value : Nat) : Text := (Nat.toDigits 10 value).map .char

def ofInt : Int → Text
  | .ofNat value => ofNat value
  | .negSucc value => '-' :: ofNat (value + 1)

end Text

end ShortlinkCatalog
