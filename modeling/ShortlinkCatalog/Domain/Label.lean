import ShortlinkCatalog.Domain.Direction
import ShortlinkCatalog.Domain.Joining
import ShortlinkCatalog.Domain.Permitted
import ShortlinkCatalog.Domain.Punycode
import ShortlinkCatalog.Domain.Script
import ShortlinkCatalog.Text.Composition
import ShortlinkCatalog.Text.Quoted

/-!
# Labels of a domain name

A label is valid if it is composed, has no misplaced hyphen, does not start with a
mark, holds only permitted characters or signs in a context that allows them, and
does not mix directions.  A label outside ASCII is written as Punycode after `xn--`;
what is written so has to be valid when it is read.  The first fault is reported.
-/

namespace ShortlinkCatalog.Domain

/-- A character of a label; positions count from one. -/
structure Spot where
  label : Text
  character : CodePoint
  position : Nat
deriving DecidableEq, Repr

/-- What is wrong with the directions in a label. -/
inductive DirectionFault
  | unknown (spot : Spot)
  | firstCharacter (label : Text)
  | character (position : Nat) (isRightToLeft : Bool)
  | mixedNumbers
  | lastCharacter
deriving DecidableEq, Repr

inductive Error
  | domainTooLong
  | emptyDomain
  | labelTooLong
  | emptyLabel
  | notComposed
  | innerHyphens
  | outerHyphen
  | initialMark
  | notPermitted (spot : Spot)
  | context (spot : Spot)
  | joiner (spot : Spot)
  | direction (fault : DirectionFault)
  | emptyPunycode
  | punycodeHyphen
  | notPunycode
deriving DecidableEq, Repr

/-- The code point of a spot in capital hexadecimal digits, at least four. -/
def Spot.number (spot : Spot) : Text :=
  "U+" ++ Text.upperHex 4 spot.character.toNat

def Spot.place (spot : Spot) : Text := " at position " ++ Text.ofNat spot.position

def Spot.quotedLabel (spot : Spot) : Text := Text.quoted spot.label

def DirectionFault.message : DirectionFault → Text
  | .unknown spot =>
      "Unknown directionality in label " ++ spot.quotedLabel ++ spot.place
  | .firstCharacter label =>
      "First codepoint in label " ++ Text.quoted label ++ " must be directionality L, R or AL"
  | .character position isRightToLeft =>
      let side : Text := if isRightToLeft then "right-to-left" else "left-to-right"
      "Invalid direction for codepoint at position " ++ Text.ofNat position ++ " in a " ++ side
        ++ " label"
  | .mixedNumbers => "Can not mix numeral types in a right-to-left label"
  | .lastCharacter => "Label ends with illegal codepoint directionality"

def Error.message : Error → Text
  | .domainTooLong => "Domain too long"
  | .emptyDomain => "Empty domain"
  | .labelTooLong => "Label too long"
  | .emptyLabel => "Empty Label"
  | .notComposed => "Label must be in Normalization Form C"
  | .innerHyphens => "Label has disallowed hyphens in 3rd and 4th position"
  | .outerHyphen => "Label must not start or end with a hyphen"
  | .initialMark => "Label begins with an illegal combining character"
  | .notPermitted spot =>
      "Codepoint " ++ spot.number ++ spot.place ++ " of " ++ spot.quotedLabel ++ " not allowed"
  | .context spot =>
      "Codepoint " ++ spot.number ++ " not allowed" ++ spot.place ++ " in " ++ spot.quotedLabel
  | .joiner spot =>
      "Unknown codepoint adjacent to joiner " ++ spot.number ++ spot.place ++ " in "
        ++ spot.quotedLabel
  | .direction fault => fault.message
  | .emptyPunycode => "Malformed A-label, no Punycode eligible content found"
  | .punycodeHyphen => "A-label must not end with a hyphen"
  | .notPunycode => "Invalid A-label"

/-- The name of the kind of error. -/
def Error.kind : Error → Text
  | .notPermitted _ => "InvalidCodepoint"
  | .context _ => "InvalidCodepointContext"
  | .direction _ => "IDNABidiError"
  | _ => "IDNAError"

/-! ## Contexts -/

def nonJoiner : CodePoint := '\u200c'
def joiner : CodePoint := '\u200d'
def middleDot : CodePoint := '\xb7'
def greekNumeralSign : CodePoint := '\u0375'
def hebrewMarks : List CodePoint := ['\u05f3', '\u05f4']
def katakanaDot : CodePoint := '\u30fb'

def isArabicDigit (character : CodePoint) : Bool :=
  '\u0660' ≤ character && character ≤ '\u0669'

def isExtendedArabicDigit (character : CodePoint) : Bool :=
  '\u06f0' ≤ character && character ≤ '\u06f9'

/-- Whether a character is permitted in some contexts. -/
def isContextual (character : CodePoint) : Bool :=
  character == middleDot || character == greekNumeralSign || hebrewMarks.contains character
    || character == katakanaDot || isArabicDigit character || isExtendedArabicDigit character

/-- The class of marks that join two consonants. -/
def viramaClass : Nat := 9

def isVirama (character : CodePoint) : Bool :=
  Text.combiningClass character.toNat == viramaClass

/-- Whether a joiner may stand between two texts, of which `before` is read backwards: a
virama comes before it, or it keeps two joining letters apart. -/
def joinerAllowed (before : Text) (character : CodePoint) (after : Text) : Bool :=
  before.head?.any isVirama
    || (character == nonJoiner
      && (before.dropWhile isTransparent).head?.any joinsNext
      && (after.dropWhile isTransparent).head?.any joinsPrevious)

/-- Whether a contextual character may stand between two texts, of which `before` is
read backwards. -/
def contextAllowed (before : Text) (character : CodePoint) (after : Text) : Bool :=
  let anywhere (member : CodePoint → Bool) : Bool := before.any member || after.any member
  if character == middleDot then
    before.head? == some (.char 'l') && after.head? == some (.char 'l')
  else if character == greekNumeralSign then after.head?.any isGreek
  else if hebrewMarks.contains character then before.head?.any isHebrew
  else if character == katakanaDot then
    anywhere fun other => other != katakanaDot && isJapanese other
  else if isArabicDigit character then !anywhere isExtendedArabicDigit
  else isExtendedArabicDigit character && !anywhere isArabicDigit

/-- The fault of the first character that may not stand where it does, where `before`
are the characters before those that are left, read backwards. -/
def characterFault (label before : Text) : Text → Option Error
  | [] => none
  | character :: after =>
      let spot : Spot := ⟨label, character, before.length + 1⟩
      let fault :=
        if isPermitted character then none
        else if character == nonJoiner || character == joiner then
          if joinerAllowed before character after then none else some (.joiner spot)
        else if isContextual character then
          if contextAllowed before character after then none else some (.context spot)
        else some (.notPermitted spot)
      fault.or (characterFault label (character :: before) after)

/-! ## Directions -/

/-- The fault of the first character whose direction is not known, from a position on. -/
def unknownDirection (label : Text) (position : Nat) : Text → Option DirectionFault
  | [] => none
  | character :: rest =>
      if (direction? character).isNone then some (.unknown ⟨label, character, position⟩)
      else unknownDirection label (position + 1) rest

/-- Whether a label has to be judged by its directions. -/
def hasRightToLeft (directions : List Direction) : Bool :=
  directions.any fun direction => direction == .rightToLeft || direction == .arabicNumber

/-- The first misplaced direction of a label, from a position on.  A label from right to
left has numbers of one kind, of which `numbers` is the one seen so far. -/
def misplacedDirection (isRightToLeft : Bool) (numbers : Option Direction) (position : Nat) :
    List Direction → Option DirectionFault
  | [] => none
  | direction :: rest =>
      let isNumber := direction == .arabicNumber || direction == .europeanNumber
      let isForeign := if isRightToLeft then direction == .leftToRight
        else direction == .rightToLeft || direction == .arabicNumber
      if isForeign then some (.character position isRightToLeft)
      else if isRightToLeft && isNumber then
        if numbers.any (· != direction) then some .mixedNumbers
        else misplacedDirection isRightToLeft (some direction) (position + 1) rest
      else misplacedDirection isRightToLeft numbers (position + 1) rest

/-- Whether a label may end so, marks aside. -/
def endsWell (isRightToLeft : Bool) (directions : List Direction) : Bool :=
  match directions.reverse.dropWhile (· == .mark) with
  | [] => false
  | .europeanNumber :: _ => true
  | .rightToLeft :: _ | .arabicNumber :: _ => isRightToLeft
  | .leftToRight :: _ => !isRightToLeft
  | _ => false

def directionFault (label : Text) : Option DirectionFault :=
  let directions := label.filterMap direction?
  (unknownDirection label 1 label).or <|
    if !hasRightToLeft directions then none
    else
      match directions.head? with
      | some .rightToLeft => judge true directions
      | some .leftToRight => judge false directions
      | _ => some (.firstCharacter label)
where
  judge (isRightToLeft : Bool) (directions : List Direction) : Option DirectionFault :=
    (misplacedDirection isRightToLeft none 1 directions).or
      (if endsWell isRightToLeft directions then none else some .lastCharacter)

/-! ## Labels -/

/-- The first thing that is wrong with a label. -/
def labelFault (label : Text) : Option Error :=
  if label.isEmpty then some .emptyLabel
  else if !Text.isComposed label then some .notComposed
  else if (label.drop 2).take 2 == "--" then some .innerHyphens
  else if label.head? == some (.char '-') || label.getLast? == some (.char '-') then
    some .outerHyphen
  else if label.head?.any Text.isMark then some .initialMark
  else (characterFault label [] label).or ((directionFault label).map .direction)

def check (label : Text) : Except Error Unit :=
  match labelFault label with
  | some error => .error error
  | none => .ok ()

/-- What a label written as Punycode starts with. -/
def punycodeMark : Text := "xn--"

/-- The label that a text of ASCII characters stands for. -/
def readLabel (text : Text) : Except Error Text := do
  let text := text.map Text.lowerAscii
  match Text.dropStart? punycodeMark text with
  | none =>
      check text
      return text
  | some written =>
      if written.isEmpty then throw .emptyPunycode
      else if written.getLast? == some (.char '-') then throw .punycodeHyphen
      else
        match Punycode.decode? written with
        | none => throw .notPunycode
        | some label =>
            check label
            return label

/-- The most characters that a written label may have. -/
def maxLabelLength : Nat := 63

/-- The ASCII form of a label. -/
def writeLabel (label : Text) : Except Error Text := do
  let written ←
    if label.all Text.isAscii then (readLabel label).map fun _ => label
    else (check label).map fun _ => punycodeMark ++ Punycode.encode label
  if maxLabelLength < written.length then throw .labelTooLong else return written

end ShortlinkCatalog.Domain
