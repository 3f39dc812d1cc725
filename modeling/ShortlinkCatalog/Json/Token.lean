import ShortlinkCatalog.Json.Basic

/-!
# JSON tokens

A text is cut into tokens, each with its position, before any of it is understood.
A token that cannot be read keeps its fault, so that the parser reports it only
where it looks for such a token; what begins no token is `other`.  Numbers take as
many characters as can belong to them: `1.` is the number 1 and a point.
-/

namespace ShortlinkCatalog.Json

inductive SyntaxError
  | expectingValue
  | expectingName
  | expectingColon
  | expectingComma
  | unterminatedText
  | controlCharacter
  | invalidEscape
  | invalidUnicodeEscape
  | extraData
deriving DecidableEq, Repr

inductive Container
  | array
  | object
deriving DecidableEq, Repr

/-- Why a document cannot be read; the position counts from the start of the text. -/
inductive Fault
  | malformed (kind : SyntaxError) (position : Nat)
  | tooManyDigits (digits : Nat)
  | tooDeep (container : Container)
deriving DecidableEq, Repr

inductive Token
  | openArray
  | closeArray
  | openObject
  | closeObject
  | comma
  | colon
  | text (value : Text)
  | badText (fault : Fault)
  | scalar (value : Json)
  | badScalar (fault : Fault)
  | other
deriving Repr

structure Placed where
  token : Token
  position : Nat
deriving Repr

/-- The blanks that may stand between tokens. -/
def isSeparator (character : CodePoint) : Bool :=
  character == ' ' || character == '\t' || character == '\n' || character == '\r'

/-- The code unit that the first four characters write. -/
def codeUnit? (text : Text) : Option Nat :=
  let digits := text.take 4
  if digits.length == 4 then
    (digits.mapM Text.hexValue?).map fun values =>
      values.foldl (fun code value => 16 * code + value) 0
  else none

def isHighSurrogate (code : Nat) : Bool := 0xd800 ≤ code && code < 0xdc00
def isLowSurrogate (code : Nat) : Bool := 0xdc00 ≤ code && code < 0xe000

def pairCharacter (high low : Nat) : CodePoint :=
  CodePoint.ofNat (0x10000 + (high - 0xd800) * 0x400 + (low - 0xdc00))

/-- The character that an escape without a code stands for. -/
def simpleEscape? : CodePoint → Option CodePoint
  | '\x22' => some '\x22'
  | '\x5c' => some '\x5c'
  | '/' => some '/'
  | 'b' => some '\x08'
  | 'f' => some '\x0c'
  | 'n' => some '\n'
  | 'r' => some '\r'
  | 't' => some '\t'
  | _ => none

/-- An escape with a code, given the text after the letter `u` at `position`: its
character, and how many characters it has after the letter.  A second code counts
only if the two make a pair and the text does not end with it. -/
def unicodeEscape (position : Nat) (text : Text) : Except Fault (CodePoint × Nat) :=
  let invalid (position : Nat) : Except Fault (CodePoint × Nat) :=
    .error (.malformed .invalidUnicodeEscape position)
  if (text.drop 4).isEmpty then invalid position
  else
    match codeUnit? text with
    | none => invalid position
    | some high =>
        if isHighSurrogate high then
          match text.drop 4 with
          | '\x5c' :: 'u' :: next =>
              if (next.drop 4).isEmpty then .ok (CodePoint.ofNat high, 4)
              else
                match codeUnit? next with
                | none => invalid (position + 6)
                | some low =>
                    if isLowSurrogate low then .ok (pairCharacter high low, 10)
                    else .ok (CodePoint.ofNat high, 4)
          | _ => .ok (CodePoint.ofNat high, 4)
        else .ok (CodePoint.ofNat high, 4)

/-- An escape, given the text after the backslash at `position`. -/
def escape (start position : Nat) : Text → Except Fault (CodePoint × Nat)
  | [] => .error (.malformed .unterminatedText start)
  | 'u' :: rest => (unicodeEscape (position + 1) rest).map fun (value, used) => (value, used + 1)
  | letter :: _ =>
      match simpleEscape? letter with
      | some value => .ok (value, 1)
      | none => .error (.malformed .invalidEscape position)

/-- A quoted text that began at `start`: `done` holds what has been read, backwards,
`position` is that of the first character left, and `used` of those belong to an
escape already read.  Gives the token and the position after it. -/
def scanText (start : Nat) (done : Text) (position used : Nat) : Text → Token × Nat
  | [] => (.badText (.malformed .unterminatedText start), position)
  | character :: rest =>
      match used with
      | left + 1 => scanText start done (position + 1) left rest
      | 0 =>
          if character == '\x22' then (.text done.reverse, position + 1)
          else if character == '\x5c' then
            match escape start position rest with
            | .ok (value, used) => scanText start (value :: done) (position + 1) used rest
            | .error fault => (.badText fault, position + 1)
          else if character.toNat < 0x20 then
            (.badText (.malformed .controlCharacter position), position + 1)
          else scanText start (character :: done) (position + 1) 0 rest

/-- A number: its sign, and its digits before and after the point and in the exponent. -/
structure Number where
  negative : Bool
  whole : Text
  fraction : Text
  exponent : Option (Bool × Text)
deriving Repr

/-- The digits before the point: one zero, or digits that do not start with zero. -/
def wholeDigits : Text → Text
  | '0' :: _ => ['0']
  | text => text.takeWhile Text.isAsciiDigit

/-- The digits after a point. -/
def fractionDigits : Text → Text
  | '.' :: rest => rest.takeWhile Text.isAsciiDigit
  | _ => []

/-- Whether an exponent is negative, its digits, and its length with letter and sign. -/
def exponentPart : Text → Option (Bool × Text × Nat)
  | mark :: rest =>
      if mark == 'e' || mark == 'E' then
        let (negative, unsigned) := Decimal.splitSign rest
        let digits := unsigned.takeWhile Text.isAsciiDigit
        if digits.isEmpty then none
        else some (negative, digits, 1 + (rest.length - unsigned.length) + digits.length)
      else none
  | [] => none

/-- The number at the start of a text, and its length. -/
def number? (text : Text) : Option (Number × Nat) :=
  let negative := text.head? == some '-'
  let unsigned := if negative then text.drop 1 else text
  let whole := wholeDigits unsigned
  if whole.isEmpty then none
  else
    let afterWhole := unsigned.drop whole.length
    let fraction := fractionDigits afterWhole
    let fractionLength := if fraction.isEmpty then 0 else fraction.length + 1
    let exponent := exponentPart (afterWhole.drop fractionLength)
    let length := (if negative then 1 else 0) + whole.length + fractionLength
      + (exponent.map (·.2.2)).getD 0
    some (⟨negative, whole, fraction, exponent.map fun part => (part.1, part.2.1)⟩, length)

/-- A number without fraction and exponent is an integer. -/
def Number.token (number : Number) : Token :=
  if number.fraction.isEmpty && number.exponent.isNone then
    if number.whole.length > Decimal.maxDigits then
      .badScalar (.tooManyDigits number.whole.length)
    else .scalar (.int (Decimal.signed number.negative (Decimal.natOfDigits number.whole)))
  else
    let exponent := match number.exponent with
      | none => 0
      | some (negative, digits) => Decimal.signed negative (Decimal.natOfDigits digits)
    .scalar (.float (Binary64.ofWritten number.negative ⟨number.whole, number.fraction, exponent⟩))

/-- The words that are values. -/
def words : List (Text × Json) :=
  [("null", .null), ("true", .bool true), ("false", .bool false),
    ("NaN", .float .nan), ("Infinity", .float (.infinite false)),
    ("-Infinity", .float (.infinite true))]

def word? (text : Text) : Option (Token × Nat) :=
  (words.find? fun word => word.1.isPrefixOf text).map fun word =>
    (.scalar word.2, word.1.length)

/-- The token at the start of a text that begins with `character`, and the position
after it. -/
def tokenAt (position : Nat) (character : CodePoint) (rest : Text) : Token × Nat :=
  match character with
  | '[' => (.openArray, position + 1)
  | ']' => (.closeArray, position + 1)
  | '\x7b' => (.openObject, position + 1)
  | '\x7d' => (.closeObject, position + 1)
  | ',' => (.comma, position + 1)
  | ':' => (.colon, position + 1)
  | '\x22' => scanText position [] (position + 1) 0 rest
  | _ =>
      match word? (character :: rest) with
      | some (token, length) => (token, position + length)
      | none =>
          match number? (character :: rest) with
          | some (number, length) => (number.token, position + length)
          | none => (.other, position + 1)

/-- The tokens of a text from `position` on, those before `next` belonging to the
token read last; `done` holds the tokens so far, backwards. -/
def tokensFrom (done : List Placed) (position next : Nat) : Text → List Placed
  | [] => done.reverse
  | character :: rest =>
      if position < next || isSeparator character then
        tokensFrom done (position + 1) next rest
      else
        let (token, next) := tokenAt position character rest
        tokensFrom (⟨token, position⟩ :: done) (position + 1) next rest

def tokens (text : Text) : List Placed := tokensFrom [] 0 0 text

end ShortlinkCatalog.Json
