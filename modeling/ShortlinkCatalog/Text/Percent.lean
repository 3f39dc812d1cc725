import ShortlinkCatalog.Text.Utf8

/-!
# Percent escapes

An escape is a percent sign and two hexadecimal digits, and stands for one octet.
Decoding turns ASCII characters and escapes into octets of UTF-8 and reads them
leniently: malformed escapes stay as they are, and octets that are not UTF-8 become
U+FFFD.  A literal character outside ASCII ends the octets before it.
-/

namespace ShortlinkCatalog.Percent

/-- The escape of an octet. -/
def escapeOctet (octet : UInt8) : Text :=
  ['%', Text.upperHexDigit (octet.toNat / 16), Text.upperHexDigit (octet.toNat % 16)]

/-- Escapes the characters outside of a class. -/
def encode (isPlain : CodePoint → Bool) (text : Text) : Text :=
  text.flatMap fun character =>
    if isPlain character then [character]
    else (Utf8.encodeCharacter character).flatMap escapeOctet

/-- Whether every percent sign begins an escape. -/
def wellFormed : Text → Bool
  | [] => true
  | '%' :: first :: second :: rest =>
      if Text.isHexDigit first && Text.isHexDigit second then wellFormed rest else false
  | '%' :: _ => false
  | _ :: rest => wellFormed rest

/-- A part of a percent-encoded text. -/
inductive Piece
  | octet (value : UInt8)
  | literal (character : CodePoint)
deriving DecidableEq, Repr

def piece (character : CodePoint) : Piece :=
  if Text.isAscii character then .octet (UInt8.ofNat character.toNat) else .literal character

/-- The octet of the escape at the start of a text. -/
def escape? : Text → Option UInt8
  | '%' :: first :: second :: _ =>
      match Text.hexValue? first, Text.hexValue? second with
      | some high, some low => some (UInt8.ofNat (16 * high + low))
      | _, _ => none
  | _ => none

/-- The pieces of a text whose first `used` characters belong to an escape. -/
def piecesAfter (used : Nat) : Text → List Piece
  | [] => []
  | character :: rest =>
      match used with
      | left + 1 => piecesAfter left rest
      | 0 =>
          match escape? (character :: rest) with
          | some octet => .octet octet :: piecesAfter 2 rest
          | none => piece character :: piecesAfter 0 rest

def pieces (text : Text) : List Piece := piecesAfter 0 text

def step (reader : Utf8.Reader) : Piece → Utf8.Reader
  | .octet value => reader.step value
  | .literal character => reader.put .unexpectedEnd character 1

/-- Undoes percent escapes. -/
def decode (text : Text) : Text :=
  (((pieces text).foldl step Utf8.Reader.start).finish).map Utf8.Event.lossy

end ShortlinkCatalog.Percent
