import ShortlinkCatalog.Text.Basic
import ShortlinkCatalog.Text.Printable

/-!
# Quoted texts

Messages quote the texts they speak of so that every character can be read off.
Single quotes are used, or double quotes where the text holds a single quote and no
double one.  The quote in use and the backslash are escaped, and so is every
character that is not printable, by the shortest of three hexadecimal forms.
-/

namespace ShortlinkCatalog.Text

/-- The quote character for a text with these characters. -/
def quoteMark (text : Text) : CodePoint :=
  if text.contains '\x27' && !text.contains '\x22' then '\x22' else '\x27'

/-- The escape of a code point by its number, of two, four or eight digits. -/
def escapeCode (code : Nat) : Text :=
  if code < 0x100 then '\x5c' :: 'x' :: lowerHex code 2
  else if code < 0x10000 then '\x5c' :: 'u' :: lowerHex code 4
  else '\x5c' :: 'U' :: lowerHex code 8

def escapeCharacter (mark character : CodePoint) : Text :=
  if character == mark || character == '\x5c' then ['\x5c', character]
  else if character == '\n' then ['\x5c', 'n']
  else if character == '\r' then ['\x5c', 'r']
  else if character == '\t' then ['\x5c', 't']
  else if isPrintable character then [character]
  else escapeCode character.toNat

def quoted (text : Text) : Text :=
  let mark := quoteMark text
  mark :: text.flatMap (escapeCharacter mark) ++ [mark]

/-- Octets are quoted like the characters of the same codes, after the letter `b`;
all of them but the printable ASCII ones are escaped. -/
def quotedOctets (octets : List UInt8) : Text :=
  let text : Text := octets.map fun octet => CodePoint.ofNat octet.toNat
  let mark := quoteMark text
  let escape (character : CodePoint) : Text :=
    if isAscii character then escapeCharacter mark character
    else '\x5c' :: 'x' :: lowerHex character.toNat 2
  "b" ++ [mark] ++ text.flatMap escape ++ [mark]

end ShortlinkCatalog.Text
