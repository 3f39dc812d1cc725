import ShortlinkCatalog.Json.Basic
import ShortlinkCatalog.Decimal.Shortest

/-!
# Writing JSON

Values are written without blanks.  In texts only what has to be escaped is:
the quote, the backslash, the control characters, and surrogates.
-/

namespace ShortlinkCatalog.Json

def escapeCharacter (character : CodePoint) : Text :=
  if character == '\x22' || character == '\x5c' then ['\x5c', character]
  else if character == '\n' then ['\x5c', 'n']
  else if character == '\r' then ['\x5c', 'r']
  else if character == '\t' then ['\x5c', 't']
  else if character.toNat < 0x20 || character.isSurrogate then
    '\x5c' :: 'u' :: Text.lowerHex character.toNat 4
  else [character]

def renderText (text : Text) : Text :=
  "\x22" ++ text.flatMap escapeCharacter ++ "\x22"

def renderFloat : Binary64 → Text
  | .nan => "NaN"
  | .infinite negative => if negative then "-Infinity" else "Infinity"
  | number => number.render

mutual

def render : Json → Text
  | .null => "null"
  | .bool value => if value then "true" else "false"
  | .int value => Text.ofInt value
  | .float value => renderFloat value
  | .string value => renderText value
  | .array items => "[" ++ Text.join "," (renderItems items) ++ "]"
  | .object members => "\x7b" ++ Text.join "," (renderMembers members) ++ "\x7d"

def renderItems : List Json → List Text
  | [] => []
  | item :: items => render item :: renderItems items

def renderMembers : List (Text × Json) → List Text
  | [] => []
  | (name, value) :: members =>
      (renderText name ++ ":" ++ render value) :: renderMembers members

end

end ShortlinkCatalog.Json
