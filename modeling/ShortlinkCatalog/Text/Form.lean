import ShortlinkCatalog.Text.Encodable
import ShortlinkCatalog.Text.Percent

/-!
# Form encoding

The query of a request is a list of keys and values in the form encoding: UTF-8
octets, of which the unreserved characters stand for themselves, a space is a plus
sign and all else is a percent escape in upper case.  The decoder accepts the same
encoding, and reads a percent sign without two digits and a missing equals sign
leniently.
-/

namespace ShortlinkCatalog.Form

abbrev Fields := List (Text × Text)

def isUnreserved (octet : UInt8) : Bool :=
  let character := CodePoint.ofNat octet.toNat
  Text.isAsciiLetter character || Text.isAsciiDigit character
    || character == '-' || character == '.' || character == '_' || character == '~'

def encodeOctet (octet : UInt8) : Text :=
  if isUnreserved octet then [CodePoint.ofNat octet.toNat]
  else if octet == 0x20 then ['+']
  else Percent.escapeOctet octet

def encodeText (text : Text) : Text := (Utf8.encode text).flatMap encodeOctet

def encodeField (field : Text × Text) : Text :=
  encodeText field.1 ++ "=" ++ encodeText field.2

def encode (fields : Fields) : Text := Text.join ['&'] (fields.map encodeField)

/-- Why fields cannot be encoded. -/
def fault? (fields : Fields) : Option Text.EncodeError :=
  fields.findSome? fun field => (Text.utf8Fault field.1).or (Text.utf8Fault field.2)

def decodeText (text : Text) : Text :=
  Percent.decode (text.map fun character : CodePoint => if character == '+' then ' ' else character)

def decodeField (text : Text) : Text × Text :=
  let (key, value) := Text.splitFirst '=' text
  (decodeText key, decodeText (value.getD []))

/-- The fields of an encoded query; empty ones between separators are dropped. -/
def decode (query : Text) : Fields :=
  ((Text.splitAll '&' query).filter (!·.isEmpty)).map decodeField

end ShortlinkCatalog.Form
