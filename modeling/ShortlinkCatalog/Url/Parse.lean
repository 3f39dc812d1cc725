import ShortlinkCatalog.Decimal.Integer
import ShortlinkCatalog.Text.Percent
import ShortlinkCatalog.Text.Quoted
import ShortlinkCatalog.Url.Host

/-!
# Accepted URLs

Cutting a text into the parts of a URL never fails, so what a strict reader would
refuse is checked on the parts, in a fixed order: control characters, brackets in
the authority, characters that are marks in disguise, the port, the characters of
the host, and percent escapes in host, path and fragment.  The first fault is the
reason given.  User information and query are not looked at.
-/

namespace ShortlinkCatalog.Url

/-- A part of a URL in which percent signs have to begin escapes. -/
inductive EscapedPart
  | host
  | path
  | fragment
deriving DecidableEq, Repr

inductive Reason
  | controlCharacter
  | misplacedBracket
  | futureAddress
  | bracketedIPv4
  | noAddress (host : Text)
  | markLikeCharacter (authority : Text)
  | portNotDecimal (port : Text)
  | portTooLong (digits : Nat)
  | portOutOfRange
  | hostCharacter (character : CodePoint)
  | percentEscape (part : EscapedPart)
deriving DecidableEq, Repr

def EscapedPart.name : EscapedPart → Text
  | .host => "host"
  | .path => "path"
  | .fragment => "fragment"

def Reason.message : Reason → Text
  | .controlCharacter => "Control character in URL"
  | .misplacedBracket => "Invalid IPv6 URL"
  | .futureAddress => "IPvFuture address is invalid"
  | .bracketedIPv4 => "An IPv4 address cannot be in brackets"
  | .noAddress host => Text.quoted host ++ " does not appear to be an IPv4 or IPv6 address"
  | .markLikeCharacter authority =>
      "netloc '" ++ authority ++ "' contains invalid characters under NFKC normalization"
  | .portNotDecimal port =>
      "Port could not be cast to integer value as " ++ Text.quoted port
  | .portTooLong digits => Decimal.tooManyDigitsMessage digits
  | .portOutOfRange => "Port out of range 0-65535"
  | .hostCharacter character =>
      "Invalid character " ++ Text.quoted [character] ++ " in host name"
  | .percentEscape part => "Invalid percent escape in " ++ part.name

/-- What is wrong with a host in brackets. -/
def addressFault (host : Text) : Option Reason :=
  if host.head? == some 'v' then
    if isFutureAddress host then none else some .futureAddress
  else if isIPv4 host then some .bracketedIPv4
  else if isIPv6 host then none
  else some (.noAddress host)

/-- What is wrong with the brackets of an authority.  Where the host part has none,
those of the user information make its plain host be read as an address. -/
def bracketFault (authority : Text) : Option Reason :=
  let opens := authority.contains '['
  let closes := authority.contains ']'
  if !opens && !closes then none
  else if !opens || !closes then some .misplacedBracket
  else
    let host := hostPart authority
    match Text.splitFirst '[' host with
    | (before, some bracketed) =>
        let (address, after) := Text.splitFirst ']' bracketed
        let after := after.getD []
        if !before.isEmpty then some .misplacedBracket
        else if !after.isEmpty && after.head? != some ':' then some .misplacedBracket
        else addressFault address
    | (_, none) => addressFault (Text.splitFirst ':' host).1

def markFault (authority : Text) : Option Reason :=
  if authority.any isMarkLike then some (.markLikeCharacter authority) else none

/-- The port of an authority; an empty one is no port. -/
def port (authority : Text) : Except Reason (Option Nat) :=
  let text := portText authority
  if text.isEmpty then .ok none
  else if !text.all Text.isAsciiDigit then .error (.portNotDecimal text)
  else if text.length > Decimal.maxDigits then .error (.portTooLong text.length)
  else
    let value := Decimal.natOfDigits text
    if value ≤ 65535 then .ok (some value) else .error .portOutOfRange

def hostFault (authority : Text) : Option Reason :=
  ((hostPart authority).find? (!isHostCharacter ·)).map .hostCharacter

def escapeFault (url : Url) : Option Reason :=
  if !Percent.wellFormed (hostPart url.authority) then some (.percentEscape .host)
  else if !Percent.wellFormed url.path then some (.percentEscape .path)
  else if !Percent.wellFormed url.fragment then some (.percentEscape .fragment)
  else none

/-- The first thing that is wrong with the parts of a URL. -/
def fault (url : Url) : Option Reason :=
  (bracketFault url.authority).or <| (markFault url.authority).or <|
    (match port url.authority with
      | .ok _ => none
      | .error reason => some reason).or <|
    (hostFault url.authority).or (escapeFault url)

/-- A text that is no URL, and why. -/
structure Malformed where
  url : Text
  reason : Reason
deriving DecidableEq, Repr

def Malformed.message (error : Malformed) : Text :=
  error.reason.message ++ ": " ++ Text.quoted error.url

def parse (text : Text) : Except Malformed Url :=
  if text.any Text.isControl then .error ⟨text, .controlCharacter⟩
  else
    match fault (cut text) with
    | some reason => .error ⟨text, reason⟩
    | none => .ok (cut text)

end ShortlinkCatalog.Url
