import ShortlinkCatalog.Url.Basic

/-!
# Hosts

A host in brackets is an IPv6 address, possibly with a scope, or an address of a
future version.  Any other host is free of the ASCII characters that no host has;
characters outside ASCII are allowed unless their compatibility form holds one of
the marks at which a URL is cut.
-/

namespace ShortlinkCatalog.Url

/-- A decimal number up to 255 of at most three digits, without a leading zero. -/
def isIPv4Octet (text : Text) : Bool :=
  !text.isEmpty && text.length ≤ 3 && text.all Text.isAsciiDigit
    && !(text.head? == some '0' && text.length > 1)
    && text.foldl (fun value digit => 10 * value + (digit.toNat - 48)) 0 ≤ 255

def isIPv4 (text : Text) : Bool :=
  let octets := Text.splitAll '.' text
  octets.length == 4 && octets.all isIPv4Octet

/-- One to four hexadecimal digits. -/
def isHextet (text : Text) : Bool :=
  !text.isEmpty && text.length ≤ 4 && text.all Text.isHexDigit

/-- The groups of an IPv6 address, a final IPv4 address standing for two. -/
def ipv6Groups? (text : Text) : Option (List Text) :=
  let groups := Text.splitAll ':' text
  match groups.getLast? with
  | some last =>
      if last.contains '.' then
        if isIPv4 last then some (groups.dropLast ++ ["0", "0"].map Text.ofString) else none
      else some groups
  | none => none

/-- Whether groups make an address: eight of them, or fewer with one gap.  A gap is
an empty group; at either end of the address it shows as two. -/
def areIPv6Groups (groups : List Text) : Bool :=
  let inner := (groups.drop 1).dropLast
  let gaps := inner.countP List.isEmpty
  let startEmpty := groups.head? == some []
  let endEmpty := groups.getLast? == some []
  if groups.length > 9 || gaps > 1 then false
  else if gaps == 0 then groups.length == 8 && groups.all isHextet
  else
    let gap := inner.findIdx List.isEmpty + 1
    let leading := if startEmpty then gap - 1 else gap
    let trailing := groups.length - gap - 1 - (if endEmpty then 1 else 0)
    (!startEmpty || leading == 0) && (!endEmpty || trailing == 0) && leading + trailing < 8
      && (groups.filter (!·.isEmpty)).all isHextet

def isIPv6Address (text : Text) : Bool :=
  (Text.splitAll ':' text).length ≥ 3
    && match ipv6Groups? text with
      | some groups => areIPv6Groups groups
      | none => false

/-- An IPv6 address with or without a scope after a percent sign. -/
def isIPv6 (text : Text) : Bool :=
  match Text.splitFirst '%' text with
  | (address, none) => isIPv6Address address
  | (address, some scope) => !scope.isEmpty && !scope.contains '%' && isIPv6Address address

/-- `v`, a version in hexadecimal, a point and at least one character. -/
def isFutureAddress : Text → Bool
  | 'v' :: rest =>
      let version := rest.takeWhile Text.isHexDigit
      !version.isEmpty && match rest.drop version.length with
        | '.' :: address => !address.isEmpty && !address.contains '\n'
        | _ => false
  | _ => false

/-- ASCII characters that a host part may hold, and all others. -/
def isHostCharacter (character : CodePoint) : Bool :=
  Text.isAsciiLetter character || Text.isAsciiDigit character || !Text.isAscii character
    || ("-._~!$&\x27()*+,;=:[]<>\x22%" : Text).contains character

/-- Characters whose compatibility form (NFKC) holds one of the marks `/?#@:`. -/
def isMarkLike (character : CodePoint) : Bool :=
  [0x2047, 0x2048, 0x2049, 0x2100, 0x2101, 0x2105, 0x2106, 0x2a74, 0xfe13, 0xfe16, 0xfe55,
    0xfe56, 0xfe5f, 0xfe6b, 0xff03, 0xff0f, 0xff1a, 0xff1f, 0xff20].contains character.toNat

end ShortlinkCatalog.Url
