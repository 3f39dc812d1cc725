import ShortlinkCatalog.Address.Basic
import ShortlinkCatalog.Decimal.Integer
import ShortlinkCatalog.Domain.Name
import ShortlinkCatalog.Text.Case
import ShortlinkCatalog.Text.Form
import ShortlinkCatalog.Url.Host

/-!
# Reading addresses

An address is read by cutting its text into parts, which never fails, and normalising
each part.  An address is changed by putting its parts together again with some of
them replaced, so that a changed address is as normal as one that was read.
-/

namespace ShortlinkCatalog.Address

/-- The longest text that is taken for an address or for one of its parts. -/
def maxLength : Nat := 65536

inductive Error
  | tooLong
  | partTooLong (name : Text)
  | control (character : CodePoint) (position : Nat)
  | controlInPart (name : Text) (character : CodePoint) (position : Nat)
  | noIPv4 (host : Text)
  | noIPv6 (host : Text)
  | noDomain (host : Text)
  | noPort (port : Text)
  | pathWithoutSlash
  | pathLikeAuthority
  | pathLikeScheme
deriving DecidableEq, Repr

def Error.message : Error → Text
  | .tooLong => "URL too long"
  | .partTooLong name => "URL component '" ++ name ++ "' too long"
  | .control character position =>
      "Invalid non-printable ASCII character in URL, " ++ Text.quoted [character]
        ++ " at position " ++ Text.ofNat position ++ "."
  | .controlInPart name character position =>
      "Invalid non-printable ASCII character in URL " ++ name ++ " component, "
        ++ Text.quoted [character] ++ " at position " ++ Text.ofNat position ++ "."
  | .noIPv4 host => "Invalid IPv4 address: " ++ Text.quoted host
  | .noIPv6 host => "Invalid IPv6 address: " ++ Text.quoted host
  | .noDomain host => "Invalid IDNA hostname: " ++ Text.quoted host
  | .noPort port => "Invalid port: " ++ Text.quoted port
  | .pathWithoutSlash => "For absolute URLs, path must be empty or begin with '/'"
  | .pathLikeAuthority => "Relative URLs cannot have a path starting with '//'"
  | .pathLikeScheme => "Relative URLs cannot have a path starting with ':'"

/-! ## Characters of parts -/

/-- Percent-encodes characters outside ASCII, control characters, the space and those of
the list; percent signs stay as they are. -/
def encodeExcept (excluded : Text) : Text → Text :=
  Percent.encode fun character =>
    0x20 < character.toNat && character.toNat < 0x7f && !excluded.contains character

def encodePath : Text → Text := encodeExcept "\x22#<>?\x60\x7b\x7d"

def encodeQuery : Text → Text := encodeExcept "\x22#<>"

def encodeFragment : Text → Text := encodeExcept "\x22<>\x60"

def encodeUser : Text → Text := encodeExcept "\x22#<>?\x60\x7b\x7d/;=@[\x5c]^|"

def encodeHostName : Text → Text := encodeExcept "#/:<>?@[]^"

/-! ## Hosts and ports -/

/-- Whether a text is four numbers with full stops between them. -/
def isLikeIPv4 (text : Text) : Bool :=
  let numbers := Text.splitAll '.' text
  numbers.length == 4
    && numbers.all fun number => !number.isEmpty && number.all Text.isAsciiDigit

/-- The host as requests name it.  What looks like an address has to be one; other names
in ASCII are encoded, and those outside it have an ASCII form. -/
def readHost (host : Text) : Except Error Text :=
  if host.isEmpty then .ok []
  else if isLikeIPv4 host then if Url.isIPv4 host then .ok host else .error (.noIPv4 host)
  else if host.head? == some '[' && host.getLast? == some ']' then
    let address := (host.drop 1).dropLast
    if Url.isIPv6 address then .ok address else .error (.noIPv6 host)
  else if host.all Text.isAscii then .ok (encodeHostName (host.map Text.lowerAscii))
  else (Domain.encode (Text.toLower host)).mapError fun _ => .noDomain host

def defaultPorts : List (Text × Int) :=
  [("ftp", 21), ("http", 80), ("https", 443), ("ws", 80), ("wss", 443)]

/-- The port, if it is given and not the default one of the scheme. -/
def readPort (scheme port : Text) : Except Error (Option Int) :=
  if port.isEmpty then .ok none
  else
    match Decimal.parseAnyScript? port with
    | none => .error (.noPort port)
    | some number => .ok (if defaultPorts.lookup scheme == some number then none else some number)

/-! ## Paths -/

/-- Takes steps to the same and to the parent directory; above the root there is
none. -/
def directories (segments : List Text) : List Text :=
  (segments.foldl (fun (taken : List Text) (segment : Text) =>
    if segment == "." then taken
    else if segment == ".." then
      if taken.isEmpty || taken == [[]] then taken else taken.drop 1
    else segment :: taken) []).reverse

def normalPath (path : Text) : Text := Text.join "/" (directories (Text.splitAll '/' path))

/-- What keeps a path from standing where it does. -/
def pathFault (hasScheme hasAuthority : Bool) (path : Text) : Option Error :=
  if hasAuthority then
    if !path.isEmpty && path.head? != some '/' then some .pathWithoutSlash else none
  else if hasScheme then none
  else if path.take 2 == "//" then some .pathLikeAuthority
  else if path.head? == some ':' then some .pathLikeScheme
  else none

/-! ## Parts -/

/-- The parts of an address as they are written. -/
structure Parts where
  scheme : Text
  authority : Text
  path : Text
  query : Option Text
  fragment : Option Text
deriving DecidableEq, Repr

/-- The scheme before the first colon, which may be empty, and what follows it. -/
def cutScheme (text : Text) : Text × Text :=
  match Text.splitFirst ':' text with
  | (scheme, some rest) =>
      if scheme.isEmpty || Url.isScheme scheme then (scheme, rest) else ([], text)
  | (_, none) => ([], text)

def Parts.cut (text : Text) : Parts :=
  let (scheme, rest) := cutScheme text
  let (authority, rest) := Url.cutAuthority rest
  let (rest, fragment) := Text.splitFirst '#' rest
  let (path, query) := Text.splitFirst '?' rest
  ⟨scheme, authority, path, query, fragment⟩

/-- The host at the start of a text: up to the last closing bracket if it starts with an
opening one, else up to a colon. -/
def hostStart (text : Text) : Text :=
  match text.head? == some '[', Text.splitLast ']' text with
  | true, (some address, _) => address ++ "]"
  | _, _ => (Text.splitFirst ':' text).1

/-- User information, host and port of an authority. -/
def cutAuthority (authority : Text) : Text × Text × Text :=
  let (user, site) := Text.splitLast '@' authority
  let host := hostStart site
  let after := site.drop host.length
  (user.getD [], host, (Text.dropStart? ":" after).getD after)

/-- Reads parts, with another host than that of the authority if one is given. -/
def ofParts (parts : Parts) (newHost : Option Text) : Except Error Address := do
  let (user, host, port) := cutAuthority parts.authority
  let user := encodeUser user
  let host ← readHost (newHost.getD host)
  let port ← readPort parts.scheme port
  let hasScheme := !parts.scheme.isEmpty
  let hasAuthority := !user.isEmpty || !host.isEmpty || port.isSome
  match pathFault hasScheme hasAuthority parts.path with
  | some error => throw error
  | none =>
      let path := if hasScheme || hasAuthority then normalPath parts.path else parts.path
      return ⟨parts.scheme.map Text.lowerAscii, user, host, port, encodePath path,
        parts.query.map encodeQuery, parts.fragment.map encodeFragment⟩

/-- The first control character of a text, and its position. -/
def firstControl? (text : Text) : Option (CodePoint × Nat) :=
  (text.find? Text.isControl).map fun character => (character, text.idxOf character)

/-- Reads an address. -/
def parse (text : Text) : Except Error Address :=
  if text.length > maxLength then .error .tooLong
  else
    match firstControl? text with
    | some (character, position) => .error (.control character position)
    | none => ofParts (.cut text) none

/-! ## Changes -/

def parts (address : Address) : Parts :=
  ⟨address.scheme, address.authority, address.path, address.query, address.fragment⟩

/-- What is wrong with a part whatever it stands for. -/
def partFault (part : Text × Text) : Option Error :=
  if part.2.length > maxLength then some (.partTooLong part.1)
  else (firstControl? part.2).map fun (character, position) =>
    .controlInPart part.1 character position

def Parts.fault (parts : Parts) (newHost : Option Text) : Option Error :=
  let optional (name : Text) (part : Option Text) : List (Text × Text) :=
    (part.map (name, ·)).toList
  let required : List (Text × Text) :=
    [("scheme", parts.scheme), ("authority", parts.authority), ("path", parts.path)]
  (required ++ optional "query" parts.query ++ optional "fragment" parts.fragment
    ++ optional "host" newHost).findSome? partFault

/-- The address with these parts and, if one is given, with another host. -/
def remake (parts : Parts) (newHost : Option Text) : Except Error Address :=
  let newHost := newHost.map fun host => if host.contains ':' then "[" ++ host ++ "]" else host
  match parts.fault newHost with
  | some error => .error error
  | none => ofParts parts newHost

/-- The address with the fields as its query. -/
def withFields (fields : Form.Fields) (address : Address) : Except Error Address :=
  remake { address.parts with query := some (Form.encode fields) } none

/-- The address that `target` names for a client of the site `base`: below it, if the
target is relative. -/
def below (base target : Address) : Except Error Address :=
  if target.isRelative then
    let directory := if base.target.getLast? == some '/' then base.target else base.target ++ "/"
    let below := target.target.dropWhile fun character : CodePoint => character == '/'
    let (path, query) := Text.splitFirst '?' (directory ++ below)
    remake { base.parts with path, query } none
  else .ok target

end ShortlinkCatalog.Address
