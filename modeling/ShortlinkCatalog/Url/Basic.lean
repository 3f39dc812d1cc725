import ShortlinkCatalog.Text.Basic

/-!
# The parts of a URL

A URL is cut at its marks from left to right: a scheme before the first colon if it
is spelled like one, an authority after two slashes up to the next slash, question
mark or number sign, and then path, query and fragment.  Every text can be cut so,
and the marks aside nothing is lost.
-/

namespace ShortlinkCatalog

structure Url where
  scheme : Text
  authority : Text
  path : Text
  query : Text
  fragment : Text
deriving DecidableEq, Repr

namespace Url

/-- Space and the C0 controls, which may stand before a URL. -/
def isLeadingBlank (character : CodePoint) : Bool := character.toNat ≤ 0x20

def isSchemeCharacter (character : CodePoint) : Bool :=
  Text.isAsciiLetter character || Text.isAsciiDigit character
    || character == '+' || character == '-' || character == '.'

/-- Whether a text is spelled like a scheme: it starts with a letter. -/
def isScheme : Text → Bool
  | [] => false
  | first :: rest => Text.isAsciiLetter first && rest.all isSchemeCharacter

/-- The scheme in lower case, and what follows its colon. -/
def cutScheme (text : Text) : Text × Text :=
  match Text.splitFirst ':' text with
  | (scheme, some rest) =>
      if isScheme scheme then (scheme.map Text.lowerAscii, rest) else ([], text)
  | (_, none) => ([], text)

def isAuthorityEnd (character : CodePoint) : Bool :=
  character == '/' || character == '?' || character == '#'

/-- The authority, and what follows it. -/
def cutAuthority : Text → Text × Text
  | '/' :: '/' :: rest =>
      (rest.takeWhile (!isAuthorityEnd ·), rest.dropWhile (!isAuthorityEnd ·))
  | text => ([], text)

/-- Cuts a text into the parts of a URL, leaving out the blanks before it. -/
def cut (text : Text) : Url :=
  let (scheme, rest) := cutScheme (text.dropWhile isLeadingBlank)
  let (authority, rest) := cutAuthority rest
  let (rest, fragment) := Text.splitFirst '#' rest
  let (path, query) := Text.splitFirst '?' rest
  ⟨scheme, authority, path, query.getD [], fragment.getD []⟩

/-- The part of an authority that names the host and the port. -/
def hostPart (authority : Text) : Text := Text.afterLast '@' authority

/-- What follows the host of a bracketed or plain host part, up to a port. -/
def portText (authority : Text) : Text :=
  let host := hostPart authority
  match (Text.splitFirst '[' host).2 with
  | some bracketed =>
      let after := ((Text.splitFirst ']' bracketed).2).getD []
      ((Text.splitFirst ':' after).2).getD []
  | none => ((Text.splitFirst ':' host).2).getD []

end Url

end ShortlinkCatalog
