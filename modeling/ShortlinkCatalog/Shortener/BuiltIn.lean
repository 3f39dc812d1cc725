import ShortlinkCatalog.Pattern.CharacterClass
import ShortlinkCatalog.Pattern.Regex
import ShortlinkCatalog.Shortener.Clean
import ShortlinkCatalog.Text.Case

/-!
# Built-in shorteners

Two of the services are branded domains of Bitly and share its rules.  The others
have rules of their own: deb.li shows a preview of each link under `/p/`, and the
codes of s.uconn.edu do not depend on case.
-/

namespace ShortlinkCatalog.BuiltIn

def digits : CodePoint × CodePoint := ('0', '9')
def upperLetters : CodePoint × CodePoint := ('A', 'Z')
def lowerLetters : CodePoint × CodePoint := ('a', 'z')
def exactly (character : CodePoint) : CodePoint × CodePoint := (character, character)

/-- One character of some ranges. -/
def oneOf (ranges : List (CodePoint × CodePoint)) : Regex :=
  .one ((CharacterClass.ofRanges ranges).contains false ·)

/-- One or more characters of some ranges, and nothing else. -/
def wholly (ranges : List (CodePoint × CodePoint)) : Regex :=
  .inSequence [.textStart, .repeated (oneOf ranges) 1 none false, .textEnd]

/-- A code is vanity if it does not look like a generated one. -/
def differsFrom (generated : Regex) : VanityTest := .ofCharacters fun shortcode =>
  !generated.matchesStart shortcode

def bitlyPattern : Pattern :=
  (wholly [digits, upperLetters, lowerLetters, exactly '_', exactly '-']).toPattern
    "^[0-9A-Za-z_-]+\\Z"

/-- Generated codes are a digit and six letters or digits. -/
def bitlyVanity : VanityTest := differsFrom <| .inSequence
  [.textStart, oneOf [digits],
    .repeated (oneOf [digits, upperLetters, lowerLetters]) 6 (some 6) false, .textEnd]

/-- Plus signs at the end open the statistics of a link. -/
def bitlyHook : CleanHook := fun candidate _ => Text.trimEnd (· == '+') candidate

def debliPattern : Pattern :=
  (wholly [digits, upperLetters, lowerLetters, exactly '_', exactly '-']).toPattern
    "^[0-9A-Za-z_-]+\\Z"

/-- Generated keys are two to six letters or digits. -/
def debliVanity : VanityTest := differsFrom <| .inSequence
  [.textStart, .repeated (oneOf [digits, upperLetters, lowerLetters]) 2 (some 6) false, .textEnd]

/-- The preview of a link names the same key. -/
def debliHook : CleanHook := fun candidate _ =>
  (Text.dropStart? "p/" candidate).getD candidate

def qrcxPattern : Pattern := (wholly [digits, lowerLetters]).toPattern "^[0-9a-z]+\\Z"

def uconnPattern : Pattern :=
  (wholly [digits, lowerLetters, exactly '_', exactly '-']).toPattern "^[0-9a-z_-]+\\Z"

/-- Generated codes are up to four letters or digits. -/
def uconnVanity : VanityTest := differsFrom <| .inSequence
  [.textStart, .repeated (oneOf [digits, lowerLetters]) 1 (some 4) false, .textEnd]

def uconnHook : CleanHook := fun candidate _ => Text.toLower candidate

def allst : Shortener where
  name := "allst"
  host := "a.ll.st"
  baseUrl := "http://a.ll.st/"
  alphabet := "0-9A-Za-z_-"
  pattern := some bitlyPattern
  hook := some bitlyHook
  vanity := some bitlyVanity

def debli : Shortener where
  name := "debli"
  host := "deb.li"
  baseUrl := "https://deb.li/"
  alphabet := "0-9A-Za-z_-"
  pattern := some debliPattern
  hook := some debliHook
  vanity := some debliVanity

def qrcx : Shortener where
  name := "qrcx"
  host := "qr.cx"
  baseUrl := "http://qr.cx/"
  alphabet := "0-9a-z"
  pattern := some qrcxPattern
  hook := none
  vanity := none

def redht : Shortener where
  name := "redht"
  host := "red.ht"
  baseUrl := "https://red.ht/"
  alphabet := "0-9A-Za-z_-"
  pattern := some bitlyPattern
  hook := some bitlyHook
  vanity := some bitlyVanity

def uconn : Shortener where
  name := "uconn"
  host := "s.uconn.edu"
  baseUrl := "https://s.uconn.edu/"
  alphabet := "0-9a-z_-"
  pattern := some uconnPattern
  hook := some uconnHook
  vanity := some uconnVanity

def shorteners : List Shortener := [allst, debli, qrcx, redht, uconn]

end ShortlinkCatalog.BuiltIn
