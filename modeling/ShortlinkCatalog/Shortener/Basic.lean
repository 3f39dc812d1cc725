import ShortlinkCatalog.Pattern.Basic
import ShortlinkCatalog.Url.Basic

/-!
# Shorteners

A shortener is a service whose links are a base URL followed by a shortcode.  What
is special about a service is data of its descriptor: a pattern that its shortcodes
follow, a hook that finishes their cleaning, and a heuristic that tells codes chosen
by people from generated ones.  A pattern is only searched with, so every way to search
will do.
-/

namespace ShortlinkCatalog

/-- Turns a candidate from the path of a URL into a shortcode. -/
abbrev CleanHook := Text → Url → Text

/-- A heuristic for codes that people chose, and what it makes of a code that is missing:
an answer, or the reason for which it has none. -/
structure VanityTest where
  holds : Text → Bool
  ofMissing : Except Text Bool

namespace VanityTest

instance : CoeFun VanityTest fun _ => Text → Bool := ⟨holds⟩

/-- A test that looks at the characters of a code, so that it needs one. -/
def ofCharacters (holds : Text → Bool) : VanityTest :=
  ⟨holds, .error "expected string or bytes-like object, got 'NoneType'"⟩

end VanityTest

structure Shortener where
  name : Text
  host : Text
  baseUrl : Text
  alphabet : Text
  pattern : Option Pattern
  hook : Option CleanHook
  vanity : Option VanityTest

namespace Shortener

/-- Whether a shortcode is taken for one that a person chose. -/
def isVanity (shortener : Shortener) (shortcode : Text) : Bool :=
  match shortener.vanity with
  | none => false
  | some test => test shortcode

/-- Whether a shortcode follows the pattern, if there is one. -/
def accepts (shortener : Shortener) (shortcode : Text) : Bool :=
  match shortener.pattern with
  | none => true
  | some pattern => pattern.accepts shortcode

end Shortener

end ShortlinkCatalog
