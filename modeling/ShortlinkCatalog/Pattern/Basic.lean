import ShortlinkCatalog.Text.Basic

/-!
# Patterns for shortcodes

A pattern is the text that it is written as, which messages and listings show, and a way to
search.  All that is asked of a search is where the leftmost match ends, so any way to search
makes a pattern, not only the notation of regular expressions.
-/

namespace ShortlinkCatalog

/-- A written pattern, with the place where the leftmost match in a text ends. -/
structure Pattern where
  text : Text
  searchEnd : Text → Option Nat

/-- Whether a pattern accepts a shortcode.  A newline at the end of a shortcode has
to be part of the match, since the code would not be one without it. -/
def Pattern.accepts (pattern : Pattern) (shortcode : Text) : Bool :=
  match pattern.searchEnd shortcode with
  | none => false
  | some stop => !(shortcode.getLast? == some '\n' && stop + 1 == shortcode.length)

end ShortlinkCatalog
