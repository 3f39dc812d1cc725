import ShortlinkCatalog.Text.Basic

/-!
# Blank characters

Two classes of white space occur.  Header values and configuration lines are
trimmed of `isBlank`, which holds the separators that Unicode gives a
bidirectional role, so also the information separators U+001C to U+001F.  Written
numbers are trimmed of `isWhiteSpace`, the Unicode property of that name, which
leaves those four out.
-/

namespace ShortlinkCatalog.Text

/-- The Unicode property White_Space. -/
def isWhiteSpace (character : CodePoint) : Bool :=
  let code := character.toNat
  (9 ≤ code && code ≤ 13) || code == 0x20 || code == 0x85 || code == 0xa0 || code == 0x1680
    || (0x2000 ≤ code && code ≤ 0x200a) || code == 0x2028 || code == 0x2029
    || code == 0x202f || code == 0x205f || code == 0x3000

/-- White space, or one of the four information separators. -/
def isBlank (character : CodePoint) : Bool :=
  isWhiteSpace character || (0x1c ≤ character.toNat && character.toNat ≤ 0x1f)

/-- Space, tab, line feed, vertical tab, form feed and carriage return. -/
def isAsciiBlank (character : CodePoint) : Bool :=
  character == ' ' || (9 ≤ character.toNat && character.toNat ≤ 13)

end ShortlinkCatalog.Text
