import ShortlinkCatalog.Text.CodePoint

/-!
# Ranges of code points

A class of characters is an ascending list of ranges, each given by its first and
last code point.  Membership stops at the first range that ends at or after the
code point, so the lists have to ascend.
-/

namespace ShortlinkCatalog

abbrev CodeRanges := List (Nat × Nat)

namespace CodeRanges

def contains (code : Nat) : CodeRanges → Bool
  | [] => false
  | (first, last) :: ranges =>
      if code ≤ last then first ≤ code else contains code ranges

/-- Whether each range is well formed and starts after the one before it. -/
def ascend : CodeRanges → Bool
  | [] => true
  | [(first, last)] => first ≤ last
  | (first, last) :: (next, stop) :: ranges =>
      first ≤ last && last < next && ascend ((next, stop) :: ranges)

end CodeRanges

end ShortlinkCatalog
