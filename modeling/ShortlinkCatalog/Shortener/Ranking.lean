import ShortlinkCatalog.Shortener.Basic

/-!
# Ranked shortcodes

The catalog of a shortener is crawled in rank order: generated codes before vanity
codes, then shorter ones before longer ones, then by code points.  The order is
total, so a list of codes has one ranking.
-/

namespace ShortlinkCatalog.Ranking

/-- Order by length, and then by code points. -/
def shorter (left right : Text) : Bool :=
  left.length < right.length || (left.length == right.length && Text.le left right)

/-- Whether `left` may stand before `right`. -/
def le (vanity : Text → Bool) (left right : Text) : Bool :=
  if vanity left = vanity right then shorter left right else vanity right

/-- The codes in rank order; without a test no code counts as vanity. -/
def sort (vanity : Option VanityTest) (shortcodes : List Text) : List Text :=
  shortcodes.mergeSort (le fun shortcode => vanity.any (· shortcode))

end ShortlinkCatalog.Ranking
