import Mathlib.Data.Prod.Lex
import ShortlinkCatalog.Proofs.Text.CodePoint
import ShortlinkCatalog.Shortener.Clean

/-!
# The rank order

The rank of a code is its key: the vanity flag, then the length, then the numbers of
its code points.  Keys are linearly ordered and a key determines its code, so a set of
codes has one ranking.  Sorting a list in which no code is repeated gives the ranking of
its codes.
-/

namespace ShortlinkCatalog

namespace Ranking

/-- What codes are ranked by, the first difference counting. -/
def key (vanity : Text → Bool) (code : Text) : Bool ×ₗ ℕ ×ₗ List ℕ :=
  toLex (vanity code, toLex (code.length, code.map CodePoint.toNat))

variable {vanity : Text → Bool}

theorem key_injective : Function.Injective (key vanity) := by
  intro left right heq
  simp only [key, EmbeddingLike.apply_eq_iff_eq, Prod.mk.injEq] at heq
  exact Text.map_toNat_injective heq.2.2

theorem shorter_iff (left right : Text) :
    shorter left right = true ↔
      toLex (left.length, left.map CodePoint.toNat) ≤
        toLex (right.length, right.map CodePoint.toNat) := by
  simp [shorter, Prod.Lex.toLex_le_toLex, Text.le_iff_map_toNat_le]

/-- The comparison that sorts is the order of keys. -/
theorem le_iff_key_le (left right : Text) :
    le vanity left right = true ↔ key vanity left ≤ key vanity right := by
  rw [le, key, key, Prod.Lex.toLex_le_toLex]
  by_cases hsame : vanity left = vanity right
  · simp [hsame, shorter_iff]
  · cases hleft : vanity left <;> cases hright : vanity right <;> simp_all

/-! ## Sorting -/

theorem sort_perm (test : Option VanityTest) (codes : List Text) :
    (sort test codes).Perm codes := List.mergeSort_perm codes _

theorem mem_sort {test : Option VanityTest} {codes : List Text} {code : Text} :
    code ∈ sort test codes ↔ code ∈ codes := (sort_perm test codes).mem_iff

theorem pairwise_mergeSort_key (vanity : Text → Bool) (codes : List Text) :
    (codes.mergeSort (le vanity)).Pairwise fun left right =>
      key vanity left ≤ key vanity right := by
  have hsorted : (codes.mergeSort (le vanity)).Pairwise fun left right =>
      le vanity left right = true := by
    apply List.pairwise_mergeSort
    · intro first second third hfirst hsecond
      rw [le_iff_key_le] at hfirst hsecond ⊢
      exact hfirst.trans hsecond
    · intro left right
      simp only [Bool.or_eq_true, le_iff_key_le]
      exact le_total _ _
  exact hsorted.imp fun hle => (le_iff_key_le _ _).mp hle

/-! ## Rankings of sets -/

/-- A set of codes has one ranking. -/
theorem eq_of_pairwise_lt {left right : List Text}
    (hleft : left.Pairwise fun first second => key vanity first < key vanity second)
    (hright : right.Pairwise fun first second => key vanity first < key vanity second)
    (hmem : ∀ code, code ∈ left ↔ code ∈ right) : left = right := by
  have hnodup : ∀ codes : List Text,
      (codes.Pairwise fun first second => key vanity first < key vanity second) →
        codes.Nodup := by
    intro codes hcodes
    exact hcodes.imp fun hlt heq => hlt.ne (congrArg _ heq)
  have hperm : left.Perm right :=
    (List.perm_ext_iff_of_nodup (hnodup left hleft) (hnodup right hright)).mpr hmem
  exact hperm.eq_of_pairwise (fun _ _ _ _ hlt hgt => absurd hlt hgt.asymm) hleft hright

end Ranking

namespace Shortener

/-- The key that the codes of a shortener are ranked by. -/
def rankKey (shortener : Shortener) (code : Text) : Bool ×ₗ ℕ ×ₗ List ℕ :=
  Ranking.key shortener.isVanity code

theorem vanity_any_eq_isVanity (shortener : Shortener) :
    (fun code => shortener.vanity.any (· code)) = shortener.isVanity := by
  funext code
  cases hvanity : shortener.vanity <;> simp [isVanity, hvanity]

/-- Codes that a person chose are ranked after the others. -/
theorem isVanity_le_of_rankKey_lt {shortener : Shortener} {left right : Text}
    (hlt : shortener.rankKey left < shortener.rankKey right) :
    shortener.isVanity left ≤ shortener.isVanity right :=
  Prod.Lex.monotone_fst _ _ hlt.le

theorem mem_sort {shortener : Shortener} {codes : List Text} {code : Text} :
    code ∈ shortener.sort codes ↔ code ∈ codes := Ranking.mem_sort

/-- Codes that are not repeated are sorted strictly, since no two of them have one key. -/
theorem pairwise_sort_of_nodup (shortener : Shortener) {codes : List Text}
    (hnodup : codes.Nodup) :
    (shortener.sort codes).Pairwise fun left right =>
      shortener.rankKey left < shortener.rankKey right := by
  have hsorted : (shortener.sort codes).Pairwise fun left right =>
      shortener.rankKey left ≤ shortener.rankKey right := by
    rw [sort, Ranking.sort, vanity_any_eq_isVanity]
    exact Ranking.pairwise_mergeSort_key shortener.isVanity codes
  have hdistinct : (shortener.sort codes).Nodup :=
    (Ranking.sort_perm shortener.vanity codes).nodup_iff.mpr hnodup
  exact hsorted.imp₂ (fun _ _ hle hne => lt_of_le_of_ne hle (Ranking.key_injective.ne hne))
    hdistinct

end Shortener

end ShortlinkCatalog
