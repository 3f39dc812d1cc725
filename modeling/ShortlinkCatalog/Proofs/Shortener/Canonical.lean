import ShortlinkCatalog.Proofs.Shortener.Ranking

/-!
# The ranking of a list

A key determines its code, so codes with their repetitions stand in rank order in one way.
Whatever is a ranking of the same codes is therefore what sorting gives: a ranking that was
sorted before, what a filter leaves of one, or the generated codes followed by the codes
that people chose, each half ranked without a test.
-/

namespace ShortlinkCatalog.Ranking

/-- What a test says of a code; without a test no code counts as vanity. -/
def flag (test : Option VanityTest) (code : Text) : Bool := test.any (· code)

/-- All of some codes, with their repetitions, in the order of their keys. -/
structure IsRanking (vanity : Text → Bool) (codes ranked : List Text) : Prop where
  perm : ranked.Perm codes
  sorted : ranked.Pairwise fun left right => key vanity left ≤ key vanity right

variable {vanity : Text → Bool} {codes ranked : List Text}

theorem isRanking_sort (test : Option VanityTest) (codes : List Text) :
    IsRanking (flag test) codes (sort test codes) where
  perm := sort_perm test codes
  sorted := pairwise_mergeSort_key (flag test) codes

/-- Codes have one ranking. -/
theorem IsRanking.unique {other : List Text} (hranked : IsRanking vanity codes ranked)
    (hother : IsRanking vanity codes other) : ranked = other := by
  have hperm : ranked.Perm other := hranked.perm.trans hother.perm.symm
  refine hperm.eq_of_pairwise ?_ hranked.sorted hother.sorted
  intro left right _ _ hle hge
  exact key_injective (le_antisymm hle hge)

theorem IsRanking.eq_sort {test : Option VanityTest}
    (hranked : IsRanking (flag test) codes ranked) : ranked = sort test codes :=
  hranked.unique (isRanking_sort test codes)

/-! ## Rankings of other lists -/

/-- A ranking does not depend on the order of the codes. -/
theorem IsRanking.of_perm {others : List Text} (hranked : IsRanking vanity codes ranked)
    (hperm : codes.Perm others) : IsRanking vanity others ranked where
  perm := hranked.perm.trans hperm
  sorted := hranked.sorted

theorem IsRanking.filter (hranked : IsRanking vanity codes ranked) (keep : Text → Bool) :
    IsRanking vanity (codes.filter keep) (ranked.filter keep) where
  perm := hranked.perm.filter keep
  sorted := hranked.sorted.filter keep

/-- Among codes of one kind the test makes no difference. -/
theorem key_le_of_same {other : Text → Bool} {left right : Text}
    (hsame : vanity left = vanity right) (hother : other left = other right)
    (hle : key other left ≤ key other right) : key vanity left ≤ key vanity right := by
  rw [key, key, Prod.Lex.toLex_le_toLex] at hle ⊢
  right
  rcases hle with hlt | ⟨-, hshorter⟩
  · exact absurd hother hlt.ne
  · exact ⟨hsame, hshorter⟩

/-- A ranking without a test of codes of one kind is one with the test. -/
theorem IsRanking.of_constant {other : Text → Bool} {kind otherKind : Bool}
    (hranked : IsRanking other codes ranked) (hother : ∀ code, other code = otherKind)
    (hkind : ∀ code ∈ codes, vanity code = kind) : IsRanking vanity codes ranked where
  perm := hranked.perm
  sorted := by
    apply hranked.sorted.imp_of_mem
    intro left right hleft hright hle
    have hsame : vanity left = vanity right := by
      rw [hkind left (hranked.perm.mem_iff.mp hleft), hkind right (hranked.perm.mem_iff.mp hright)]
    exact key_le_of_same hsame ((hother left).trans (hother right).symm) hle

/-- Generated codes stand before those that people chose. -/
theorem IsRanking.append {generated chosen first last : List Text}
    (hfirst : IsRanking vanity generated first) (hlast : IsRanking vanity chosen last)
    (hgenerated : ∀ code ∈ generated, vanity code = false)
    (hchosen : ∀ code ∈ chosen, vanity code = true) :
    IsRanking vanity (generated ++ chosen) (first ++ last) where
  perm := hfirst.perm.append hlast.perm
  sorted := by
    apply List.pairwise_append.mpr
    refine ⟨hfirst.sorted, hlast.sorted, ?_⟩
    intro left hleft right hright
    have hflag : vanity left < vanity right := by
      rw [hgenerated left (hfirst.perm.mem_iff.mp hleft),
        hchosen right (hlast.perm.mem_iff.mp hright)]
      decide
    exact (Prod.Lex.toLex_lt_toLex.mpr (.inl hflag)).le

/-- Codes with the generated ones first and the chosen ones after them. -/
theorem filter_append_filter_perm (vanity : Text → Bool) (codes : List Text) :
    (codes.filter (!vanity ·) ++ codes.filter vanity).Perm codes := by
  simpa using List.filter_append_perm (!vanity ·) codes

theorem isRanking_sort_append_sort (test : VanityTest) (codes : List Text) :
    IsRanking (flag (some test)) codes
      (sort none (codes.filter (!test ·)) ++ sort none (codes.filter test)) := by
  have hflag : ∀ code, flag (some test) code = test code := fun _ => rfl
  have hgenerated : ∀ code ∈ codes.filter (!test ·), flag (some test) code = false := by
    intro code hmem
    rw [hflag]
    simpa using (List.mem_filter.mp hmem).2
  have hchosen : ∀ code ∈ codes.filter test, flag (some test) code = true := by
    intro code hmem
    rw [hflag]
    exact (List.mem_filter.mp hmem).2
  have huntested : ∀ code, flag none code = false := fun _ => rfl
  have hfirst := (isRanking_sort none (codes.filter (!test ·))).of_constant huntested hgenerated
  have hlast := (isRanking_sort none (codes.filter test)).of_constant huntested hchosen
  exact (hfirst.append hlast hgenerated hchosen).of_perm (filter_append_filter_perm test codes)

/-! ## Sorting -/

/-- Sorting gives the one ranking of a list, with its repetitions.  So it changes nothing in
what is sorted, and it depends neither on the order of the list nor on whether codes are
dropped before or after.  With a test it ranks the codes that pass it after the others, each
part as without a test. -/
theorem sort_is_the_ranking (test : Option VanityTest) (codes : List Text) :
    IsRanking (flag test) codes (sort test codes) ∧
    (∀ ranked, IsRanking (flag test) codes ranked → ranked = sort test codes) ∧
    sort test (sort test codes) = sort test codes ∧
    (∀ others : List Text, others.Perm codes → sort test others = sort test codes) ∧
    (∀ keep : Text → Bool, sort test (codes.filter keep) = (sort test codes).filter keep) ∧
    ∀ chosen : VanityTest, sort (some chosen) codes =
      sort none (codes.filter (!chosen ·)) ++ sort none (codes.filter chosen) := by
  have hsort := isRanking_sort test codes
  refine ⟨hsort, fun ranked hranked => hranked.eq_sort, ?_, ?_, ?_, ?_⟩
  · exact ((isRanking_sort test (sort test codes)).of_perm hsort.perm).eq_sort
  · intro others hperm
    exact ((isRanking_sort test others).of_perm hperm).eq_sort
  · intro keep
    exact (hsort.filter keep).eq_sort.symm
  · intro chosen
    exact (isRanking_sort_append_sort chosen codes).eq_sort.symm

end ShortlinkCatalog.Ranking
