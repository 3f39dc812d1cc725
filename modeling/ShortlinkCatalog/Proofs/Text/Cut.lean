import Mathlib.Data.List.Basic
import Mathlib.Data.List.Infix
import Mathlib.Data.List.TakeWhile
import ShortlinkCatalog.Text.Basic

/-!
# Cuts of texts

What stands before the first character of a class is all of a text that is free of the
class, so a text that was put together from two sides is cut back into them.
-/

namespace ShortlinkCatalog.Text

theorem takeWhile_append_of_stop {member : CodePoint → Bool} {before after : Text}
    (hbefore : ∀ character ∈ before, member character = true)
    (hafter : ∀ character ∈ after.head?, member character = false) :
    (before ++ after).takeWhile member = before := by
  rw [List.takeWhile_append_of_pos hbefore]
  cases after with
  | nil => simp
  | cons character after => simp [hafter character rfl]

theorem dropWhile_append_of_stop {member : CodePoint → Bool} {before after : Text}
    (hbefore : ∀ character ∈ before, member character = true)
    (hafter : ∀ character ∈ after.head?, member character = false) :
    (before ++ after).dropWhile member = after := by
  rw [List.dropWhile_append_of_pos hbefore]
  cases after with
  | nil => rfl
  | cons character after => simp [hafter character rfl]

theorem splitFirst_append {mark : CodePoint} {before after : Text} (hfree : mark ∉ before) :
    splitFirst mark (before ++ mark :: after) = (before, some after) := by
  have hbefore : ∀ character ∈ before, (character != mark) = true := by
    intro character hmem
    exact bne_iff_ne.mpr fun heq => hfree (heq ▸ hmem)
  have hmark : ∀ character ∈ (mark :: after).head?, (character != mark) = false := by
    simp
  rw [splitFirst, takeWhile_append_of_stop hbefore hmark,
    dropWhile_append_of_stop hbefore hmark]

theorem splitFirst_of_not_mem {mark : CodePoint} {text : Text} (hfree : mark ∉ text) :
    splitFirst mark text = (text, none) := by
  have htext : ∀ character ∈ text, (character != mark) = true := by
    intro character hmem
    exact bne_iff_ne.mpr fun heq => hfree (heq ▸ hmem)
  rw [splitFirst, List.takeWhile_eq_self_iff.mpr htext, List.dropWhile_eq_nil_iff.mpr htext]

/-- What follows the last mark has nothing to do with what stands before a mark. -/
theorem afterLast_append_cons (mark : CodePoint) (before after : Text) :
    afterLast mark (before ++ mark :: after) = afterLast mark after := by
  have hreverse : (before ++ mark :: after).reverse = after.reverse ++ mark :: before.reverse := by
    simp
  rw [afterLast, afterLast, hreverse, List.takeWhile_append]
  split_ifs with hlength
  · rw [(List.takeWhile_prefix _).eq_of_length hlength]
    simp
  · rfl

theorem afterLast_suffix (mark : CodePoint) (text : Text) : afterLast mark text <:+ text := by
  rw [afterLast, ← List.reverse_prefix, List.reverse_reverse]
  exact List.takeWhile_prefix _

/-- Cutting at every mark is the library's operation on lists. -/
theorem splitAll_eq_splitOn (mark : CodePoint) (text : Text) :
    splitAll mark text = text.splitOn mark := by
  induction text with
  | nil => rfl
  | cons character text ih =>
      rw [List.splitOn_cons_eq_if_modifyHead, ← ih]
      by_cases hmark : character = mark
      · simp [splitAll, hmark]
      · simp [splitAll, hmark, beq_eq_false_iff_ne.mpr hmark]

/-- So is joining pieces with one character between them. -/
theorem join_eq_intercalate (mark : CodePoint) (pieces : List Text) :
    join [mark] pieces = [mark].intercalate pieces := by
  cases pieces with
  | nil => rfl
  | cons piece pieces =>
      induction pieces generalizing piece with
      | nil => simp [join]
      | cons second pieces ih =>
          rw [List.intercalate_cons_cons, ← ih]
          simp [join]

/-- Pieces that are free of the mark are cut apart again. -/
theorem splitAll_join {mark : CodePoint} {pieces : List Text} (hne : pieces ≠ [])
    (hfree : ∀ piece ∈ pieces, mark ∉ piece) : splitAll mark (join [mark] pieces) = pieces := by
  rw [splitAll_eq_splitOn, join_eq_intercalate]
  exact List.splitOn_intercalate mark hfree hne

/-- Every character but the marks is in one of the pieces. -/
theorem exists_piece_of_mem {mark character : CodePoint} {text : Text} (hmem : character ∈ text)
    (hne : character ≠ mark) : ∃ piece ∈ splitAll mark text, character ∈ piece := by
  rw [splitAll_eq_splitOn]
  induction text with
  | nil => cases hmem
  | cons first text ih =>
      obtain ⟨piece, pieces, hpieces⟩ :=
        List.exists_cons_of_ne_nil (List.splitOn_ne_nil mark text)
      rw [hpieces] at ih
      rw [List.splitOn_cons_eq_if_modifyHead, hpieces, List.modifyHead_cons]
      rcases List.mem_cons.mp hmem with rfl | hrest
      · exact ⟨character :: piece, by simp [hne], List.mem_cons_self⟩
      · obtain ⟨found, hfound, hcharacter⟩ := ih hrest
        split_ifs
        · exact ⟨found, List.mem_cons_of_mem _ hfound, hcharacter⟩
        · rcases List.mem_cons.mp hfound with rfl | hfound
          · exact ⟨first :: found, List.mem_cons_self, List.mem_cons_of_mem _ hcharacter⟩
          · exact ⟨found, List.mem_cons_of_mem _ hfound, hcharacter⟩

theorem dropStart?_append (start text : Text) : dropStart? start (start ++ text) = some text := by
  have hstart : start.isPrefixOf (start ++ text) = true :=
    List.isPrefixOf_iff_prefix.mpr (List.prefix_append start text)
  rw [dropStart?, if_pos hstart, List.drop_left]

theorem dropStart?_of_not_prefix {start text : Text} (hstart : ¬ start <+: text) :
    dropStart? start text = none := by
  rw [dropStart?, if_neg (by rwa [List.isPrefixOf_iff_prefix])]

theorem dropOneEnd_of_ne {mark : CodePoint} {text : Text}
    (hlast : text.getLast? ≠ some mark) : dropOneEnd mark text = text := by
  rw [dropOneEnd, if_neg hlast]

theorem dropOneEnd_append (mark : CodePoint) (text : Text) :
    dropOneEnd mark (text ++ [mark]) = text := by
  simp [dropOneEnd]

/-- Of a text that is put before another one, nothing is dropped. -/
theorem dropOneEnd_append_of_ne_nil {text : Text} (hne : text ≠ []) (mark : CodePoint)
    (before : Text) : dropOneEnd mark (before ++ text) = before ++ dropOneEnd mark text := by
  rw [dropOneEnd, dropOneEnd, List.getLast?_append_of_ne_nil _ hne]
  split_ifs
  · exact List.dropLast_append_of_ne_nil hne
  · rfl

/-- The first character stays, unless it is the mark. -/
theorem head?_dropOneEnd {mark first : CodePoint} {text : Text} (hfirst : text.head? = some first)
    (hne : first ≠ mark) : (dropOneEnd mark text).head? = some first := by
  obtain ⟨rest, rfl⟩ := List.head?_eq_some_iff.mp hfirst
  cases rest with
  | nil => simp [dropOneEnd, hne]
  | cons second rest =>
      rw [dropOneEnd]
      split_ifs <;> rfl

theorem isPrefix_dropOneEnd (mark : CodePoint) (text : Text) : dropOneEnd mark text <+: text := by
  rw [dropOneEnd]
  split_ifs
  · exact List.dropLast_prefix text
  · exact List.prefix_refl text

theorem trimEnd_append_of_pos {member : CodePoint → Bool} {marks : Text}
    (hmarks : ∀ character ∈ marks, member character = true) (text : Text) :
    trimEnd member (text ++ marks) = trimEnd member text := by
  have hreverse : ∀ character ∈ marks.reverse, member character = true := by
    simpa using hmarks
  rw [trimEnd, List.reverse_append, List.dropWhile_append_of_pos hreverse, trimEnd]

theorem trimEnd_of_getLast? {member : CodePoint → Bool} {text : Text}
    (hlast : ∀ character ∈ text.getLast?, member character = false) :
    trimEnd member text = text := by
  rw [trimEnd]
  rw [← List.head?_reverse] at hlast
  cases hreverse : text.reverse with
  | nil => simpa using hreverse
  | cons last rest =>
      rw [hreverse] at hlast
      rw [List.dropWhile_cons_of_neg (by simp [hlast last rfl]), ← hreverse, List.reverse_reverse]

theorem suffix_append_singleton_iff {last mark : CodePoint} {text : Text} :
    [last, mark] <:+ text ++ [mark] ↔ text.getLast? = some last := by
  rw [← List.reverse_prefix]
  simp [List.singleton_prefix_iff_head?_eq_some]

end ShortlinkCatalog.Text
