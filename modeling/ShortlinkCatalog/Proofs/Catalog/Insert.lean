import Mathlib.Data.List.Nodup
import ShortlinkCatalog.Proofs.Catalog.Transaction

/-!
# Inserting rows

Both layouts of the catalog table have one constraint that a row can fail to meet apart
from a missing code: no two rows agree on shortener and shortcode.  So some rows are
inserted exactly when none lacks a code and no key is repeated or taken.
-/

namespace ShortlinkCatalog

namespace Layout

/-- The layout of a table that the migration has made. -/
def migrated : Layout := (migratedBare.addIndex rankIndex).addIndex fetchedAtIndex

/-- The layouts of the catalog table. -/
def catalogs : List Layout := [created, migrated]

/-- A layout that asks of a row for a shortcode, and that no other row has it for the
same shortener. -/
structure KeepsCodes (layout : Layout) : Prop where
  required : ∃ column ∈ layout.columns, column.required = true ∧ column.name = "shortcode"
  unique : layout.indexes.filter (·.unique) = [codeIndex]

theorem keepsCodes_of_mem_catalogs {layout : Layout} (hlayout : layout ∈ catalogs) :
    layout.KeepsCodes := by
  have hall : ∀ layout ∈ catalogs,
      (∃ column ∈ layout.columns, column.required = true ∧ column.name = "shortcode") ∧
        layout.indexes.filter (·.unique) = [codeIndex] := by
    decide
  obtain ⟨hrequired, hunique⟩ := hall layout hlayout
  exact ⟨hrequired, hunique⟩

end Layout

namespace CatalogRow

/-- What tells the rows of a table apart. -/
def key (row : CatalogRow) : Text × Option Text := (row.shortener, row.shortcode)

theorem agree_codeIndex_iff {row other : CatalogRow} (hcode : row.shortcode.isSome = true) :
    row.agree other Layout.codeIndex.columns = true ↔ row.key = other.key := by
  simp [agree, Layout.codeIndex, cell, key, hcode]

theorem cell_isNone_iff (row : CatalogRow) (column : String) :
    (row.cell column).isNone = true ↔ column = "shortcode" ∧ row.shortcode = none := by
  unfold cell
  split
  case h_2 => simp
  all_goals simp_all

end CatalogRow

namespace Catalog

theorem violation?_eq_none_iff {table : CatalogTable} (hlayout : table.layout.KeepsCodes)
    (row : CatalogRow) :
    violation? table row = none ↔
      row.shortcode.isSome = true ∧ row.key ∉ table.rows.map CatalogRow.key := by
  obtain ⟨column, hcolumn, hrequired, hname⟩ := hlayout.required
  cases hcode : row.shortcode with
  | none =>
      have hnull : (table.layout.columns.find? fun column =>
          column.required && (row.cell column.name).isNone).isSome = true := by
        rw [List.find?_isSome]
        refine ⟨column, hcolumn, ?_⟩
        rw [Bool.and_eq_true, CatalogRow.cell_isNone_iff]
        exact ⟨hrequired, hname, hcode⟩
      obtain ⟨first, hfirst⟩ := Option.isSome_iff_exists.mp hnull
      simp [violation?, hfirst]
  | some code =>
      have hfull : (table.layout.columns.find? fun column =>
          column.required && (row.cell column.name).isNone) = none := by
        rw [List.find?_eq_none]
        intro column _
        rw [Bool.and_eq_true, CatalogRow.cell_isNone_iff, hcode]
        simp
      have hindex : (table.layout.indexes.find? fun index => index.unique &&
          table.rows.any fun other => row.agree other index.columns) =
          [Layout.codeIndex].find? fun index =>
            table.rows.any fun other => row.agree other index.columns := by
        simp only [← hlayout.unique, List.find?_filter, Bool.decide_and, Bool.decide_eq_true]
      have hagree : ∀ other : CatalogRow,
          row.agree other Layout.codeIndex.columns = true ↔ other.key = row.key :=
        fun other => (CatalogRow.agree_codeIndex_iff (by simp [hcode])).trans eq_comm
      simp only [violation?, hfull, hindex, Option.map_eq_none_iff, List.find?_singleton,
        ite_eq_right_iff, reduceCtorEq, imp_false, List.any_eq_true, hagree, List.mem_map,
        Option.isSome_some, true_and]

theorem insertAll_cons (table : CatalogTable) (row : CatalogRow) (rows : List CatalogRow) :
    insertAll table (row :: rows) =
      match violation? table row with
      | some violation => .error violation
      | none => insertAll { table with rows := table.rows ++ [row] } rows := by
  rw [insertAll, insert]
  cases violation? table row <;> rfl

/-- Rows that a table takes: none lacks a code, and no key is repeated or taken. -/
structure Insertable (table : CatalogTable) (rows : List CatalogRow) : Prop where
  coded : ∀ row ∈ rows, row.shortcode.isSome = true
  distinct : (rows.map CatalogRow.key).Nodup
  fresh : (table.rows.map CatalogRow.key).Disjoint (rows.map CatalogRow.key)

theorem insertable_cons_iff (table : CatalogTable) (row : CatalogRow) (rows : List CatalogRow) :
    Insertable table (row :: rows) ↔
      (row.shortcode.isSome = true ∧ row.key ∉ table.rows.map CatalogRow.key) ∧
        Insertable { table with rows := table.rows ++ [row] } rows := by
  constructor
  · rintro ⟨hcoded, hdistinct, hfresh⟩
    rw [List.forall_mem_cons] at hcoded
    rw [List.map_cons, List.nodup_cons] at hdistinct
    rw [List.map_cons, List.disjoint_cons_right] at hfresh
    refine ⟨⟨hcoded.1, hfresh.1⟩, hcoded.2, hdistinct.2, ?_⟩
    rw [List.map_append, List.disjoint_append_left, List.map_singleton, List.singleton_disjoint]
    exact ⟨hfresh.2, hdistinct.1⟩
  · rintro ⟨⟨hcode, hkey⟩, hcoded, hdistinct, hfresh⟩
    rw [List.map_append, List.disjoint_append_left, List.map_singleton,
      List.singleton_disjoint] at hfresh
    refine ⟨List.forall_mem_cons.mpr ⟨hcode, hcoded⟩, ?_, ?_⟩
    · exact List.nodup_cons.mpr ⟨hfresh.2, hdistinct⟩
    · exact List.disjoint_cons_right.mpr ⟨hkey, hfresh.1⟩

theorem insertAll_eq_ok_iff {table after : CatalogTable} (hlayout : table.layout.KeepsCodes)
    (rows : List CatalogRow) :
    insertAll table rows = .ok after ↔
      Insertable table rows ∧ after = { table with rows := table.rows ++ rows } := by
  induction rows generalizing table with
  | nil =>
      have hnil : Insertable table [] := ⟨by simp, List.nodup_nil, List.disjoint_nil_right _⟩
      simp only [insertAll, List.append_nil, Except.ok.injEq, hnil, true_and]
      exact eq_comm
  | cons row rows ih =>
      have hsplit : table.rows ++ row :: rows = (table.rows ++ [row]) ++ rows := by simp
      have hviolation := violation?_eq_none_iff hlayout row
      rw [insertAll_cons, insertable_cons_iff, ← hviolation, hsplit]
      cases hrow : violation? table row with
      | none =>
          have hrest := @ih { table with rows := table.rows ++ [row] } hlayout
          rw [hrest, and_iff_right rfl]
      | some violation => simp

end Catalog

end ShortlinkCatalog
