import ShortlinkCatalog.Proofs.Catalog.Run

/-!
# Tables in either layout

The two layouts of the catalog table have the same columns and the same indexes; they differ in
a default, which no statement of the store relies on.  So the store does the same with a table
in either layout: what is done to a table laid out anew is done to the table, and its outcome
laid out anew.  A run over the catalog is told by its plain form, in which every table has the
layout that the service creates.
-/

namespace ShortlinkCatalog

/-- A column but for its default. -/
def Column.bare (column : Column) : Column := { column with default := none }

namespace Layout

/-- Layouts that differ in defaults only. -/
structure Matches (left right : Layout) : Prop where
  columns : left.columns.map Column.bare = right.columns.map Column.bare
  indexes : left.indexes = right.indexes

theorem matches_created_of_mem_catalogs {layout : Layout} (hlayout : layout ∈ catalogs) :
    layout.Matches created := by
  have hall : ∀ layout ∈ catalogs,
      layout.columns.map Column.bare = created.columns.map Column.bare ∧
        layout.indexes = created.indexes := by
    decide
  obtain ⟨hcolumns, hindexes⟩ := hall layout hlayout
  exact ⟨hcolumns, hindexes⟩

end Layout

/-- The table with its rows in another layout. -/
def CatalogTable.relaid (layout : Layout) (table : CatalogTable) : CatalogTable :=
  { table with layout }

namespace Database

/-- The database with its table as the service creates it, and with no record of versions. -/
def plain (database : Database) : Database :=
  ⟨database.catalog.map (CatalogTable.relaid .created), none⟩

/-- The table, if there is one, is laid out as the service or the migration does. -/
def IsLaidOut (database : Database) : Prop :=
  ∀ table ∈ database.catalog, table.layout ∈ Layout.catalogs

end Database

namespace Catalog

variable {table : CatalogTable} {layout : Layout} {database : Database}

/-! ## What a layout asks of a row -/

/-- A row violates the same constraint of either layout. -/
theorem violation?_relaid (hmatches : table.layout.Matches layout) (row : CatalogRow) :
    violation? (table.relaid layout) row = violation? table row := by
  have hbare (columns : List Column) :
      (columns.map Column.bare).find? (fun column =>
        column.required && (row.cell column.name).isNone) =
      (columns.find? fun column => column.required && (row.cell column.name).isNone).map
        Column.bare := List.find?_map
  have hcolumns := hbare table.layout.columns
  rw [hmatches.columns, hbare] at hcolumns
  simp only [violation?, CatalogTable.relaid, ← hmatches.indexes]
  generalize layout.columns.find? _ = missing at hcolumns ⊢
  generalize table.layout.columns.find? _ = other at hcolumns ⊢
  cases missing with
  | none =>
      rw [Option.map_eq_none_iff.mp hcolumns.symm]
  | some column =>
      obtain ⟨same, hfound, hsame⟩ := Option.map_eq_some_iff.mp hcolumns.symm
      rw [hfound]
      have hname : same.bare.name = column.bare.name := congrArg Column.name hsame
      exact congrArg (some <| Violation.null ·) hname.symm

theorem insertAll_relaid (hmatches : table.layout.Matches layout) (rows : List CatalogRow) :
    insertAll (table.relaid layout) rows =
      (insertAll table rows).map (CatalogTable.relaid layout) := by
  induction rows generalizing table with
  | nil => rfl
  | cons row rows ih =>
      rw [insertAll_cons, insertAll_cons, violation?_relaid hmatches]
      cases violation? table row with
      | some violation => rfl
      | none => exact @ih { table with rows := table.rows ++ [row] } hmatches

theorem replaceIn_relaid (hmatches : table.layout.Matches layout) (shortener : Shortener)
    (shortcodes : List (Option Text)) :
    replaceIn (table.relaid layout) shortener shortcodes =
      (replaceIn table shortener shortcodes).map (CatalogTable.relaid layout) := by
  rw [replaceIn, replaceIn]
  cases Text.utf8Fault shortener.name with
  | some error => rfl
  | none =>
      cases rowsFrom shortener 0 shortcodes with
      | error fault => rfl
      | ok rows =>
          cases hfault : encodeFault? rows with
          | some error => simp [hfault, Except.map]
          | none =>
              have hinsert := @insertAll_relaid
                { table with rows := otherRows table shortener.name } layout hmatches rows
              simp only [hfault]
              refine Eq.trans (congrArg _ hinsert) ?_
              cases insertAll _ rows <;> rfl

/-! ## What a layout is not changed by -/

theorem layout_insertAll {after : CatalogTable} {rows : List CatalogRow}
    (hafter : insertAll table rows = .ok after) : after.layout = table.layout := by
  induction rows generalizing table with
  | nil =>
      cases hafter
      rfl
  | cons row rows ih =>
      rw [insertAll_cons] at hafter
      cases hviolation : violation? table row with
      | some violation => simp [hviolation] at hafter
      | none =>
          simp only [hviolation] at hafter
          exact @ih { table with rows := table.rows ++ [row] } hafter

theorem layout_replaceIn {after : CatalogTable} {shortener : Shortener}
    {shortcodes : List (Option Text)} (hafter : replaceIn table shortener shortcodes = .ok after) :
    after.layout = table.layout := by
  obtain ⟨-, rows, -, -, hinserted⟩ := (replaceIn_eq_ok_iff_stages ..).mp hafter
  exact @layout_insertAll { table with rows := otherRows table shortener.name } _ _ hinserted

/-! ## Plain databases -/

theorem find_plain (database : Database) (name : Text) :
    find database.plain name = find database name := by
  obtain ⟨_ | table, versions⟩ := database <;> rfl

theorem select_plain (database : Database) (name : Text) (limit : Option Int)
    (includeVanity : Bool) :
    select database.plain name limit includeVanity = select database name limit includeVanity := by
  rw [select, find_plain, select]

theorem count_plain (database : Database) (name : Text) :
    count database.plain name = count database name := by
  rw [count, find_plain, count]

theorem rows_plain (database : Database) :
    database.plain.catalog.map (·.rows) = database.catalog.map (·.rows) := by
  rw [Database.plain, Option.map_map]
  rfl

/-! ## Replacing a catalog -/

variable [Annotations]

/-- Replacing a catalog changes no more than rows. -/
theorem replace_keeps_layout (database : Database) (shortener : Shortener)
    (shortcodes : List (Option Text)) :
    (replace database shortener shortcodes).2.catalog.map (·.layout) =
        database.catalog.map (·.layout) ∧
      (replace database shortener shortcodes).2.versions = database.versions := by
  obtain ⟨catalog, versions⟩ := database
  cases catalog with
  | none => exact ⟨rfl, rfl⟩
  | some table =>
      cases hreplaced : replaceIn table shortener shortcodes with
      | error fault => simp [replace_eq, hreplaced]
      | ok after => simp [replace_eq, hreplaced, layout_replaceIn hreplaced]

theorem replace_plain (hlaid : database.IsLaidOut) (shortener : Shortener)
    (shortcodes : List (Option Text)) :
    replace database.plain shortener shortcodes =
      ((replace database shortener shortcodes).1,
        (replace database shortener shortcodes).2.plain) := by
  obtain ⟨catalog, versions⟩ := database
  cases catalog with
  | none => rfl
  | some table =>
      have hmatches := Layout.matches_created_of_mem_catalogs (hlaid table rfl)
      have hrelaid := replaceIn_relaid hmatches shortener shortcodes
      cases hreplaced : replaceIn table shortener shortcodes with
      | error fault =>
          rw [hreplaced] at hrelaid
          simp [replace_eq, Database.plain, hrelaid, hreplaced, Except.map]
      | ok after =>
          rw [hreplaced] at hrelaid
          simp [replace_eq, Database.plain, hrelaid, hreplaced, Except.map]

theorem storeFetched_plain (hlaid : database.IsLaidOut) (shortener : Shortener)
    (fetched : Except Archive.FetchError (List Text)) :
    storeFetched shortener fetched database.plain =
      ((storeFetched shortener fetched database).1, (storeFetched shortener fetched database).2.1,
        (storeFetched shortener fetched database).2.2.plain) := by
  cases fetched with
  | error error => rfl
  | ok codes => simp only [storeFetched, replace_plain hlaid]

theorem storeFetched_keeps_layout (shortener : Shortener)
    (fetched : Except Archive.FetchError (List Text)) (database : Database) :
    let after := (storeFetched shortener fetched database).2.2
    after.catalog.map (·.layout) = database.catalog.map (·.layout) ∧
      after.versions = database.versions := by
  cases fetched with
  | error error => exact ⟨rfl, rfl⟩
  | ok codes => exact replace_keeps_layout database shortener (codes.map some)

/-! ## Plain runs -/

namespace Run

variable {σ : Type} {run : Run σ} [Json.Room]

/-- The run over a plain database. -/
def plain (run : Run σ) : Run σ := { run with database := run.database.plain }

/-- A move does the same in either layout. -/
theorem step_plain (hlaid : run.database.IsLaidOut) (send : Archive.Sender σ)
    (settings : Settings) (move : Move) :
    step send settings run.plain move = (step send settings run move).plain := by
  cases move with
  | replace shortener shortcodes => simp only [step, plain, replace_plain hlaid]
  | refresh shortener => simp only [step, plain, refresh, storeFetched_plain hlaid]
  | refreshInBackground shortener =>
      simp only [step_refreshInBackground]
      simp only [step, plain, refresh, storeFetched_plain hlaid]
  | fetch shortener => rfl
  | store place =>
      simp only [step, plain]
      split
      next => rfl
      next shortener fetched hplace => simp only [storeFetched_plain hlaid]

/-- A move changes neither the layout of the table nor the record of versions. -/
theorem step_keeps_layout (send : Archive.Sender σ) (settings : Settings) (run : Run σ)
    (move : Move) :
    (step send settings run move).database.catalog.map (·.layout) =
        run.database.catalog.map (·.layout) ∧
      (step send settings run move).database.versions = run.database.versions := by
  cases move with
  | replace shortener shortcodes => exact replace_keeps_layout run.database shortener shortcodes
  | refresh shortener => exact storeFetched_keeps_layout shortener _ run.database
  | refreshInBackground shortener =>
      rw [step_refreshInBackground]
      exact storeFetched_keeps_layout shortener _ run.database
  | fetch shortener => exact ⟨rfl, rfl⟩
  | store place =>
      simp only [step]
      split
      next => exact ⟨rfl, rfl⟩
      next shortener fetched _ => exact storeFetched_keeps_layout shortener fetched run.database

end Run

end Catalog

end ShortlinkCatalog
