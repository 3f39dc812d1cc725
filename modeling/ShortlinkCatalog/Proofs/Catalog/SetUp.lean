import ShortlinkCatalog.Catalog.Migration
import ShortlinkCatalog.Proofs.Catalog.Layouts

/-!
# Setting up the catalog table

The service makes the catalog table when it starts, if there is none, and so does the migration,
which also records that it was applied and can be undone.  Both may be used on one database in
any order, with anything happening to the catalog in between: where the revision is recorded
there is a table for it, with the indexes that undoing it drops, and neither touches a table
that is already there.  What a catalog shows does not depend on which of the two has made its
table.
-/

namespace ShortlinkCatalog

/-! ## Commands of the migration -/

namespace Migration

variable {database : Database}

theorem ensureVersions_eq (database : Database) :
    ensureVersions database = ⟨database.catalog, some (database.versions.getD [])⟩ := by
  obtain ⟨catalog, _ | versions⟩ := database <;> rfl

theorem recorded_ensureVersions (database : Database) :
    recorded (ensureVersions database) = recorded database := by
  rw [ensureVersions_eq, recorded, recorded, Option.getD_some]

theorem plan_upgrade_head (recorded : Bool) :
    plan recorded .upgrade "head" = .ok (if recorded then none else some .apply) := by
  cases recorded <;> rfl

theorem plan_downgrade_base (recorded : Bool) :
    plan recorded .downgrade "base" = .ok (if recorded then some .undo else none) := by
  cases recorded <;> rfl

/-- Upgrading makes the table unless there is one, and records the revision. -/
theorem run_upgrade_head (database : Database) :
    run database .upgrade "head" =
      if recorded database then (none, ensureVersions database)
      else (none, ⟨some (database.catalog.getD ⟨Layout.migrated, []⟩),
        some (database.versions.getD [] ++ [Revision.identifier])⟩) := by
  have hcolon : (("head" : Text).contains ':' && Command.upgrade != .stamp) = false := by decide
  simp only [run, hcolon, Bool.false_eq_true, if_false, plan_upgrade_head, recorded_ensureVersions]
  cases recorded database with
  | true => rfl
  | false =>
      rw [ensureVersions_eq]
      obtain ⟨_ | table, versions⟩ := database <;> rfl

/-- Downgrading takes a table with its two indexes away if the revision is recorded. -/
theorem run_downgrade_base (hlaid : database.IsLaidOut)
    (hrecorded : recorded database = true → database.catalog.isSome = true) :
    run database .downgrade "base" =
      if recorded database then
        (none, ⟨none, some ((database.versions.getD []).filter (· != Revision.identifier))⟩)
      else (none, ensureVersions database) := by
  have hcolon : (("base" : Text).contains ':' && Command.downgrade != .stamp) = false := by decide
  simp only [run, hcolon, Bool.false_eq_true, if_false, plan_downgrade_base,
    recorded_ensureVersions]
  cases hknown : recorded database with
  | false => rfl
  | true =>
      obtain ⟨table, htable⟩ := Option.isSome_iff_exists.mp (hrecorded hknown)
      have hindexes := (Layout.matches_created_of_mem_catalogs (hlaid table htable)).indexes
      obtain ⟨catalog, versions⟩ := database
      obtain rfl : catalog = some table := htable
      obtain ⟨⟨columns, indexes⟩, rows⟩ := table
      obtain rfl : indexes = Layout.created.indexes := hindexes
      rw [ensureVersions_eq]
      rfl

end Migration

namespace Database

/-- A database whose table is laid out as the service or the migration does, and is there if
the revision is recorded. -/
structure IsSetUp (database : Database) : Prop where
  laidOut : database.IsLaidOut
  recorded : Migration.recorded database = true → database.catalog.isSome = true

theorem isSetUp_empty : empty.IsSetUp := by
  refine ⟨?_, ?_⟩
  · rintro table ⟨⟩
  · rintro ⟨⟩

variable {database : Database}

/-- A table that was there, or a new one. -/
theorem isLaidOut_getD (hlaid : database.IsLaidOut) {layout : Layout}
    (hlayout : layout ∈ Layout.catalogs) (versions : Option (List Text)) :
    IsLaidOut ⟨some (database.catalog.getD ⟨layout, []⟩), versions⟩ := by
  rintro _ ⟨rfl⟩
  cases htable : database.catalog with
  | none => exact hlayout
  | some table => exact hlaid table htable

end Database

namespace Catalog

open Database (IsSetUp)

variable {database : Database}

/-! ## One step of the set-up -/

theorem createTables_eq (database : Database) :
    createTables database =
      { database with catalog := some (database.catalog.getD ⟨Layout.created, []⟩) } := by
  obtain ⟨_ | table, versions⟩ := database <;> rfl

theorem isSetUp_createTables (hsetUp : database.IsSetUp) : (createTables database).IsSetUp := by
  rw [createTables_eq]
  exact ⟨Database.isLaidOut_getD hsetUp.laidOut (by simp [Layout.catalogs]) _, fun _ => rfl⟩

theorem isSetUp_upgrade (hsetUp : database.IsSetUp) :
    (Migration.run database .upgrade "head").2.IsSetUp := by
  rw [Migration.run_upgrade_head]
  split
  next hrecorded =>
    rw [Migration.ensureVersions_eq]
    exact ⟨hsetUp.laidOut, fun _ => hsetUp.recorded hrecorded⟩
  next => exact ⟨Database.isLaidOut_getD hsetUp.laidOut (by simp [Layout.catalogs]) _, fun _ => rfl⟩

theorem isSetUp_downgrade (hsetUp : database.IsSetUp) :
    (Migration.run database .downgrade "base").2.IsSetUp := by
  rw [Migration.run_downgrade_base hsetUp.laidOut hsetUp.recorded]
  split
  next =>
    refine ⟨?_, ?_⟩
    · rintro table ⟨⟩
    · simp [Migration.recorded]
  next hunrecorded =>
    refine ⟨?_, ?_⟩
    · rw [Migration.ensureVersions_eq]
      exact hsetUp.laidOut
    · rw [Migration.recorded_ensureVersions]
      exact fun hrecorded => absurd hrecorded hunrecorded

/-- The migration does to the plain form of a database what the service does. -/
theorem plain_upgrade (hsetUp : database.IsSetUp) :
    (Migration.run database .upgrade "head").2.plain = createTables database.plain := by
  rw [Migration.run_upgrade_head]
  split
  next hrecorded =>
    obtain ⟨table, htable⟩ := Option.isSome_iff_exists.mp (hsetUp.recorded hrecorded)
    rw [Migration.ensureVersions_eq, createTables_eq]
    simp [Database.plain, htable]
  next =>
    rw [createTables_eq]
    obtain ⟨_ | table, versions⟩ := database <;> rfl

theorem plain_createTables (database : Database) :
    (createTables database).plain = createTables database.plain := by
  obtain ⟨_ | table, versions⟩ := database <;> rfl

/-! ## Runs with set-up steps -/

/-- What can happen to a database: a step of its set-up, or a move on its catalog. -/
inductive Change
  | create
  | upgrade
  | downgrade
  | move (move : Move)

/-- The change with the service in place of the migration as the one that makes tables. -/
def Change.asCreated : Change → Change
  | .upgrade => .create
  | change => change

namespace Run

variable {σ : Type} {run : Run σ} {change : Change} {changes others : List Change}

/-- A run over a database in which there is nothing yet. -/
def fresh (archive : σ) : Run σ := ⟨archive, .empty, [], []⟩

/-- Runs that show the same: the same came of every attempt, the same is under way, the same
rows are stored, and reads give the same. -/
structure ShowsLike (left right : Run σ) : Prop where
  archive : left.archive = right.archive
  underway : left.underway = right.underway
  attempts : left.attempts = right.attempts
  rows : left.database.catalog.map (·.rows) = right.database.catalog.map (·.rows)
  select : ∀ name limit includeVanity, Catalog.select left.database name limit includeVanity =
    Catalog.select right.database name limit includeVanity
  count : ∀ name, Catalog.count left.database name = Catalog.count right.database name

theorem showsLike_of_plain {left right : Run σ} (hplain : left.plain = right.plain) :
    left.ShowsLike right := by
  have hdatabase : left.database.plain = right.database.plain := congrArg Run.database hplain
  have harchive : left.plain.archive = right.plain.archive := congrArg Run.archive hplain
  have hunderway : left.plain.underway = right.plain.underway := congrArg Run.underway hplain
  have hattempts : left.plain.attempts = right.plain.attempts := congrArg Run.attempts hplain
  refine ⟨harchive, hunderway, hattempts, ?_, ?_, ?_⟩
  · rw [← rows_plain left.database, hdatabase, rows_plain]
  · intro name limit includeVanity
    rw [← select_plain left.database, hdatabase, select_plain]
  · intro name
    rw [← count_plain left.database, hdatabase, count_plain]

section

variable [Json.Room] [Annotations]

def after (send : Archive.Sender σ) (settings : Settings) (run : Run σ) : Change → Run σ
  | .create => { run with database := createTables run.database }
  | .upgrade => { run with database := (Migration.run run.database .upgrade "head").2 }
  | .downgrade => { run with database := (Migration.run run.database .downgrade "base").2 }
  | .move move => step send settings run move

theorem isSetUp_step (hsetUp : run.database.IsSetUp) (send : Archive.Sender σ)
    (settings : Settings) (move : Move) : (step send settings run move).database.IsSetUp := by
  obtain ⟨hlayout, hversions⟩ := step_keeps_layout send settings run move
  refine ⟨?_, ?_⟩
  · intro table hmem
    rw [Option.mem_def] at hmem
    rw [hmem, Option.map_some, eq_comm, Option.map_eq_some_iff] at hlayout
    obtain ⟨before, hbefore, hsame⟩ := hlayout
    rw [← hsame]
    exact hsetUp.laidOut before hbefore
  · intro hrecorded
    rw [Migration.recorded, hversions] at hrecorded
    have hisSome := congrArg Option.isSome hlayout
    rw [Option.isSome_map, Option.isSome_map] at hisSome
    rw [hisSome]
    exact hsetUp.recorded hrecorded

/-- Every change keeps a table for a revision that is recorded. -/
theorem isSetUp_after (hsetUp : run.database.IsSetUp) (send : Archive.Sender σ)
    (settings : Settings) (change : Change) :
    (after send settings run change).database.IsSetUp := by
  cases change with
  | create => exact isSetUp_createTables hsetUp
  | upgrade => exact isSetUp_upgrade hsetUp
  | downgrade => exact isSetUp_downgrade hsetUp
  | move move => exact isSetUp_step hsetUp send settings move

theorem isSetUp_foldl (hsetUp : run.database.IsSetUp) (send : Archive.Sender σ)
    (settings : Settings) (changes : List Change) :
    (changes.foldl (after send settings) run).database.IsSetUp := by
  induction changes generalizing run with
  | nil => exact hsetUp
  | cons change changes ih => exact ih (isSetUp_after hsetUp send settings change)

/-- In its plain form a run does not show who has made the table. -/
theorem plain_after (hsetUp : run.database.IsSetUp) (send : Archive.Sender σ)
    (settings : Settings) (hchange : change ≠ .downgrade) :
    (after send settings run change).plain = after send settings run.plain change.asCreated := by
  cases change with
  | create => simp only [after, plain, Change.asCreated, plain_createTables]
  | upgrade => simp only [after, plain, Change.asCreated, plain_upgrade hsetUp]
  | downgrade => exact absurd rfl hchange
  | move move => exact (step_plain hsetUp.laidOut send settings move).symm

theorem plain_foldl (hsetUp : run.database.IsSetUp) (send : Archive.Sender σ)
    (settings : Settings) (hchanges : .downgrade ∉ changes) :
    (changes.foldl (after send settings) run).plain =
      (changes.map Change.asCreated).foldl (after send settings) run.plain := by
  induction changes generalizing run with
  | nil => rfl
  | cons change changes ih =>
      rw [List.mem_cons, not_or] at hchanges
      rw [List.foldl_cons, ih (isSetUp_after hsetUp send settings change) hchanges.2,
        plain_after hsetUp send settings (Ne.symm hchanges.1), List.map_cons, List.foldl_cons]

/-- After any changes to a database that was empty: making the table and upgrading leave a
table that is there as it is; a recorded revision has a table with both of its indexes; and
neither an upgrade nor a downgrade fails, of which the latter takes the table away exactly if
the revision is recorded.  From there on the same changes but for who makes tables, as long as
none is taken away, have the same results and errors and leave the same rows. -/
theorem setUps_are_interchangeable {σ : Type} (send : Archive.Sender σ) (settings : Settings)
    (archive : σ) (history : List Change) :
    let run := history.foldl (after send settings) (fresh archive)
    let upgraded := Migration.run run.database .upgrade "head"
    let downgraded := Migration.run run.database .downgrade "base"
    (∀ table, run.database.catalog = some table →
      createTables run.database = run.database ∧ upgraded.2.catalog = some table) ∧
    (Migration.recorded run.database = true → ∃ table, run.database.catalog = some table ∧
      Layout.rankIndex ∈ table.layout.indexes ∧ Layout.fetchedAtIndex ∈ table.layout.indexes) ∧
    upgraded.1 = none ∧ downgraded.1 = none ∧
    downgraded.2.catalog =
      (if Migration.recorded run.database then none else run.database.catalog) ∧
    ∀ changes others : List Change, .downgrade ∉ changes → .downgrade ∉ others →
      changes.map Change.asCreated = others.map Change.asCreated →
      (changes.foldl (after send settings) run).ShowsLike
        (others.foldl (after send settings) run) := by
  intro run upgraded downgraded
  have hsetUp : run.database.IsSetUp :=
    isSetUp_foldl Database.isSetUp_empty send settings history
  have hupgraded : upgraded = _ := Migration.run_upgrade_head run.database
  have hdowngraded : downgraded = _ :=
    Migration.run_downgrade_base hsetUp.laidOut hsetUp.recorded
  refine ⟨?_, ?_, ?_, ?_, ?_, ?_⟩
  · intro table htable
    refine ⟨by simp only [createTables, htable], ?_⟩
    rw [hupgraded, Migration.ensureVersions_eq, htable]
    split_ifs <;> rfl
  · intro hrecorded
    obtain ⟨table, htable⟩ := Option.isSome_iff_exists.mp (hsetUp.recorded hrecorded)
    have hmatches := Layout.matches_created_of_mem_catalogs (hsetUp.laidOut table htable)
    exact ⟨table, htable, by rw [hmatches.indexes]; decide, by rw [hmatches.indexes]; decide⟩
  · rw [hupgraded]
    split_ifs <;> rfl
  · rw [hdowngraded]
    split_ifs <;> rfl
  · rw [hdowngraded, Migration.ensureVersions_eq]
    split_ifs <;> rfl
  · intro changes others hchanges hothers hsame
    apply showsLike_of_plain
    rw [plain_foldl hsetUp send settings hchanges, plain_foldl hsetUp send settings hothers, hsame]

end

/-- A catalog of two codes is stored. -/
def storedTwo : Change := .move (.replace BuiltIn.allst [some "b", some "a"])

/-- A catalog shows the same in a table that the migration has made as in one that the service
has, and only the former is taken away again. -/
theorem setUps_are_interchangeable_two_codes :
    let run := fresh (Archive.Script.ofOutcomes [])
    let migrated := [.upgrade, storedTwo].foldl (after Archive.Script.send .default) run
    let created := [.create, storedTwo].foldl (after Archive.Script.send .default) run
    .downgrade ∉ [.upgrade, storedTwo] ∧ .downgrade ∉ [.create, storedTwo] ∧
      [.upgrade, storedTwo].map Change.asCreated = [.create, storedTwo].map Change.asCreated ∧
      migrated.ShowsLike created ∧
      Migration.recorded migrated.database = true ∧
      (Migration.run migrated.database .downgrade "base").1 = none ∧
      (Migration.run migrated.database .downgrade "base").2.catalog = none ∧
      Migration.recorded created.database = false ∧
      (Migration.run created.database .downgrade "base").2.catalog.map (·.rows) =
        some [⟨"allst", some "b", 0, true⟩, ⟨"allst", some "a", 1, true⟩] := by
  intro run migrated created
  have hmigrated : .downgrade ∉ [.upgrade, storedTwo] := by simp [storedTwo]
  have hcreated : .downgrade ∉ [.create, storedTwo] := by simp [storedTwo]
  have hrecorded : Migration.recorded migrated.database = true := by decide
  have hunrecorded : Migration.recorded created.database = false := by decide
  obtain ⟨-, -, -, -, -, hlike⟩ :=
    setUps_are_interchangeable Archive.Script.send .default (.ofOutcomes []) []
  obtain ⟨-, -, -, hsound, hgone, -⟩ := setUps_are_interchangeable Archive.Script.send .default
    (.ofOutcomes []) [.upgrade, storedTwo]
  obtain ⟨-, -, -, -, hstays, -⟩ := setUps_are_interchangeable Archive.Script.send .default
    (.ofOutcomes []) [.create, storedTwo]
  refine ⟨hmigrated, hcreated, rfl, hlike _ _ hmigrated hcreated rfl, hrecorded, hsound, ?_,
    hunrecorded, ?_⟩
  · exact hgone.trans (if_pos hrecorded)
  · have hkept := hstays.trans (if_neg (Bool.eq_false_iff.mp hunrecorded))
    refine (congrArg (Option.map (·.rows)) hkept).trans ?_
    decide

end Run

end Catalog

end ShortlinkCatalog
