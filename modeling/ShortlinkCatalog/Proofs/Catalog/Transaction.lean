import ShortlinkCatalog.Catalog.Store

/-!
# The transaction of a replacement

No statement touches what is committed, so a rollback gives back the database that the
transaction started from, whatever was written by then.  Without a failure the statements
leave the table that deleting the old rows and inserting all new ones gives.
-/

namespace ShortlinkCatalog.Catalog

/-! ## Statements one after the other -/

namespace Transaction

variable {α β : Type}

theorem run_bind (first : Transaction α) (next : α → Transaction β) (session : Session) :
    (first >>= next).run.run session =
      match first.run.run session with
      | (.ok value, session) => (next value).run.run session
      | (.error fault, session) => (.error fault, session) := by
  simp only [ExceptT.run_bind, StateT.run_bind]
  rcases first.run.run session with ⟨value | fault, session⟩ <;> rfl

/-- Whatever is written, what is committed stays. -/
def KeepsCommitted (action : Transaction α) : Prop :=
  ∀ session, (action.run.run session).2.committed = session.committed

theorem keepsCommitted_bind {first : Transaction α} {next : α → Transaction β}
    (hfirst : KeepsCommitted first) (hnext : ∀ value, KeepsCommitted (next value)) :
    KeepsCommitted (first >>= next) := by
  intro session
  have hkept := hfirst session
  rw [run_bind]
  cases hrun : first.run.run session with
  | mk result middle =>
      rw [hrun] at hkept
      cases result with
      | error fault => exact hkept
      | ok value => exact (hnext value middle).trans hkept

theorem run_mk (result : Except StoreFault α) (session : Session) :
    (ExceptT.mk (pure result) : Transaction α).run.run session = (result, session) := rfl

end Transaction

open Transaction

theorem run_catalogTable (session : Session) :
    catalogTable.run.run session =
      match session.current.catalog with
      | none => (.error .missingTable, session)
      | some table => (.ok table, session) := by
  rw [catalogTable, run_bind]
  change (match session.current.catalog with
    | none => throw .missingTable
    | some table => pure table : Transaction CatalogTable).run.run session = _
  cases session.current.catalog <;> rfl

variable {session : Session} {table : CatalogTable}

theorem run_deleteRows (htable : session.current.catalog = some table) (shortener : Text) :
    (deleteRows shortener).run.run session =
      match Text.utf8Fault shortener with
      | some error => (.error (.unencodable error), session)
      | none =>
          (.ok (), session.write
            { table with rows := table.rows.filter (·.shortener != shortener) }) := by
  rw [deleteRows, run_bind, run_catalogTable, htable]
  cases Text.utf8Fault shortener <;> rfl

theorem run_insertRow (htable : session.current.catalog = some table) (row : CatalogRow) :
    (insertRow row).run.run session =
      match insert table row with
      | .error violation => (.error (.refused violation), session)
      | .ok after => (.ok (), session.write after) := by
  rw [insertRow, run_bind, run_catalogTable, htable]
  cases hinsert : insert table row <;> simp only [hinsert] <;> rfl

/-! ## What is committed -/

theorem keepsCommitted_catalogTable : KeepsCommitted catalogTable := by
  intro session
  rw [run_catalogTable]
  cases session.current.catalog <;> rfl

theorem keepsCommitted_deleteRows (shortener : Text) : KeepsCommitted (deleteRows shortener) := by
  refine keepsCommitted_bind keepsCommitted_catalogTable fun table session => ?_
  cases Text.utf8Fault shortener <;> rfl

theorem keepsCommitted_insertRow (row : CatalogRow) : KeepsCommitted (insertRow row) := by
  refine keepsCommitted_bind keepsCommitted_catalogTable fun table session => ?_
  cases insert table row <;> rfl

theorem keepsCommitted_insertRows (rows : List CatalogRow) :
    KeepsCommitted (rows.forM insertRow) := by
  induction rows with
  | nil => exact fun _ => rfl
  | cons row rows ih =>
      exact keepsCommitted_bind (keepsCommitted_insertRow row) fun _ => ih

/-- However far a replacement comes, what is committed stays until it is. -/
theorem keepsCommitted_replaceRows (shortener : Shortener) (shortcodes : List (Option Text)) :
    KeepsCommitted (replaceRows shortener shortcodes) := by
  refine keepsCommitted_bind (keepsCommitted_deleteRows shortener.name) fun _ => ?_
  refine keepsCommitted_bind (fun _ => rfl) fun rows session => ?_
  rw [flush]
  cases encodeFault? rows with
  | some error => rfl
  | none => exact keepsCommitted_insertRows rows session

/-! ## What is written -/

/-- The table with some rows inserted one after the other. -/
def insertAll (table : CatalogTable) : List CatalogRow → Except Violation CatalogTable
  | [] => .ok table
  | row :: rows =>
      match insert table row with
      | .error violation => .error violation
      | .ok table => insertAll table rows

/-- The rows of every shortener but one. -/
def otherRows (table : CatalogTable) (name : Text) : List CatalogRow :=
  table.rows.filter (·.shortener != name)

/-- The table after the catalog of a shortener has been replaced. -/
def replaceIn (table : CatalogTable) (shortener : Shortener) (shortcodes : List (Option Text)) :
    Except StoreFault CatalogTable :=
  match Text.utf8Fault shortener.name with
  | some error => .error (.unencodable error)
  | none =>
      match rowsFrom shortener 0 shortcodes with
      | .error fault => .error fault
      | .ok rows =>
          match encodeFault? rows with
          | some error => .error (.unencodable error)
          | none =>
              (insertAll { table with rows := otherRows table shortener.name } rows).mapError
                .refused

/-- A result with the session that is left, of which only a success says what is written. -/
def Leaves (session : Session) (result : Except StoreFault CatalogTable)
    (left : Except StoreFault Unit × Session) : Prop :=
  match result with
  | .error fault => left.1 = .error fault
  | .ok table => left = (.ok (), session.write table)

theorem leaves_insertRows (htable : session.current.catalog = some table)
    (rows : List CatalogRow) :
    Leaves session ((insertAll table rows).mapError .refused)
      ((rows.forM insertRow).run.run session) := by
  induction rows generalizing session table with
  | nil =>
      obtain ⟨committed, ⟨catalog, versions⟩⟩ := session
      obtain rfl : catalog = some table := htable
      rfl
  | cons row rows ih =>
      have hcons : (row :: rows).forM insertRow =
          (insertRow row >>= fun _ => rows.forM insertRow) := rfl
      rw [hcons, run_bind, run_insertRow htable, insertAll]
      cases insert table row with
      | error violation => rfl
      | ok after => exact @ih (session.write after) after rfl

theorem leaves_replaceRows (htable : session.current.catalog = some table)
    (shortener : Shortener) (shortcodes : List (Option Text)) :
    Leaves session (replaceIn table shortener shortcodes)
      ((replaceRows shortener shortcodes).run.run session) := by
  rw [replaceRows, run_bind, run_deleteRows htable, replaceIn]
  cases Text.utf8Fault shortener.name with
  | some error => rfl
  | none =>
      -- the old rows are gone, and the new ones are inserted into what is left
      let kept : CatalogTable := { table with rows := otherRows table shortener.name }
      change Leaves session _ ((ExceptT.mk (pure (rowsFrom shortener 0 shortcodes)) >>=
        flush).run.run (session.write kept))
      rw [run_bind, run_mk]
      cases rowsFrom shortener 0 shortcodes with
      | error fault => rfl
      | ok rows =>
          simp only [flush]
          cases encodeFault? rows with
          | some error => rfl
          | none => exact @leaves_insertRows (session.write kept) kept rfl rows

/-- A replacement commits the new table, or it fails and the database is what it was. -/
theorem replace_eq [Annotations] (database : Database) (shortener : Shortener)
    (shortcodes : List (Option Text)) :
    replace database shortener shortcodes =
      match database.catalog with
      | none => (.error ⟨shortener.name, .missingTable,
          Annotations.further shortener.name shortcodes .missingTable⟩, database)
      | some table =>
          match replaceIn table shortener shortcodes with
          | .error fault => (.error ⟨shortener.name, fault,
              Annotations.further shortener.name shortcodes fault⟩, database)
          | .ok table => (.ok shortcodes.length, { database with catalog := some table }) := by
  have hkept := keepsCommitted_replaceRows shortener shortcodes (.start database)
  rw [replace]
  cases hcatalog : database.catalog with
  | none =>
      have hrun : (replaceRows shortener shortcodes).run.run (.start database) =
          (.error .missingTable, .start database) := by
        rw [replaceRows, run_bind, deleteRows, run_bind, run_catalogTable]
        simp only [Session.start, hcatalog]
      rw [hrun]
      rfl
  | some table =>
      have hleaves := @leaves_replaceRows (.start database) table hcatalog shortener shortcodes
      cases hreplaced : replaceIn table shortener shortcodes with
      | error fault =>
          rw [hreplaced] at hleaves
          cases hrun : (replaceRows shortener shortcodes).run.run (.start database) with
          | mk result session =>
              rw [hrun] at hleaves hkept
              obtain rfl : result = .error fault := hleaves
              simp only [Session.rollback, hreplaced]
              rw [hkept]
              rfl
      | ok after =>
          rw [hreplaced] at hleaves
          have hrun : (replaceRows shortener shortcodes).run.run (.start database) =
              (.ok (), (Session.start database).write after) := hleaves
          simp only [hrun, hreplaced]
          rfl

end ShortlinkCatalog.Catalog
