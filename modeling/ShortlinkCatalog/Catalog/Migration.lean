import ShortlinkCatalog.Catalog.Revision
import ShortlinkCatalog.Catalog.Store

/-!
# Migrations of the database

The revision makes the catalog table, and a version table records whether it has been
applied.  Applying the revision leaves a table that is already there alone; undoing it
takes its indexes and the table away.  Stamping changes the record only.

What a command does is planned as Alembic documents it, for a history of one revision: an
upgrade leads up to its target and a downgrade down to it, each by name, by a start of the
identifier or by a number of steps, and a stamp records its target without any statement of
the revision.  The version table is made by the first command, and its row is written after
the statements of the revision.  Statements that make or drop tables are run outside of
transactions on SQLite, so each takes effect on its own and a failure keeps what was done
before it.  In a dry run the statements are written down instead.
-/

namespace ShortlinkCatalog.Migration

inductive Command
  | upgrade
  | downgrade
  | stamp
deriving DecidableEq, Repr

inductive Error
  | revision (error : Revision.Error)
  | notBelow (written : Text)
  | rangeNotAllowed
  | rangeRequired
  | tooManyParts
  /-- A dry run cannot start at the base of a branch. -/
  | startsNowhere
  | missingIndex (name : String)
  | missingTable (name : String)
  | missingColumn (name : String)
  | noInspection
deriving DecidableEq, Repr

def Error.message : Error → Text
  | .revision error => error.message
  | .notBelow written =>
      "Destination " ++ written ++ " is not a valid downgrade target from current head(s)"
  | .rangeNotAllowed => "Range revision not allowed"
  | .rangeRequired => "downgrade with --sql requires <fromrev>:<torev>"
  | .tooManyParts => "too many values to unpack (expected 2)"
  | .startsNowhere => "'NoneType' object has no attribute 'revision'"
  | .missingIndex name => "(sqlite3.OperationalError) no such index: " ++ name
  | .missingTable name => "(sqlite3.OperationalError) no such table: " ++ name
  | .missingColumn name => "(sqlite3.OperationalError) no such column: " ++ name
  | .noInspection => "No inspection system is available for object of type "
      ++ "<class 'sqlalchemy.engine.mock.MockConnection'>"

/-- The name of the kind of error. -/
def Error.kind : Error → Text
  | .revision error => error.kind
  | .tooManyParts => "ValueError"
  | .startsNowhere => "AttributeError"
  | .missingIndex _ | .missingTable _ | .missingColumn _ => "OperationalError"
  | .noInspection => "NoInspectionAvailable"
  | _ => "CommandError"

/-! ## Plans -/

/-- What a command has to do: the revision itself, or its record only. -/
inductive Step
  | apply
  | undo
  | record
  | erase
deriving DecidableEq, Repr

open Revision in
/-- Where an upgrade leads; the base is no place for it. -/
def upgradeTarget (recorded : Bool) (written : Text) : Except Revision.Error (Option Place) := do
  match Relative.parse? written with
  | none => findAny written
  | some relative =>
      let steps ← relative.steps
      match relative.name with
      | none =>
          if steps ≤ 0 then throw (.outOfRange (Text.ofInt steps) steps.natAbs)
          if recorded then
            let _ ← relative.label.mapM find
          let start := if recorded then Place.revision else .nowhere
          match ← walkUp relative.label start steps.toNat with
          | .nowhere => throw (.outOfRange relative.written steps.toNat)
          | place => return some place
      | some name =>
          if 0 < steps then return some (← walkUp relative.label (← find name) steps.toNat)
          else return some (walkDown (← findOn relative.label name) steps.natAbs)

/-- The step of an upgrade from where the revision is `recorded` or not. -/
def planUpgrade (recorded : Bool) (written : Text) : Except Revision.Error (Option Step) := do
  match ← upgradeTarget recorded written with
  | none => return none
  | some .revision => return if recorded then none else some .apply
  | some _ => throw .noRevision

open Revision in
/-- Where the steps of a downgrade start that are counted from here. -/
def downgradeStart (recorded : Bool) (relative : Relative) (steps : Nat) :
    Except Revision.Error Place := do
  match relative.label with
  | none => if recorded then return .revision else throw (.outOfRange relative.written steps)
  | some label =>
      if recorded then
        let _ ← find label
        findOn (some label) identifier
      else
        let _ ← resolve label
        throw .noRevision

open Revision in
/-- Where a downgrade leads.  Of an absolute name only what follows the last at sign
counts. -/
def downgradeTarget (recorded : Bool) (written : Text) : Except Revision.Error Place := do
  match Relative.parse? written with
  | none => find (Text.splitLast '@' written).2
  | some relative =>
      let steps ← relative.steps
      let distance := steps.natAbs
      match relative.name with
      | none =>
          if 0 ≤ steps then throw (.outOfRange relative.written distance)
          match walkDown (← downgradeStart recorded relative distance) distance with
          | .nowhere => throw (.outOfRange relative.written distance)
          | place => return place
      | some name =>
          let place ←
            if 0 ≤ steps then walkUp relative.label (← find name) distance
            else (findOn relative.label name).map (walkDown · distance)
          if place = .nowhere then throw .walkedTooFar
          return place

/-- The step of a downgrade, which may not lead up. -/
def planDowngrade (recorded : Bool) (written : Text) : Except Error (Option Step) :=
  match downgradeTarget recorded written with
  | .error error => .error (.revision error)
  | .ok .revision => if recorded then .ok none else .error (.notBelow written)
  | .ok _ => .ok (if recorded then some .undo else none)

/-- The step of a stamp.  What is recorded has to be on the branch that is stamped. -/
def planStamp (recorded : Bool) (written : Text) : Except Revision.Error (Option Step) := do
  if !written.isEmpty then
    if recorded then
      let _ ← Revision.find written
    else
      let _ ← Revision.resolve written
  match ← Revision.findAny written with
  | none | some .nowhere => return if recorded then some .erase else none
  | some .revision => return if recorded then none else some .record
  | some .bottom => throw .noRevision

/-- The step that a command takes from where the revision is `recorded` or not. -/
def plan (recorded : Bool) : Command → Text → Except Error (Option Step)
  | .upgrade, written => (planUpgrade recorded written).mapError .revision
  | .downgrade, written => planDowngrade recorded written
  | .stamp, written => (planStamp recorded written).mapError .revision

/-! ## Statements -/

/-- A statement on the database. -/
inductive Statement
  | createCatalog
  | createIndex (index : Index)
  | dropIndex (name : String)
  | dropCatalog
  | insertVersion
  | deleteVersion
deriving DecidableEq, Repr

def recorded (database : Database) : Bool :=
  (database.versions.getD []).contains Revision.identifier

def Statement.run (database : Database) : Statement → Except Error Database
  | .createCatalog => .ok { database with catalog := some ⟨Layout.migratedBare, []⟩ }
  | .createIndex index =>
      match database.catalog with
      | none => .error (.missingTable Layout.catalogName)
      | some table =>
          match index.columns.find? fun column => !table.layout.hasColumn column with
          | some column => .error (.missingColumn column)
          | none =>
              .ok { database with
                catalog := some { table with layout := table.layout.addIndex index } }
  | .dropIndex name =>
      match database.catalog with
      | none => .error (.missingIndex name)
      | some table =>
          if table.layout.hasIndex name then
            .ok { database with
              catalog := some { table with layout := table.layout.dropIndex name } }
          else .error (.missingIndex name)
  | .dropCatalog =>
      match database.catalog with
      | none => .error (.missingTable Layout.catalogName)
      | some _ => .ok { database with catalog := none }
  | .insertVersion =>
      .ok { database with versions := some (database.versions.getD [] ++ [Revision.identifier]) }
  | .deleteVersion =>
      .ok { database with versions := database.versions.map (·.filter (· != Revision.identifier)) }

/-- Runs statements up to the first that fails. -/
def runAll (database : Database) : List Statement → Option Error × Database
  | [] => (none, database)
  | statement :: statements =>
      match statement.run database with
      | .error error => (some error, database)
      | .ok database => runAll database statements

/-- The statements of a step; applying skips a table that is already there. -/
def Step.statements (hasCatalog : Bool) : Step → List Statement
  | .apply =>
      if hasCatalog then [.insertVersion]
      else [.createCatalog, .createIndex Layout.rankIndex, .createIndex Layout.fetchedAtIndex,
        .insertVersion]
  | .undo =>
      [.dropIndex Layout.fetchedAtIndex.name, .dropIndex Layout.rankIndex.name, .dropCatalog,
        .deleteVersion]
  | .record => [.insertVersion]
  | .erase => [.deleteVersion]

/-- The database with a version table. -/
def ensureVersions (database : Database) : Database :=
  match database.versions with
  | some _ => database
  | none => { database with versions := some [] }

/-- Runs a command on the database, which has a version table from then on. -/
def run (database : Database) (command : Command) (written : Text) : Option Error × Database :=
  if written.contains ':' && command != .stamp then (some .rangeNotAllowed, database)
  else
    let database := ensureVersions database
    match plan (recorded database) command written with
    | .error error => (some error, database)
    | .ok none => (none, database)
    | .ok (some step) => runAll database (step.statements database.catalog.isSome)

/-! ## Dry runs -/

def versionTableText : Text :=
  "CREATE TABLE alembic_version (\n    version_num VARCHAR(32) NOT NULL, \n"
    ++ "    CONSTRAINT alembic_version_pkc PRIMARY KEY (version_num)\n);\n\n"

/-- The written form of a statement of a dry run. -/
def Statement.text : Statement → Text
  | .dropIndex name => "DROP INDEX " ++ name ++ ";\n\n"
  | .dropCatalog => "DROP TABLE " ++ Layout.catalogName ++ ";\n\n"
  | .insertVersion =>
      "INSERT INTO alembic_version (version_num) VALUES ('" ++ Revision.identifier
        ++ "') RETURNING version_num;\n\n"
  | .deleteVersion =>
      "DELETE FROM alembic_version WHERE alembic_version.version_num = '" ++ Revision.identifier
        ++ "';\n\n"
  | .createCatalog | .createIndex _ => []

/-- The remark before a step. -/
def Step.remark : Step → Text
  | .apply => "-- Running upgrade  -> " ++ Revision.identifier ++ "\n\n"
  | .undo => "-- Running downgrade " ++ Revision.identifier ++ " -> \n\n"
  | .record => "-- Running stamp_revision  -> " ++ Revision.identifier ++ "\n\n"
  | .erase => "-- Running stamp_revision " ++ Revision.identifier ++ " -> \n\n"

/-- What a dry run of a step writes.  Applying the revision starts by looking whether
the table is there, which a dry run cannot. -/
def Step.dryRun (recorded : Bool) (step : Step) : Option Error × Text :=
  let start := (if recorded then [] else versionTableText) ++ step.remark
  match step with
  | .apply => (some .noInspection, start)
  | step => (none, start ++ (step.statements true).flatMap Statement.text)

/-- The text of the start, if one is given, and that of the end. -/
def range (command : Command) (written : Text) : Except Error (Option Text × Text) :=
  match Text.splitAll ':' written with
  | [start, stop] => .ok (some start, stop)
  | _ :: _ :: _ => .error .tooManyParts
  | _ => if command = .downgrade then .error .rangeRequired else .ok (none, written)

/-- Whether the revision is recorded where a dry run starts. -/
def startsRecorded : Option Text → Except Error Bool
  | none => .ok false
  | some start =>
      if start == "base" then .ok false
      else
        match Revision.find start with
        | .error error => .error (.revision error)
        | .ok .revision => .ok true
        | .ok _ => .error .startsNowhere

/-- The text of a dry run, and its error; an error of the command leaves no text. -/
def dryRun (command : Command) (written : Text) : Option Error × Text :=
  let planned : Except Error (Bool × Option Step) := do
    let (start, stop) ← range command written
    let recorded ← startsRecorded start
    return (recorded, ← plan recorded command stop)
  match planned with
  | .error error => (some error, [])
  | .ok (_, none) => (none, [])
  | .ok (recorded, some step) => step.dryRun recorded

end ShortlinkCatalog.Migration
