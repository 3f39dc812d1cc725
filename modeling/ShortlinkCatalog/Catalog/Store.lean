import ShortlinkCatalog.Catalog.Layout
import ShortlinkCatalog.Log.Entry
import ShortlinkCatalog.Shortener.Basic
import ShortlinkCatalog.Text.Encodable

/-!
# The catalog store

The store keeps for each shortener its shortcodes in rank order.  A catalog is
replaced as a whole, in one transaction: the old rows are deleted and the new ones
inserted one by one under the constraints of the table.  If all goes well this is
committed, and whatever fails, what was written before it is rolled back.  Reading is
two statements, one for rows and one for their number.
-/

namespace ShortlinkCatalog

/-- A stored shortcode.  What keeps it from being null is the layout of the table. -/
structure CatalogRow where
  shortener : Text
  shortcode : Option Text
  rank : Nat
  isVanity : Bool
deriving DecidableEq, Repr

namespace CatalogRow

/-- The text of a cell by the name of its column, for columns that a row can leave
null or share with another row. -/
def cell (row : CatalogRow) : String → Option Text
  | "shortener" => some row.shortener
  | "shortcode" => row.shortcode
  | "rank" => some (Text.ofNat row.rank)
  | "is_vanity" => some (if row.isVanity then "1" else "0")
  | _ => some []

/-- Whether two rows agree, and are not null, in every one of some columns. -/
def agree (left right : CatalogRow) (columns : List String) : Bool :=
  columns.all fun column =>
    (left.cell column).isSome && left.cell column == right.cell column

end CatalogRow

structure CatalogTable where
  layout : Layout
  rows : List CatalogRow
deriving DecidableEq, Repr

/-- A database: the catalog table and the versions in the version table, if there are
such tables. -/
structure Database where
  catalog : Option CatalogTable
  versions : Option (List Text)
deriving DecidableEq, Repr

namespace Catalog

/-- A constraint of the table that a row does not meet. -/
inductive Violation
  | null (column : String)
  | repeated (columns : List String)
deriving DecidableEq, Repr

def Violation.message : Violation → Text
  | .null column => "NOT NULL constraint failed: " ++ Layout.catalogName ++ "." ++ column
  | .repeated columns =>
      let names := columns.map fun column => Layout.catalogName ++ "." ++ column
      "UNIQUE constraint failed: " ++ String.intercalate ", " names

/-- The first constraint that a row would violate: a missing value, or values that
some other row has in the columns of a unique index. -/
def violation? (table : CatalogTable) (row : CatalogRow) : Option Violation :=
  match table.layout.columns.find? fun column =>
      column.required && (row.cell column.name).isNone with
  | some column => some (.null column.name)
  | none =>
      (table.layout.indexes.find? fun index =>
        index.unique && table.rows.any fun other => row.agree other index.columns).map
        fun index => .repeated index.columns

def insert (table : CatalogTable) (row : CatalogRow) : Except Violation CatalogTable :=
  match violation? table row with
  | some violation => .error violation
  | none => .ok { table with rows := table.rows ++ [row] }

/-- Why a catalog cannot be stored. -/
inductive StoreFault
  | missingTable
  /-- The vanity test has no answer for a missing code, for the reason in the message. -/
  | vanityOfNull (message : Text)
  | unencodable (error : Text.EncodeError)
  | refused (violation : Violation)
deriving DecidableEq, Repr

def missingTableMessage : Text :=
  "(sqlite3.OperationalError) no such table: " ++ Layout.catalogName

def StoreFault.message : StoreFault → Text
  | .missingTable => missingTableMessage
  | .vanityOfNull message => message
  | .unencodable error => error.message
  | .refused violation => "(sqlite3.IntegrityError) " ++ violation.message

/-- The name of the kind of error that a fault is. -/
def StoreFault.kind : StoreFault → Text
  | .missingTable => "OperationalError"
  | .vanityOfNull _ => "TypeError"
  | .unencodable _ => Text.EncodeError.kind
  | .refused _ => "IntegrityError"

/-- What the library for the database adds to the text of an error, on lines of their own:
the statement, its parameters and where to read on. -/
class Annotations where
  further (shortener : Text) (shortcodes : List (Option Text)) (fault : StoreFault) : Text

/-- Texts without these lines, which are not compared. -/
instance : Annotations := ⟨fun _ _ _ => []⟩

structure StoreError where
  shortener : Text
  fault : StoreFault
  further : Text
deriving DecidableEq, Repr

def StoreError.detail (error : StoreError) : Text :=
  "Failed to store catalog for " ++ error.shortener ++ ": " ++ error.fault.message
    ++ error.further

def StoreError.message (error : StoreError) : Text := "Database error: " ++ error.detail

/-- Whether a shortcode that may be missing is taken for one that a person chose. -/
def isVanity (shortener : Shortener) (shortcode : Option Text) : Except StoreFault Bool :=
  match shortcode, shortener.vanity with
  | some code, _ => .ok (shortener.isVanity code)
  | none, none => .ok false
  | none, some test => test.ofMissing.mapError .vanityOfNull

/-- The rows of a catalog whose first code has the given rank. -/
def rowsFrom (shortener : Shortener) (rank : Nat) :
    List (Option Text) → Except StoreFault (List CatalogRow)
  | [] => .ok []
  | shortcode :: shortcodes =>
      match isVanity shortener shortcode with
      | .error fault => .error fault
      | .ok isVanity =>
          (rowsFrom shortener (rank + 1) shortcodes).map
            (⟨shortener.name, shortcode, rank, isVanity⟩ :: ·)

/-- Why rows cannot be written down, whatever the table holds. -/
def encodeFault? (rows : List CatalogRow) : Option Text.EncodeError :=
  rows.findSome? fun row => row.shortcode.bind Text.utf8Fault

/-! ## Transactions -/

/-- A session with the database: what was committed last, and what is written by now. -/
structure Session where
  committed : Database
  current : Database

namespace Session

def start (database : Database) : Session := ⟨database, database⟩

def commit (session : Session) : Session := ⟨session.current, session.current⟩

def rollback (session : Session) : Session := ⟨session.committed, session.committed⟩

def write (table : CatalogTable) (session : Session) : Session :=
  { session with current := { session.current with catalog := some table } }

end Session

/-- Statements in a session.  A failure keeps what was written before it. -/
abbrev Transaction := ExceptT StoreFault (StateM Session)

/-- The catalog table as it is by now. -/
def catalogTable : Transaction CatalogTable := do
  match (← get).current.catalog with
  | none => throw .missingTable
  | some table => return table

/-- Deletes the rows of a shortener.  They are looked for by its name, which has to be
written down for that. -/
def deleteRows (shortener : Text) : Transaction Unit := do
  let table ← catalogTable
  match Text.utf8Fault shortener with
  | some error => throw (.unencodable error)
  | none => modify (.write { table with rows := table.rows.filter (·.shortener != shortener) })

def insertRow (row : CatalogRow) : Transaction Unit := do
  match insert (← catalogTable) row with
  | .error violation => throw (.refused violation)
  | .ok table => modify (.write table)

/-- Inserts rows.  All of them are written down before the first one is inserted. -/
def flush (rows : List CatalogRow) : Transaction Unit := do
  match encodeFault? rows with
  | some error => throw (.unencodable error)
  | none => rows.forM insertRow

/-- The statements that replace the catalog of a shortener. -/
def replaceRows (shortener : Shortener) (shortcodes : List (Option Text)) : Transaction Unit := do
  deleteRows shortener.name
  let rows ← ExceptT.mk (pure (rowsFrom shortener 0 shortcodes))
  flush rows

/-- Replaces the catalog of a shortener and gives the number of its shortcodes. -/
def replace [Annotations] (database : Database) (shortener : Shortener)
    (shortcodes : List (Option Text)) : Except StoreError Nat × Database :=
  match (replaceRows shortener shortcodes).run.run (.start database) with
  | (.ok (), session) => (.ok shortcodes.length, session.commit.current)
  | (.error fault, session) =>
      (.error ⟨shortener.name, fault, Annotations.further shortener.name shortcodes fault⟩,
        session.rollback.current)

def storeLog (shortener : Text) : Except StoreError Nat → List Log.Entry
  | .ok count => [⟨"urlhero.services.catalog_service", Log.Level.info,
      "Stored " ++ Text.ofNat count ++ " shortcodes for " ++ shortener⟩]
  | .error error => [⟨"urlhero.services.catalog_service", Log.Level.error, error.detail⟩]

/-- Why the catalog cannot be read. -/
inductive ReadFault
  | missingTable
  | unencodable (error : Text.EncodeError)
  | limitTooLarge
deriving DecidableEq, Repr

def ReadFault.message : ReadFault → Text
  | .missingTable => missingTableMessage
  | .unencodable error => error.message
  | .limitTooLarge => "Python int too large to convert to SQLite INTEGER"

def ReadFault.kind : ReadFault → Text
  | .missingTable => "OperationalError"
  | .unencodable _ => Text.EncodeError.kind
  | .limitTooLarge => "OverflowError"

/-- The rows of a shortener in rank order. -/
def rowsOf (table : CatalogTable) (shortener : Text) : List CatalogRow :=
  (table.rows.filter (·.shortener == shortener)).mergeSort fun left right =>
    left.rank ≤ right.rank

/-- The least number that is not a signed number of 64 bits. -/
def limitBound : Int := 0x8000000000000000

/-- A limit has to be a signed number of 64 bits; a negative one is none. -/
def limited (limit : Option Int) (rows : List CatalogRow) : Except ReadFault (List CatalogRow) :=
  match limit with
  | none => .ok rows
  | some limit =>
      if limit < -limitBound || limitBound ≤ limit then .error .limitTooLarge
      else if limit < 0 then .ok rows
      else .ok (rows.take limit.toNat)

/-- All rows of a shortener in rank order, if there is a table and the name can be
written down. -/
def find (database : Database) (shortener : Text) : Except ReadFault (List CatalogRow) :=
  match database.catalog with
  | none => .error .missingTable
  | some table =>
      match Text.utf8Fault shortener with
      | some error => .error (.unencodable error)
      | none => .ok (rowsOf table shortener)

/-- The rows of a shortener in rank order, with or without vanity codes. -/
def select (database : Database) (shortener : Text) (limit : Option Int)
    (includeVanity : Bool) : Except ReadFault (List CatalogRow) :=
  match find database shortener with
  | .error fault => .error fault
  | .ok rows => limited limit (rows.filter fun row => includeVanity || !row.isVanity)

/-- The number of rows of a shortener. -/
def count (database : Database) (shortener : Text) : Except ReadFault Nat :=
  (find database shortener).map List.length

/-- All rows, by shortener and rank. -/
def listing (table : CatalogTable) : List CatalogRow :=
  table.rows.mergeSort fun left right =>
    if left.shortener = right.shortener then left.rank ≤ right.rank
    else Text.le left.shortener right.shortener

/-- Creates the catalog table if it is missing. -/
def createTables (database : Database) : Database :=
  match database.catalog with
  | some _ => database
  | none => { database with catalog := some ⟨Layout.created, []⟩ }

end Catalog

namespace Database

def empty : Database := ⟨none, none⟩

end Database

end ShortlinkCatalog
