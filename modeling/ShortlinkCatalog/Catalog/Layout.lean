/-!
# Layout of the catalog table

A table is laid out by its columns and indexes.  The catalog table comes in two
layouts, one made when the service starts and one made by the migration.  They agree
in all that constrains a row; only the migration gives `is_vanity` a default.
-/

namespace ShortlinkCatalog

/-- A column; `keyPosition` is its place in the primary key, or zero. -/
structure Column where
  name : String
  type : String
  required : Bool
  default : Option String
  keyPosition : Nat
deriving DecidableEq, Repr

structure Index where
  name : String
  unique : Bool
  columns : List String
deriving DecidableEq, Repr

structure Layout where
  columns : List Column
  indexes : List Index
deriving DecidableEq, Repr

namespace Layout

def catalogName : String := "archived_shortcodes"

def fetchedAtIndex : Index := ⟨"ix_archived_shortcodes_fetched_at", false, ["fetched_at"]⟩

def rankIndex : Index := ⟨"ix_archived_shortcodes_shortener_rank", false, ["shortener", "rank"]⟩

/-- The index that keeps the shortcodes of a shortener distinct. -/
def codeIndex : Index :=
  ⟨"sqlite_autoindex_archived_shortcodes_1", true, ["shortener", "shortcode"]⟩

def catalogColumns (vanityDefault : Option String) : List Column :=
  [⟨"id", "INTEGER", true, none, 1⟩, ⟨"shortener", "VARCHAR(50)", true, none, 0⟩,
    ⟨"shortcode", "VARCHAR(255)", true, none, 0⟩, ⟨"rank", "INTEGER", true, none, 0⟩,
    ⟨"is_vanity", "BOOLEAN", true, vanityDefault, 0⟩,
    ⟨"fetched_at", "DATETIME", true, none, 0⟩]

/-- The layout that the service creates. -/
def created : Layout := ⟨catalogColumns none, [fetchedAtIndex, rankIndex, codeIndex]⟩

/-- The layout that the migration makes, before its indexes but the one of the
uniqueness constraint. -/
def migratedBare : Layout := ⟨catalogColumns (some "0"), [codeIndex]⟩

/-- The version table of migrations. -/
def versions : Layout :=
  ⟨[⟨"version_num", "VARCHAR(32)", true, none, 1⟩],
    [⟨"sqlite_autoindex_alembic_version_1", true, ["version_num"]⟩]⟩

def hasColumn (layout : Layout) (name : String) : Bool := layout.columns.any (·.name == name)

def hasIndex (layout : Layout) (name : String) : Bool := layout.indexes.any (·.name == name)

def addIndex (layout : Layout) (index : Index) : Layout :=
  { layout with indexes := index :: layout.indexes }

def dropIndex (layout : Layout) (name : String) : Layout :=
  { layout with indexes := layout.indexes.filter (·.name != name) }

end Layout

end ShortlinkCatalog
