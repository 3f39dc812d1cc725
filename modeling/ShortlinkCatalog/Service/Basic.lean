import ShortlinkCatalog.Archive.Exchange
import ShortlinkCatalog.Catalog.Store
import ShortlinkCatalog.Service.RateLimit
import ShortlinkCatalog.Settings.Basic
import ShortlinkCatalog.Shortener.Registry

/-!
# The service

A service is a registry, its settings and a way to the archive.  What its requests
change is a state: the visits of the current window, the database and the archive.
The clock is outside of the model; what it shows is passed through as text.
-/

namespace ShortlinkCatalog

/-- When catalogs were fetched, and how long an answer took in milliseconds. -/
structure Clock where
  fetchedAt : Text
  elapsed : Text
deriving DecidableEq, Repr

structure Service (σ : Type) where
  registry : Registry
  settings : Settings
  send : Archive.Sender σ
  clock : Clock

namespace Service

structure State (σ : Type) where
  window : Window
  database : Database
  archive : σ
deriving DecidableEq, Repr

/-- The state of a service that starts. -/
def State.start {σ : Type} (database : Database) (archive : σ) : State σ :=
  ⟨[], Catalog.createTables database, archive⟩

end Service

end ShortlinkCatalog
