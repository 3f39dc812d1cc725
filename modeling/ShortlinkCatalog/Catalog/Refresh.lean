import ShortlinkCatalog.Archive.KnownCodes
import ShortlinkCatalog.Catalog.Store

/-!
# Refreshing a catalog

A refresh asks the archive for the shortcodes of a shortener and then stores them.
The two steps are separate: whatever happens to the store between them, the second
replaces the catalog as a whole.
-/

namespace ShortlinkCatalog.Catalog

inductive RefreshError
  | fetch (error : Archive.FetchError)
  | store (error : StoreError)
deriving DecidableEq, Repr

def RefreshError.message : RefreshError → Text
  | .fetch error => error.message
  | .store error => error.message

/-- What a refresh leaves behind: its result, its report and the two states. -/
structure Refreshed (σ : Type) where
  result : Except RefreshError Nat
  log : List Log.Entry
  archive : σ
  database : Database

/-- Stores what was fetched, if that succeeded. -/
def storeFetched [Annotations] (shortener : Shortener)
    (fetched : Except Archive.FetchError (List Text)) (database : Database) :
    Except RefreshError Nat × List Log.Entry × Database :=
  match fetched with
  | .error error => (.error (.fetch error), [], database)
  | .ok shortcodes =>
      let (stored, database) := replace database shortener (shortcodes.map some)
      (match stored with
        | .ok count => .ok count
        | .error error => .error (.store error),
        storeLog shortener.name stored, database)

def refresh [Json.Room] [Annotations] {σ : Type} (send : Archive.Sender σ)
    (settings : Settings) (shortener : Shortener) (archive : σ) (database : Database) :
    Refreshed σ :=
  let (fetched, fetchLog, archive) := Archive.knownCodes send settings shortener archive
  let (result, storeLog, database) := storeFetched shortener fetched database
  ⟨result, fetchLog ++ storeLog, archive, database⟩

/-- A refresh that is not waited for; its failure is only reported. -/
def refreshInBackground [Json.Room] [Annotations] {σ : Type} (send : Archive.Sender σ)
    (settings : Settings) (shortener : Shortener) (archive : σ) (database : Database) :
    Refreshed σ :=
  let refreshed := refresh send settings shortener archive database
  match refreshed.result with
  | .ok _ => refreshed
  | .error error =>
      { refreshed with
        log := refreshed.log ++ [⟨"urlhero.services.background_tasks", Log.Level.error,
          "Failed to refresh catalog for " ++ shortener.name ++ ": " ++ error.message⟩] }

end ShortlinkCatalog.Catalog
