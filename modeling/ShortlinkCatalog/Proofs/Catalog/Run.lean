import Mathlib.Data.List.Induction
import ShortlinkCatalog.Archive.Script
import ShortlinkCatalog.Catalog.Refresh
import ShortlinkCatalog.Proofs.Catalog.Store
import ShortlinkCatalog.Shortener.BuiltIn

/-!
# Runs over the catalog

Catalogs are replaced and refreshed in any order, under any names, and between the two
halves of a refresh anything can happen.  A run notes every attempt to store a catalog.
The table always shows, under each name, the catalog that was stored last, and an attempt
that fails leaves it alone.
-/

namespace ShortlinkCatalog.Catalog

/-- What can happen to the catalog. -/
inductive Move
  | replace (shortener : Shortener) (shortcodes : List (Option Text))
  | refresh (shortener : Shortener)
  | refreshInBackground (shortener : Shortener)
  /-- The first half of a refresh, which asks the archive. -/
  | fetch (shortener : Shortener)
  /-- The second half of the refresh at this place of those under way. -/
  | store (place : Nat)

/-- The codes that were to be stored, if there were any to be had, and what came of it. -/
structure Attempt where
  shortener : Shortener
  given : Except Archive.FetchError (List (Option Text))
  result : Except RefreshError Nat

structure Run (σ : Type) where
  archive : σ
  database : Database
  underway : List (Shortener × Except Archive.FetchError (List Text))
  /-- The attempts so far, the latest first. -/
  attempts : List Attempt

namespace Run

variable {σ : Type}

/-! ## One attempt -/

section Attempts

variable [Annotations]

/-- Stores the codes that were given, if there were any. -/
def perform (database : Database) (shortener : Shortener)
    (given : Except Archive.FetchError (List (Option Text))) :
    Except RefreshError Nat × Database :=
  match given with
  | .error error => (.error (.fetch error), database)
  | .ok shortcodes =>
      let (stored, database) := replace database shortener shortcodes
      (stored.mapError .store, database)

theorem storeFetched_eq_perform (shortener : Shortener)
    (fetched : Except Archive.FetchError (List Text)) (database : Database) :
    ((storeFetched shortener fetched database).1, (storeFetched shortener fetched database).2.2) =
      perform database shortener (fetched.map (·.map some)) := by
  cases fetched with
  | error error => rfl
  | ok shortcodes =>
      simp only [storeFetched, perform, Except.map]
      cases (replace database shortener (shortcodes.map some)).1 <;> rfl

/-- An attempt replaces one catalog by storable codes, or it fails and nothing happens. -/
theorem perform_cases {table : CatalogTable} (hlayout : table.layout.KeepsCodes)
    (versions : Option (List Text)) (shortener : Shortener)
    (given : Except Archive.FetchError (List (Option Text))) :
    (∃ codes : List Text, given = .ok (codes.map some) ∧ Storable shortener codes ∧
      perform ⟨some table, versions⟩ shortener given =
        (.ok codes.length, ⟨some (replaced table shortener codes), versions⟩)) ∨
    ∃ error, perform ⟨some table, versions⟩ shortener given =
      (.error error, ⟨some table, versions⟩) := by
  cases given with
  | error error =>
      right
      exact ⟨.fetch error, rfl⟩
  | ok shortcodes =>
      obtain ⟨codes, rfl, hstorable, hreplace⟩ | ⟨-, error, hreplace⟩ :=
        replace_cases hlayout versions shortener shortcodes
      · left
        refine ⟨codes, rfl, hstorable, ?_⟩
        simp only [perform, hreplace, Except.mapError, List.length_map]
      · right
        exact ⟨.store error, by simp only [perform, hreplace, Except.mapError]⟩

end Attempts

/-! ## One step -/

section Steps

variable [Json.Room] [Annotations]

/-- A run over an empty table. -/
def start (archive : σ) (layout : Layout) (versions : Option (List Text)) : Run σ :=
  ⟨archive, ⟨some ⟨layout, []⟩, versions⟩, [], []⟩

def step (send : Archive.Sender σ) (settings : Settings) (run : Run σ) : Move → Run σ
  | .replace shortener shortcodes =>
      let (stored, database) := replace run.database shortener shortcodes
      let attempt := ⟨shortener, .ok shortcodes, stored.mapError .store⟩
      { run with database, attempts := attempt :: run.attempts }
  | .refresh shortener =>
      let fetched := (Archive.knownCodes send settings shortener run.archive).1
      let refreshed := refresh send settings shortener run.archive run.database
      let attempt := ⟨shortener, fetched.map (·.map some), refreshed.result⟩
      { run with
        archive := refreshed.archive
        database := refreshed.database
        attempts := attempt :: run.attempts }
  | .refreshInBackground shortener =>
      let fetched := (Archive.knownCodes send settings shortener run.archive).1
      let refreshed := refreshInBackground send settings shortener run.archive run.database
      let attempt := ⟨shortener, fetched.map (·.map some), refreshed.result⟩
      { run with
        archive := refreshed.archive
        database := refreshed.database
        attempts := attempt :: run.attempts }
  | .fetch shortener =>
      let (fetched, _, archive) := Archive.knownCodes send settings shortener run.archive
      { run with archive, underway := run.underway ++ [(shortener, fetched)] }
  | .store place =>
      match run.underway[place]? with
      | none => run
      | some (shortener, fetched) =>
          let (result, _, database) := storeFetched shortener fetched run.database
          let attempt := ⟨shortener, fetched.map (·.map some), result⟩
          { run with
            database
            underway := run.underway.eraseIdx place
            attempts := attempt :: run.attempts }

/-- The two halves of a refresh, one right after the other, are a refresh. -/
theorem step_fetch_store (send : Archive.Sender σ) (settings : Settings) (run : Run σ)
    (shortener : Shortener) :
    step send settings (step send settings run (.fetch shortener))
        (.store run.underway.length) =
      step send settings run (.refresh shortener) := by
  simp only [step, List.getElem?_concat_length, refresh]
  rw [List.eraseIdx_append_of_length_le le_rfl]
  simp

/-- A failure in the background is reported, and nothing else is different. -/
theorem step_refreshInBackground (send : Archive.Sender σ) (settings : Settings) (run : Run σ)
    (shortener : Shortener) :
    step send settings run (.refreshInBackground shortener) =
      step send settings run (.refresh shortener) := by
  simp only [step, refreshInBackground]
  cases hresult : (refresh send settings shortener run.archive run.database).result <;>
    simp [hresult]

/-- One attempt was made to store a catalog, and it was noted. -/
def Attempted (before after : Run σ) : Prop :=
  ∃ shortener given,
    after.attempts =
      ⟨shortener, given, (perform before.database shortener given).1⟩ :: before.attempts ∧
    after.database = (perform before.database shortener given).2

theorem attempted_store (send : Archive.Sender σ) (settings : Settings) {run : Run σ}
    {place : Nat} {shortener : Shortener} {fetched : Except Archive.FetchError (List Text)}
    (hplace : run.underway[place]? = some (shortener, fetched)) :
    Attempted run (step send settings run (.store place)) := by
  refine ⟨shortener, fetched.map (·.map some), ?_⟩
  rw [← storeFetched_eq_perform]
  simp [step, hplace]

theorem attempted_refresh (send : Archive.Sender σ) (settings : Settings) (run : Run σ)
    (shortener : Shortener) :
    Attempted run (step send settings run (.refresh shortener)) := by
  rw [← step_fetch_store]
  exact attempted_store send settings List.getElem?_concat_length

/-- A step makes one attempt to store a catalog, or leaves the database alone. -/
theorem step_cases (send : Archive.Sender σ) (settings : Settings) (run : Run σ) (move : Move) :
    ((step send settings run move).attempts = run.attempts ∧
      (step send settings run move).database = run.database) ∨
    Attempted run (step send settings run move) := by
  cases move with
  | replace shortener shortcodes =>
      right
      exact ⟨shortener, .ok shortcodes, rfl, rfl⟩
  | refresh shortener =>
      right
      exact attempted_refresh send settings run shortener
  | refreshInBackground shortener =>
      right
      rw [step_refreshInBackground]
      exact attempted_refresh send settings run shortener
  | fetch shortener =>
      left
      exact ⟨rfl, rfl⟩
  | store place =>
      cases hplace : run.underway[place]? with
      | none =>
          left
          simp [step, hplace]
      | some entry =>
          right
          exact attempted_store send settings hplace

end Steps

/-! ## What a run keeps -/

/-- The shortener and the codes of the last catalog that was stored under a name. -/
def lastStored (attempts : List Attempt) (name : Text) :
    Option (Shortener × List (Option Text)) :=
  attempts.findSome? fun attempt =>
    match attempt.given, attempt.result with
    | .ok shortcodes, .ok _ =>
        if attempt.shortener.name = name then some (attempt.shortener, shortcodes) else none
    | _, _ => none

/-- Rows in rank order show a catalog if they are its ranked codes, and no catalog if
there are none. -/
def Show (rows : List CatalogRow) : Option (Shortener × List (Option Text)) → Prop
  | none => rows = []
  | some (shortener, shortcodes) =>
      ∃ codes : List Text, shortcodes = codes.map some ∧ rows = catalogRows shortener codes

/-- A run whose table shows the catalogs that were stored last. -/
structure Keeps (run : Run σ) (layout : Layout) (versions : Option (List Text))
    (table : CatalogTable) : Prop where
  database : run.database = ⟨some table, versions⟩
  layout : table.layout = layout
  keys : (table.rows.map CatalogRow.key).Nodup
  shown : ∀ name, Show (rowsOf table name) (lastStored run.attempts name)

theorem start_keeps (archive : σ) (layout : Layout) (versions : Option (List Text)) :
    (start archive layout versions).Keeps layout versions ⟨layout, []⟩ where
  database := rfl
  layout := rfl
  keys := List.nodup_nil
  shown _ := List.mergeSort_nil

theorem lastStored_cons_error (attempts : List Attempt) (shortener : Shortener)
    (given : Except Archive.FetchError (List (Option Text))) (error : RefreshError)
    (name : Text) :
    lastStored (⟨shortener, given, .error error⟩ :: attempts) name = lastStored attempts name := by
  cases given <;> rfl

theorem lastStored_cons_ok (attempts : List Attempt) (shortener : Shortener)
    (shortcodes : List (Option Text)) (count : Nat) (name : Text) :
    lastStored (⟨shortener, .ok shortcodes, .ok count⟩ :: attempts) name =
      if shortener.name = name then some (shortener, shortcodes) else lastStored attempts name := by
  by_cases hname : shortener.name = name <;> simp [lastStored, hname]

section Runs

variable [Json.Room] [Annotations]

/-- The rows that one step may touch: none if nothing is attempted or if the attempt
fails, and otherwise those of the shortener of the attempt. -/
def Touches (before after : Run σ) (table next : CatalogTable) : Prop :=
  (after.attempts = before.attempts ∧ next = table) ∨
  ∃ attempt, after.attempts = attempt :: before.attempts ∧
    ((∃ error, attempt.result = .error error) → next = table) ∧
    ∀ name ≠ attempt.shortener.name,
      next.rows.filter (·.shortener == name) = table.rows.filter (·.shortener == name)

/-- A step keeps what the table shows. -/
theorem step_keeps {run : Run σ} {layout : Layout} {versions : Option (List Text)}
    {table : CatalogTable} (hcatalog : layout.KeepsCodes)
    (hkeeps : run.Keeps layout versions table) (send : Archive.Sender σ) (settings : Settings)
    (move : Move) :
    ∃ next, (step send settings run move).Keeps layout versions next ∧
      Touches run (step send settings run move) table next := by
  obtain ⟨hattempts, hdatabase⟩ | ⟨shortener, given, hattempts, hdatabase⟩ :=
    step_cases send settings run move
  · refine ⟨table, ⟨?_, hkeeps.layout, hkeeps.keys, ?_⟩, .inl ⟨hattempts, rfl⟩⟩
    · rw [hdatabase, hkeeps.database]
    · rw [hattempts]
      exact hkeeps.shown
  rw [hkeeps.database] at hattempts hdatabase
  have hlayout : table.layout.KeepsCodes := by
    rw [hkeeps.layout]
    exact hcatalog
  obtain ⟨codes, rfl, hstorable, hperform⟩ | ⟨error, hperform⟩ :=
    perform_cases hlayout versions shortener given
  · rw [hperform] at hattempts hdatabase
    refine ⟨replaced table shortener codes, ⟨hdatabase, hkeeps.layout, ?_, ?_⟩,
      .inr ⟨_, hattempts, ?_, ?_⟩⟩
    · exact nodup_key_replaced hkeeps.keys hstorable
    · intro name
      rw [hattempts, lastStored_cons_ok]
      by_cases hname : shortener.name = name
      · subst hname
        rw [if_pos rfl, rowsOf_replaced_self]
        exact ⟨codes, rfl, rfl⟩
      · rw [if_neg hname, rowsOf_replaced_of_ne table shortener codes (Ne.symm hname)]
        exact hkeeps.shown name
    · rintro ⟨error, herror⟩
      cases herror
    · intro name hname
      exact filter_replaced_of_ne table shortener codes hname
  · rw [hperform] at hattempts hdatabase
    refine ⟨table, ⟨hdatabase, hkeeps.layout, hkeeps.keys, ?_⟩,
      .inr ⟨_, hattempts, fun _ => rfl, fun _ _ => rfl⟩⟩
    intro name
    rw [hattempts, lastStored_cons_error]
    exact hkeeps.shown name

/-- A run keeps what the table shows. -/
theorem run_keeps {layout : Layout} (hcatalog : layout.KeepsCodes) (send : Archive.Sender σ)
    (settings : Settings) (archive : σ) (versions : Option (List Text)) (moves : List Move) :
    ∃ table, (moves.foldl (step send settings) (start archive layout versions)).Keeps
      layout versions table := by
  induction moves using List.reverseRecOn with
  | nil => exact ⟨_, start_keeps archive layout versions⟩
  | append_singleton moves move ih =>
      obtain ⟨table, hkeeps⟩ := ih
      obtain ⟨next, hnext, -⟩ := step_keeps hcatalog hkeeps send settings move
      rw [List.foldl_append]
      exact ⟨next, hnext⟩

/-- After every run over an empty table the rows of each shortener in rank order are the
ranked codes of the last catalog that was stored under its name, and no two rows agree on
shortener and shortcode.  The next step touches the rows of one name at most, and none if
it fails.  A catalog is replaced exactly when none of its codes is missing or repeated and
all of it can be written down. -/
theorem run_shows_last_stored {σ : Type} (send : Archive.Sender σ) (settings : Settings)
    (archive : σ) (layout : Layout) (hlayout : layout ∈ Layout.catalogs)
    (versions : Option (List Text)) (moves : List Move) :
    let run := moves.foldl (step send settings) (start archive layout versions)
    ∃ table, run.Keeps layout versions table ∧
      (∀ move, ∃ next, (step send settings run move).Keeps layout versions next ∧
        Touches run (step send settings run move) table next) ∧
      ∀ (shortener : Shortener) (shortcodes : List (Option Text)) (count : Nat),
        (replace run.database shortener shortcodes).1 = .ok count ↔
          none ∉ shortcodes ∧ shortcodes.Nodup ∧ shortener.name.isEncodable = true ∧
            (∀ code, some code ∈ shortcodes → code.isEncodable = true) ∧
            count = shortcodes.length := by
  intro run
  have hcatalog := Layout.keepsCodes_of_mem_catalogs hlayout
  obtain ⟨table, hkeeps⟩ := run_keeps hcatalog send settings archive versions moves
  refine ⟨table, hkeeps, step_keeps hcatalog hkeeps send settings, ?_⟩
  intro shortener shortcodes count
  rw [hkeeps.database]
  exact replace_eq_ok_iff (hkeeps.layout ▸ hcatalog) versions shortener shortcodes count

end Runs

/-- Two codes are stored, a list that repeats a code is refused, and there is no refresh
under way to finish. -/
theorem run_shows_last_stored_refused :
    Layout.created ∈ Layout.catalogs ∧
      ∃ table : CatalogTable,
        ([.replace BuiltIn.allst [some "b", some "a"],
          .replace BuiltIn.allst [some "c", some "c"],
          .store 0].foldl
          (step Archive.Script.send .default)
          (start (.ofOutcomes []) Layout.created none)).database = ⟨some table, none⟩ ∧
        rowsOf table "allst" = [⟨"allst", some "b", 0, true⟩, ⟨"allst", some "a", 1, true⟩] := by
  have hlayout : Layout.created ∈ Layout.catalogs := by
    simp [Layout.catalogs]
  obtain ⟨table, hkeeps, -, -⟩ := run_shows_last_stored Archive.Script.send .default
    (.ofOutcomes []) Layout.created hlayout none
    [.replace BuiltIn.allst [some "b", some "a"],
      .replace BuiltIn.allst [some "c", some "c"],
      .store 0]
  refine ⟨hlayout, table, hkeeps.database, ?_⟩
  have hshown := hkeeps.shown BuiltIn.allst.name
  change ∃ codes, [("b" : Text), "a"].map some = codes.map some ∧
    rowsOf table BuiltIn.allst.name = catalogRows BuiltIn.allst codes at hshown
  obtain ⟨codes, hcodes, hrows⟩ := hshown
  rw [← List.map_injective_iff.mpr (Option.some_injective _) hcodes] at hrows
  exact hrows

/-- A code with a surrogate is refused, although it is there and not repeated. -/
theorem replace_surrogate_refused :
    let shortcodes : List (Option Text) := [some [.char 'a', .surrogate 0x7ff]]
    none ∉ shortcodes ∧ shortcodes.Nodup ∧
      ¬ ∃ count, (replace ⟨some ⟨Layout.created, []⟩, none⟩ BuiltIn.allst shortcodes).1 =
        .ok count := by
  refine ⟨by decide, by decide, ?_⟩
  rintro ⟨count, hcount⟩
  have hrefused : (replace ⟨some ⟨Layout.created, []⟩, none⟩ BuiltIn.allst
      [some [.char 'a', .surrogate 0x7ff]]).1.isOk = false := by
    decide
  rw [hcount] at hrefused
  cases hrefused

end Run

end ShortlinkCatalog.Catalog
