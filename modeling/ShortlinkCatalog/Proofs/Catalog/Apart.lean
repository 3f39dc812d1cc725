import ShortlinkCatalog.Catalog.Refresh
import ShortlinkCatalog.Proofs.Archive.KnownCodes
import ShortlinkCatalog.Proofs.Archive.Steady
import ShortlinkCatalog.Proofs.Catalog.Store
import ShortlinkCatalog.Proofs.Shortener.Batch

/-!
# Refreshes that share a table

A fetch gives different codes, so whether they can be stored is settled before the table is
looked at: only a surrogate or a missing table is in the way.  What a refresh from a steady
archive ends in, reports and leaves of its shortener's rows is therefore a function of these
rows alone, and the rows of the others stay as they are.
-/

namespace ShortlinkCatalog.Catalog

/-- The rows under a name in the order in which they are stored, if there is a table. -/
def stored (database : Database) (name : Text) : Option (List CatalogRow) :=
  database.catalog.map fun table => table.rows.filter (·.shortener == name)

/-- A database whose table, if it has one, keeps the codes of a shortener distinct. -/
def KeepsCodes (database : Database) : Prop :=
  ∀ table ∈ database.catalog, table.layout.KeepsCodes

/-- Codes that are different, if there are any. -/
def AreDistinct (fetched : Except Archive.FetchError (List Text)) : Prop :=
  ∀ codes, fetched = .ok codes → codes.Nodup

variable {σ : Type} {shortener : Shortener} {codes : List Text} {database : Database}
  {fetched : Except Archive.FetchError (List Text)}

/-! ## Storing different codes -/

/-- What is in the way of storing different codes in any table. -/
def storeFault? (shortener : Shortener) (codes : List Text) : Option StoreFault :=
  ((Text.utf8Fault shortener.name).or (encodeFault? (catalogRows shortener codes))).map
    .unencodable

theorem replaceIn_of_nodup {table : CatalogTable} (hlayout : table.layout.KeepsCodes)
    (hcodes : codes.Nodup) :
    replaceIn table shortener (codes.map some) =
      match storeFault? shortener codes with
      | some fault => .error fault
      | none => .ok (replaced table shortener codes) := by
  have hinsert : insertAll { table with rows := otherRows table shortener.name }
      (catalogRows shortener codes) = .ok (replaced table shortener codes) :=
    (@insertAll_eq_ok_iff { table with rows := otherRows table shortener.name } _ hlayout _).mpr
      ⟨(insertable_catalogRows_iff table shortener codes).mpr hcodes, rfl⟩
  rw [replaceIn, rowsFrom_map_some, storeFault?]
  cases Text.utf8Fault shortener.name with
  | some error => rfl
  | none =>
      cases hencoded : encodeFault? (catalogRows shortener codes) with
      | some error =>
          rw [catalogRows] at hencoded
          simp [hencoded]
      | none =>
          rw [catalogRows] at hencoded
          simp only [hencoded]
          rw [← catalogRows, hinsert]
          rfl

section Storing

variable [Annotations]

theorem replace_of_nodup {table : CatalogTable} (hlayout : table.layout.KeepsCodes)
    (versions : Option (List Text)) (hcodes : codes.Nodup) :
    replace ⟨some table, versions⟩ shortener (codes.map some) =
      match storeFault? shortener codes with
      | some fault => (.error ⟨shortener.name, fault,
          Annotations.further shortener.name (codes.map some) fault⟩, ⟨some table, versions⟩)
      | none => (.ok codes.length, ⟨some (replaced table shortener codes), versions⟩) := by
  simp only [replace_eq, replaceIn_of_nodup hlayout hcodes]
  cases storeFault? shortener codes <;> simp

/-! ## Storing what was fetched -/

/-- What a refresh ends in, what it reports, and the rows of one shortener after it. -/
structure Effect where
  result : Except RefreshError Nat
  log : List Log.Entry
  rows : Option (List CatalogRow)

/-- How different codes are stored over the rows of their shortener. -/
def storeOver (shortener : Shortener) (codes : List Text) :
    Option (List CatalogRow) → Except StoreError Nat × Option (List CatalogRow)
  | none => (.error ⟨shortener.name, .missingTable,
      Annotations.further shortener.name (codes.map some) .missingTable⟩, none)
  | some rows =>
      match storeFault? shortener codes with
      | some fault => (.error ⟨shortener.name, fault,
          Annotations.further shortener.name (codes.map some) fault⟩, some rows)
      | none => (.ok codes.length, some (catalogRows shortener codes))

theorem replace_eq_storeOver (shortener : Shortener) (hlayout : KeepsCodes database)
    (hcodes : codes.Nodup) :
    let after := replace database shortener (codes.map some)
    (after.1, stored after.2 shortener.name) =
      storeOver shortener codes (stored database shortener.name) := by
  obtain ⟨catalog, versions⟩ := database
  cases catalog with
  | none => rfl
  | some table =>
      have hstored : stored ⟨some table, versions⟩ shortener.name =
          some (table.rows.filter (·.shortener == shortener.name)) := rfl
      simp only [replace_of_nodup (hlayout table rfl) versions hcodes, hstored, storeOver]
      cases storeFault? shortener codes with
      | some fault => rfl
      | none => exact congrArg (_, some ·) (filter_replaced_self table shortener codes)

/-- What storing does, as it shows in the rows of the shortener. -/
def storeEffect (shortener : Shortener) (fetched : Except Archive.FetchError (List Text))
    (rows : Option (List CatalogRow)) : Effect :=
  match fetched with
  | .error error => ⟨.error (.fetch error), [], rows⟩
  | .ok codes =>
      let (result, rows) := storeOver shortener codes rows
      ⟨result.mapError .store, storeLog shortener.name result, rows⟩

theorem storeFetched_eq_storeEffect (hlayout : KeepsCodes database) (hcodes : AreDistinct fetched) :
    let after := storeFetched shortener fetched database
    (⟨after.1, after.2.1, stored after.2.2 shortener.name⟩ : Effect) =
      storeEffect shortener fetched (stored database shortener.name) := by
  cases fetched with
  | error error => rfl
  | ok codes =>
      simp only [storeFetched, storeEffect,
        ← replace_eq_storeOver shortener hlayout (hcodes codes rfl)]
      cases (replace database shortener (codes.map some)).1 <;> rfl

/-- A catalog is stored beside those of the other shorteners. -/
theorem stored_replace_of_ne (hlayout : KeepsCodes database) (shortcodes : List (Option Text))
    {name : Text} (hname : name ≠ shortener.name) :
    stored (replace database shortener shortcodes).2 name = stored database name := by
  obtain ⟨catalog, versions⟩ := database
  cases catalog with
  | none => rfl
  | some table =>
      obtain ⟨codes, -, -, hreplace⟩ | ⟨-, error, hreplace⟩ :=
        replace_cases (hlayout table rfl) versions shortener shortcodes
      · rw [hreplace]
        exact congrArg some (filter_replaced_of_ne table shortener codes hname)
      · rw [hreplace]

theorem keepsCodes_replace (hlayout : KeepsCodes database) (shortener : Shortener)
    (shortcodes : List (Option Text)) :
    KeepsCodes (replace database shortener shortcodes).2 := by
  obtain ⟨catalog, versions⟩ := database
  cases catalog with
  | none => exact hlayout
  | some table =>
      obtain ⟨codes, -, -, hreplace⟩ | ⟨-, error, hreplace⟩ :=
        replace_cases (hlayout table rfl) versions shortener shortcodes
      · rw [hreplace]
        rintro _ ⟨rfl⟩
        exact hlayout table rfl
      · rw [hreplace]
        exact hlayout

end Storing

/-! ## Refreshing -/

variable [Json.Room]

/-- A fetch gives the codes of one batch. -/
theorem areDistinct_fst_knownCodes (send : Archive.Sender σ) (settings : Settings)
    (shortener : Shortener) (archive : σ) :
    AreDistinct (Archive.knownCodes send settings shortener archive).1 := by
  intro codes hcodes
  obtain ⟨urls, hcleaned⟩ := Archive.exists_cleanUrls_of_knownCodes hcodes
  exact Shortener.nodup_of_cleanUrls_eq_ok hcleaned

variable [Annotations]

/-- What a refresh does, as it shows in the rows of its shortener. -/
def refreshEffect (send : Archive.Sender σ) (settings : Settings) (shortener : Shortener)
    (archive : σ) (rows : Option (List CatalogRow)) : Effect :=
  let (fetched, fetchLog, _) := Archive.knownCodes send settings shortener archive
  let effect := storeEffect shortener fetched rows
  { effect with log := fetchLog ++ effect.log }

/-- What is seen of a refresh under a name. -/
def Refreshed.effect (refreshed : Refreshed σ) (name : Text) : Effect :=
  ⟨refreshed.result, refreshed.log, stored refreshed.database name⟩

variable {send : Archive.Sender σ} {reply : Archive.Request → Archive.Outcome}
  {settings : Settings}

theorem effect_refresh (hlayout : KeepsCodes database) (send : Archive.Sender σ)
    (settings : Settings) (shortener : Shortener) (archive : σ) :
    (refresh send settings shortener archive database).effect shortener.name =
      refreshEffect send settings shortener archive (stored database shortener.name) := by
  have hdistinct := areDistinct_fst_knownCodes send settings shortener archive
  simp only [refreshEffect, ← storeFetched_eq_storeEffect hlayout hdistinct]
  rfl

theorem refreshEffect_eq_stateless (hanswers : Archive.Answers send reply) (settings : Settings)
    (shortener : Shortener) (archive : σ) (rows : Option (List CatalogRow)) :
    refreshEffect send settings shortener archive rows =
      refreshEffect (Archive.stateless reply) settings shortener () rows := by
  obtain ⟨hresult, hlog⟩ :=
    Archive.knownCodes_eq_stateless hanswers settings shortener archive
  simp only [refreshEffect, hresult, hlog]

/-- Two refreshes of a shortener from one steady archive do the same where they find the same
rows, whatever else is in the table and whatever the archive was asked before. -/
theorem effect_refresh_congr (hanswers : Archive.Answers send reply) {left right : Database}
    (hleft : KeepsCodes left) (hright : KeepsCodes right)
    (hstored : stored left shortener.name = stored right shortener.name) (first second : σ) :
    (refresh send settings shortener first left).effect shortener.name =
      (refresh send settings shortener second right).effect shortener.name := by
  rw [effect_refresh hleft, effect_refresh hright, refreshEffect_eq_stateless hanswers,
    refreshEffect_eq_stateless hanswers, hstored]

/-- A refresh leaves the catalog that the archive knows of, or the rows as they were. -/
theorem refresh_cases (hlayout : KeepsCodes database) (send : Archive.Sender σ)
    (settings : Settings) (shortener : Shortener) (archive : σ) :
    let refreshed := refresh send settings shortener archive database
    (∃ codes, (Archive.knownCodes send settings shortener archive).1 = .ok codes ∧
      refreshed.result = .ok codes.length ∧
      stored refreshed.database shortener.name = some (catalogRows shortener codes)) ∨
    ∃ error, refreshed.result = .error error ∧
      stored refreshed.database shortener.name = stored database shortener.name := by
  intro refreshed
  have heffect := effect_refresh hlayout send settings shortener archive
  have hresult : refreshed.result = _ := congrArg Effect.result heffect
  have hrows : stored refreshed.database shortener.name = _ := congrArg Effect.rows heffect
  rw [hresult, hrows]
  simp only [refreshEffect]
  cases (Archive.knownCodes send settings shortener archive).1 with
  | error error => exact .inr ⟨.fetch error, rfl, rfl⟩
  | ok codes =>
      cases stored database shortener.name with
      | none => exact .inr ⟨_, rfl, rfl⟩
      | some rows =>
          simp only [storeEffect, storeOver]
          cases storeFault? shortener codes with
          | some fault => exact .inr ⟨_, rfl, rfl⟩
          | none => exact .inl ⟨codes, rfl, rfl, rfl⟩

theorem refresh_database_cases (send : Archive.Sender σ) (settings : Settings)
    (shortener : Shortener) (archive : σ) (database : Database) :
    (refresh send settings shortener archive database).database = database ∨
      ∃ shortcodes, (refresh send settings shortener archive database).database =
        (replace database shortener shortcodes).2 := by
  simp only [refresh]
  cases (Archive.knownCodes send settings shortener archive).1 with
  | error error => exact .inl rfl
  | ok codes => exact .inr ⟨codes.map some, rfl⟩

theorem stored_refresh_of_ne (hlayout : KeepsCodes database) (send : Archive.Sender σ)
    (settings : Settings) (archive : σ) {name : Text} (hname : name ≠ shortener.name) :
    stored (refresh send settings shortener archive database).database name =
      stored database name := by
  obtain hsame | ⟨shortcodes, hreplaced⟩ :=
    refresh_database_cases send settings shortener archive database
  · rw [hsame]
  · rw [hreplaced, stored_replace_of_ne hlayout shortcodes hname]

theorem keepsCodes_refresh (hlayout : KeepsCodes database) (send : Archive.Sender σ)
    (settings : Settings) (shortener : Shortener) (archive : σ) :
    KeepsCodes (refresh send settings shortener archive database).database := by
  obtain hsame | ⟨shortcodes, hreplaced⟩ :=
    refresh_database_cases send settings shortener archive database
  · rwa [hsame]
  · rw [hreplaced]
    exact keepsCodes_replace hlayout shortener shortcodes

/-! ## Refreshing in the background -/

/-- What is not waited for does the same and reports its failure. -/
theorem database_refreshInBackground (send : Archive.Sender σ) (settings : Settings)
    (shortener : Shortener) (archive : σ) (database : Database) :
    (refreshInBackground send settings shortener archive database).database =
      (refresh send settings shortener archive database).database := by
  simp only [refreshInBackground]
  cases (refresh send settings shortener archive database).result <;> rfl

/-- The report is a function of what is seen of the refresh. -/
theorem log_refreshInBackground_congr {left right : Database} {first second : σ} {name : Text}
    (heffect : (refresh send settings shortener first left).effect name =
      (refresh send settings shortener second right).effect name) :
    (refreshInBackground send settings shortener first left).log =
      (refreshInBackground send settings shortener second right).log := by
  have hresult : (refresh send settings shortener first left).result =
      (refresh send settings shortener second right).result := congrArg Effect.result heffect
  have hlog : (refresh send settings shortener first left).log =
      (refresh send settings shortener second right).log := congrArg Effect.log heffect
  simp only [refreshInBackground, hresult]
  cases (refresh send settings shortener second right).result <;> simp [hlog]

end ShortlinkCatalog.Catalog
