import ShortlinkCatalog.Proofs.Archive.UrlTable
import ShortlinkCatalog.Proofs.Catalog.History

/-!
# Reading a stored catalog

In every table that a run leaves, the rows under a name have different ranks, so there is one
order to read them in.  A read drops the vanity rows, if they are not wanted, before it cuts
at the limit, and the number of rows is told whatever was dropped.  In a catalog that a
refresh has stored the vanity rows come last, so without them a prefix is read.
-/

namespace ShortlinkCatalog.Catalog

/-- The rows under a name in the order of their ranks, no two of which are the same. -/
structure IsCatalog (table : CatalogTable) (name : Text) (rows : List CatalogRow) : Prop where
  perm : rows.Perm (table.rows.filter (·.shortener == name))
  ranked : rows.Pairwise fun left right => left.rank < right.rank

/-- The rows that are wanted, which without vanity codes are those of generated codes. -/
def wanted (includeVanity : Bool) (rows : List CatalogRow) : List CatalogRow :=
  rows.filter fun row => includeVanity || !row.isVanity

/-- The first of some rows, or all of them if there is no limit. -/
def upTo (limit : Option ℕ) (rows : List CatalogRow) : List CatalogRow :=
  match limit with
  | none => rows
  | some count => rows.take count

/-- A limit that a statement can be given, if there is one. -/
def Fits (limit : Option ℤ) : Prop := ∀ count ∈ limit, 0 ≤ count ∧ count < limitBound

variable {limit : Option ℤ} {includeVanity : Bool} {rows : List CatalogRow} {name : Text}

/-- There is one catalog under a name. -/
theorem IsCatalog.unique {table : CatalogTable} {others : List CatalogRow}
    (hrows : IsCatalog table name rows) (hothers : IsCatalog table name others) :
    rows = others := by
  have hperm : rows.Perm others := hrows.perm.trans hothers.perm.symm
  refine hperm.eq_of_pairwise ?_ hrows.ranked hothers.ranked
  intro left right _ _ hbefore hafter
  exact absurd hafter (Nat.lt_asymm hbefore)

/-! ## Limits -/

theorem limited_of_fits (hfits : Fits limit) (rows : List CatalogRow) :
    limited limit rows = .ok (upTo (limit.map Int.toNat) rows) := by
  cases limit with
  | none => rfl
  | some count =>
      obtain ⟨hnonneg, hbound⟩ := hfits count rfl
      have hinside : ¬ (count < -limitBound || limitBound ≤ count) = true := by
        have hpositive : 0 < limitBound := by decide
        simp only [Bool.or_eq_true, decide_eq_true_iff]
        omega
      rw [limited, if_neg hinside, if_neg (by omega)]
      rfl

theorem limited_of_limitBound_le {count : ℤ} (hlarge : limitBound ≤ count)
    (rows : List CatalogRow) : limited (some count) rows = .error .limitTooLarge := by
  rw [limited, if_pos]
  simp [hlarge]

theorem isPrefix_of_limited {kept : List CatalogRow} (hlimited : limited limit rows = .ok kept) :
    kept <+: rows := by
  cases limit with
  | none =>
      obtain rfl := Except.ok.inj hlimited
      exact List.prefix_rfl
  | some count =>
      rw [limited] at hlimited
      split_ifs at hlimited
      · obtain rfl := Except.ok.inj hlimited
        exact List.prefix_rfl
      · obtain rfl := Except.ok.inj hlimited
        exact List.take_prefix _ _

theorem isPrefix_upTo (limit : Option ℕ) (rows : List CatalogRow) : upTo limit rows <+: rows := by
  cases limit with
  | none => exact List.prefix_rfl
  | some count => exact List.take_prefix count rows

theorem mem_of_mem_upTo_wanted {limit : Option ℕ} {row : CatalogRow}
    (hmem : row ∈ upTo limit (wanted includeVanity rows)) : row ∈ rows :=
  List.mem_of_mem_filter ((isPrefix_upTo limit _).subset hmem)

theorem wanted_true (rows : List CatalogRow) : wanted true rows = rows := by
  simp [wanted]

theorem length_wanted_le (includeVanity : Bool) (rows : List CatalogRow) :
    (wanted includeVanity rows).length ≤ rows.length := List.length_filter_le _ _

/-- What stands before everything that passes a test is a prefix. -/
theorem isPrefix_filter_not {α : Type} {test : α → Bool} {list : List α}
    (hlast : list.Pairwise fun left right => test left ≤ test right) :
    list.filter (!test ·) <+: list := by
  induction list with
  | nil => exact List.prefix_rfl
  | cons first rest ih =>
      obtain ⟨hfirst, hrest⟩ := List.pairwise_cons.mp hlast
      cases htest : test first with
      | false =>
          rw [List.filter_cons_of_pos (by simp [htest])]
          exact (List.prefix_cons_inj first).mpr (ih hrest)
      | true =>
          have hall : ∀ later ∈ rest, test later = true := by
            intro later hmem
            apply Bool.eq_true_of_true_le
            rw [← htest]
            exact hfirst later hmem
          rw [List.filter_eq_nil_iff.mpr]
          · exact List.nil_prefix
          · intro later hmem
            rcases List.mem_cons.mp hmem with rfl | hmem
            · simp [htest]
            · simp [hall later hmem]

/-! ## Statements -/

theorem select_of_find {database : Database} (hfind : find database name = .ok rows)
    (limit : Option ℤ) (includeVanity : Bool) :
    select database name limit includeVanity = limited limit (wanted includeVanity rows) := by
  simp only [select, hfind, wanted]

theorem count_of_find {database : Database} (hfind : find database name = .ok rows) :
    count database name = .ok rows.length := by
  rw [count, hfind]
  rfl

theorem exists_find_of_select {database : Database}
    (hselect : select database name limit includeVanity = .ok rows) :
    ∃ found, find database name = .ok found ∧
      limited limit (wanted includeVanity found) = .ok rows := by
  rw [select] at hselect
  cases hfind : find database name with
  | error fault =>
      rw [hfind] at hselect
      cases hselect
  | ok found =>
      rw [hfind] at hselect
      exact ⟨found, rfl, hselect⟩

theorem exists_find_of_count {database : Database} {total : ℕ}
    (hcount : count database name = .ok total) :
    ∃ found, find database name = .ok found ∧ total = found.length := by
  rw [count] at hcount
  cases hfind : find database name with
  | error fault =>
      rw [hfind] at hcount
      cases hcount
  | ok found =>
      rw [hfind] at hcount
      exact ⟨found, rfl, (Except.ok.inj hcount).symm⟩

theorem reads_of_find_error {database : Database} {fault : ReadFault}
    (hfind : find database name = .error fault) :
    (∀ limit includeVanity, select database name limit includeVanity = .error fault) ∧
      count database name = .error fault := by
  constructor
  · intro limit includeVanity
    simp only [select, hfind]
  · rw [count, hfind]
    rfl

namespace Run

variable {σ : Type} {run : Run σ} {layout : Layout} {versions : Option (List Text)}
  {table : CatalogTable}

theorem find_of_keeps (hkeeps : run.Keeps layout versions table) (name : Text) :
    find run.database name =
      match Text.utf8Fault name with
      | some error => .error (.unencodable error)
      | none => .ok (rowsOf table name) :=
  (congrArg (find · name) hkeeps.database).trans rfl

theorem eq_rowsOf_of_find (hkeeps : run.Keeps layout versions table)
    (hfind : find run.database name = .ok rows) : rows = rowsOf table name := by
  rw [find_of_keeps hkeeps] at hfind
  split at hfind
  · cases hfind
  · exact (Except.ok.inj hfind).symm

theorem isCatalog_of_keeps (hkeeps : run.Keeps layout versions table) (name : Text) :
    IsCatalog table name (rowsOf table name) where
  perm := List.mergeSort_perm _ _
  ranked := by
    have hshown := hkeeps.shown name
    cases hlast : lastStored run.attempts name with
    | none =>
        rw [hlast, Show] at hshown
        rw [hshown]
        exact .nil
    | some catalog =>
        rw [hlast] at hshown
        obtain ⟨codes, -, hrows⟩ := hshown
        rw [hrows]
        exact pairwise_rank_catalogRows catalog.1 codes

/-- The rows that a run has left under a name, in the order of their ranks. -/
def Holds (run : Run σ) (name : Text) (rows : List CatalogRow) : Prop :=
  ∃ table, run.database.catalog = some table ∧ IsCatalog table name rows

theorem holds_of_keeps (hkeeps : run.Keeps layout versions table) (name : Text) :
    run.Holds name (rowsOf table name) :=
  ⟨table, congrArg Database.catalog hkeeps.database, isCatalog_of_keeps hkeeps name⟩

theorem Holds.unique {others : List CatalogRow} (hrows : run.Holds name rows)
    (hothers : run.Holds name others) : rows = others := by
  obtain ⟨table, htable, hcatalog⟩ := hrows
  obtain ⟨other, hother, hsame⟩ := hothers
  obtain rfl := Option.some.inj (htable.symm.trans hother)
  exact hcatalog.unique hsame

/-- Rows that show the same catalog are the same. -/
theorem Show.unique {others : List CatalogRow} {catalog : Option (Shortener × List (Option Text))}
    (hrows : Show rows catalog) (hothers : Show others catalog) : rows = others := by
  cases catalog with
  | none => exact Eq.trans hrows hothers.symm
  | some catalog =>
      obtain ⟨codes, hcodes, rfl⟩ := hrows
      obtain ⟨same, hsame, rfl⟩ := hothers
      have hmap : codes.map some = same.map some := hcodes.symm.trans hsame
      rw [List.map_injective_iff.mpr (Option.some_injective _) hmap]

/-- Rows of ranked codes, of which those that people chose come last. -/
theorem pairwise_isVanity_catalogRows {shortener : Shortener} {codes : List Text}
    (hranked : codes.Pairwise fun left right =>
      shortener.rankKey left < shortener.rankKey right) :
    (catalogRows shortener codes).Pairwise fun left right => left.isVanity ≤ right.isVanity := by
  have hcodes : ((codes.zipIdx 0).map Prod.fst).Pairwise fun left right =>
      shortener.isVanity left ≤ shortener.isVanity right := by
    rw [List.zipIdx_map_fst]
    exact hranked.imp Shortener.isVanity_le_of_rankKey_lt
  have hpairs := List.pairwise_map.mp hcodes
  rw [catalogRows, rankedRows, List.pairwise_map]
  exact hpairs

section Runs

variable [Json.Room] [Annotations]

/-- What is under a name stays if nothing is stored under it. -/
theorem rowsOf_eq_of_quiet {send : Archive.Sender σ} {settings : Settings} {moves : List Move}
    {next : CatalogTable} (hkeeps : run.Keeps layout versions table)
    (hnext : (moves.foldl (step send settings) run).Keeps layout versions next)
    (hquiet : Quiet send settings name run moves) : rowsOf next name = rowsOf table name := by
  have hshown := hnext.shown name
  rw [lastStored_of_quiet hquiet] at hshown
  exact hshown.unique (hkeeps.shown name)

/-- What is read of a catalog that a refresh has stored. -/
theorem catalog_of_refreshedLast {send : Archive.Sender σ} {settings : Settings}
    {start : Run σ} {moves : List Move} (hawaits : AwaitsRanked start)
    (hkeeps : (moves.foldl (step send settings) start).Keeps layout versions table)
    (hlast : RefreshedLast send settings start moves name) :
    ∃ (shortener : Shortener) (codes : List Text), shortener.name = name ∧
      rowsOf table name = catalogRows shortener codes ∧
      (codes.Pairwise fun left right => shortener.rankKey left < shortener.rankKey right) ∧
      wanted false (rowsOf table name) <+: wanted true (rowsOf table name) := by
  obtain ⟨shortener, codes, hstored, hranked⟩ := exists_ranked_of_refreshedLast hawaits hlast
  have hshown := hkeeps.shown name
  rw [hstored] at hshown
  have hrows : rowsOf table name = catalogRows shortener codes := hshown.unique ⟨codes, rfl, rfl⟩
  refine ⟨shortener, codes, name_of_lastStored hstored, hrows, hranked, ?_⟩
  rw [hrows, wanted_true]
  exact isPrefix_filter_not (pairwise_isVanity_catalogRows hranked)

/-- The rows that a run leaves under a name, which can be written down, and what is found. -/
theorem exists_holds_find {layout : Layout} (hlayout : layout ∈ Layout.catalogs)
    (send : Archive.Sender σ) (settings : Settings) (archive : σ)
    (versions : Option (List Text)) (moves : List Move) (name : Text) :
    let run := moves.foldl (step send settings) (start archive layout versions)
    ∃ rows, run.Holds name rows ∧
      (∀ row ∈ rows, ∀ code ∈ row.shortcode, code.isEncodable = true) ∧
      find run.database name =
        match Text.utf8Fault name with
        | some error => .error (.unencodable error)
        | none => .ok rows := by
  intro run
  have hcatalog := Layout.keepsCodes_of_mem_catalogs hlayout
  obtain ⟨table, hkeeps⟩ := run_keeps hcatalog send settings archive versions moves
  obtain ⟨written, hdatabase, -, hwritten⟩ :=
    exists_isWritten_foldl hcatalog send settings archive versions moves
  have htable : some table = some written :=
    congrArg Database.catalog (hkeeps.database.symm.trans hdatabase)
  obtain rfl := Option.some.inj htable
  have hholds := isCatalog_of_keeps hkeeps name
  refine ⟨rowsOf table name, holds_of_keeps hkeeps name, ?_,
    find_of_keeps hkeeps name⟩
  intro row hmem
  exact hwritten row (List.mem_filter.mp (hholds.perm.mem_iff.mp hmem)).1

/-- Every run over an empty table leaves under each name rows with different ranks, and a
read gives the first of those that are wanted, in the order of their ranks, and their number
whatever is wanted.  A name that holds a surrogate cannot be asked for.  If the last catalog
under the name was stored by a refresh, its codes are in the rank order of the shortener, and
without vanity codes a prefix of all rows is read. -/
theorem run_reads_first_wanted (send : Archive.Sender σ) (settings : Settings) (archive : σ)
    (layout : Layout) (hlayout : layout ∈ Layout.catalogs) (versions : Option (List Text))
    (moves : List Move) (name : Text) :
    let run := moves.foldl (step send settings) (start archive layout versions)
    ∃ rows, run.Holds name rows ∧
      (name.isEncodable = true →
        (∀ limit includeVanity, Fits limit →
          select run.database name limit includeVanity =
            .ok (upTo (limit.map Int.toNat) (wanted includeVanity rows))) ∧
        count run.database name = .ok rows.length) ∧
      (∀ error, Text.utf8Fault name = some error →
        (∀ limit includeVanity,
          select run.database name limit includeVanity = .error (.unencodable error)) ∧
        count run.database name = .error (.unencodable error)) ∧
      (RefreshedLast send settings (start archive layout versions) moves name →
        ∃ (shortener : Shortener) (codes : List Text), shortener.name = name ∧
          rows = catalogRows shortener codes ∧
          (codes.Pairwise fun left right => shortener.rankKey left < shortener.rankKey right) ∧
          wanted false rows <+: wanted true rows) := by
  intro run
  obtain ⟨table, hkeeps⟩ :=
    run_keeps (Layout.keepsCodes_of_mem_catalogs hlayout) send settings archive versions moves
  have hfind := find_of_keeps hkeeps name
  refine ⟨rowsOf table name, holds_of_keeps hkeeps name, ?_, ?_, ?_⟩
  · intro hname
    rw [(Text.utf8Fault_eq_none_iff name).mpr hname] at hfind
    refine ⟨?_, count_of_find hfind⟩
    intro limit includeVanity hfits
    rw [select_of_find hfind, limited_of_fits hfits]
  · intro error herror
    rw [herror] at hfind
    exact reads_of_find_error hfind
  · intro hlast
    have hawaits : AwaitsRanked (start archive layout versions) := by
      intro entry hmem
      exact absurd hmem List.not_mem_nil
    exact catalog_of_refreshedLast hawaits hkeeps hlast

end Runs

/-! ### Two codes -/

/-- A reply with a code that a person chose before a generated one. -/
def redhtReply : Archive.Reply :=
  ⟨200, none, Utf8.encode
    "[[\x22original\x22],[\x22http://red.ht/sig\x22],[\x22http://red.ht/1zzgkXp\x22]]"⟩

def redhtArchive : Archive.Script := .ofOutcomes [.reply redhtReply]

def redhtRows : List CatalogRow :=
  [⟨"redht", some "1zzgkXp", 0, false⟩, ⟨"redht", some "sig", 1, true⟩]

theorem cleanUrls_redht :
    BuiltIn.redht.cleanUrls ["http://red.ht/sig", "http://red.ht/1zzgkXp"] =
      .ok ["1zzgkXp", "sig"] := by
  have hchosen : BuiltIn.redht.cleanOne "http://red.ht/sig" = .ok (some "sig") := by
    decide +kernel
  have hgenerated : BuiltIn.redht.cleanOne "http://red.ht/1zzgkXp" = .ok (some "1zzgkXp") := by
    decide +kernel
  apply Shortener.cleanUrls_eq_ok_of_pairwise
  · simp [hchosen, hgenerated]
  · decide +kernel
  · intro code
    simp [hchosen, hgenerated, eq_comm, or_comm]

theorem knownCodes_redht :
    (Archive.knownCodes Archive.Script.send .default BuiltIn.redht redhtArchive).1 =
      .ok ["1zzgkXp", "sig"] := by
  have hreply : (Archive.get Archive.Script.send Settings.default.userAgent
      Settings.default.timemapUrl
      ((Archive.knownCodesOptions .default).parameters BuiltIn.redht.host) redhtArchive).1 =
      .reply redhtReply := by
    decide +kernel
  have hread : Json.read redhtReply.body = .ok (Archive.urlTable [.string "original"]
      ["http://red.ht/sig", "http://red.ht/1zzgkXp"]) := by
    rfl
  rw [(Archive.knownCodes_of_urlTable _ _ _ (Prod.ext hreply rfl) rfl hread).1, cleanUrls_redht]
  rfl

/-- The refresh stores the two codes, whatever was stored before. -/
theorem step_refresh_redht :
    let run := step Archive.Script.send .default (start redhtArchive Layout.created none)
      (.replace BuiltIn.redht [some "old"])
    Stores run (step Archive.Script.send .default run (.refresh BuiltIn.redht)) "redht"
        (BuiltIn.redht, [some "1zzgkXp", some "sig"]) ∧
      (step Archive.Script.send .default run (.refresh BuiltIn.redht)).database =
        ⟨some ⟨Layout.created, redhtRows⟩, none⟩ := by
  intro run
  have harchive : run.archive = redhtArchive := rfl
  simp only [step, refresh, harchive, knownCodes_redht]
  exact ⟨⟨_, rfl, rfl⟩, rfl⟩

/-- One code is replaced by two, and only one of those was generated. -/
theorem run_reads_first_wanted_redht :
    let moves : List Move := [.replace BuiltIn.redht [some "old"], .refresh BuiltIn.redht]
    let database := (moves.foldl (step Archive.Script.send .default)
      (start redhtArchive Layout.created none)).database
    Layout.created ∈ Layout.catalogs ∧
      RefreshedLast Archive.Script.send .default (start redhtArchive Layout.created none) moves
        "redht" ∧
      select database "redht" (some 1) true = .ok [⟨"redht", some "1zzgkXp", 0, false⟩] ∧
      select database "redht" none false = .ok [⟨"redht", some "1zzgkXp", 0, false⟩] ∧
      count database "redht" = .ok 2 ∧ wanted false redhtRows <+: wanted true redhtRows := by
  intro moves database
  have hlayout : Layout.created ∈ Layout.catalogs := by
    simp [Layout.catalogs]
  have hlast : RefreshedLast Archive.Script.send .default
      (start redhtArchive Layout.created none) moves "redht" :=
    ⟨[.replace BuiltIn.redht [some "old"]], .refresh BuiltIn.redht, [], rfl, rfl,
      ⟨_, step_refresh_redht.1⟩, trivial⟩
  obtain ⟨rows, hholds, hreads, -, hprefix⟩ := run_reads_first_wanted Archive.Script.send .default
    redhtArchive Layout.created hlayout none moves "redht"
  obtain rfl : rows = redhtRows := by
    apply hholds.unique
    exact ⟨_, congrArg Database.catalog step_refresh_redht.2, .refl _, by decide⟩
  obtain ⟨hselect, hcount⟩ := hreads (by decide)
  obtain ⟨-, -, -, -, -, hprefix⟩ := hprefix hlast
  refine ⟨hlayout, hlast, hselect (some 1) true ?_, hselect none false ?_, hcount, hprefix⟩
  · intro count hcount
    obtain rfl := Option.some.inj hcount
    decide
  · intro count hcount
    cases hcount

/-- A name that is a surrogate cannot be asked for, although nothing is stored under it. -/
theorem reads_refused_of_surrogate :
    let run : Run Archive.Script := start (.ofOutcomes []) Layout.created none
    let name : Text := [.surrogate 0]
    run.Holds name [] ∧
      ¬ (select run.database name none true = .ok (upTo none (wanted true [])) ∧
        count run.database name = .ok 0) := by
  intro run name
  refine ⟨⟨_, rfl, .refl _, .nil⟩, ?_⟩
  rintro ⟨hselect, -⟩
  have hrefused : (select run.database name none true).isOk = false := rfl
  rw [hselect] at hrefused
  cases hrefused

end Run

end ShortlinkCatalog.Catalog
