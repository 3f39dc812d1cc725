import ShortlinkCatalog.Proofs.Catalog.Reads
import ShortlinkCatalog.Proofs.Service.Entries

/-!
# Reading while others store

A request for a stored catalog runs two statements, one for its rows and one for their
number, and what other sessions do comes before, between and after them in any order.  Each
statement reads the catalog that it finds.  If nothing is stored under the name between the
two, the rows and the number are of one catalog; a refresh in between takes them apart.
-/

namespace ShortlinkCatalog.Service

open Catalog (Move Run select count limited wanted)

variable {σ : Type}

/-! ## What an answer is made of -/

theorem exists_of_catalogOutcome {fetchedAt name : Text} {response : Response}
    {selected : Except Catalog.ReadFault (List CatalogRow)} {counted : Except Catalog.ReadFault ℕ}
    (houtcome : catalogOutcome fetchedAt name selected counted = .ok response) :
    ∃ rows total, selected = .ok rows ∧ counted = .ok total ∧
      response = .ofJson 200 (catalogJson fetchedAt name total rows) := by
  cases selected with
  | error fault => cases houtcome
  | ok rows =>
      cases counted with
      | error fault => cases houtcome
      | ok total => exact ⟨rows, total, rfl, rfl, (Except.ok.inj houtcome).symm⟩

/-- A response that tells a whole catalog lists as many rows as it counts. -/
theorem length_eq_of_whole {fetchedAt name : Text} {total : ℕ} {rows whole : List CatalogRow}
    (hwhole : Response.ofJson 200 (catalogJson fetchedAt name total rows) =
      .ofJson 200 (catalogJson fetchedAt name whole.length whole)) : rows.length = total := by
  simp only [Response.ofJson, catalogJson, Json.record, Response.mk.injEq, Content.json.injEq,
    Json.object.injEq, List.map_cons, List.map_nil, List.cons.injEq, Prod.mk.injEq,
    Json.int.injEq, Json.array.injEq, true_and, and_true] at hwhole
  obtain ⟨htotal, hrows⟩ := hwhole
  calc
    rows.length = (rows.map (rowJson fetchedAt)).length := by rw [List.length_map]
    _ = whole.length := by rw [hrows, List.length_map]
    _ = total := by exact_mod_cast htotal.symm

/-! ## The statements of a request -/

/-- How far a request has come: it has begun, it has its rows, or it has an answer. -/
inductive Progress
  | begun
  | selected (rows : List CatalogRow)
  | ended (outcome : Except Failure Response)

/-- What happens next: the request runs a statement, or another session does something. -/
inductive Turn
  | statement
  | other (move : Move)

/-- A request that is under way, and all that has happened to the catalog. -/
structure Reading (σ : Type) where
  run : Run σ
  progress : Progress

/-- Runs the next statement of a request.  The second one is not run if the first fails. -/
def Progress.advance (fetchedAt name : Text) (narrowing : Narrowing) (database : Database) :
    Progress → Progress
  | .begun =>
      match select database name narrowing.limit narrowing.includeVanity with
      | .error fault => .ended (.error (.read fault))
      | .ok rows => .selected rows
  | .selected rows => .ended (catalogOutcome fetchedAt name (.ok rows) (count database name))
  | .ended outcome => .ended outcome

/-- The moves before the next statement, and the turns after it. -/
def untilStatement : List Turn → List Move × List Turn
  | [] => ([], [])
  | .statement :: turns => ([], turns)
  | .other move :: turns =>
      let (moves, rest) := untilStatement turns
      (move :: moves, rest)

section Turns

variable [Json.Room] [Catalog.Annotations]

def Reading.turn (service : Service σ) (name : Text) (narrowing : Narrowing)
    (reading : Reading σ) : Turn → Reading σ
  | .statement =>
      { reading with
        progress := reading.progress.advance service.clock.fetchedAt name narrowing
          reading.run.database }
  | .other move =>
      { reading with run := reading.run.step service.send service.settings move }

variable {service : Service σ} {name : Text} {narrowing : Narrowing} {run : Run σ}
  {progress : Progress} {turns : List Turn}

/-! ## Where the statements fall -/

/-- Other sessions do not bring a request forward. -/
theorem progress_of_no_statement (hturns : .statement ∉ turns) :
    (turns.foldl (Reading.turn service name narrowing) ⟨run, progress⟩).progress = progress := by
  induction turns generalizing run with
  | nil => rfl
  | cons turn turns ih =>
      cases turn with
      | statement => exact absurd List.mem_cons_self hturns
      | other move => exact ih (List.not_mem_of_not_mem_cons hturns)

/-- A statement is run after the moves before it. -/
theorem foldl_turn_of_statement (hturns : .statement ∈ turns) :
    turns.foldl (Reading.turn service name narrowing) ⟨run, progress⟩ =
      (untilStatement turns).2.foldl (Reading.turn service name narrowing)
        (Reading.turn service name narrowing
          ⟨(untilStatement turns).1.foldl (Run.step service.send service.settings) run, progress⟩
          .statement) := by
  induction turns generalizing run with
  | nil => cases hturns
  | cons turn turns ih =>
      cases turn with
      | statement => rfl
      | other move =>
          have hrest : .statement ∈ turns := by
            apply List.mem_of_ne_of_mem _ hturns
            intro heq
            cases heq
          exact ih hrest

theorem progress_of_ended (turns : List Turn) (run : Run σ)
    (outcome : Except Failure Response) :
    (turns.foldl (Reading.turn service name narrowing) ⟨run, .ended outcome⟩).progress =
      .ended outcome := by
  induction turns generalizing run with
  | nil => rfl
  | cons turn turns ih => cases turn <;> exact ih _

/-- A request is answered from what its two statements find. -/
theorem progress_of_statements (hfirst : .statement ∈ turns)
    (hsecond : .statement ∈ (untilStatement turns).2) (run : Run σ) :
    let first := (untilStatement turns).1.foldl (Run.step service.send service.settings) run
    let second := (untilStatement (untilStatement turns).2).1.foldl
      (Run.step service.send service.settings) first
    (turns.foldl (Reading.turn service name narrowing) ⟨run, .begun⟩).progress =
      .ended (catalogOutcome service.clock.fetchedAt name
        (select first.database name narrowing.limit narrowing.includeVanity)
        (count second.database name)) := by
  intro first second
  rw [foldl_turn_of_statement hfirst, Reading.turn, Progress.advance]
  cases select first.database name narrowing.limit narrowing.includeVanity with
  | error fault => exact progress_of_ended _ _ _
  | ok rows =>
      rw [foldl_turn_of_statement hsecond]
      exact progress_of_ended _ _ _

/-- If nothing comes between the statements, the answer is that of the endpoint. -/
theorem progress_uninterrupted (service : Service σ) (state : State σ) {shortener : Shortener}
    (hregistered : shortener ∈ service.registry.shorteners) (narrowing : Narrowing)
    (hdatabase : run.database = state.database) :
    ([.statement, .statement].foldl (Reading.turn service shortener.name narrowing)
        ⟨run, .begun⟩).progress =
      .ended (service.answer state (.shortcodes shortener.name narrowing)).outcome := by
  have hsecond : Turn.statement ∈ (untilStatement [.statement, .statement]).2 := by
    simp [untilStatement]
  rw [progress_of_statements List.mem_cons_self hsecond, answer, withShortener,
    service.registry.get_eq_ok_of_mem hregistered, ← hdatabase]
  rfl

/-- An answered request has run both statements. -/
theorem statements_of_answered {response : Response}
    (hended : (turns.foldl (Reading.turn service name narrowing) ⟨run, .begun⟩).progress =
      .ended (.ok response)) :
    .statement ∈ turns ∧ .statement ∈ (untilStatement turns).2 := by
  have hfirst : .statement ∈ turns := by
    by_contra hnone
    rw [progress_of_no_statement hnone] at hended
    cases hended
  refine ⟨hfirst, ?_⟩
  by_contra hnone
  rw [foldl_turn_of_statement hfirst, Reading.turn, progress_of_no_statement hnone,
    Progress.advance] at hended
  split at hended
  · cases hended
  · cases hended

/-! ## The catalogs that are read -/

/-- However a request falls among the steps of other sessions, its rows are the first of
those wanted of the catalog that its first statement finds, and its number is that of the
catalog that its second statement finds.  If nothing is stored under the name between the
two, these are one catalog: no more rows are listed than there are, and all of them if none
is left out. -/
theorem read_tells_what_statements_find (service : Service σ) (archive : σ) (layout : Layout)
    (hlayout : layout ∈ Layout.catalogs) (versions : Option (List Text)) (name : Text)
    (narrowing : Narrowing) (turns : List Turn) (response : Response)
    (hended : (turns.foldl (Reading.turn service name narrowing)
      ⟨.start archive layout versions, .begun⟩).progress = .ended (.ok response)) :
    let first := (untilStatement turns).1.foldl (Run.step service.send service.settings)
      (.start archive layout versions)
    let between := (untilStatement (untilStatement turns).2).1
    let second := between.foldl (Run.step service.send service.settings) first
    ∃ found left rows, first.Holds name found ∧ second.Holds name left ∧
      limited narrowing.limit (wanted narrowing.includeVanity found) = .ok rows ∧
      response = .ofJson 200 (catalogJson service.clock.fetchedAt name left.length rows) ∧
      (Run.Quiet service.send service.settings name first between →
        left = found ∧ rows.length ≤ left.length ∧
          (narrowing = ⟨none, true⟩ → rows.length = left.length)) := by
  intro first between second
  obtain ⟨hstatement, hnext⟩ := statements_of_answered hended
  rw [progress_of_statements hstatement hnext] at hended
  have houtcome : catalogOutcome service.clock.fetchedAt name
      (select first.database name narrowing.limit narrowing.includeVanity)
      (count second.database name) = .ok response := Progress.ended.inj hended
  obtain ⟨rows, total, hselect, hcount, hresponse⟩ := exists_of_catalogOutcome houtcome
  obtain ⟨found, hfound, hlimited⟩ := Catalog.exists_find_of_select hselect
  obtain ⟨left, hleft, rfl⟩ := Catalog.exists_find_of_count hcount
  have hcatalog := Layout.keepsCodes_of_mem_catalogs hlayout
  obtain ⟨table, hfirst⟩ := Run.run_keeps hcatalog service.send service.settings archive versions
    (untilStatement turns).1
  obtain ⟨next, hsecond⟩ := Run.run_keeps hcatalog service.send service.settings archive versions
    ((untilStatement turns).1 ++ between)
  rw [List.foldl_append] at hsecond
  obtain rfl := Run.eq_rowsOf_of_find hfirst hfound
  obtain rfl := Run.eq_rowsOf_of_find hsecond hleft
  refine ⟨_, _, rows, Run.holds_of_keeps hfirst name, Run.holds_of_keeps hsecond name, hlimited,
    hresponse, ?_⟩
  intro hquiet
  have hsame := Run.rowsOf_eq_of_quiet hfirst hsecond hquiet
  rw [hsame]
  refine ⟨rfl, ?_, ?_⟩
  · calc
      rows.length ≤ (wanted narrowing.includeVanity (Catalog.rowsOf table name)).length :=
        (Catalog.isPrefix_of_limited hlimited).length_le
      _ ≤ (Catalog.rowsOf table name).length := Catalog.length_wanted_le _ _
  · rintro rfl
    rw [← Except.ok.inj hlimited, Catalog.wanted_true]

end Turns

/-! ### One row -/

/-- The built-in shorteners and an archive that answers as a script says. -/
def scriptedService : Service Archive.Script where
  registry := .builtIn
  settings := .default
  send := Archive.Script.send
  clock := ⟨"now", "0"⟩

/-- A run over an empty table, with an archive that knows no codes. -/
def emptyRun : Run Archive.Script := .start (.ofOutcomes []) Layout.created none

def sigRow : CatalogRow := ⟨"redht", some "sig", 0, true⟩

def sigRun : Run Archive.Script :=
  emptyRun.step scriptedService.send scriptedService.settings
    (.replace BuiltIn.redht [some "sig"])

def refreshedRun (shortener : Shortener) : Run Archive.Script :=
  sigRun.step scriptedService.send scriptedService.settings (.refresh shortener)

/-- A refresh comes between the statements. -/
def refreshBetween (shortener : Shortener) : List Turn :=
  [.other (.replace BuiltIn.redht [some "sig"]), .statement, .other (.refresh shortener),
    .statement]

theorem knownCodes_of_emptyTable {shortener : Shortener}
    (hget : (Archive.get Archive.Script.send Settings.default.userAgent Settings.default.timemapUrl
      ((Archive.knownCodesOptions .default).parameters shortener.host) (.ofOutcomes [])).1 =
        Archive.Script.emptyTable) :
    (Archive.knownCodes Archive.Script.send .default shortener (.ofOutcomes [])).1 = .ok [] := by
  have hlists : Archive.Lists Archive.Script.emptyTable [] :=
    ⟨_, rfl, rfl, @Archive.Holds.table _ _ [] rfl⟩
  have hcolumn : ([] : List Archive.Row).map List.head? = Archive.textColumn [] := rfl
  have hcleaned : shortener.cleanUrls [] = .ok [] :=
    Shortener.cleanUrls_eq_ok_of_pairwise (by simp) .nil (by simp)
  rw [Archive.fst_knownCodes, hget, Archive.codesIn_of_lists hlists,
    Archive.codesOfRows_of_column hcolumn, hcleaned]
  rfl

theorem count_refreshedRun_redht : count (refreshedRun BuiltIn.redht).database "redht" = .ok 0 := by
  have hknown : (Archive.knownCodes scriptedService.send scriptedService.settings BuiltIn.redht
      sigRun.archive).1 = .ok [] :=
    knownCodes_of_emptyTable (by decide +kernel)
  have hfind : Catalog.find ⟨some ⟨Layout.created, []⟩, none⟩ "redht" = .ok [] :=
    congrArg Except.ok List.mergeSort_nil
  simp only [refreshedRun, Run.step, Catalog.refresh, hknown]
  exact Catalog.count_of_find hfind

theorem count_refreshedRun_allst : count (refreshedRun BuiltIn.allst).database "redht" = .ok 1 := by
  have hknown : (Archive.knownCodes scriptedService.send scriptedService.settings BuiltIn.allst
      sigRun.archive).1 = .ok [] :=
    knownCodes_of_emptyTable (by decide +kernel)
  have hfind : Catalog.find ⟨some ⟨Layout.created, [sigRow]⟩, none⟩ "redht" = .ok [sigRow] :=
    congrArg Except.ok (List.mergeSort_singleton sigRow)
  simp only [refreshedRun, Run.step, Catalog.refresh, hknown]
  exact Catalog.count_of_find hfind

theorem progress_refreshBetween {shortener : Shortener} {total : ℕ}
    (hcount : count (refreshedRun shortener).database "redht" = .ok total) :
    ((refreshBetween shortener).foldl (Reading.turn scriptedService "redht" ⟨none, true⟩)
        ⟨emptyRun, .begun⟩).progress =
      .ended (.ok (.ofJson 200 (catalogJson "now" "redht" total [sigRow]))) := by
  have hfind : Catalog.find sigRun.database "redht" = .ok [sigRow] :=
    congrArg Except.ok (List.mergeSort_singleton sigRow)
  have hselect : select sigRun.database "redht" none true = .ok [sigRow] :=
    Catalog.select_of_find hfind none true
  calc
    _ = Progress.ended (catalogOutcome "now" "redht" (select sigRun.database "redht" none true)
          (count (refreshedRun shortener).database "redht")) :=
      progress_of_statements (by simp [refreshBetween]) (by simp [refreshBetween, untilStatement])
        emptyRun
    _ = .ended (.ok (.ofJson 200 (catalogJson "now" "redht" total [sigRow]))) := by
      rw [hselect, hcount]
      rfl

/-- The refresh of another shortener leaves the row to be counted. -/
theorem read_tells_what_statements_find_sig :
    Layout.created ∈ Layout.catalogs ∧
      ((refreshBetween BuiltIn.allst).foldl (Reading.turn scriptedService "redht" ⟨none, true⟩)
          ⟨emptyRun, .begun⟩).progress =
        .ended (.ok (.ofJson 200 (catalogJson "now" "redht" 1 [sigRow]))) ∧
      Run.Quiet scriptedService.send scriptedService.settings "redht" sigRun
        [.refresh BuiltIn.allst] ∧
      sigRun.Holds "redht" [sigRow] ∧ (refreshedRun BuiltIn.allst).Holds "redht" [sigRow] := by
  have hlayout : Layout.created ∈ Layout.catalogs := by
    simp [Layout.catalogs]
  have hended := progress_refreshBetween count_refreshedRun_allst
  have hquiet : Run.Quiet scriptedService.send scriptedService.settings "redht" sigRun
      [.refresh BuiltIn.allst] := by
    refine ⟨?_, trivial⟩
    rintro ⟨catalog, attempt, hattempts, hstored⟩
    obtain rfl := (List.cons.inj hattempts).1
    rw [Catalog.Attempt.stored?] at hstored
    split at hstored
    · cases hstored
    · cases hstored
  obtain ⟨found, left, rows, hfound, hleft, -, -, hsame⟩ :=
    read_tells_what_statements_find scriptedService (.ofOutcomes []) Layout.created hlayout none
      "redht" ⟨none, true⟩ (refreshBetween BuiltIn.allst) _ hended
  obtain rfl : found = [sigRow] :=
    hfound.unique ⟨_, rfl, .refl _, List.pairwise_singleton _ _⟩
  obtain ⟨rfl, -⟩ := hsame hquiet
  exact ⟨hlayout, hended, hquiet, hfound, hleft⟩

/-- The row is listed, but it is gone when the rows are counted. -/
theorem read_apart_of_refresh_between :
    ((refreshBetween BuiltIn.redht).foldl (Reading.turn scriptedService "redht" ⟨none, true⟩)
        ⟨emptyRun, .begun⟩).progress =
      .ended (.ok (.ofJson 200 (catalogJson "now" "redht" 0 [sigRow]))) ∧
    ¬ ∃ whole : List CatalogRow,
      Response.ofJson 200 (catalogJson "now" "redht" 0 [sigRow]) =
        .ofJson 200 (catalogJson "now" "redht" whole.length whole) := by
  refine ⟨progress_refreshBetween count_refreshedRun_redht, ?_⟩
  rintro ⟨whole, hwhole⟩
  exact absurd (length_eq_of_whole hwhole) (by decide)

end ShortlinkCatalog.Service
