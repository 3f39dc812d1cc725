import ShortlinkCatalog.Archive.KnownCodes
import ShortlinkCatalog.Proofs.Json.Blank

/-!
# What a fetch of shortcodes ends in

A fetch that succeeds has cleaned the first column of the table in a reply.  One that fails
should do so because the query failed or because a URL or a code was refused.  Three more
things end it: an exchange that is broken off, a row without cells, and a first cell that is
no text and comes after URLs that were all accepted.
-/

namespace ShortlinkCatalog.Archive

/-! ## The table in a reply -/

theorem rows?_cons (item : Json) (items : List Json) :
    rows? (.array (item :: items)) =
      match item with
      | .array cells => (rows? (.array items)).map (cells :: ·)
      | _ => none := by
  cases item with
  | array cells =>
      have hmap (found : Option (List Row)) :
          (found.bind fun rest => some (cells :: rest)) = found.map (cells :: ·) := by
        cases found <;> rfl
      rw [rows?, List.mapM_cons]
      exact hmap _
  | _ => rfl

theorem rows?_eq_some_iff {value : Json} {table : List Row} :
    rows? value = some table ↔ value = .array (table.map .array) := by
  constructor
  · intro hrows
    cases value with
    | array items =>
        induction items generalizing table with
        | nil =>
            cases hrows
            rfl
        | cons item items ih =>
            rw [rows?_cons] at hrows
            cases item with
            | array cells =>
                obtain ⟨rest, hrest, rfl⟩ := Option.map_eq_some_iff.mp hrows
                obtain rfl := Json.array.inj (ih hrest)
                rfl
            | _ => cases hrows
    | _ => cases hrows
  · rintro rfl
    induction table with
    | nil => rfl
    | cons row table ih => rw [List.map_cons, rows?_cons, ih]; rfl

section Table

variable [Json.Room]

theorem isBlankBody_of_read {body : List UInt8} {value : Json}
    (hread : Json.read body = .ok value) : isBlankBody body = false := by
  rw [Bool.eq_false_iff]
  intro hblank
  exact Json.read_ne_ok_of_blank (List.all_eq_true.mp hblank) value hread

theorem isBlankBody_of_tooDeep {body : List UInt8} {container : Json.Container}
    (hread : Json.read body = .error (.unreadable (.tooDeep container))) :
    isBlankBody body = false := by
  rw [Bool.eq_false_iff]
  intro hblank
  obtain ⟨kind, position, line, column, hmalformed⟩ :=
    Json.exists_read_eq_malformed_of_blank (List.all_eq_true.mp hblank)
  rw [hmalformed] at hread
  cases hread

/-- The rows in the body of a reply: none in a blank body, and those after the header in a
table. -/
inductive Holds (body : List UInt8) : List Row → Prop
  | blank (hblank : isBlankBody body = true) : Holds body []
  | table {table : List Row} (hread : Json.read body = .ok (.array (table.map .array))) :
      Holds body (table.drop 1)

/-- The archive answered with these rows. -/
def Lists (outcome : Outcome) (rows : List Row) : Prop :=
  ∃ reply, outcome = .reply reply ∧ reply.status = 200 ∧ Holds reply.body rows

/-- Whether the error is no fault of a document but that it is nested too deeply. -/
def IsTooDeep (error : Json.ReadError) : Prop :=
  ∃ container, error = .unreadable (.tooDeep container)

/-- The exchange was broken off, or the reply is nested too deeply to be read. -/
inductive BrokenOff : Outcome → Prop
  | interrupted (cause : Interruption) : BrokenOff (.interrupted cause)
  | tooDeep {reply : Reply} {container : Json.Container} (hstatus : reply.status = 200)
      (hblank : isBlankBody reply.body = false)
      (hread : Json.read reply.body = .error (.unreadable (.tooDeep container))) :
      BrokenOff (.reply reply)

variable {outcome : Outcome} {rows : List Row}

theorem captures_of_lists (url : Text) (hlists : Lists outcome rows) :
    ∃ captured, captures url outcome = .ok captured ∧ captured.getD [] = rows := by
  obtain ⟨reply, rfl, hstatus, hholds⟩ := hlists
  cases hholds with
  | blank hblank => exact ⟨none, by simp [captures, hstatus, hblank], rfl⟩
  | table hread =>
      rename_i table
      refine ⟨some (table.drop 1), ?_, rfl⟩
      simp [captures, hstatus, isBlankBody_of_read hread, hread, rows?_eq_some_iff.mpr rfl]

theorem captures_of_brokenOff (url : Text) (hbroken : BrokenOff outcome) :
    ∃ cause, captures url outcome = .error (.interrupted cause) := by
  cases hbroken with
  | interrupted cause => exact ⟨cause, rfl⟩
  | @tooDeep reply container hstatus hblank hread =>
      exact ⟨.tooDeep container, by simp [captures, hstatus, hblank, hread]⟩

theorem captures_of_status (url : Text) {reply : Reply} (hstatus : reply.status ≠ 200) :
    captures url (.reply reply) = .error (.failed (.timemap url (.status reply.status))) := by
  simp [captures, hstatus]

theorem captures_of_unreadable (url : Text) {reply : Reply} {error : Json.ReadError}
    (hstatus : reply.status = 200) (hblank : isBlankBody reply.body = false)
    (hread : Json.read reply.body = .error error) (hdeep : ¬ IsTooDeep error) :
    captures url (.reply reply) = .error (.failed (.timemap url (.unreadable error))) := by
  simp only [captures, hstatus, hblank, hread]
  split <;> simp_all [IsTooDeep]

theorem captures_of_noTable (url : Text) {reply : Reply} {value : Json}
    (hstatus : reply.status = 200) (hread : Json.read reply.body = .ok value)
    (htable : ∀ table : List Row, value ≠ .array (table.map .array)) :
    captures url (.reply reply) = .error (.failed (.timemap url .noTable)) := by
  have hrows : rows? value = none := by
    rw [Option.eq_none_iff_forall_ne_some]
    intro table hsome
    exact htable table (rows?_eq_some_iff.mp hsome)
  simp [captures, hstatus, isBlankBody_of_read hread, hread, hrows]

/-- There are rows, or the exchange was broken off, or the query failed. -/
theorem captures_cases (url : Text) (outcome : Outcome) :
    (∃ rows, Lists outcome rows) ∨ BrokenOff outcome ∨
      ∃ fault, captures url outcome = .error (.failed (.timemap url fault)) := by
  cases outcome with
  | failure kind message => exact .inr (.inr ⟨_, rfl⟩)
  | interrupted cause => exact .inr (.inl (.interrupted cause))
  | reply reply =>
      by_cases hstatus : reply.status = 200
      · cases hblank : isBlankBody reply.body with
        | true => exact .inl ⟨[], reply, rfl, hstatus, .blank hblank⟩
        | false =>
            cases hread : Json.read reply.body with
            | ok value =>
                by_cases htable : ∃ table : List Row, value = .array (table.map .array)
                · obtain ⟨table, rfl⟩ := htable
                  exact .inl ⟨table.drop 1, reply, rfl, hstatus, .table hread⟩
                · exact .inr (.inr
                    ⟨_, captures_of_noTable url hstatus hread (not_exists.mp htable)⟩)
            | error error =>
                by_cases hdeep : IsTooDeep error
                · obtain ⟨container, rfl⟩ := hdeep
                  exact .inr (.inl (.tooDeep hstatus hblank hread))
                · exact .inr (.inr ⟨_, captures_of_unreadable url hstatus hblank hread hdeep⟩)
      · exact .inr (.inr ⟨_, captures_of_status url hstatus⟩)

end Table

/-! ## The first column -/

/-- The cells of texts, as the first column of a table has them. -/
def textColumn (urls : List Text) : List (Option Json) := urls.map fun url => some (.string url)

theorem firstCells_cons (row : Row) (rows : List Row) :
    firstCells (row :: rows) =
      match row with
      | [] => .error .emptyRow
      | cell :: _ => (firstCells rows).map (cell :: ·) := by
  cases row with
  | nil => rfl
  | cons cell row =>
      rw [firstCells, List.mapM_cons]
      rfl

theorem firstCells_of_empty (hempty : [] ∈ rows) : firstCells rows = .error .emptyRow := by
  induction rows with
  | nil => cases hempty
  | cons row rows ih =>
      rw [firstCells_cons]
      cases row with
      | nil => rfl
      | cons cell row =>
          have hrest : [] ∈ rows := by simpa using hempty
          rw [ih hrest]
          rfl

theorem firstCells_of_heads {cells : List Json} (hheads : rows.map List.head? = cells.map some) :
    firstCells rows = .ok cells := by
  induction rows generalizing cells with
  | nil =>
      obtain rfl : cells = [] := by simpa using hheads.symm
      rfl
  | cons row rows ih =>
      cases cells with
      | nil => cases hheads
      | cons cell cells =>
          obtain ⟨hhead, hrest⟩ := List.cons.inj hheads
          obtain ⟨others, rfl⟩ := List.head?_eq_some_iff.mp hhead
          rw [firstCells_cons, ih hrest]
          rfl

/-- Either a row has no cells or the rows have a first column. -/
theorem empty_mem_or_exists_heads (rows : List Row) :
    [] ∈ rows ∨ ∃ cells : List Json, rows.map List.head? = cells.map some := by
  induction rows with
  | nil => exact .inr ⟨[], rfl⟩
  | cons row rows ih =>
      cases row with
      | nil => exact .inl List.mem_cons_self
      | cons cell row =>
          rcases ih with hempty | ⟨cells, hheads⟩
          · exact .inl (List.mem_cons_of_mem _ hempty)
          · exact .inr ⟨cell :: cells, by simp [hheads]⟩

theorem leadingTexts_map_string (urls : List Text) :
    leadingTexts (urls.map .string) = (urls, none) := by
  induction urls with
  | nil => rfl
  | cons url urls ih => rw [List.map_cons, leadingTexts, ih]

theorem leadingTexts_append (urls : List Text) {cell : Json} (after : List Json)
    (hcell : ∀ text, cell ≠ .string text) :
    leadingTexts (urls.map .string ++ cell :: after) = (urls, some cell.typeName) := by
  induction urls with
  | nil =>
      cases cell with
      | string text => exact absurd rfl (hcell text)
      | _ => rfl
  | cons url urls ih => rw [List.map_cons, List.cons_append, leadingTexts, ih]

/-- Either all cells are texts or there is a first one that is none. -/
theorem exists_leading_texts (cells : List Json) :
    ∃ urls : List Text, cells = urls.map .string ∨
      ∃ cell after, cells = urls.map .string ++ cell :: after ∧ ∀ text, cell ≠ .string text := by
  induction cells with
  | nil => exact ⟨[], .inl rfl⟩
  | cons cell cells ih =>
      by_cases htext : ∃ text, cell = .string text
      · obtain ⟨text, rfl⟩ := htext
        obtain ⟨urls, rfl | ⟨other, after, rfl, hother⟩⟩ := ih
        · exact ⟨text :: urls, .inl rfl⟩
        · exact ⟨text :: urls, .inr ⟨other, after, rfl, hother⟩⟩
      · exact ⟨[], .inr ⟨cell, cells, rfl, not_exists.mp htext⟩⟩

/-- Either a row has no cells, or the first column has texts only, or there is a first cell
in it that is no text. -/
theorem column_cases (rows : List Row) :
    [] ∈ rows ∨ ∃ urls, rows.map List.head? = textColumn urls ∨
      ∃ (cell : Json) (after : List Json), (∀ text, cell ≠ .string text) ∧
        rows.map List.head? = textColumn urls ++ some cell :: after.map some := by
  rcases empty_mem_or_exists_heads rows with hempty | ⟨cells, hheads⟩
  · exact .inl hempty
  · rw [hheads]
    obtain ⟨urls, rfl | ⟨cell, after, rfl, hcell⟩⟩ := exists_leading_texts cells
    · exact .inr ⟨urls, .inl (by simp [textColumn])⟩
    · exact .inr ⟨urls, .inr ⟨cell, after, hcell, by simp [textColumn]⟩⟩

/-! ## The codes in an outcome -/

variable {shortener : Shortener} {urls : List Text}

theorem codesOfRows_of_empty (hempty : [] ∈ rows) :
    codesOfRows shortener rows = .error .emptyRow := by
  rw [codesOfRows, firstCells_of_empty hempty]

theorem codesOfRows_of_column (hcolumn : rows.map List.head? = textColumn urls) :
    codesOfRows shortener rows = (shortener.cleanUrls urls).mapError .unclean := by
  have hheads : rows.map List.head? = (urls.map Json.string).map some := by
    rw [hcolumn, textColumn, List.map_map]
    rfl
  rw [codesOfRows, firstCells_of_heads hheads]
  simp only [cleanCells, leadingTexts_map_string]
  cases shortener.cleanUrls urls <;> rfl

/-- A cell that is no text is met after the URLs before it have been cleaned. -/
theorem codesOfRows_of_not_text {cell : Json} {after : List Json}
    (hcolumn : rows.map List.head? = textColumn urls ++ some cell :: after.map some)
    (hcell : ∀ text, cell ≠ .string text) :
    codesOfRows shortener rows =
      match shortener.cleanUrls urls with
      | .error error => .error (.unclean error)
      | .ok _ => .error (.notText cell.typeName) := by
  have hheads : rows.map List.head? = (urls.map Json.string ++ cell :: after).map some := by
    rw [hcolumn, textColumn, List.map_append, List.map_map]
    rfl
  rw [codesOfRows, firstCells_of_heads hheads]
  simp only [cleanCells, leadingTexts_append urls after hcell]
  cases shortener.cleanUrls urls <;> rfl

variable [Json.Room]

/-- The ranked shortcodes in an outcome, or why there are none. -/
def codesIn (shortener : Shortener) (outcome : Outcome) : Except FetchError (List Text) :=
  match captures shortener.host outcome with
  | .error error => .error error.toFetchError
  | .ok captured => codesOfRows shortener (captured.getD [])

theorem fst_knownCodes {σ : Type} (send : Sender σ) (settings : Settings)
    (shortener : Shortener) (state : σ) :
    (knownCodes send settings shortener state).1 =
      codesIn shortener (get send settings.userAgent settings.timemapUrl
        ((knownCodesOptions settings).parameters shortener.host) state).1 := by
  simp only [knownCodes, timemap, orDefault, codesIn]
  cases captures shortener.host _ with
  | error error => rfl
  | ok captured => cases hcodes : codesOfRows shortener (captured.getD []) <;> simp [hcodes]

theorem snd_knownCodes {σ : Type} (send : Sender σ) (settings : Settings)
    (shortener : Shortener) (state : σ) :
    (knownCodes send settings shortener state).2.2 =
      (get send settings.userAgent settings.timemapUrl
        ((knownCodesOptions settings).parameters shortener.host) state).2 := by
  simp only [knownCodes, timemap, orDefault]
  cases captures shortener.host _ with
  | error error => rfl
  | ok captured => cases hcodes : codesOfRows shortener (captured.getD []) <;> simp [hcodes]

theorem codesIn_of_lists (hlists : Lists outcome rows) :
    codesIn shortener outcome = codesOfRows shortener rows := by
  obtain ⟨captured, hcaptured, rfl⟩ := captures_of_lists shortener.host hlists
  rw [codesIn, hcaptured]

/-- An error that a fetch is said to end in: the query failed, or a URL or a code was
refused. -/
def FetchError.IsDocumented : FetchError → Prop
  | .failed _ | .unclean _ => True
  | .interrupted _ | .emptyRow | .notText _ => False

/-- Outcomes that a fetch ends in another error for. -/
inductive Strays (shortener : Shortener) (outcome : Outcome) : Prop
  | brokenOff (hbroken : BrokenOff outcome)
  | emptyRow {rows : List Row} (hlists : Lists outcome rows) (hempty : [] ∈ rows)
  | notText {rows : List Row} {urls codes : List Text} {cell : Json} {after : List Json}
      (hlists : Lists outcome rows)
      (hcolumn : rows.map List.head? = textColumn urls ++ some cell :: after.map some)
      (hcell : ∀ text, cell ≠ .string text) (hcleaned : shortener.cleanUrls urls = .ok codes)

theorem not_isDocumented_of_strays (hstrays : Strays shortener outcome) :
    ∃ error, codesIn shortener outcome = .error error ∧ ¬ error.IsDocumented := by
  cases hstrays with
  | brokenOff hbroken =>
      obtain ⟨cause, hcause⟩ := captures_of_brokenOff shortener.host hbroken
      exact ⟨.interrupted cause, by rw [codesIn, hcause]; rfl, id⟩
  | emptyRow hlists hempty =>
      exact ⟨.emptyRow, by rw [codesIn_of_lists hlists, codesOfRows_of_empty hempty], id⟩
  | @notText rows urls codes cell after hlists hcolumn hcell hcleaned =>
      refine ⟨.notText cell.typeName, ?_, id⟩
      rw [codesIn_of_lists hlists, codesOfRows_of_not_text hcolumn hcell, hcleaned]

/-- The first column is cleaned, or the fetch ends in a documented error, or it strays. -/
theorem codesIn_cases (shortener : Shortener) (outcome : Outcome) :
    (∃ rows urls, Lists outcome rows ∧ rows.map List.head? = textColumn urls ∧
      codesIn shortener outcome = (shortener.cleanUrls urls).mapError .unclean) ∨
    (∃ error, codesIn shortener outcome = .error error ∧ error.IsDocumented) ∨
    Strays shortener outcome := by
  rcases captures_cases shortener.host outcome with ⟨rows, hlists⟩ | hbroken | ⟨fault, hfailed⟩
  · rw [codesIn_of_lists hlists]
    obtain hempty | ⟨urls, hcolumn | ⟨cell, after, hcell, hcolumn⟩⟩ := column_cases rows
    · exact .inr (.inr (.emptyRow hlists hempty))
    · exact .inl ⟨rows, urls, hlists, hcolumn, codesOfRows_of_column hcolumn⟩
    · cases hcleaned : shortener.cleanUrls urls with
      | ok codes => exact .inr (.inr (.notText hlists hcolumn hcell hcleaned))
      | error error =>
          refine .inr (.inl ⟨.unclean error, ?_, trivial⟩)
          rw [codesOfRows_of_not_text hcolumn hcell, hcleaned]
  · exact .inr (.inr (.brokenOff hbroken))
  · exact .inr (.inl ⟨.failed (.timemap shortener.host fault),
      by rw [codesIn, hfailed]; rfl, trivial⟩)

/-- A fetch that succeeds has cleaned the first column. -/
theorem codesIn_eq_ok_iff {codes : List Text} :
    codesIn shortener outcome = .ok codes ↔
      ∃ rows urls, Lists outcome rows ∧ rows.map List.head? = textColumn urls ∧
        shortener.cleanUrls urls = .ok codes := by
  constructor
  · intro hok
    obtain ⟨rows, urls, hlists, hcolumn, hcodes⟩ | ⟨error, herror, -⟩ | hstrays :=
      codesIn_cases shortener outcome
    · refine ⟨rows, urls, hlists, hcolumn, ?_⟩
      rw [hok] at hcodes
      cases hcleaned : shortener.cleanUrls urls <;> simp_all [Except.mapError]
    · rw [herror] at hok
      cases hok
    · obtain ⟨error, herror, -⟩ := not_isDocumented_of_strays hstrays
      rw [herror] at hok
      cases hok
  · rintro ⟨rows, urls, hlists, hcolumn, hcleaned⟩
    rw [codesIn_of_lists hlists, codesOfRows_of_column hcolumn, hcleaned]
    rfl

/-- Codes that were fetched are those of one batch. -/
theorem exists_cleanUrls_of_knownCodes {σ : Type} {send : Sender σ} {settings : Settings}
    {state : σ} {codes : List Text}
    (hcodes : (knownCodes send settings shortener state).1 = .ok codes) :
    ∃ urls, shortener.cleanUrls urls = .ok codes := by
  rw [fst_knownCodes] at hcodes
  obtain ⟨-, urls, -, -, hcleaned⟩ := codesIn_eq_ok_iff.mp hcodes
  exact ⟨urls, hcleaned⟩

/-- A fetch succeeds or ends in a documented error exactly if it does not stray. -/
theorem isDocumented_iff_not_strays :
    ((∃ codes, codesIn shortener outcome = .ok codes) ∨
        ∃ error, codesIn shortener outcome = .error error ∧ error.IsDocumented) ↔
      ¬ Strays shortener outcome := by
  constructor
  · intro hended hstrays
    obtain ⟨error, herror, hundocumented⟩ := not_isDocumented_of_strays hstrays
    rw [herror] at hended
    rcases hended with ⟨codes, hcodes⟩ | ⟨other, hother, hdocumented⟩
    · cases hcodes
    · cases hother
      exact hundocumented hdocumented
  · intro hstraight
    obtain ⟨rows, urls, -, -, hcodes⟩ | hdocumented | hstrays := codesIn_cases shortener outcome
    · rw [hcodes]
      cases shortener.cleanUrls urls with
      | ok codes => exact .inl ⟨codes, rfl⟩
      | error error => exact .inr ⟨.unclean error, rfl, trivial⟩
    · exact .inr hdocumented
    · exact absurd hstrays hstraight

end ShortlinkCatalog.Archive
