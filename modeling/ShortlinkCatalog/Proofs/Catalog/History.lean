import ShortlinkCatalog.Proofs.Archive.KnownCodes
import ShortlinkCatalog.Proofs.Catalog.Run
import ShortlinkCatalog.Proofs.Shortener.Batch

/-!
# Where a stored catalog comes from

A catalog stays as it was stored until a later step stores another one under its name.  What
a refresh has fetched is ranked, and stays so while it waits to be stored.  So a catalog that
was stored last by a refresh is ranked by the key of its shortener, and nothing that is
stored holds a text that cannot be written down.
-/

namespace ShortlinkCatalog.Catalog

/-- The catalog that an attempt has stored under a name. -/
def Attempt.stored? (name : Text) (attempt : Attempt) :
    Option (Shortener × List (Option Text)) :=
  match attempt.given, attempt.result with
  | .ok shortcodes, .ok _ =>
      if attempt.shortener.name = name then some (attempt.shortener, shortcodes) else none
  | _, _ => none

/-- Whether a move brings a refresh to its end. -/
def Move.refreshes : Move → Bool
  | .refresh _ | .refreshInBackground _ | .store _ => true
  | .replace _ _ | .fetch _ => false

namespace Run

variable {σ : Type} {send : Archive.Sender σ} {settings : Settings} {run : Run σ}
  {move : Move} {moves : List Move} {name : Text}

/-! ## The last step that stores -/

theorem lastStored_cons (attempt : Attempt) (attempts : List Attempt) (name : Text) :
    lastStored (attempt :: attempts) name =
      (attempt.stored? name).or (lastStored attempts name) := by
  have hfind : ∀ attempts, lastStored attempts name = attempts.findSome? (·.stored? name) :=
    fun _ => rfl
  rw [hfind, hfind, List.findSome?_cons]
  cases attempt.stored? name <;> rfl

theorem name_of_lastStored {attempts : List Attempt} {shortener : Shortener}
    {shortcodes : List (Option Text)}
    (hstored : lastStored attempts name = some (shortener, shortcodes)) :
    shortener.name = name := by
  obtain ⟨attempt, -, hattempt⟩ := List.exists_of_findSome?_eq_some hstored
  split at hattempt
  next =>
    simp only [Option.ite_none_right_eq_some, Option.some.injEq, Prod.mk.injEq] at hattempt
    obtain ⟨hname, rfl, -⟩ := hattempt
    exact hname
  next => cases hattempt

/-- A step stores a catalog under a name if it notes the attempt that did. -/
def Stores (before after : Run σ) (name : Text)
    (catalog : Shortener × List (Option Text)) : Prop :=
  ∃ attempt, after.attempts = attempt :: before.attempts ∧ attempt.stored? name = some catalog

theorem lastStored_of_stores {after : Run σ} {catalog : Shortener × List (Option Text)}
    (hstores : Stores run after name catalog) : lastStored after.attempts name = some catalog := by
  obtain ⟨attempt, hattempts, hstored⟩ := hstores
  rw [hattempts, lastStored_cons, hstored, Option.some_or]

variable [Json.Room] [Annotations]

/-- A run in which nothing is stored under a name. -/
def Quiet (send : Archive.Sender σ) (settings : Settings) (name : Text) :
    Run σ → List Move → Prop
  | _, [] => True
  | run, move :: moves =>
      (¬ ∃ catalog, Stores run (step send settings run move) name catalog) ∧
        Quiet send settings name (step send settings run move) moves

/-- The last catalog under a name was stored by a refresh. -/
def RefreshedLast (send : Archive.Sender σ) (settings : Settings) (run : Run σ)
    (moves : List Move) (name : Text) : Prop :=
  ∃ (before : List Move) (move : Move) (after : List Move),
    moves = before ++ move :: after ∧ move.refreshes = true ∧
      let earlier := before.foldl (step send settings) run
      (∃ catalog, Stores earlier (step send settings earlier move) name catalog) ∧
        Quiet send settings name (step send settings earlier move) after

theorem lastStored_step_of_not_stores
    (hquiet : ¬ ∃ catalog, Stores run (step send settings run move) name catalog) :
    lastStored (step send settings run move).attempts name = lastStored run.attempts name := by
  obtain ⟨hattempts, -⟩ | ⟨shortener, given, hattempts, -⟩ := step_cases send settings run move
  · rw [hattempts]
  · rw [hattempts, lastStored_cons]
    cases hstored : Attempt.stored? name _ with
    | none => exact Option.none_or
    | some catalog => exact absurd ⟨catalog, _, hattempts, hstored⟩ hquiet

theorem lastStored_of_quiet (hquiet : Quiet send settings name run moves) :
    lastStored (moves.foldl (step send settings) run).attempts name =
      lastStored run.attempts name := by
  induction moves generalizing run with
  | nil => rfl
  | cons move moves ih => exact (ih hquiet.2).trans (lastStored_step_of_not_stores hquiet.1)

/-! ## What refreshes store -/

/-- Codes that were fetched, if they were, in the rank order of the shortener. -/
def IsRanked (shortener : Shortener) (fetched : Except Archive.FetchError (List Text)) : Prop :=
  ∀ codes, fetched = .ok codes →
    codes.Pairwise fun left right => shortener.rankKey left < shortener.rankKey right

/-- All that waits to be stored is ranked. -/
def AwaitsRanked (run : Run σ) : Prop :=
  ∀ entry ∈ run.underway, IsRanked entry.1 entry.2

omit [Annotations] in
theorem isRanked_fst_knownCodes (send : Archive.Sender σ) (settings : Settings)
    (shortener : Shortener) (archive : σ) :
    IsRanked shortener (Archive.knownCodes send settings shortener archive).1 := by
  intro codes hcodes
  obtain ⟨urls, hcleaned⟩ := Archive.exists_cleanUrls_of_knownCodes hcodes
  exact Shortener.pairwise_of_cleanUrls_eq_ok hcleaned

theorem awaitsRanked_step (hawaits : AwaitsRanked run) (send : Archive.Sender σ)
    (settings : Settings) (move : Move) : AwaitsRanked (step send settings run move) := by
  cases move with
  | replace | refresh | refreshInBackground => exact hawaits
  | fetch shortener =>
      intro entry hmem
      rcases List.mem_append.mp hmem with hmem | hmem
      · exact hawaits entry hmem
      · rw [List.mem_singleton.mp hmem]
        exact isRanked_fst_knownCodes send settings shortener run.archive
  | store place =>
      cases hplace : run.underway[place]? with
      | none => simpa [step, hplace] using hawaits
      | some waiting =>
          intro entry hmem
          simp only [step, hplace] at hmem
          exact hawaits entry (List.mem_of_mem_eraseIdx hmem)

theorem awaitsRanked_foldl (hawaits : AwaitsRanked run) (send : Archive.Sender σ)
    (settings : Settings) (moves : List Move) :
    AwaitsRanked (moves.foldl (step send settings) run) := by
  induction moves generalizing run with
  | nil => exact hawaits
  | cons move moves ih => exact ih (awaitsRanked_step hawaits send settings move)

/-- What the second half of a refresh stores was waiting. -/
theorem exists_ranked_of_store (hawaits : AwaitsRanked run) {place : Nat} {shortener : Shortener}
    {shortcodes : List (Option Text)}
    (hstores : Stores run (step send settings run (.store place)) name (shortener, shortcodes)) :
    ∃ codes : List Text, shortcodes = codes.map some ∧
      codes.Pairwise fun left right => shortener.rankKey left < shortener.rankKey right := by
  obtain ⟨attempt, hattempts, hstored⟩ := hstores
  cases hplace : run.underway[place]? with
  | none => simp [step, hplace] at hattempts
  | some entry =>
      obtain ⟨waiting, fetched⟩ := entry
      simp only [step, hplace, List.cons.injEq, and_true] at hattempts
      subst hattempts
      cases fetched with
      | error error => cases hstored
      | ok codes =>
          have hranked := hawaits _ (List.mem_of_getElem? hplace) codes rfl
          simp only [Attempt.stored?, Except.map] at hstored
          split at hstored
          next hgiven hresult =>
            simp only [Option.ite_none_right_eq_some, Option.some.injEq, Prod.mk.injEq] at hstored
            obtain ⟨-, rfl, rfl⟩ := hstored
            exact ⟨codes, (Except.ok.inj hgiven).symm, hranked⟩
          next => cases hstored

/-- A refresh stores codes in rank order, whether or not it is cut in two. -/
theorem exists_ranked_of_refreshes (hawaits : AwaitsRanked run) {shortener : Shortener}
    {shortcodes : List (Option Text)} (hrefreshes : move.refreshes = true)
    (hstores : Stores run (step send settings run move) name (shortener, shortcodes)) :
    ∃ codes : List Text, shortcodes = codes.map some ∧
      codes.Pairwise fun left right => shortener.rankKey left < shortener.rankKey right := by
  have hrefresh : ∀ fetching : Shortener,
      Stores run (step send settings run (.refresh fetching)) name (shortener, shortcodes) →
        ∃ codes : List Text, shortcodes = codes.map some ∧
          codes.Pairwise fun left right => shortener.rankKey left < shortener.rankKey right := by
    intro fetching hstores
    rw [← step_fetch_store] at hstores
    exact exists_ranked_of_store (awaitsRanked_step hawaits send settings (.fetch fetching)) hstores
  cases move with
  | replace | fetch => cases hrefreshes
  | store place => exact exists_ranked_of_store hawaits hstores
  | refresh fetching => exact hrefresh fetching hstores
  | refreshInBackground fetching =>
      rw [step_refreshInBackground] at hstores
      exact hrefresh fetching hstores

/-! ## What can be written down -/

/-- A table whose codes can all be written down. -/
def IsWritten (table : CatalogTable) : Prop :=
  ∀ row ∈ table.rows, ∀ code ∈ row.shortcode, code.isEncodable = true

omit [Json.Room] [Annotations] in
theorem isWritten_replaced {table : CatalogTable} (hwritten : IsWritten table)
    {shortener : Shortener} {codes : List Text} (hstorable : Storable shortener codes) :
    IsWritten (replaced table shortener codes) := by
  intro row hmem
  rcases List.mem_append.mp hmem with hother | hnew
  · exact hwritten row (List.mem_filter.mp hother).1
  · have hcode : row.shortcode ∈ codes.map some := by
      rw [← map_shortcode_rankedRows shortener 0 codes]
      exact List.mem_map_of_mem hnew
    obtain ⟨stored, hstored, hsame⟩ := List.mem_map.mp hcode
    rw [← hsame]
    intro code hcode
    obtain rfl := Option.some.inj hcode
    exact hstorable.encodable stored hstored

theorem exists_isWritten_step {table : CatalogTable} (hlayout : table.layout.KeepsCodes)
    {versions : Option (List Text)} (hdatabase : run.database = ⟨some table, versions⟩)
    (hwritten : IsWritten table) (send : Archive.Sender σ) (settings : Settings) (move : Move) :
    ∃ next, (step send settings run move).database = ⟨some next, versions⟩ ∧
      next.layout = table.layout ∧ IsWritten next := by
  obtain ⟨-, hsame⟩ | ⟨shortener, given, -, hnext⟩ := step_cases send settings run move
  · exact ⟨table, hsame.trans hdatabase, rfl, hwritten⟩
  · rw [hdatabase] at hnext
    obtain ⟨codes, -, hstorable, hperform⟩ | ⟨error, hperform⟩ :=
      perform_cases hlayout versions shortener given
    · refine ⟨replaced table shortener codes, ?_, rfl, isWritten_replaced hwritten hstorable⟩
      rw [hnext, hperform]
    · refine ⟨table, ?_, rfl, hwritten⟩
      rw [hnext, hperform]

/-- A run over an empty table writes down all that it stores. -/
theorem exists_isWritten_foldl {layout : Layout} (hlayout : layout.KeepsCodes)
    (send : Archive.Sender σ) (settings : Settings) (archive : σ)
    (versions : Option (List Text)) (moves : List Move) :
    ∃ table, (moves.foldl (step send settings) (start archive layout versions)).database =
      ⟨some table, versions⟩ ∧ table.layout = layout ∧ IsWritten table := by
  induction moves using List.reverseRecOn with
  | nil =>
      refine ⟨⟨layout, []⟩, rfl, rfl, ?_⟩
      intro row hmem
      cases hmem
  | append_singleton moves move ih =>
      obtain ⟨table, hdatabase, rfl, hwritten⟩ := ih
      rw [List.foldl_append]
      exact exists_isWritten_step hlayout hdatabase hwritten send settings move

/-! ## The last refresh -/

/-- The last catalog under a name is ranked if a refresh has stored it. -/
theorem exists_ranked_of_refreshedLast (hawaits : AwaitsRanked run)
    (hlast : RefreshedLast send settings run moves name) :
    ∃ (shortener : Shortener) (codes : List Text),
      lastStored (moves.foldl (step send settings) run).attempts name =
        some (shortener, codes.map some) ∧
      codes.Pairwise fun left right => shortener.rankKey left < shortener.rankKey right := by
  obtain ⟨before, move, after, rfl, hrefreshes, ⟨⟨shortener, shortcodes⟩, hstores⟩, hquiet⟩ := hlast
  obtain ⟨codes, rfl, hranked⟩ := exists_ranked_of_refreshes
    (awaitsRanked_foldl hawaits send settings before) hrefreshes hstores
  refine ⟨shortener, codes, ?_, hranked⟩
  rw [List.foldl_append, List.foldl_cons, lastStored_of_quiet hquiet, lastStored_of_stores hstores]

end Run

end ShortlinkCatalog.Catalog
