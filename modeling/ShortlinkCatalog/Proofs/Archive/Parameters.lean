import Mathlib.Data.List.Nodup
import ShortlinkCatalog.Archive.Timemap
import ShortlinkCatalog.Proofs.Text.Cut

/-!
# What the fields of a query say

The fields of a query for captures are those of six entries that are given.  The keys of
the entries differ and their order is fixed, so an entry that is left out cannot be taken
for another one, and the fields determine every entry.  An entry determines its option: a
number has one decimal form, and names without commas are cut apart where they were joined.
-/

namespace ShortlinkCatalog

/-! ## Decimal forms -/

namespace Text

theorem ofNat_injective : Function.Injective ofNat := by
  intro left right heq
  have hdigits : Nat.toDigits 10 left = Nat.toDigits 10 right :=
    List.map_injective_iff.mpr (fun _ _ => CodePoint.char.inj) heq
  have hvalue := congrArg (Nat.ofDigitChars 10 · 0) hdigits
  simpa only [Nat.ofDigitChars_ten_toDigits] using hvalue

/-- No decimal form of a natural number starts with a minus sign. -/
theorem ofNat_ne_minus (value : Nat) (rest : Text) : ofNat value ≠ .char '-' :: rest := by
  intro heq
  have hmem : CodePoint.char '-' ∈ ofNat value := heq ▸ List.mem_cons_self
  rw [ofNat, List.mem_map] at hmem
  obtain ⟨digit, hdigit, hminus⟩ := hmem
  have hisDigit := Nat.isDigit_of_mem_toDigits (by decide) (by decide) hdigit
  rw [CodePoint.char.inj hminus] at hisDigit
  exact absurd hisDigit (by decide)

theorem ofInt_injective : Function.Injective ofInt := by
  intro left right heq
  cases left with
  | ofNat left =>
      cases right with
      | ofNat right => exact congrArg Int.ofNat (ofNat_injective heq)
      | negSucc right => exact absurd heq (ofNat_ne_minus left _)
  | negSucc left =>
      cases right with
      | ofNat right => exact absurd heq.symm (ofNat_ne_minus right _)
      | negSucc right =>
          have hsucc := ofNat_injective (List.cons.inj heq).2
          exact congrArg Int.negSucc (Nat.succ.inj hsucc)

end Text

/-! ## Entries -/

/-- Keys with the values that they are given, if they are. -/
abbrev Form.Entries := List (Text × Option Text)

/-- The fields of the entries that are given. -/
def Form.given (entries : Form.Entries) : Form.Fields :=
  entries.filterMap fun entry => entry.2.map (entry.1, ·)

namespace Form

variable {entries others : Entries}

theorem given_cons (key : Text) (value : Option Text) (entries : Entries) :
    given ((key, value) :: entries) = (value.map (key, ·)).toList ++ given entries := by
  cases value <;> rfl

theorem keys_given_sublist (entries : Entries) :
    ((given entries).map Prod.fst).Sublist (entries.map Prod.fst) := by
  induction entries with
  | nil => exact .slnil
  | cons entry entries ih =>
      obtain ⟨key, value⟩ := entry
      rw [given_cons]
      cases value with
      | none => exact ih.cons key
      | some value => exact ih.cons_cons key

/-- A key that is left out does not come back in what follows. -/
theorem given_ne_cons {key : Text} (hkey : key ∉ entries.map Prod.fst) (value : Text)
    (rest : Fields) : given entries ≠ (key, value) :: rest := by
  intro heq
  apply hkey
  apply (keys_given_sublist entries).subset
  rw [heq, List.map_cons]
  exact List.mem_cons_self

/-- Entries with the same distinct keys are determined by what is given. -/
theorem given_injective (hkeys : entries.map Prod.fst = others.map Prod.fst)
    (hdistinct : (entries.map Prod.fst).Nodup) (heq : given entries = given others) :
    entries = others := by
  induction entries generalizing others with
  | nil => exact (List.map_eq_nil_iff.mp hkeys.symm).symm
  | cons entry entries ih =>
      cases others with
      | nil => cases hkeys
      | cons other others =>
          obtain ⟨key, value⟩ := entry
          obtain ⟨otherKey, otherValue⟩ := other
          rw [List.map_cons, List.map_cons] at hkeys
          obtain ⟨rfl, hrest⟩ := List.cons.inj hkeys
          obtain ⟨hfresh, hdistinctRest⟩ := List.nodup_cons.mp hdistinct
          rw [given_cons, given_cons] at heq
          cases value with
          | none =>
              cases otherValue with
              | none => rw [ih hrest hdistinctRest heq]
              | some otherValue => exact absurd heq (given_ne_cons hfresh otherValue _)
          | some value =>
              cases otherValue with
              | none => exact absurd heq.symm (given_ne_cons (hrest ▸ hfresh) value _)
              | some otherValue =>
                  obtain ⟨hfield, hgiven⟩ := List.cons.inj heq
                  rw [ih hrest hdistinctRest hgiven, (Prod.mk.inj hfield).2]

end Form

namespace Archive.TimemapOptions

/-- The keys that a query may have, in their order. -/
def keys : List Text := ["url", "output", "fl", "collapse", "matchType", "limit"]

/-- The names to list, put together; none ask for all fields. -/
def fieldList? (options : TimemapOptions) : Option Text :=
  if options.fields.isEmpty then .none else some (Text.join "," options.fields)

/-- The field to collapse on; an empty one is none. -/
def collapse? (options : TimemapOptions) : Option Text :=
  if (options.collapse.getD []).isEmpty then .none else some (options.collapse.getD [])

/-- What a query says about each of its keys. -/
def entries (options : TimemapOptions) (url : Text) : Form.Entries :=
  [("url", some url), ("output", some "json"), ("fl", options.fieldList?),
    ("collapse", options.collapse?),
    ("matchType", if options.matchPrefix then some "prefix" else .none),
    ("limit", options.limit.map Text.ofInt)]

theorem parameters_eq_given (options : TimemapOptions) (url : Text) :
    options.parameters url = Form.given (options.entries url) := by
  obtain ⟨collapse, fields, matchPrefix, limit⟩ := options
  -- each option is given or left out by itself
  rcases collapse with _ | _ | ⟨first, collapse⟩ <;> cases fields <;> cases matchPrefix <;>
    cases limit <;> rfl

theorem keys_entries (options : TimemapOptions) (url : Text) :
    (options.entries url).map Prod.fst = keys := rfl

theorem nodup_keys : keys.Nodup := by decide

/-- Each key stands at most once, and in the order of the keys. -/
theorem keys_parameters_sublist (options : TimemapOptions) (url : Text) :
    ((options.parameters url).map Prod.fst).Sublist keys := by
  rw [parameters_eq_given, ← keys_entries options url]
  exact Form.keys_given_sublist _

/-- The fields of a query are the same only if every entry is. -/
theorem parameters_eq_iff {options others : TimemapOptions} {url other : Text} :
    options.parameters url = others.parameters other ↔
      url = other ∧ options.fieldList? = others.fieldList? ∧
        options.collapse? = others.collapse? ∧ options.matchPrefix = others.matchPrefix ∧
        options.limit = others.limit := by
  have hentries : options.parameters url = others.parameters other ↔
      options.entries url = others.entries other := by
    rw [parameters_eq_given, parameters_eq_given]
    refine ⟨Form.given_injective rfl nodup_keys, congrArg Form.given⟩
  have hscope : ((if options.matchPrefix then some (Text.ofString "prefix") else .none) =
      if others.matchPrefix then some (Text.ofString "prefix") else .none) ↔
        options.matchPrefix = others.matchPrefix := by
    cases options.matchPrefix <;> cases others.matchPrefix <;> simp
  have hlimit : options.limit.map Text.ofInt = others.limit.map Text.ofInt ↔
      options.limit = others.limit :=
    (Option.map_injective Text.ofInt_injective).eq_iff
  rw [hentries]
  simp [entries, hscope, hlimit]

/-! ## What the entries stand for -/

/-- Only the empty text and none ask for the same collapse. -/
theorem collapse?_eq_iff {options others : TimemapOptions} :
    options.collapse? = others.collapse? ↔
      options.collapse.getD [] = others.collapse.getD [] := by
  rw [collapse?, collapse?]
  cases options.collapse.getD [] <;> cases others.collapse.getD [] <;> simp

/-- Names without commas are determined by the list that they make. -/
theorem fields_eq_of_fieldList?_eq {options others : TimemapOptions}
    (hfields : ∀ name ∈ options.fields, CodePoint.char ',' ∉ name)
    (hothers : ∀ name ∈ others.fields, CodePoint.char ',' ∉ name)
    (heq : options.fieldList? = others.fieldList?) : options.fields = others.fields := by
  have hcut {names : List Text} (hnames : names ≠ []) (hfree : ∀ name ∈ names, .char ',' ∉ name) :
      Text.splitAll ',' (Text.join "," names) = names := Text.splitAll_join hnames hfree
  by_cases hempty : options.fields = []
  · by_cases hother : others.fields = []
    · rw [hempty, hother]
    · simp [fieldList?, hempty, hother] at heq
  · by_cases hother : others.fields = []
    · simp [fieldList?, hempty, hother] at heq
    · have hjoin : Text.join "," options.fields = Text.join "," others.fields := by
        simpa [fieldList?, hempty, hother] using heq
      rw [← hcut hempty hfields, hjoin, hcut hother hothers]

end Archive.TimemapOptions

end ShortlinkCatalog
