import Mathlib.Data.Set.List
import ShortlinkCatalog.Proofs.Catalog.Insert
import ShortlinkCatalog.Proofs.Text.CodePoint

/-!
# What replacing a catalog does

The rows of the other shorteners stay, and the rows of the new codes are inserted beside
them.  So a list of codes is stored exactly when all of them are there, different and
encodable.  The rows of the shortener are then the ranked codes, and the rows of every
other one are what they were.
-/

namespace ShortlinkCatalog.Catalog

/-! ## Making rows -/

/-- The rows of some codes, whose ranks start at `rank`. -/
def rankedRows (shortener : Shortener) (rank : Nat) (codes : List Text) : List CatalogRow :=
  (codes.zipIdx rank).map fun (code, rank) =>
    ⟨shortener.name, some code, rank, shortener.isVanity code⟩

/-- The rows of a catalog in rank order. -/
def catalogRows (shortener : Shortener) (codes : List Text) : List CatalogRow :=
  rankedRows shortener 0 codes

theorem rowsFrom_map_some (shortener : Shortener) (rank : Nat) (codes : List Text) :
    rowsFrom shortener rank (codes.map some) = .ok (rankedRows shortener rank codes) := by
  induction codes generalizing rank with
  | nil => rfl
  | cons code codes ih =>
      simp only [List.map_cons, rowsFrom, isVanity, ih (rank + 1), Except.map, rankedRows,
        List.zipIdx_cons]

/-- Rows that could be made are those of the given codes, whether or not one is missing. -/
theorem map_shortcode_of_rowsFrom {shortener : Shortener} {rank : Nat}
    {shortcodes : List (Option Text)} {rows : List CatalogRow}
    (hrows : rowsFrom shortener rank shortcodes = .ok rows) :
    rows.map (·.shortcode) = shortcodes := by
  induction shortcodes generalizing rank rows with
  | nil =>
      cases hrows
      rfl
  | cons shortcode shortcodes ih =>
      rw [rowsFrom] at hrows
      cases hvanity : isVanity shortener shortcode with
      | error fault => simp [hvanity] at hrows
      | ok vanity =>
          cases hrest : rowsFrom shortener (rank + 1) shortcodes with
          | error fault => simp [hvanity, hrest, Except.map] at hrows
          | ok rest =>
              simp only [hvanity, hrest, Except.map, Except.ok.injEq] at hrows
              rw [← hrows, List.map_cons, ih hrest]

theorem map_shortcode_rankedRows (shortener : Shortener) (rank : Nat) (codes : List Text) :
    (rankedRows shortener rank codes).map (·.shortcode) = codes.map some :=
  map_shortcode_of_rowsFrom (rowsFrom_map_some shortener rank codes)

theorem shortener_of_mem_rankedRows {shortener : Shortener} {rank : Nat} {codes : List Text}
    {row : CatalogRow} (hmem : row ∈ rankedRows shortener rank codes) :
    row.shortener = shortener.name := by
  obtain ⟨-, -, rfl⟩ := List.mem_map.mp hmem
  rfl

theorem map_key_rankedRows (shortener : Shortener) (rank : Nat) (codes : List Text) :
    (rankedRows shortener rank codes).map CatalogRow.key =
      codes.map fun code => (shortener.name, some code) := by
  have hkey : ∀ row ∈ rankedRows shortener rank codes,
      row.key = (shortener.name, row.shortcode) := by
    intro row hmem
    rw [CatalogRow.key, shortener_of_mem_rankedRows hmem]
  calc (rankedRows shortener rank codes).map CatalogRow.key
      = ((rankedRows shortener rank codes).map (·.shortcode)).map (shortener.name, ·) := by
        rw [List.map_map]
        exact List.map_congr_left hkey
    _ = codes.map fun code => (shortener.name, some code) := by
        rw [map_shortcode_rankedRows, List.map_map]
        rfl

theorem encodeFault?_rankedRows_eq_none_iff (shortener : Shortener) (rank : Nat)
    (codes : List Text) :
    encodeFault? (rankedRows shortener rank codes) = none ↔
      ∀ code ∈ codes, code.isEncodable = true := by
  have hcodes : encodeFault? (rankedRows shortener rank codes) =
      ((rankedRows shortener rank codes).map (·.shortcode)).findSome?
        (·.bind Text.utf8Fault) := by
    rw [List.findSome?_map]
    rfl
  rw [hcodes, map_shortcode_rankedRows, List.findSome?_eq_none_iff]
  simp [Text.utf8Fault_eq_none_iff]

/-! ## Replacing a catalog -/

/-- The table with the codes as the catalog of the shortener. -/
def replaced (table : CatalogTable) (shortener : Shortener) (codes : List Text) : CatalogTable :=
  { table with rows := otherRows table shortener.name ++ catalogRows shortener codes }

/-- Codes that can be stored as the catalog of a shortener. -/
structure Storable (shortener : Shortener) (codes : List Text) : Prop where
  name : shortener.name.isEncodable = true
  distinct : codes.Nodup
  encodable : ∀ code ∈ codes, code.isEncodable = true

theorem disjoint_key_otherRows (table : CatalogTable) (shortener : Shortener)
    (codes : List Text) :
    ((otherRows table shortener.name).map CatalogRow.key).Disjoint
      ((catalogRows shortener codes).map CatalogRow.key) := by
  rw [catalogRows, map_key_rankedRows]
  intro key hother hnew
  obtain ⟨row, hrow, rfl⟩ := List.mem_map.mp hother
  obtain ⟨code, -, hkey⟩ := List.mem_map.mp hnew
  have hname : row.shortener ≠ shortener.name := by
    simpa using (List.mem_filter.mp hrow).2
  exact hname (Prod.mk.inj hkey).1.symm

theorem nodup_key_catalogRows_iff (shortener : Shortener) (codes : List Text) :
    ((catalogRows shortener codes).map CatalogRow.key).Nodup ↔ codes.Nodup := by
  rw [catalogRows, map_key_rankedRows]
  apply List.nodup_map_iff
  intro left right heq
  exact Option.some.inj (Prod.mk.inj heq).2

/-- The rows of a catalog can be inserted beside those of other shorteners if its codes
are different. -/
theorem insertable_catalogRows_iff (table : CatalogTable) (shortener : Shortener)
    (codes : List Text) :
    Insertable { table with rows := otherRows table shortener.name }
      (catalogRows shortener codes) ↔ codes.Nodup := by
  rw [← nodup_key_catalogRows_iff shortener codes]
  constructor
  · exact Insertable.distinct
  · intro hdistinct
    refine ⟨?_, hdistinct, disjoint_key_otherRows table shortener codes⟩
    intro row hmem
    obtain ⟨-, -, rfl⟩ := List.mem_map.mp hmem
    rfl

/-- Replacing a catalog repeats no key that was not repeated before. -/
theorem nodup_key_replaced {table : CatalogTable} (hkeys : (table.rows.map CatalogRow.key).Nodup)
    {shortener : Shortener} {codes : List Text} (hstorable : Storable shortener codes) :
    ((replaced table shortener codes).rows.map CatalogRow.key).Nodup := by
  rw [replaced, List.map_append, List.nodup_append']
  exact ⟨hkeys.sublist (List.filter_sublist.map _),
    (nodup_key_catalogRows_iff shortener codes).mpr hstorable.distinct,
    disjoint_key_otherRows table shortener codes⟩

/-- Replacing a catalog succeeds when every one of its stages does. -/
theorem replaceIn_eq_ok_iff_stages (table : CatalogTable) (shortener : Shortener)
    (shortcodes : List (Option Text)) (after : CatalogTable) :
    replaceIn table shortener shortcodes = .ok after ↔
      Text.utf8Fault shortener.name = none ∧
        ∃ rows, rowsFrom shortener 0 shortcodes = .ok rows ∧ encodeFault? rows = none ∧
          insertAll { table with rows := otherRows table shortener.name } rows = .ok after := by
  rw [replaceIn]
  cases Text.utf8Fault shortener.name with
  | some error => simp
  | none =>
      cases rowsFrom shortener 0 shortcodes with
      | error fault => simp
      | ok rows =>
          cases hencoded : encodeFault? rows with
          | some error => simp [hencoded]
          | none =>
              simp only [true_and, Except.ok.injEq, exists_eq_left', hencoded, otherRows]
              cases insertAll _ rows <;> simp [Except.mapError]

theorem exists_eq_map_some_iff (shortcodes : List (Option Text)) :
    (∃ codes : List Text, shortcodes = codes.map some) ↔ none ∉ shortcodes := by
  constructor
  · rintro ⟨codes, rfl⟩
    simp
  · intro hnull
    have hrange : shortcodes ∈ Set.range (List.map some) := by
      rw [Set.range_list_map]
      intro shortcode hmem
      exact Option.ne_none_iff_exists.mp fun heq => hnull (heq ▸ hmem)
    obtain ⟨codes, hcodes⟩ := hrange
    exact ⟨codes, hcodes.symm⟩

/-- Rows that can be inserted come from a list without missing codes. -/
theorem none_not_mem_of_insertable {table : CatalogTable} {shortener : Shortener}
    {shortcodes : List (Option Text)} {rows : List CatalogRow}
    (hrows : rowsFrom shortener 0 shortcodes = .ok rows)
    (hinsertable : Insertable table rows) : none ∉ shortcodes := by
  rw [← map_shortcode_of_rowsFrom hrows]
  intro hmem
  obtain ⟨row, hrow, hnull⟩ := List.mem_map.mp hmem
  have hcode := hinsertable.coded row hrow
  rw [hnull] at hcode
  cases hcode

/-- The lists that are stored, and the table that storing one leaves. -/
theorem replaceIn_eq_ok_iff {table : CatalogTable} (hlayout : table.layout.KeepsCodes)
    (shortener : Shortener) (shortcodes : List (Option Text)) (after : CatalogTable) :
    replaceIn table shortener shortcodes = .ok after ↔
      ∃ codes : List Text, shortcodes = codes.map some ∧ Storable shortener codes ∧
        after = replaced table shortener codes := by
  have hinsert := @insertAll_eq_ok_iff { table with rows := otherRows table shortener.name }
    after hlayout
  rw [replaceIn_eq_ok_iff_stages, Text.utf8Fault_eq_none_iff]
  constructor
  · rintro ⟨hname, rows, hrows, hencoded, hinserted⟩
    obtain ⟨hinsertable, hafter⟩ := (hinsert rows).mp hinserted
    obtain ⟨codes, rfl⟩ := (exists_eq_map_some_iff shortcodes).mpr
      (none_not_mem_of_insertable hrows hinsertable)
    rw [rowsFrom_map_some] at hrows
    cases hrows
    exact ⟨codes, rfl, ⟨hname, (insertable_catalogRows_iff table shortener codes).mp hinsertable,
      (encodeFault?_rankedRows_eq_none_iff shortener 0 codes).mp hencoded⟩, hafter⟩
  · rintro ⟨codes, rfl, hstorable, hafter⟩
    refine ⟨hstorable.name, catalogRows shortener codes, rowsFrom_map_some shortener 0 codes,
      (encodeFault?_rankedRows_eq_none_iff shortener 0 codes).mpr hstorable.encodable, ?_⟩
    exact (hinsert _).mpr
      ⟨(insertable_catalogRows_iff table shortener codes).mpr hstorable.distinct, hafter⟩

section Replacing

variable [Annotations]

/-- A catalog is replaced by storable codes, or nothing happens. -/
theorem replace_cases {table : CatalogTable} (hlayout : table.layout.KeepsCodes)
    (versions : Option (List Text)) (shortener : Shortener) (shortcodes : List (Option Text)) :
    (∃ codes : List Text, shortcodes = codes.map some ∧ Storable shortener codes ∧
      replace ⟨some table, versions⟩ shortener shortcodes =
        (.ok shortcodes.length, ⟨some (replaced table shortener codes), versions⟩)) ∨
    ((¬ ∃ codes : List Text, shortcodes = codes.map some ∧ Storable shortener codes) ∧
      ∃ error, replace ⟨some table, versions⟩ shortener shortcodes =
        (.error error, ⟨some table, versions⟩)) := by
  have hiff := replaceIn_eq_ok_iff hlayout shortener shortcodes
  cases hreplaced : replaceIn table shortener shortcodes with
  | ok after =>
      left
      obtain ⟨codes, hcodes, hstorable, rfl⟩ := (hiff after).mp hreplaced
      refine ⟨codes, hcodes, hstorable, ?_⟩
      simp only [replace_eq, hreplaced]
  | error fault =>
      right
      refine ⟨?_, ⟨shortener.name, fault, Annotations.further shortener.name shortcodes fault⟩,
        by simp only [replace_eq, hreplaced]⟩
      rintro ⟨codes, hcodes, hstorable⟩
      have hok := (hiff _).mpr ⟨codes, hcodes, hstorable, rfl⟩
      rw [hreplaced] at hok
      cases hok

theorem replace_of_storable {table : CatalogTable} (hlayout : table.layout.KeepsCodes)
    (versions : Option (List Text)) {shortener : Shortener} {codes : List Text}
    (hstorable : Storable shortener codes) :
    replace ⟨some table, versions⟩ shortener (codes.map some) =
      (.ok codes.length, ⟨some (replaced table shortener codes), versions⟩) := by
  obtain ⟨others, hothers, -, hreplace⟩ | ⟨hunstorable, -⟩ :=
    replace_cases hlayout versions shortener (codes.map some)
  · rw [hreplace, List.map_injective_iff.mpr (Option.some_injective _) hothers, List.length_map]
  · exact absurd ⟨codes, rfl, hstorable⟩ hunstorable

theorem replace_of_not_storable {table : CatalogTable} (hlayout : table.layout.KeepsCodes)
    (versions : Option (List Text)) {shortener : Shortener} {codes : List Text}
    (hunstorable : ¬ Storable shortener codes) :
    ∃ error, replace ⟨some table, versions⟩ shortener (codes.map some) =
      (.error error, ⟨some table, versions⟩) := by
  obtain ⟨others, hothers, hstorable, -⟩ | ⟨-, hreplace⟩ :=
    replace_cases hlayout versions shortener (codes.map some)
  · rw [← List.map_injective_iff.mpr (Option.some_injective _) hothers] at hstorable
    exact absurd hstorable hunstorable
  · exact hreplace

/-- A catalog is replaced exactly when none of its codes is missing or repeated and all
of it can be written down. -/
theorem replace_eq_ok_iff {table : CatalogTable} (hlayout : table.layout.KeepsCodes)
    (versions : Option (List Text)) (shortener : Shortener) (shortcodes : List (Option Text))
    (count : Nat) :
    (replace ⟨some table, versions⟩ shortener shortcodes).1 = .ok count ↔
      none ∉ shortcodes ∧ shortcodes.Nodup ∧ shortener.name.isEncodable = true ∧
        (∀ code, some code ∈ shortcodes → code.isEncodable = true) ∧
        count = shortcodes.length := by
  obtain ⟨codes, rfl, hstorable, hreplace⟩ | ⟨hunstorable, error, hreplace⟩ :=
    replace_cases hlayout versions shortener shortcodes
  · rw [hreplace, Except.ok.injEq]
    constructor
    · rintro rfl
      refine ⟨by simp, hstorable.distinct.map (Option.some_injective _), hstorable.name, ?_, rfl⟩
      simpa using hstorable.encodable
    · rintro ⟨-, -, -, -, rfl⟩
      rfl
  · rw [hreplace]
    refine iff_of_false (by simp) ?_
    rintro ⟨hnull, hdistinct, hname, hencodable, -⟩
    obtain ⟨codes, rfl⟩ := (exists_eq_map_some_iff shortcodes).mpr hnull
    refine hunstorable ⟨codes, rfl, hname, List.Nodup.of_map some hdistinct, ?_⟩
    simpa using hencodable

end Replacing

/-! ## Reading the rows of a shortener -/

theorem pairwise_rank_catalogRows (shortener : Shortener) (codes : List Text) :
    (catalogRows shortener codes).Pairwise fun left right => left.rank < right.rank := by
  have hranks : ((codes.zipIdx 0).map Prod.snd).Pairwise (· < ·) := by
    rw [List.zipIdx_map_snd]
    exact List.pairwise_lt_range'
  rw [catalogRows, rankedRows, List.pairwise_map]
  exact List.pairwise_map.mp hranks

theorem filter_replaced_self (table : CatalogTable) (shortener : Shortener)
    (codes : List Text) :
    (replaced table shortener codes).rows.filter (·.shortener == shortener.name) =
      catalogRows shortener codes := by
  have hothers : (otherRows table shortener.name).filter (·.shortener == shortener.name) = [] := by
    rw [List.filter_eq_nil_iff]
    intro row hmem
    simpa using (List.mem_filter.mp hmem).2
  have hcodes : (catalogRows shortener codes).filter (·.shortener == shortener.name) =
      catalogRows shortener codes := by
    rw [List.filter_eq_self]
    intro row hmem
    exact beq_iff_eq.mpr (shortener_of_mem_rankedRows hmem)
  rw [replaced, List.filter_append, hothers, hcodes, List.nil_append]

/-- Replacing a catalog leaves the rows of every other shortener alone. -/
theorem filter_replaced_of_ne (table : CatalogTable) (shortener : Shortener)
    (codes : List Text) {name : Text} (hname : name ≠ shortener.name) :
    (replaced table shortener codes).rows.filter (·.shortener == name) =
      table.rows.filter (·.shortener == name) := by
  have hothers : (otherRows table shortener.name).filter (·.shortener == name) =
      table.rows.filter (·.shortener == name) := by
    rw [otherRows, List.filter_filter]
    apply List.filter_congr
    intro row _
    rw [Bool.and_eq_left_iff_imp, beq_iff_eq, bne_iff_ne]
    intro heq
    rwa [heq]
  have hcodes : (catalogRows shortener codes).filter (·.shortener == name) = [] := by
    rw [List.filter_eq_nil_iff]
    intro row hmem
    rw [shortener_of_mem_rankedRows hmem, beq_iff_eq]
    exact hname.symm
  rw [replaced, List.filter_append, hothers, hcodes, List.append_nil]

theorem rowsOf_replaced_self (table : CatalogTable) (shortener : Shortener)
    (codes : List Text) :
    rowsOf (replaced table shortener codes) shortener.name = catalogRows shortener codes := by
  rw [rowsOf, filter_replaced_self]
  apply List.mergeSort_of_pairwise
  simpa using (pairwise_rank_catalogRows shortener codes).imp le_of_lt

theorem rowsOf_replaced_of_ne (table : CatalogTable) (shortener : Shortener)
    (codes : List Text) {name : Text} (hname : name ≠ shortener.name) :
    rowsOf (replaced table shortener codes) name = rowsOf table name := by
  rw [rowsOf, filter_replaced_of_ne table shortener codes hname, rowsOf]

/-- A catalog that was replaced is read back as its rows. -/
theorem find_replaced {table : CatalogTable} {shortener : Shortener} {codes : List Text}
    (hname : shortener.name.isEncodable = true) (versions : Option (List Text)) :
    find ⟨some (replaced table shortener codes), versions⟩ shortener.name =
      .ok (catalogRows shortener codes) := by
  simp only [find, (Text.utf8Fault_eq_none_iff _).mpr hname, rowsOf_replaced_self]

theorem select_replaced {table : CatalogTable} {shortener : Shortener} {codes : List Text}
    (hname : shortener.name.isEncodable = true) (versions : Option (List Text)) :
    select ⟨some (replaced table shortener codes), versions⟩ shortener.name none true =
      .ok (catalogRows shortener codes) := by
  simp [select, find_replaced hname, limited]

theorem count_replaced {table : CatalogTable} {shortener : Shortener} {codes : List Text}
    (hname : shortener.name.isEncodable = true) (versions : Option (List Text)) :
    count ⟨some (replaced table shortener codes), versions⟩ shortener.name =
      .ok codes.length := by
  rw [count, find_replaced hname]
  simp [Except.map, catalogRows, rankedRows]

end ShortlinkCatalog.Catalog
