import Mathlib.Data.List.Nodup
import ShortlinkCatalog.Shortener.Registry

/-!
# The names of a registry

Names are looked up in an index, which one pass over the shorteners of a registry fills: each
is entered under its name, and the pass stops at a name that is taken.  It stops exactly where
the registry is refused.  At every place of the pass the index finds under a name what a search
of the shorteners before that place finds, so the ordered view of a registry and the index of
its names never disagree.
-/

namespace ShortlinkCatalog

open Registry (DuplicateName)

/-- The shorteners that were entered, each under its name. -/
abbrev NameIndex := Text → Option Shortener

/-- A shortener with the name of an earlier one, before which no name is repeated. -/
def IsFirstRepeated (shorteners : List Shortener) (shortener : Shortener) : Prop :=
  ∃ before after, shorteners = before ++ shortener :: after ∧ (before.map (·.name)).Nodup ∧
    shortener.name ∈ before.map (·.name)

variable {shorteners before : List Shortener} {shortener : Shortener} {name : Text}

/-! ## The first repeated name -/

theorem firstRepeated?_eq_some_iff {seen names : List Text} :
    firstRepeated? seen names = some name ↔
      ∃ before after, names = before ++ name :: after ∧ before.Nodup ∧
        (∀ earlier ∈ before, earlier ∉ seen) ∧ (name ∈ seen ∨ name ∈ before) := by
  induction names generalizing seen with
  | nil => simp [firstRepeated?]
  | cons first names ih =>
      rw [firstRepeated?]
      by_cases hfirst : first ∈ seen
      · rw [if_pos hfirst, Option.some.injEq]
        constructor
        · rintro rfl
          exact ⟨[], names, rfl, List.nodup_nil, by simp, .inl hfirst⟩
        · rintro ⟨_ | ⟨_, before⟩, after, hsplit, -, hfresh, -⟩
          · exact (List.cons.inj hsplit).1
          · obtain ⟨rfl, -⟩ := List.cons.inj hsplit
            exact absurd hfirst (hfresh first List.mem_cons_self)
      · rw [if_neg hfirst, ih]
        constructor
        · rintro ⟨before, after, rfl, hnodup, hfresh, htaken⟩
          simp only [List.mem_cons, not_or] at hfresh htaken
          refine ⟨first :: before, after, rfl, ?_, ?_, ?_⟩
          · exact List.nodup_cons.mpr ⟨fun hmem => (hfresh first hmem).1 rfl, hnodup⟩
          · exact List.forall_mem_cons.mpr ⟨hfirst, fun earlier hmem => (hfresh earlier hmem).2⟩
          · rw [List.mem_cons]
            tauto
        · rintro ⟨_ | ⟨_, before⟩, after, hsplit, hnodup, hfresh, htaken⟩
          · obtain ⟨rfl, -⟩ := List.cons.inj hsplit
            simp [hfirst] at htaken
          · obtain ⟨rfl, rfl⟩ := List.cons.inj hsplit
            rw [List.nodup_cons] at hnodup
            rw [List.forall_mem_cons] at hfresh
            simp only [List.mem_cons, not_or] at htaken ⊢
            refine ⟨before, after, rfl, hnodup.2, ?_, by tauto⟩
            intro earlier hmem
            exact ⟨fun heq => hnodup.1 (heq ▸ hmem), hfresh.2 earlier hmem⟩

theorem firstRepeated?_names_eq_some_iff :
    firstRepeated? [] (shorteners.map (·.name)) = some name ↔
      ∃ shortener, IsFirstRepeated shorteners shortener ∧ shortener.name = name := by
  rw [firstRepeated?_eq_some_iff]
  constructor
  · rintro ⟨names, rest, hsplit, hnodup, -, htaken⟩
    obtain ⟨before, _, rfl, rfl, hrest⟩ := List.map_eq_append_iff.mp hsplit
    obtain ⟨shortener, after, rfl, rfl, rfl⟩ := List.map_eq_cons_iff.mp hrest
    refine ⟨shortener, ⟨before, after, rfl, hnodup, ?_⟩, rfl⟩
    simpa using htaken
  · rintro ⟨shortener, ⟨before, after, rfl, hnodup, htaken⟩, rfl⟩
    exact ⟨before.map (·.name), after.map (·.name), by simp, hnodup, by simp, .inr htaken⟩

theorem not_nodup_of_isFirstRepeated (hrepeated : IsFirstRepeated shorteners shortener) :
    ¬ (shorteners.map (·.name)).Nodup := by
  obtain ⟨before, after, rfl, -, htaken⟩ := hrepeated
  rw [List.map_append, List.map_cons, List.nodup_append]
  intro hnodup
  exact hnodup.2.2 _ htaken _ List.mem_cons_self rfl

theorem firstRepeated?_names_eq_none_iff :
    firstRepeated? [] (shorteners.map (·.name)) = none ↔ (shorteners.map (·.name)).Nodup := by
  refine ⟨fun hnone => (firstRepeated?_eq_none hnone).1, ?_⟩
  intro hnodup
  rw [Option.eq_none_iff_forall_ne_some]
  intro name hsome
  obtain ⟨shortener, hrepeated, -⟩ := firstRepeated?_names_eq_some_iff.mp hsome
  exact not_nodup_of_isFirstRepeated hrepeated hnodup

/-! ## Filling the index -/

namespace NameIndex

def empty : NameIndex := fun _ => none

/-- Enters a shortener under its name, which has to be free. -/
def enter (index : NameIndex) (shortener : Shortener) : Except DuplicateName NameIndex :=
  match index shortener.name with
  | some _ => .error ⟨shortener.name⟩
  | none => .ok (Function.update index shortener.name (some shortener))

/-- The index that a pass over some shorteners leaves. -/
def fill (shorteners : List Shortener) : Except DuplicateName NameIndex :=
  shorteners.foldlM enter empty

/-- The index that finds what a search of some shorteners finds. -/
def searching (shorteners : List Shortener) : NameIndex :=
  fun name => shorteners.find? (·.name == name)

theorem searching_nil : searching [] = empty := rfl

theorem searching_eq_none_iff :
    searching shorteners name = none ↔ name ∉ shorteners.map (·.name) := by
  simp [searching]

theorem update_searching (hfree : shortener.name ∉ before.map (·.name)) :
    Function.update (searching before) shortener.name (some shortener) =
      searching (before ++ [shortener]) := by
  funext name
  rw [searching, List.find?_append]
  by_cases hname : shortener.name = name
  · subst hname
    have hbefore : before.find? (·.name == shortener.name) = none := searching_eq_none_iff.mpr hfree
    rw [Function.update_self, hbefore, Option.none_or, List.find?_cons_of_pos (by simp)]
  · rw [Function.update_of_ne (Ne.symm hname), List.find?_cons_of_neg (by simpa using hname),
      List.find?_nil, Option.or_none, searching]

/-- A step of the pass: the shortener joins those before it, or has the name of one. -/
theorem enter_searching (before : List Shortener) (shortener : Shortener) :
    enter (searching before) shortener =
      if shortener.name ∈ before.map (·.name) then .error ⟨shortener.name⟩
      else .ok (searching (before ++ [shortener])) := by
  rw [enter]
  split
  next found hfound =>
    have htaken : shortener.name ∈ before.map (·.name) := by
      by_contra hfree
      rw [searching_eq_none_iff.mpr hfree] at hfound
      cases hfound
    rw [if_pos htaken]
  next hfree =>
    rw [searching_eq_none_iff] at hfree
    rw [if_neg hfree, update_searching hfree]

/-- The pass from any place: it stops at the first name that is repeated, and leaves an index
of all shorteners if there is none. -/
theorem foldlM_enter_searching {seen : List Text}
    (hseen : ∀ name, name ∈ seen ↔ name ∈ before.map (·.name)) (rest : List Shortener) :
    rest.foldlM enter (searching before) =
      match firstRepeated? seen (rest.map (·.name)) with
      | some name => .error ⟨name⟩
      | none => .ok (searching (before ++ rest)) := by
  induction rest generalizing before seen with
  | nil => simp [firstRepeated?, pure, Except.pure]
  | cons shortener rest ih =>
      rw [List.foldlM_cons, enter_searching, List.map_cons, firstRepeated?]
      by_cases htaken : shortener.name ∈ before.map (·.name)
      · rw [if_pos htaken, if_pos ((hseen _).mpr htaken)]
        rfl
      · rw [if_neg htaken, if_neg (mt (hseen _).mp htaken)]
        have hnext : ∀ name, name ∈ shortener.name :: seen ↔
            name ∈ (before ++ [shortener]).map (·.name) := by
          intro name
          rw [List.mem_cons, hseen name]
          simp [or_comm]
        have hsplit : before ++ shortener :: rest = before ++ [shortener] ++ rest := by simp
        rw [hsplit]
        exact ih hnext

end NameIndex

/-! ## The index and the registry -/

namespace Registry

variable {registry : Registry}

/-- The index of the names of a registry. -/
def index (registry : Registry) : NameIndex := NameIndex.searching registry.shorteners

theorem ofList_eq_ok_iff :
    ofList shorteners = .ok registry ↔
      (shorteners.map (·.name)).Nodup ∧ registry.shorteners = shorteners := by
  rw [← firstRepeated?_names_eq_none_iff, ofList]
  split
  next name hrepeated => simp [hrepeated]
  next hnone =>
    obtain ⟨listed, hnodup⟩ := registry
    simp [hnone, eq_comm]

theorem ofList_eq_error_iff {error : DuplicateName} :
    ofList shorteners = .error error ↔
      ∃ shortener, IsFirstRepeated shorteners shortener ∧ shortener.name = error.name := by
  rw [← firstRepeated?_names_eq_some_iff, ofList]
  split
  next name hrepeated =>
    obtain ⟨repeated⟩ := error
    simp [hrepeated]
  next hnone => simp [hnone]

/-- The pass fills the index of the registry, or fails as the registry is refused. -/
theorem fill_eq_map_index (shorteners : List Shortener) :
    NameIndex.fill shorteners = (ofList shorteners).map index := by
  have hpass := @NameIndex.foldlM_enter_searching [] [] (by simp) shorteners
  rw [NameIndex.fill, ← NameIndex.searching_nil, hpass]
  cases hregistry : ofList shorteners with
  | ok registry =>
      obtain ⟨hnodup, rfl⟩ := ofList_eq_ok_iff.mp hregistry
      rw [firstRepeated?_names_eq_none_iff.mpr hnodup]
      rfl
  | error error =>
      rw [firstRepeated?_names_eq_some_iff.mpr (ofList_eq_error_iff.mp hregistry)]
      rfl

theorem contains_iff_mem_names : registry.contains name = true ↔ name ∈ registry.names := by
  rw [contains, List.contains_iff_mem]

/-- A name is looked up in the index. -/
theorem get_eq_index (registry : Registry) (name : Text) :
    registry.get name =
      match registry.index name with
      | some shortener => .ok shortener
      | none => .error ⟨name⟩ := rfl

theorem contains_eq_index (registry : Registry) (name : Text) :
    registry.contains name = (registry.index name).isSome := by
  rw [Bool.eq_iff_iff, contains_iff_mem_names, ← not_iff_not, Bool.not_eq_true,
    Option.isSome_eq_false_iff, Option.isNone_iff_eq_none]
  exact NameIndex.searching_eq_none_iff.symm

theorem get_eq_ok_of_mem (registry : Registry) (hmem : shortener ∈ registry.shorteners) :
    registry.get shortener.name = .ok shortener := by
  have hfind : (registry.shorteners.find? (·.name == shortener.name)).isSome = true := by
    rw [List.find?_isSome]
    exact ⟨shortener, hmem, beq_self_eq_true shortener.name⟩
  obtain ⟨found, hfound⟩ := Option.isSome_iff_exists.mp hfind
  have hname := List.find?_some hfound
  have hsame : found = shortener :=
    List.inj_on_of_nodup_map registry.nodup_names (List.mem_of_find?_eq_some hfound) hmem
      (beq_iff_eq.mp hname)
  rw [get, hfound, hsame]

theorem get_eq_error_of_not_mem (registry : Registry) (hname : name ∉ registry.names) :
    registry.get name = .error ⟨name⟩ := by
  rw [get_eq_index]
  have hnone : registry.index name = none := NameIndex.searching_eq_none_iff.mpr hname
  rw [hnone]

theorem get_eq_ok_iff :
    registry.get name = .ok shortener ↔
      shortener ∈ registry.shorteners ∧ shortener.name = name := by
  constructor
  · intro hget
    by_cases hname : name ∈ registry.names
    · obtain ⟨found, hmem, rfl⟩ := List.mem_map.mp hname
      rw [registry.get_eq_ok_of_mem hmem] at hget
      cases hget
      exact ⟨hmem, rfl⟩
    · rw [registry.get_eq_error_of_not_mem hname] at hget
      cases hget
  · rintro ⟨hmem, rfl⟩
    exact registry.get_eq_ok_of_mem hmem

/-- A registry is built exactly from shorteners with different names, and the first name, in
order, that is taken already is what its refusal names.  The pass over the shorteners that
fills the index ends in the same way.  A registry that was built lists the shorteners as they
were given.  A name is in it exactly if it is one of their names; it is looked up in the index
then, and finds the one shortener that has it.  Any other name is not found and named. -/
theorem ofList_agrees_with_index (shorteners : List Shortener) :
    ((∃ registry, ofList shorteners = .ok registry) ↔ (shorteners.map (·.name)).Nodup) ∧
    (∀ error : DuplicateName, ofList shorteners = .error error ↔
      ∃ shortener, IsFirstRepeated shorteners shortener ∧ shortener.name = error.name) ∧
    NameIndex.fill shorteners = (ofList shorteners).map index ∧
    ∀ registry, ofList shorteners = .ok registry →
      registry.shorteners = shorteners ∧ registry.names = shorteners.map (·.name) ∧
      registry.size = shorteners.length ∧
      ∀ name, (registry.contains name = true ↔ name ∈ registry.names) ∧
        registry.contains name = (registry.index name).isSome ∧
        (name ∈ registry.names → ∃ shortener, registry.get name = .ok shortener ∧
          registry.index name = some shortener ∧
          ∀ other, other ∈ shorteners ∧ other.name = name ↔ other = shortener) ∧
        (name ∉ registry.names →
          registry.get name = .error ⟨name⟩ ∧ registry.index name = none) := by
  refine ⟨?_, fun _ => ofList_eq_error_iff, fill_eq_map_index shorteners, ?_⟩
  · constructor
    · rintro ⟨registry, hregistry⟩
      exact (ofList_eq_ok_iff.mp hregistry).1
    · intro hnodup
      exact ⟨⟨shorteners, hnodup⟩, ofList_eq_ok_iff.mpr ⟨hnodup, rfl⟩⟩
  · intro registry hregistry
    obtain ⟨-, rfl⟩ := ofList_eq_ok_iff.mp hregistry
    refine ⟨rfl, rfl, rfl, fun name => ⟨contains_iff_mem_names, contains_eq_index registry name,
      ?_, ?_⟩⟩
    · intro hname
      obtain ⟨shortener, hmem, rfl⟩ := List.mem_map.mp hname
      have hget := registry.get_eq_ok_of_mem hmem
      refine ⟨shortener, hget, ?_, ?_⟩
      · rw [get_eq_index] at hget
        split at hget
        next found hfound =>
          cases hget
          exact hfound
        next => cases hget
      · intro other
        rw [← get_eq_ok_iff, hget, Except.ok.injEq, eq_comm]
    · intro hname
      exact ⟨registry.get_eq_error_of_not_mem hname, NameIndex.searching_eq_none_iff.mpr hname⟩

/-- The built-in shorteners are found by their names, and with one of them given again before
another repetition there is no registry. -/
theorem ofList_agrees_with_index_builtIn :
    ofList BuiltIn.shorteners = .ok builtIn ∧ BuiltIn.qrcx.name ∈ builtIn.names ∧
      builtIn.get "qrcx" = .ok BuiltIn.qrcx ∧ ("bitly" : Text) ∉ builtIn.names ∧
      builtIn.get "bitly" = .error ⟨"bitly"⟩ ∧
      ofList [BuiltIn.allst, BuiltIn.debli, BuiltIn.qrcx, BuiltIn.debli, BuiltIn.allst] =
        .error ⟨"debli"⟩ := by
  have hok : ofList BuiltIn.shorteners = .ok builtIn :=
    ofList_eq_ok_iff.mpr ⟨builtIn.nodup_names, rfl⟩
  obtain ⟨-, -, -, hfound⟩ := ofList_agrees_with_index BuiltIn.shorteners
  obtain ⟨-, -, -, hnames⟩ := hfound builtIn hok
  have hqrcx : BuiltIn.qrcx.name ∈ builtIn.names := by decide
  have hbitly : ("bitly" : Text) ∉ builtIn.names := by decide
  obtain ⟨shortener, hget, -, hunique⟩ := (hnames BuiltIn.qrcx.name).2.2.1 hqrcx
  have hmem : BuiltIn.qrcx ∈ BuiltIn.shorteners := by simp [BuiltIn.shorteners]
  obtain rfl := (hunique BuiltIn.qrcx).mp ⟨hmem, rfl⟩
  obtain ⟨-, hrefused, -⟩ := ofList_agrees_with_index
    [BuiltIn.allst, BuiltIn.debli, BuiltIn.qrcx, BuiltIn.debli, BuiltIn.allst]
  refine ⟨hok, hqrcx, hget, hbitly, ((hnames _).2.2.2 hbitly).1, (hrefused ⟨"debli"⟩).mpr ?_⟩
  exact ⟨BuiltIn.debli, ⟨[BuiltIn.allst, BuiltIn.debli, BuiltIn.qrcx], [BuiltIn.allst], rfl,
    by decide, by decide⟩, rfl⟩

end Registry

end ShortlinkCatalog
