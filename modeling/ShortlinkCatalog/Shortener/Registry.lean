import ShortlinkCatalog.Shortener.BuiltIn

/-!
# The registry of shorteners

A registry is an ordered list of shorteners whose names are distinct, so a name
finds at most one.  Building it from shorteners with a repeated name fails and
names the first repetition.
-/

namespace ShortlinkCatalog

/-- The first name that occurs again earlier in the list. -/
def firstRepeated? (seen : List Text) : List Text → Option Text
  | [] => none
  | name :: names =>
      if name ∈ seen then some name else firstRepeated? (name :: seen) names

theorem firstRepeated?_eq_none {seen names : List Text} (hnone : firstRepeated? seen names = none) :
    names.Nodup ∧ ∀ name ∈ names, name ∉ seen := by
  induction names generalizing seen with
  | nil => simp
  | cons name names ih =>
      rw [firstRepeated?] at hnone
      split at hnone
      · cases hnone
      · rename_i hfresh
        obtain ⟨hnodup, hunseen⟩ := ih hnone
        refine ⟨List.nodup_cons.mpr ⟨fun hmem => hunseen name hmem (by simp), hnodup⟩, ?_⟩
        intro other hother
        rcases List.mem_cons.mp hother with rfl | hmem
        · exact hfresh
        · exact fun hseen => hunseen other hmem (List.mem_cons_of_mem _ hseen)

structure Registry where
  shorteners : List Shortener
  nodup_names : (shorteners.map (·.name)).Nodup

namespace Registry

structure DuplicateName where
  name : Text
deriving DecidableEq, Repr

def DuplicateName.message (error : DuplicateName) : Text :=
  "Duplicate shortener name: " ++ error.name

structure NotFound where
  name : Text
deriving DecidableEq, Repr

def NotFound.message (error : NotFound) : Text :=
  "Shortener '" ++ error.name ++ "' not found"

def ofList (shorteners : List Shortener) : Except DuplicateName Registry :=
  match hrepeated : firstRepeated? [] (shorteners.map (·.name)) with
  | some name => .error ⟨name⟩
  | none => .ok ⟨shorteners, (firstRepeated?_eq_none hrepeated).1⟩

/-- The registry of the built-in shorteners. -/
def builtIn : Registry where
  shorteners := BuiltIn.shorteners
  nodup_names := by decide

def names (registry : Registry) : List Text := registry.shorteners.map (·.name)

def size (registry : Registry) : Nat := registry.shorteners.length

def contains (registry : Registry) (name : Text) : Bool := registry.names.contains name

def get (registry : Registry) (name : Text) : Except NotFound Shortener :=
  match registry.shorteners.find? (·.name == name) with
  | some shortener => .ok shortener
  | none => .error ⟨name⟩

/-- A host in lower case and without `www.` at its start. -/
def normalHost (host : Text) : Text :=
  let lower := Text.toLower host
  (Text.dropStart? "www." lower).getD lower

/-- The first shortener with the normal form of `host`; the hosts of shorteners are
taken as they are. -/
def findByHost? (registry : Registry) (host : Text) : Option Shortener :=
  registry.shorteners.find? (·.host == normalHost host)

end Registry

end ShortlinkCatalog
