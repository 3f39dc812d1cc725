import Mathlib.Data.List.Basic
import ShortlinkCatalog.Proofs.Text.Cut
import ShortlinkCatalog.Proofs.Url.Written
import ShortlinkCatalog.Service.Endpoint

/-!
# Routes to a shortener

The path of an endpoint of a shortener is put together from a name and an action, and is
cut at the first slash after its fixed start.  So a name leads to its endpoints exactly
when it is not empty and has no slash.  What leads to an endpoint is its path, with or
without a line feed at the end.
-/

namespace ShortlinkCatalog.Service

namespace Endpoint

variable {name action : Text}

/-- No endpoint that is not of a shortener has a path with the start of theirs. -/
theorem withPath?_shorteners_append (hslash : .char '/' ∉ name) (action : Text) :
    withPath? ("/shorteners/" ++ (name ++ .char '/' :: action)) = ofShortener? name action := by
  have hfixed : [about, health, shorteners, refreshAll, releases].find?
      (·.path == ("/shorteners/" : Text) ++ (name ++ .char '/' :: action)) = none := by
    have hpaths : ∀ endpoint ∈ [about, health, shorteners, refreshAll, releases],
        ¬ ("/shorteners/" : Text) <+: endpoint.path := by
      decide
    rw [List.find?_eq_none]
    intro endpoint hmem hpath
    apply hpaths endpoint hmem
    rw [beq_iff_eq.mp hpath]
    exact List.prefix_append _ _
  rw [withPath?, hfixed, Text.dropStart?_append]
  simp only [Option.map_some, Text.splitFirst_append hslash]

/-- What may come after the name in the path of an endpoint of a shortener. -/
def actions : List Text := ["clean", "refresh", "shortcodes"]

theorem ofShortener?_of_not_mem (haction : action ∉ actions) : ofShortener? name action = none := by
  simp only [actions, List.mem_cons, List.not_mem_nil, or_false, not_or] at haction
  simp [ofShortener?, haction]

theorem path_ofShortener_eq (name action : Text) :
    path.ofShortener name action = "/shorteners/" ++ (name ++ .char '/' :: action) := by
  simp [path.ofShortener, Text.ofString]

theorem getLast?_path_ofShortener (haction : action ∈ actions) (name : Text) {mark : CodePoint}
    (hmark : mark ∈ [CodePoint.char '/', .char '\n']) :
    (path.ofShortener name action).getLast? ≠ some mark := by
  have hlast : ∀ action ∈ actions, ∀ mark ∈ [CodePoint.char '/', .char '\n'],
      action ≠ [] ∧ action.getLast? ≠ some mark := by
    decide
  obtain ⟨hne, hmark⟩ := hlast action haction mark hmark
  rw [path.ofShortener, List.getLast?_append_of_ne_nil _ hne]
  exact hmark

/-- Where the path of an action leads. -/
theorem ofPath?_ofShortener (haction : action ∈ actions) (name : Text) :
    ofPath? (path.ofShortener name action) =
      if .char '/' ∈ name then none else ofShortener? name action := by
  rw [ofPath?, Text.dropOneEnd_of_ne (getLast?_path_ofShortener haction name (by simp)),
    path_ofShortener_eq]
  split
  next hslash =>
    -- The path is cut inside the name, and no action has a slash.
    obtain ⟨before, after, rfl, hbefore⟩ := List.eq_append_cons_of_mem hslash
    have hsplit : before ++ .char '/' :: after ++ .char '/' :: action =
        before ++ .char '/' :: (after ++ .char '/' :: action) := by simp
    rw [hsplit, withPath?_shorteners_append hbefore]
    apply ofShortener?_of_not_mem
    intro hmem
    have hfree : ∀ action ∈ actions, CodePoint.char '/' ∉ action := by decide
    exact hfree _ hmem (by simp)
  next hslash => exact withPath?_shorteners_append hslash action

/-! ## Paths of an endpoint -/

end Endpoint

theorem route_of_action {name : Text} (action : Text) (haction : action ∈ Endpoint.actions)
    {endpoint : Endpoint} (hpath : endpoint.path = Endpoint.path.ofShortener name action)
    (hfound : Endpoint.ofShortener? name action = if name = [] then none else some endpoint) :
    route endpoint.method endpoint.path =
      if name = [] ∨ .char '/' ∈ name then .unknown else .endpoint endpoint := by
  have hend : endpoint.path.getLast? ≠ some (.char '/') := by
    rw [hpath]
    exact Endpoint.getLast?_path_ofShortener haction name (by simp)
  have hplace : Endpoint.ofPath? endpoint.path =
      if name = [] ∨ .char '/' ∈ name then none else some endpoint := by
    rw [hpath, Endpoint.ofPath?_ofShortener haction, hfound]
    by_cases hslash : CodePoint.char '/' ∈ name <;> simp [hslash]
  by_cases hname : name = [] ∨ .char '/' ∈ name
  · simp only [route, hplace, if_pos hname]
    apply if_neg
    intro hmoved
    exact hend (beq_iff_eq.mp (Bool.and_eq_true_iff.mp hmoved).1)
  · simp [route, hplace, hname]

/-- A name leads to the endpoints of a shortener if it is one piece of a path. -/
theorem route_of_shortener {name : Text} {endpoint : Endpoint}
    (hendpoint : endpoint ∈ [.clean name, .refresh name, .shortcodes name]) :
    route endpoint.method endpoint.path =
      if name = [] ∨ .char '/' ∈ name then .unknown else .endpoint endpoint := by
  simp only [List.mem_cons, List.not_mem_nil, or_false] at hendpoint
  rcases hendpoint with rfl | rfl | rfl
  · exact route_of_action "clean" (by decide) rfl (by cases name <;> rfl)
  · exact route_of_action "refresh" (by decide) rfl (by cases name <;> rfl)
  · exact route_of_action "shortcodes" (by decide) rfl (by cases name <;> rfl)

end ShortlinkCatalog.Service
