import ShortlinkCatalog.Proofs.Url.Written
import ShortlinkCatalog.Url.Parse

/-!
# Accepted URLs

A text is accepted if it holds no control character and its parts have no fault.  The
faults of the authority do not depend on the other parts, and of these only escapes
are checked.
-/

namespace ShortlinkCatalog.Url

theorem parse_eq_ok_iff {text : Text} {url : Url} :
    parse text = .ok url ↔
      (∀ character ∈ text, Text.isControl character = false) ∧ fault (cut text) = none ∧
        cut text = url := by
  rw [parse]
  by_cases hcontrol : text.any Text.isControl = true
  · rw [if_pos hcontrol]
    obtain ⟨character, hmem, hcharacter⟩ := List.any_eq_true.mp hcontrol
    simp only [reduceCtorEq, false_iff]
    rintro ⟨hfree, -⟩
    rw [hfree character hmem] at hcharacter
    cases hcharacter
  · have hfree : ∀ character ∈ text, Text.isControl character = false := by
      simpa using hcontrol
    rw [if_neg hcontrol]
    cases fault (cut text) with
    | none => simpa using fun _ => hfree
    | some reason => simp

/-- An error carries the text as it came. -/
theorem url_of_parse_eq_error {text : Text} {error : Malformed}
    (hparse : parse text = .error error) : error.url = text := by
  rw [parse] at hparse
  split_ifs at hparse
  · cases hparse
    rfl
  · split at hparse
    · cases hparse
      rfl
    · cases hparse

/-- What is wrong with an authority, whatever the other parts are. -/
def faultOfAuthority (authority : Text) : Option Reason := fault ⟨[], authority, [], [], []⟩

theorem fault_eq_none_iff (url : Url) :
    fault url = none ↔ faultOfAuthority url.authority = none ∧
      Percent.wellFormed url.path = true ∧ Percent.wellFormed url.fragment = true := by
  simp only [faultOfAuthority, fault, escapeFault, Option.or_eq_none_iff, Percent.wellFormed]
  grind

end ShortlinkCatalog.Url
