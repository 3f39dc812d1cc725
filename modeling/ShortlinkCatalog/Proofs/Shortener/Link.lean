import ShortlinkCatalog.Proofs.Shortener.Candidate
import ShortlinkCatalog.Proofs.Text.Boundary
import ShortlinkCatalog.Proofs.Url.Extended
import ShortlinkCatalog.Proofs.Url.Grammar
import ShortlinkCatalog.Shortener.BuiltIn

/-!
# Links of the built-in shorteners

A link is the base URL of a shortener with something behind it.  The base URL ends in the
slash at which the path begins, so what is behind it is the path, up to the first mark, and
is decoded by itself.  Where it has no mark, it decides alone whether the link is accepted.
-/

namespace ShortlinkCatalog.BuiltIn

variable {shortener : Shortener} {rest : Text}

/-- The base URL of a built-in shortener names its host. -/
theorem exists_baseUrl_eq (hbuiltIn : shortener ∈ shorteners) :
    ∃ scheme : Text, Url.isScheme scheme = true ∧
      shortener.baseUrl = scheme ++ "://" ++ shortener.host ++ "/" := by
  have hschemes : ∀ shortener ∈ shorteners, ∃ scheme ∈ [("http" : Text), "https"],
      Url.isScheme scheme = true ∧
      shortener.baseUrl = scheme ++ "://" ++ shortener.host ++ "/" := by
    decide
  obtain ⟨scheme, -, hscheme⟩ := hschemes shortener hbuiltIn
  exact ⟨scheme, hscheme⟩

theorem host_sound (hbuiltIn : shortener ∈ shorteners) :
    (∀ character ∈ shortener.host,
      Url.isAuthorityEnd character = false ∧ Text.isControl character = false) ∧
      Url.faultOfAuthority shortener.host = none := by
  revert shortener
  decide

/-! ## The path of a link -/

theorem afterAuthority_link (hbuiltIn : shortener ∈ shorteners) (rest : Text) :
    Url.afterAuthority (shortener.baseUrl ++ rest) = .char '/' :: rest := by
  obtain ⟨scheme, hscheme, hbase⟩ := exists_baseUrl_eq hbuiltIn
  have hhost : ∀ character ∈ shortener.host, Url.isAuthorityEnd character = false :=
    fun character hmem => ((host_sound hbuiltIn).1 character hmem).1
  have hend : ∀ character ∈ (CodePoint.char '/' :: rest).head?,
      Url.isAuthorityEnd character = true := by
    rintro _ ⟨rfl⟩
    decide
  have hlink : shortener.baseUrl ++ rest =
      scheme ++ .char ':' :: .char '/' :: .char '/' :: (shortener.host ++ .char '/' :: rest) := by
    rw [hbase]
    simp [Text.ofString]
  rw [Url.afterAuthority, hlink, Url.dropWhile_isLeadingBlank_of_isScheme hscheme,
    Url.cutScheme_append hscheme, Url.cutAuthority_append hhost hend]

theorem path_link (hbuiltIn : shortener ∈ shorteners) (rest : Text) :
    (Url.cut (shortener.baseUrl ++ rest)).path = .char '/' :: Url.pathStart rest := by
  have hstart : Url.pathStart ([.char '/'] ++ rest) = [.char '/'] ++ Url.pathStart rest :=
    Url.pathStart_append (by decide) (by decide) rest
  rw [Url.path_cut, afterAuthority_link hbuiltIn]
  exact hstart

/-- What is behind the base URL is decoded by itself. -/
theorem decodedPath_link (hbuiltIn : shortener ∈ shorteners) {url : Url}
    (hparse : Url.parse (shortener.baseUrl ++ rest) = .ok url) :
    Percent.IsEscaped (Url.pathStart rest) ∧
      url.decodedPath = Percent.decode (Url.pathStart rest) := by
  have hpath : url.path = .char '/' :: Url.pathStart rest := by
    rw [← (Url.parse_eq_ok_iff.mp hparse).2.2, path_link hbuiltIn]
  have hescaped : Percent.IsEscaped url.path :=
    (Url.parse_accounts_for_text hparse).2.escaped _ (by simp)
  have hdecode : Percent.decode ([] ++ .char '/' :: Url.pathStart rest) =
      Percent.decode [] ++ .char '/' :: Percent.decode (Url.pathStart rest) :=
    Percent.decode_append_literal (by decide) rfl Percent.isEscaped_nil _
  rw [List.nil_append, ← hpath] at hdecode
  rw [hpath, Percent.isEscaped_cons_iff] at hescaped
  exact ⟨hescaped.2, Url.decodedPath_of_slash hdecode⟩

/-- Links without marks are accepted if they have no control characters and no broken
escapes. -/
theorem exists_parse_link_iff (hbuiltIn : shortener ∈ shorteners) (hquestion : .char '?' ∉ rest)
    (hnumber : .char '#' ∉ rest) :
    (∃ url, Url.parse (shortener.baseUrl ++ rest) = .ok url) ↔
      (∀ character ∈ rest, Text.isControl character = false) ∧ Percent.IsEscaped rest := by
  obtain ⟨scheme, hscheme, hbase⟩ := exists_baseUrl_eq hbuiltIn
  obtain ⟨hhost, hsound⟩ := host_sound hbuiltIn
  have hparts : Url.AreParts scheme shortener.host (.char '/' :: rest) none :=
    ⟨hscheme, fun character hmem => (hhost character hmem).1, .inr ⟨rest, rfl⟩,
      ⟨List.not_mem_cons_of_ne_of_not_mem (by decide) hquestion,
        List.not_mem_cons_of_ne_of_not_mem (by decide) hnumber⟩, by simp⟩
  have hwritten : shortener.baseUrl ++ rest =
      Url.written scheme shortener.host (.char '/' :: rest) none none := by
    rw [hbase]
    simp [Url.written, Url.marked, Text.ofString]
  have hslash : Text.isControl (.char '/') = false := by decide
  have hpath : Percent.IsEscaped (.char '/' :: rest) ↔ Percent.IsEscaped rest := by
    simp [Percent.isEscaped_cons_iff]
  rw [hwritten, Url.exists_parse_written_eq_ok_iff hparts, ← hpath]
  constructor
  · intro hreadable
    have hcontrols := hreadable.controls (.char '/' :: rest) (by simp)
    exact ⟨(List.forall_mem_cons.mp hcontrols).2, hreadable.path⟩
  · rintro ⟨hcontrols, hescaped⟩
    refine ⟨?_, (Url.faultOfAuthority_eq_none_iff _).mp hsound, hescaped, Percent.isEscaped_nil⟩
    rw [List.forall_mem_cons, List.forall_mem_cons, List.forall_mem_cons]
    exact ⟨fun character hmem => (hhost character hmem).2, ⟨hslash, hcontrols⟩, by simp⟩

end ShortlinkCatalog.BuiltIn
