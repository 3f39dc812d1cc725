import ShortlinkCatalog.Proofs.Shortener.Batch
import ShortlinkCatalog.Proofs.Shortener.Link

/-!
# Previews of links

deb.li shows a preview of each link under `/p/`.  The hook takes the start of a preview off,
but it only gets to see what is left of the path once stand-ins, junk and a slash are gone,
and behind `p/` these look different: a stand-in is none, and where no key is left the slash of
the preview goes.  A preview names the same key as its link in all other cases, whatever is
behind the key.
-/

namespace ShortlinkCatalog

/-- A decoded path in which something stands before any junk, and which is no stand-in. -/
structure BeginsKey (text : Text) : Prop where
  genuine : isPlaceholder text = false
  begun : text.takeWhile (!isJunk ·) ≠ []

namespace BuiltIn

/-! ## The hook -/

theorem debliHook_preview (key : Text) (url : Url) : debliHook ("p/" ++ key) url = key := by
  rw [debliHook, Text.dropStart?_append]
  rfl

theorem debliHook_of_not_prefix {candidate : Text} (hstart : ¬ ("p/" : Text) <+: candidate)
    (url : Url) : debliHook candidate url = candidate := by
  rw [debliHook, Text.dropStart?_of_not_prefix hstart]
  rfl

/-! ## The two candidates -/

section Candidates

variable {text : Text} {direct preview : Url} (hdirect : direct.decodedPath = text)
  (hpreview : preview.decodedPath = "p/" ++ text)

include hdirect in
theorem candidate_direct (hgenuine : isPlaceholder text = false) :
    direct.candidate = Text.dropOneEnd '/' (text.takeWhile (!isJunk ·)) := by
  rw [Url.candidate, hdirect, hgenuine]
  rfl

include hpreview in
/-- A preview is never a stand-in, and its start is no junk. -/
theorem candidate_preview :
    preview.candidate = Text.dropOneEnd '/' ("p/" ++ text.takeWhile (!isJunk ·)) := by
  have hplaceholder : isPlaceholder ("p/" ++ text) = false := by
    rw [isPlaceholder, Bool.and_eq_false_iff]
    exact .inl rfl
  have hstart : ∀ character ∈ ("p/" : Text), (!isJunk character) = true := by decide
  rw [Url.candidate, hpreview, hplaceholder, List.takeWhile_append_of_pos hstart]
  rfl

include hpreview in
theorem candidate_preview_of_begun (hbegun : text.takeWhile (!isJunk ·) ≠ []) :
    preview.candidate = "p/" ++ Text.dropOneEnd '/' (text.takeWhile (!isJunk ·)) := by
  rw [candidate_preview hpreview, Text.dropOneEnd_append_of_ne_nil hbegun]

/-! ## The two codes -/

include hdirect hpreview

/-- Where a key begins, the hook leaves the same text of both. -/
theorem shortcode_preview_eq (hkey : BeginsKey text) (hstart : ¬ ("p/" : Text) <+: text) :
    preview.shortcode (some debliHook) = direct.shortcode (some debliHook) := by
  have hleft := candidate_direct hdirect hkey.genuine
  have hright := candidate_preview_of_begun hpreview hkey.begun
  have hne : preview.candidate ≠ [] := by
    rw [hright]
    exact List.cons_ne_nil _ _
  rw [← hleft] at hright
  rw [Url.shortcode_of_candidate_ne_nil hne, hright, debliHook_preview]
  by_cases hnil : direct.candidate = []
  · rw [Url.shortcode_of_candidate_nil hnil, hnil]
    rfl
  · have hprefix : direct.candidate <+: text := by
      rw [hleft]
      exact (Text.isPrefix_dropOneEnd _ _).trans (List.takeWhile_prefix _)
    rw [Url.shortcode_of_candidate_ne_nil hnil,
      debliHook_of_not_prefix fun hpreview => hstart (hpreview.trans hprefix)]

/-- Nothing is left of a stand-in, but its bracket begins the key of its preview. -/
theorem shortcode_preview_ne_of_placeholder (hplaceholder : isPlaceholder text = true) :
    preview.shortcode (some debliHook) ≠ direct.shortcode (some debliHook) := by
  have hnone : direct.candidate = [] := by
    rw [Url.candidate, hdirect, hplaceholder]
    rfl
  rw [isPlaceholder, Bool.and_eq_true, beq_iff_eq, beq_iff_eq] at hplaceholder
  have hcut : (text.takeWhile (!isJunk ·)).head? = some (.char '<') := by
    obtain ⟨rest, rfl⟩ := List.head?_eq_some_iff.mp hplaceholder.1
    rw [List.takeWhile_cons_of_pos (by decide), List.head?_cons]
  have hbegun : text.takeWhile (!isJunk ·) ≠ [] := by
    intro hnil
    rw [hnil] at hcut
    cases hcut
  have hright := candidate_preview_of_begun hpreview hbegun
  have hne : preview.candidate ≠ [] := by
    rw [hright]
    exact List.cons_ne_nil _ _
  -- neither of the two slashes that may go is the bracket
  have hfirst := Text.head?_dropOneEnd (Text.head?_dropOneEnd hcut (by decide : _ ≠ .char '/'))
    (by decide : _ ≠ .char '/')
  have hignored : ∀ path ∈ ignoredPaths, path.head? ≠ some (.char '<') := by decide
  rw [Url.shortcode_of_candidate_nil hnone, Url.shortcode_of_candidate_ne_nil hne, hright,
    debliHook_preview]
  split_ifs with hmem
  · exact absurd hfirst (hignored _ hmem)
  · intro hnil
    rw [hnil] at hfirst
    cases hfirst

/-- Nothing is left of junk, but its preview loses the slash and is taken for the key `p`. -/
theorem shortcode_preview_ne_of_junk (hgenuine : isPlaceholder text = false)
    (hjunk : text.takeWhile (!isJunk ·) = []) :
    preview.shortcode (some debliHook) ≠ direct.shortcode (some debliHook) := by
  have hleft := candidate_direct hdirect hgenuine
  have hright := candidate_preview hpreview
  rw [hjunk] at hleft hright
  have hne : preview.candidate ≠ [] := by
    rw [hright]
    decide
  have hhook : debliHook preview.candidate preview = "p" := by
    rw [hright]
    rfl
  rw [Url.shortcode_of_candidate_nil hleft, Url.shortcode_of_candidate_ne_nil hne, hhook]
  decide

theorem shortcode_preview_eq_iff (hstart : ¬ ("p/" : Text) <+: text) :
    preview.shortcode (some debliHook) = direct.shortcode (some debliHook) ↔ BeginsKey text := by
  refine ⟨?_, fun hkey => shortcode_preview_eq hdirect hpreview hkey hstart⟩
  intro hsame
  cases hplaceholder : isPlaceholder text with
  | true =>
      exact absurd hsame (shortcode_preview_ne_of_placeholder hdirect hpreview hplaceholder)
  | false =>
      refine ⟨hplaceholder, ?_⟩
      intro hjunk
      exact shortcode_preview_ne_of_junk hdirect hpreview hplaceholder hjunk hsame

end Candidates

/-! ## Links and previews -/

/-- The decoded path of a preview is that of the link behind its start. -/
theorem decodedPath_preview {key : Text} {preview : Url}
    (hpreview : Url.parse (debli.baseUrl ++ ("p/" ++ key)) = .ok preview) :
    preview.decodedPath = "p/" ++ Percent.decode (Url.pathStart key) := by
  have hpath : Url.pathStart ("p/" ++ key) = "p/" ++ Url.pathStart key :=
    Url.pathStart_append (by decide) (by decide) key
  have hwhole : (Percent.read "p/").pending = none := rfl
  have hplain : Percent.decode "p/" = "p/" := by decide
  rw [(decodedPath_link (by simp [shorteners]) hpreview).2, hpath,
    Percent.decode_append_of_whole (Percent.isEscaped_of_not_mem (by decide)) hwhole, hplain]

/-- What the path of a text decodes to is the start of what the text decodes to, since the
mark that ends the path is no part of a character. -/
theorem isPrefix_decode_pathStart {text : Text}
    (hescaped : Percent.IsEscaped (Url.pathStart text)) :
    Percent.decode (Url.pathStart text) <+: Percent.decode text := by
  obtain ⟨rest, htext, hmark⟩ := Url.exists_pathStart_append text
  cases rest with
  | nil =>
      rw [List.append_nil] at htext
      rw [← htext]
  | cons mark rest =>
      have hne : mark ≠ .char '%' ∧ mark.isSurrogate = false := by
        rcases hmark mark rfl with rfl | rfl <;> decide
      have hdecode := Percent.decode_append_literal hne.1 hne.2 hescaped rest
      rw [← htext] at hdecode
      exact ⟨_, hdecode.symm⟩

/-- The preview of a link and the link itself clean to the same key exactly if a key begins
in what is behind the base URL, provided that this is no preview itself. -/
theorem preview_names_same_key_iff {key : Text} {direct preview : Url}
    (hstart : ¬ ("p/" : Text) <+: Percent.decode key)
    (hdirect : Url.parse (debli.baseUrl ++ key) = .ok direct)
    (hpreview : Url.parse (debli.baseUrl ++ ("p/" ++ key)) = .ok preview) :
    debli.clean (debli.baseUrl ++ ("p/" ++ key)) = debli.clean (debli.baseUrl ++ key) ↔
      BeginsKey (Percent.decode (Url.pathStart key)) := by
  obtain ⟨hescaped, hdirectPath⟩ := decodedPath_link (by simp [shorteners]) hdirect
  have hpreviewPath := decodedPath_preview hpreview
  have hpathStart : ¬ ("p/" : Text) <+: Percent.decode (Url.pathStart key) :=
    fun hpath => hstart (hpath.trans (isPrefix_decode_pathStart hescaped))
  rw [← shortcode_preview_eq_iff hdirectPath hpreviewPath hpathStart, Shortener.clean,
    Shortener.clean, hdirect, hpreview]
  simp only [Except.map, Except.ok.injEq]
  rfl

/-- A key with an escape in it, behind which come two slashes, junk, and a query that looks
like a preview of a stand-in. -/
theorem preview_names_same_key_iff_junk :
    ¬ ("p/" : Text) <+: Percent.decode "%33nUvY//)?p/<key>" ∧
      BeginsKey (Percent.decode (Url.pathStart "%33nUvY//)?p/<key>")) ∧
      debli.clean (debli.baseUrl ++ ("p/" ++ "%33nUvY//)?p/<key>")) =
        debli.clean (debli.baseUrl ++ "%33nUvY//)?p/<key>") := by
  have hstart : ¬ ("p/" : Text) <+: Percent.decode "%33nUvY//)?p/<key>" := by decide
  have hkey : BeginsKey (Percent.decode (Url.pathStart "%33nUvY//)?p/<key>")) :=
    ⟨by decide, by decide⟩
  have hdirect : Url.parse (debli.baseUrl ++ "%33nUvY//)?p/<key>") =
      .ok ⟨"https", "deb.li", "/%33nUvY//)", "p/<key>", []⟩ := by
    decide +kernel
  have hpreview : Url.parse (debli.baseUrl ++ ("p/" ++ "%33nUvY//)?p/<key>")) =
      .ok ⟨"https", "deb.li", "/p/%33nUvY//)", "p/<key>", []⟩ := by
    decide +kernel
  exact ⟨hstart, hkey, (preview_names_same_key_iff hstart hdirect hpreview).mpr hkey⟩

/-- A stand-in and junk name no key, but their previews do: one that is refused for its
bracket, and one that is taken for a key. -/
theorem preview_of_no_key :
    (¬ ("p/" : Text) <+: Percent.decode "<key>" ∧
      debli.clean (debli.baseUrl ++ "<key>") = .ok [] ∧
      debli.clean (debli.baseUrl ++ ("p/" ++ "<key>")) = .ok "<key" ∧
      debli.accepts "<key" = false) ∧
    ¬ ("p/" : Text) <+: Percent.decode "%22" ∧
      debli.clean (debli.baseUrl ++ "%22") = .ok [] ∧
      debli.clean (debli.baseUrl ++ ("p/" ++ "%22")) = .ok "p" ∧
      debli.accepts "p" = true := by
  decide +kernel

end BuiltIn

end ShortlinkCatalog
