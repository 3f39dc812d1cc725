import ShortlinkCatalog.Proofs.Shortener.Batch
import ShortlinkCatalog.Proofs.Shortener.Uncut
import ShortlinkCatalog.Proofs.Text.Spelling
import ShortlinkCatalog.Proofs.Url.Grammar

/-!
# Links that spell a code

A code can be linked to in many ways, since each of its characters may be escaped or not and
a slash may follow it.  A shortener that only cleans gets the code back from every one of
them, so a batch of links holds each code once, however often and in whatever spelling it is
linked to.
-/

namespace ShortlinkCatalog.Shortener

/-- Characters that have to be escaped in a path. -/
def isReservedInPath (character : CodePoint) : Bool :=
  Text.isControl character || ("%?#" : Text).contains character

/-- A text that cleaning can give as a code. -/
structure IsCleanCode (code : Text) : Prop extends IsUncut code where
  nonempty : code ≠ []
  encodable : code.isEncodable = true

/-- A link to a code: its path spells the code, and possibly has one slash more. -/
def LinksTo (url code : Text) : Prop :=
  ∃ written slash : Text, Percent.Spells isReservedInPath written code ∧
    (slash = [] ∨ slash = "/") ∧ url = "http://x/" ++ written ++ slash

variable {code slash written : Text}

/-! ## Reading a link -/

theorem percent_isReservedInPath : isReservedInPath (.char '%') = true := by decide

/-- What stands in a spelled path has its place there. -/
theorem isControl_of_spells (hspells : Percent.Spells isReservedInPath written code) :
    ∀ character ∈ written, Text.isControl character = false ∧
      character ≠ .char '?' ∧ character ≠ .char '#' := by
  intro character hmem
  rcases Percent.mem_of_spells hspells character hmem with hfree | rfl | hdigit
  · simp only [isReservedInPath, Bool.or_eq_false_iff] at hfree
    refine ⟨hfree.1, ?_, ?_⟩
    · rintro rfl
      exact absurd hfree.2 (by decide)
    · rintro rfl
      exact absurd hfree.2 (by decide)
  · decide
  · have hrange := Text.toNat_of_isHexDigit hdigit
    refine ⟨?_, ?_, ?_⟩
    · simp only [Text.isControl, Bool.or_eq_false_iff, decide_eq_false_iff_not]
      omega
    · rintro rfl
      exact absurd hdigit (by decide)
    · rintro rfl
      exact absurd hdigit (by decide)

/-- A URL whose path is spelled is read in its parts. -/
theorem parse_of_spells (hspells : Percent.Spells isReservedInPath written code) :
    Url.parse (Url.written "http" "x" (.char '/' :: written) none none) =
      .ok ⟨"http", "x", .char '/' :: written, [], []⟩ := by
  have hpath : Percent.Spells isReservedInPath (.char '/' :: written) (.char '/' :: code) :=
    .literal (by decide) hspells
  have hplaces := isControl_of_spells hpath
  have hparts : Url.AreParts "http" "x" (.char '/' :: written) none := by
    refine ⟨by decide, by decide, .inr ⟨written, rfl⟩, ⟨?_, ?_⟩, by simp⟩
    · exact fun hmem => (hplaces _ hmem).2.1 rfl
    · exact fun hmem => (hplaces _ hmem).2.2 rfl
  have hscheme : ("http" : Text).map Text.lowerAscii = "http" := by decide
  refine (Url.parse_written_eq_ok_iff hparts).mpr
    ⟨⟨?_, ?_, ?_, Percent.isEscaped_nil⟩, by rw [hscheme]; rfl⟩
  · simp only [List.forall_mem_cons]
    exact ⟨by decide, List.forall_mem_cons.mp fun character hmem => (hplaces character hmem).1,
      by simp, by simp, by simp⟩
  · exact (Url.faultOfAuthority_eq_none_iff _).mp (by decide)
  · exact Percent.isEscaped_of_spells percent_isReservedInPath hpath

/-! ## Cleaning a link -/

/-- A link cleans to the code that it spells: its path decodes to the code, with the slash
after it if there is one. -/
theorem clean_of_linksTo {shortener : Shortener} (hhook : shortener.hook = none) {url : Text}
    (hcode : IsCleanCode code) (hlinks : LinksTo url code) : shortener.clean url = .ok code := by
  obtain ⟨written, slash, hspells, hslash, rfl⟩ := hlinks
  have hslashSpells : Percent.Spells isReservedInPath slash slash := by
    rcases hslash with rfl | rfl
    · exact .nil
    · exact .literal (by decide) .nil
  -- with its slash the path is a spelling too, of a code that is cut back to the one asked for
  have hwhole := hspells.append hslashSpells
  have hpath : Percent.Spells isReservedInPath (.char '/' :: (written ++ slash))
      (.char '/' :: (code ++ slash)) :=
    .literal (by decide) hwhole
  have hencodable : Text.isEncodable (.char '/' :: (code ++ slash)) = true := by
    have hcodeEncodable := hcode.encodable
    rw [Text.isEncodable] at hcodeEncodable ⊢
    rw [List.all_cons, List.all_append, hcodeEncodable]
    rcases hslash with rfl | rfl <;> decide
  have hwritten : ("http://x/" : Text) ++ written ++ slash =
      Url.written "http" "x" (.char '/' :: (written ++ slash)) none none := by
    simp [Url.written, Url.marked, Text.ofString]
  rw [hwritten]
  refine clean_eq_ok_iff.mpr ⟨_, parse_of_spells hwhole, ?_⟩
  have hdecoded : Url.decodedPath ⟨"http", "x", .char '/' :: (written ++ slash), [], []⟩ =
      code ++ slash := by
    rw [Url.decodedPath, Percent.decode_of_spells percent_isReservedInPath hpath hencodable]
    rfl
  rw [cleanParsed, hhook]
  exact hcode.shortcode_eq hslash hdecoded (by simp)

/-- A shortener without a hook and a pattern gets a code back from every link to it.  A batch
of links to codes, any number to each, gives each code once. -/
theorem clean_undoes_spelling {shortener : Shortener} (hhook : shortener.hook = none)
    (hpattern : shortener.pattern = none) :
    (∀ code url, IsCleanCode code → LinksTo url code → shortener.clean url = .ok code) ∧
    ∀ codes urls : List Text, (∀ code ∈ codes, IsCleanCode code) →
      (∀ url ∈ urls, ∃ code ∈ codes, LinksTo url code) →
      (∀ code ∈ codes, ∃ url ∈ urls, LinksTo url code) →
      ∃ ranked, shortener.cleanUrls urls = .ok ranked ∧ ranked.Nodup ∧
        ∀ code, code ∈ ranked ↔ code ∈ codes := by
  have hclean : ∀ code url, IsCleanCode code → LinksTo url code →
      shortener.clean url = .ok code := fun _ _ => clean_of_linksTo hhook
  refine ⟨hclean, ?_⟩
  intro codes urls hcodes hurls hlinked
  have haccepted : ∀ url ∈ urls, ∃ found, shortener.cleanOne url = .ok found := by
    intro url hmem
    obtain ⟨code, hcode, hlinks⟩ := hurls url hmem
    refine ⟨some code, cleanOne_eq_ok_some_iff.mpr ⟨?_, (hcodes code hcode).nonempty, ?_⟩⟩
    · exact hclean code url (hcodes code hcode) hlinks
    · rw [accepts, hpattern]
  obtain ⟨ranked, hranked⟩ := exists_cleanUrls_eq_ok_iff.mpr haccepted
  refine ⟨ranked, hranked, ?_, ?_⟩
  · apply (pairwise_of_cleanUrls_eq_ok hranked).imp
    rintro left right hlt rfl
    exact lt_irrefl _ hlt
  · intro code
    rw [mem_iff_clean_of_cleanUrls_eq_ok hranked]
    constructor
    · rintro ⟨-, url, hmem, hcleaned⟩
      obtain ⟨linked, hcode, hlinks⟩ := hurls url hmem
      rw [hclean linked url (hcodes linked hcode) hlinks] at hcleaned
      cases hcleaned
      exact hcode
    · intro hcode
      obtain ⟨url, hmem, hlinks⟩ := hlinked code hcode
      exact ⟨(hcodes code hcode).nonempty, url, hmem, hclean code url (hcodes code hcode) hlinks⟩

/-- A code of letters of one, two and three octets, with a slash, a percent sign and a line
end in it, linked to with some of them escaped and with a slash at the end. -/
theorem clean_undoes_spelling_mixed :
    IsCleanCode "</%\n\u20ac\u00e9" ∧
      LinksTo "http://x/<%2F%25%0a%E2%82%aC\u00e9/" "</%\n\u20ac\u00e9" ∧
      Shortener.clean ⟨"s", "x", "http://x/", "", none, none, none⟩
        "http://x/<%2F%25%0a%E2%82%aC\u00e9/" = .ok "</%\n\u20ac\u00e9" := by
  have hcode : IsCleanCode "</%\n\u20ac\u00e9" :=
    ⟨⟨by decide, by decide, by decide⟩, by decide, by decide⟩
  have hslash : Percent.Escapes (Utf8.encodeCharacter '/') "%2F" :=
    .cons (by decide) (by decide) .nil
  have hpercent : Percent.Escapes (Utf8.encodeCharacter '%') "%25" :=
    .cons (by decide) (by decide) .nil
  have hnewline : Percent.Escapes (Utf8.encodeCharacter '\n') "%0a" :=
    .cons (by decide) (by decide) .nil
  have heuro : Percent.Escapes (Utf8.encodeCharacter '\u20ac') "%E2%82%aC" :=
    .cons (by decide) (by decide)
      (.cons (by decide) (by decide) (.cons (by decide) (by decide) .nil))
  have hlinks : LinksTo "http://x/<%2F%25%0a%E2%82%aC\u00e9/" "</%\n\u20ac\u00e9" := by
    exact ⟨_, "/", .literal (by decide) (.escaped hslash (.escaped hpercent
      (.escaped hnewline (.escaped heuro (.literal (by decide) .nil))))), .inr rfl, by decide⟩
  exact ⟨hcode, hlinks, (clean_undoes_spelling rfl rfl).1 _ _ hcode hlinks⟩

end ShortlinkCatalog.Shortener
