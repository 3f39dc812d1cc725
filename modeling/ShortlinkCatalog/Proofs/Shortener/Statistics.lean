import ShortlinkCatalog.Proofs.Shortener.Alphabet
import ShortlinkCatalog.Proofs.Shortener.Batch
import ShortlinkCatalog.Proofs.Shortener.Link

/-!
# Links to statistics

A branded domain of Bitly shows the statistics of a link under the link with plus signs behind
it.  Cleaning takes a slash, then every plus sign, then a slash again from the end of a link.
Behind more plus signs the first slash stays where it is, and only one of the two cuts
reaches it.  So a link and its statistics clean to the same code if no mark is left once a
slash is gone, or if junk comes before all of that.
-/

namespace ShortlinkCatalog.BuiltIn

variable {shortener : Shortener} {text marks code : Text}

/-- What is written behind a link for its statistics: plus signs, and possibly a slash. -/
def AreStatisticsMarks (marks : Text) : Prop :=
  ∃ count > 0, ∃ slash : Text, (slash = [] ∨ slash = "/") ∧
    marks = List.replicate count (.char '+') ++ slash

/-! ## Cutting marks -/

/-- What is cut from a candidate: plus signs, and a slash before them. -/
def cutMarks (candidate : Text) : Text :=
  Text.dropOneEnd '/' (Text.trimEnd (· == .char '+') candidate)

theorem cutMarks_of_getLast? (hslash : text.getLast? ≠ some (.char '/'))
    (hplus : text.getLast? ≠ some (.char '+')) : cutMarks text = text := by
  have htrim : Text.trimEnd (· == .char '+') text = text := by
    apply Text.trimEnd_of_getLast?
    rintro character hlast
    exact beq_eq_false_iff_ne.mpr fun heq => hplus (heq ▸ hlast)
  rw [cutMarks, htrim, Text.dropOneEnd_of_ne hslash]

/-- A slash at the end shields what it stands on. -/
theorem cutMarks_append_slash (text : Text) : cutMarks (text ++ [.char '/']) = text := by
  have htrim : Text.trimEnd (· == .char '+') (text ++ [.char '/']) = text ++ [.char '/'] := by
    apply Text.trimEnd_of_getLast?
    rw [List.getLast?_concat]
    rintro _ ⟨rfl⟩
    decide
  rw [cutMarks, htrim, Text.dropOneEnd_append]

/-- The slash that goes before the plus signs makes a difference if a mark stands before
it. -/
theorem cutMarks_eq_iff (hcode : cutMarks (Text.dropOneEnd '/' text) = code)
    (hslash : code.getLast? ≠ some (.char '/')) (hplus : code.getLast? ≠ some (.char '+')) :
    cutMarks text = code ↔ ¬ ("//" : Text) <:+ text ∧ ¬ ("+/" : Text) <:+ text := by
  by_cases hlast : text.getLast? = some (.char '/')
  · obtain ⟨before, rfl⟩ := List.getLast?_eq_some_iff.mp hlast
    have hslashes : ("//" : Text) <:+ before ++ [.char '/'] ↔
        before.getLast? = some (.char '/') := Text.suffix_append_singleton_iff
    have hpluses : ("+/" : Text) <:+ before ++ [.char '/'] ↔
        before.getLast? = some (.char '+') := Text.suffix_append_singleton_iff
    rw [Text.dropOneEnd_append] at hcode
    rw [cutMarks_append_slash, hslashes, hpluses]
    constructor
    · rintro rfl
      exact ⟨hslash, hplus⟩
    · rintro ⟨hnoSlash, hnoPlus⟩
      rw [← hcode, cutMarks_of_getLast? hnoSlash hnoPlus]
  · have hsuffix (first : CodePoint) : ¬ [first, .char '/'] <:+ text := by
      rintro ⟨before, rfl⟩
      exact hlast (by simp)
    rw [Text.dropOneEnd_of_ne hlast] at hcode
    exact iff_of_true hcode ⟨hsuffix _, hsuffix _⟩

/-! ## Candidates with marks -/

theorem mem_marks (hmarks : AreStatisticsMarks marks) :
    ∀ character ∈ marks, character = .char '+' ∨ character = .char '/' := by
  obtain ⟨count, -, slash, hslash, rfl⟩ := hmarks
  intro character hmem
  rcases List.mem_append.mp hmem with hplus | hmem
  · exact .inl (List.eq_of_mem_replicate hplus)
  · rcases hslash with rfl | rfl
    · cases hmem
    · exact .inr (List.mem_singleton.mp hmem)

theorem exists_marks_eq_cons (hmarks : AreStatisticsMarks marks) :
    ∃ rest : Text, marks = .char '+' :: rest := by
  obtain ⟨count, hcount, slash, -, rfl⟩ := hmarks
  obtain ⟨others, rfl⟩ := Nat.exists_eq_succ_of_ne_zero hcount.ne'
  exact ⟨List.replicate others (.char '+') ++ slash, rfl⟩

/-- The slash behind the plus signs goes before they do. -/
theorem exists_pluses_of_marks (hmarks : AreStatisticsMarks marks) (text : Text) :
    ∃ pluses : Text, pluses ≠ [] ∧ (∀ character ∈ pluses, (character == .char '+') = true) ∧
      Text.dropOneEnd '/' (text ++ marks) = text ++ pluses := by
  obtain ⟨count, hcount, slash, hslash, rfl⟩ := hmarks
  obtain ⟨others, rfl⟩ := Nat.exists_eq_succ_of_ne_zero hcount.ne'
  refine ⟨List.replicate (others + 1) (.char '+'), by simp, ?_, ?_⟩
  · intro character hmem
    rw [List.eq_of_mem_replicate hmem, beq_self_eq_true]
  · rw [← List.append_assoc]
    rcases hslash with rfl | rfl
    · rw [List.append_nil, Text.dropOneEnd_of_ne]
      simp [List.replicate_succ']
    · exact Text.dropOneEnd_append '/' _

/-- The cuts around the plus signs leave of a text with marks what one of them leaves of the
text. -/
theorem cutMarks_append_marks (hmarks : AreStatisticsMarks marks) (text : Text) :
    cutMarks (Text.dropOneEnd '/' (text ++ marks)) = cutMarks text := by
  obtain ⟨pluses, -, hpluses, hdropped⟩ := exists_pluses_of_marks hmarks text
  rw [hdropped, cutMarks, Text.trimEnd_append_of_pos hpluses, cutMarks]

theorem isJunk_of_mem_marks (hmarks : AreStatisticsMarks marks) :
    ∀ character ∈ marks, isJunk character = false := by
  intro character hmem
  rcases mem_marks hmarks character hmem with rfl | rfl <;> decide

theorem isPlaceholder_append_marks (hmarks : AreStatisticsMarks marks) (text : Text) :
    isPlaceholder (text ++ marks) = false := by
  obtain ⟨rest, hrest⟩ := exists_marks_eq_cons hmarks
  apply isPlaceholder_of_getLast?
  rw [List.getLast?_append_of_ne_nil _ (hrest ▸ List.cons_ne_nil _ _)]
  intro character hlast
  exact isJunk_of_mem_marks hmarks character (List.mem_of_getLast? hlast)

section Candidates

variable {direct statistics : Url} (hmarks : AreStatisticsMarks marks)
  (hdirect : direct.decodedPath = text) (hstatistics : statistics.decodedPath = text ++ marks)

include hmarks hdirect hstatistics

/-- Nothing behind junk is looked at. -/
theorem candidate_statistics_of_junk (hne : direct.candidate ≠ [])
    (hjunk : ∃ character ∈ text, isJunk character = true) :
    statistics.candidate = direct.candidate := by
  have hplaceholder : isPlaceholder text = false := by
    rw [← Bool.not_eq_true]
    intro hplaceholder
    rw [Url.candidate, hdirect, if_pos hplaceholder] at hne
    exact hne rfl
  have hcut : (text ++ marks).takeWhile (!isJunk ·) = text.takeWhile (!isJunk ·) := by
    obtain ⟨character, hmem, hcharacter⟩ := hjunk
    rw [List.takeWhile_append, if_neg]
    intro hlength
    have hall := List.takeWhile_eq_self_iff.mp
      ((List.takeWhile_prefix (l := text) (!isJunk ·)).eq_of_length hlength)
    simpa [hcharacter] using hall character hmem
  rw [Url.candidate, Url.candidate, hdirect, hstatistics, hplaceholder,
    isPlaceholder_append_marks hmarks, hcut]

theorem candidates_of_free (hfree : ∀ character ∈ text, isJunk character = false) :
    direct.candidate = Text.dropOneEnd '/' text ∧
      statistics.candidate = Text.dropOneEnd '/' (text ++ marks) := by
  have hcut (whole : Text) (hwhole : ∀ character ∈ whole, isJunk character = false) :
      whole.takeWhile (!isJunk ·) = whole := by
    rw [List.takeWhile_eq_self_iff]
    intro character hmem
    rw [hwhole character hmem, Bool.not_false]
  have hplaceholder : isPlaceholder text = false :=
    isPlaceholder_of_getLast? fun character hlast => hfree character (List.mem_of_getLast? hlast)
  have hboth := List.forall_mem_append.mpr ⟨hfree, isJunk_of_mem_marks hmarks⟩
  constructor
  · rw [Url.candidate, hdirect, hplaceholder, hcut text hfree]
    rfl
  · rw [Url.candidate, hstatistics, isPlaceholder_append_marks hmarks, hcut _ hboth]
    rfl

/-- The two codes are the same if junk hides the marks, or if none is left before a slash. -/
theorem shortcode_statistics_iff (hne : code ≠ [])
    (hcode : direct.shortcode (some bitlyHook) = code)
    (hslash : code.getLast? ≠ some (.char '/')) (hplus : code.getLast? ≠ some (.char '+')) :
    statistics.shortcode (some bitlyHook) = code ↔
      (∃ character ∈ text, isJunk character = true) ∨
        ¬ ("//" : Text) <:+ text ∧ ¬ ("+/" : Text) <:+ text := by
  obtain ⟨hcandidate, hkept, hcut⟩ := (Url.shortcode_eq_iff hne bitlyHook).mp hcode
  rw [Url.shortcode_eq_iff hne]
  by_cases hjunk : ∃ character ∈ text, isJunk character = true
  · have hsame := candidate_statistics_of_junk hmarks hdirect hstatistics hcandidate hjunk
    rw [hsame]
    exact iff_of_true ⟨hcandidate, hkept, hcut⟩ (.inl hjunk)
  · have hfree : ∀ character ∈ text, isJunk character = false := by
      simpa using hjunk
    obtain ⟨hleft, hright⟩ := candidates_of_free hmarks hdirect hstatistics hfree
    have hdirectCut : cutMarks (Text.dropOneEnd '/' text) = code := hleft ▸ hcut
    have hstatisticsCut : Text.dropOneEnd '/' (bitlyHook statistics.candidate statistics) =
        cutMarks text := by
      rw [hright]
      exact cutMarks_append_marks hmarks text
    have hsome : statistics.candidate ≠ [] := by
      obtain ⟨pluses, hpluses, -, hdropped⟩ := exists_pluses_of_marks hmarks text
      rw [hright, hdropped]
      exact List.append_ne_nil_of_right_ne_nil text hpluses
    rw [hstatisticsCut, or_iff_right hjunk, ← cutMarks_eq_iff hdirectCut hslash hplus]
    exact ⟨fun hcode => hcode.2.2, fun hsame => ⟨hsome, hkept, hsame⟩⟩

end Candidates

/-! ## Links and their statistics -/

/-- Marks go on with the path of a link as they stand. -/
theorem decode_append_marks (hmarks : AreStatisticsMarks marks) {key : Text}
    (hescaped : Percent.IsEscaped key) :
    Percent.decode (key ++ marks) = Percent.decode key ++ marks := by
  obtain ⟨rest, rfl⟩ := exists_marks_eq_cons hmarks
  have hrest : ∀ character ∈ rest, character = .char '+' ∨ character = .char '/' :=
    (List.forall_mem_cons.mp (mem_marks hmarks)).2
  have hpercent : .char '%' ∉ rest := by
    intro hmem
    rcases hrest _ hmem with heq | heq <;> cases heq
  have hencodable : rest.isEncodable = true := by
    rw [Text.isEncodable, List.all_eq_true]
    intro character hmem
    rcases hrest character hmem with rfl | rfl <;> rfl
  rw [Percent.decode_append_literal (by decide) rfl hescaped,
    Percent.decode_of_not_mem hpercent hencodable]

/-- Marks make no URL unreadable. -/
theorem exists_parse_append_marks (hbuiltIn : shortener ∈ shorteners)
    (hmarks : AreStatisticsMarks marks) {key : Text} (hquestion : .char '?' ∉ key)
    (hnumber : .char '#' ∉ key)
    (hparse : ∃ url, Url.parse (shortener.baseUrl ++ key) = .ok url) :
    .char '?' ∉ key ++ marks ∧ .char '#' ∉ key ++ marks ∧
      ∃ url, Url.parse (shortener.baseUrl ++ (key ++ marks)) = .ok url := by
  have hfree {character : CodePoint} (hplus : character ≠ .char '+')
      (hslash : character ≠ .char '/') : character ∉ marks := by
    intro hmem
    rcases mem_marks hmarks character hmem with heq | heq
    · exact hplus heq
    · exact hslash heq
  have hnoQuestion : .char '?' ∉ key ++ marks := by
    rw [List.mem_append, not_or]
    exact ⟨hquestion, hfree (by decide) (by decide)⟩
  have hnoNumber : .char '#' ∉ key ++ marks := by
    rw [List.mem_append, not_or]
    exact ⟨hnumber, hfree (by decide) (by decide)⟩
  refine ⟨hnoQuestion, hnoNumber, ?_⟩
  rw [exists_parse_link_iff hbuiltIn hquestion hnumber] at hparse
  rw [exists_parse_link_iff hbuiltIn hnoQuestion hnoNumber, List.forall_mem_append]
  refine ⟨⟨hparse.1, ?_⟩, Percent.isEscaped_append hparse.2
    (Percent.isEscaped_of_not_mem (hfree (by decide) (by decide)))⟩
  intro character hmem
  rcases mem_marks hmarks character hmem with rfl | rfl <;> decide

/-- A link with a code that follows the pattern and its statistics clean to the same code
exactly if what is behind the base URL has junk in it, or ends in no slash that stands on
another mark. -/
theorem clean_statistics_eq_iff (hbitly : shortener = allst ∨ shortener = redht) {key : Text}
    (hquestion : .char '?' ∉ key) (hnumber : .char '#' ∉ key)
    (hclean : shortener.clean (shortener.baseUrl ++ key) = .ok code)
    (haccepts : bitlyPattern.accepts code = true) (hmarks : AreStatisticsMarks marks) :
    shortener.clean (shortener.baseUrl ++ (key ++ marks)) = .ok code ↔
      (∃ character ∈ Percent.decode key, isJunk character = true) ∨
        ¬ ("//" : Text) <:+ Percent.decode key ∧ ¬ ("+/" : Text) <:+ Percent.decode key := by
  have hbuiltIn : shortener ∈ shorteners := by
    rcases hbitly with rfl | rfl <;> simp [shorteners]
  have hhook : shortener.hook = some bitlyHook := by
    rcases hbitly with rfl | rfl <;> rfl
  have hpattern : shortener.accepts code = true := by
    rcases hbitly with rfl | rfl <;> exact haccepts
  obtain ⟨hne, hdocumented⟩ := (accepts_iff hbuiltIn).mp hpattern
  have hlast {mark : CodePoint} (hmark : isCodeCharacter mark = false) :
      code.getLast? ≠ some mark := by
    intro hlast
    have hcode := isCodeCharacter_of_documents hbuiltIn
      (hdocumented mark (List.mem_of_getLast? hlast))
    rw [hmark] at hcode
    cases hcode
  obtain ⟨direct, hdirect, hcode⟩ := Shortener.clean_eq_ok_iff.mp hclean
  obtain ⟨hnoQuestion, hnoNumber, statistics, hstatistics⟩ :=
    exists_parse_append_marks hbuiltIn hmarks hquestion hnumber ⟨direct, hdirect⟩
  obtain ⟨hescaped, hdirectPath⟩ := decodedPath_link hbuiltIn hdirect
  obtain ⟨-, hstatisticsPath⟩ := decodedPath_link hbuiltIn hstatistics
  rw [Url.pathStart_eq_self hquestion hnumber] at hescaped hdirectPath
  rw [Url.pathStart_eq_self hnoQuestion hnoNumber, decode_append_marks hmarks hescaped]
    at hstatisticsPath
  rw [Shortener.cleanParsed, hhook] at hcode
  rw [← shortcode_statistics_iff hmarks hdirectPath hstatisticsPath hne hcode
    (hlast (by decide)) (hlast (by decide)), Shortener.clean, hstatistics]
  simp only [Except.map, Except.ok.injEq, Shortener.cleanParsed, hhook]

/-- A link with an escaped slash and a plus sign at its end, with two more and a slash. -/
theorem clean_statistics_eq_iff_escaped :
    redht.clean (redht.baseUrl ++ "sig%2F+") = .ok "sig" ∧
      bitlyPattern.accepts "sig" = true ∧ AreStatisticsMarks "++/" ∧
      redht.clean (redht.baseUrl ++ ("sig%2F+" ++ "++/")) = .ok "sig" := by
  have hclean : redht.clean (redht.baseUrl ++ "sig%2F+") = .ok "sig" := by decide +kernel
  have haccepts : bitlyPattern.accepts "sig" = true := by decide +kernel
  have hmarks : AreStatisticsMarks "++/" := ⟨2, by decide, "/", .inr rfl, rfl⟩
  exact ⟨hclean, haccepts, hmarks, (clean_statistics_eq_iff (.inr rfl) (by decide) (by decide)
    hclean haccepts hmarks).mpr (.inr (by decide))⟩

/-- Behind two slashes, or behind a plus sign and a slash, the plus sign of the statistics
leaves one of them, and the pattern refuses what is left. -/
theorem statistics_apart_of_slash :
    AreStatisticsMarks "+" ∧ bitlyPattern.accepts "sig" = true ∧
      (redht.clean (redht.baseUrl ++ "sig//") = .ok "sig" ∧
        redht.clean (redht.baseUrl ++ ("sig//" ++ "+")) = .ok "sig/" ∧
        bitlyPattern.accepts "sig/" = false) ∧
      redht.clean (redht.baseUrl ++ "sig+/") = .ok "sig" ∧
        redht.clean (redht.baseUrl ++ ("sig+/" ++ "+")) = .ok "sig+" ∧
        bitlyPattern.accepts "sig+" = false :=
  ⟨⟨1, by decide, [], .inl rfl, rfl⟩, by decide +kernel⟩

end ShortlinkCatalog.BuiltIn
