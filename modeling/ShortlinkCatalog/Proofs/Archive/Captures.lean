import Mathlib.Data.List.Forall2
import ShortlinkCatalog.Archive.Script
import ShortlinkCatalog.Proofs.Archive.KnownCodes
import ShortlinkCatalog.Proofs.Archive.Steady
import ShortlinkCatalog.Proofs.Json.Written
import ShortlinkCatalog.Proofs.Text.Quoted

/-!
# What a query for captures returns

A query returns rows for a blank body and for a table, and for nothing else: another status,
a body that cannot be read and a value that is no table each have an error of their own.  Of
a table it returns all rows behind the header, and a table of texts that was written into
the body, however it was spelled, comes back as it was.
-/

namespace ShortlinkCatalog.Archive

variable {url : Text} {outcome : Outcome} {reply : Reply} {rows : List Row}

/-! ## Exchanges without a redirect -/

/-- Whether an exchange can begin: there is an address to request, and it has a scheme to
file replies under. -/
def isAskable (url : Text) (fields : Form.Fields) : Bool :=
  (addressOf url fields).toOption.any (isTyped ·.render)

/-- An exchange without a redirect ends as its first request does. -/
theorem fst_get_of_final {σ : Type} {send : Sender σ} {url : Text} {fields : Form.Fields}
    (haskable : isAskable url fields = true) (userAgent : Text) {state : σ}
    (hsent : ∀ request, (send request state).1 = outcome)
    (hfinal : ∀ reply, outcome = .reply reply → reply.redirect? = none) :
    (get send userAgent url fields state).1 = outcome := by
  cases haddress : addressOf url fields with
  | error obstacle => simp [isAskable, haddress, Except.toOption] at haskable
  | ok address =>
      have htyped : isTyped address.render = true := by
        simpa [isAskable, haddress, Except.toOption] using haskable
      have hsend : send ⟨address, userAgent⟩ state =
          (outcome, (send ⟨address, userAgent⟩ state).2) := Prod.ext (hsent _) rfl
      rw [get, haddress]
      simp only
      rw [follow_eq, hsend]
      cases outcome with
      | reply reply => simp [Reply.next, htyped, hfinal reply rfl]
      | _ => rfl

/-- An archive that has one outcome for every request. -/
def answering (outcome : Outcome) : Script := .ofOutcomes [outcome]

theorem fst_get_answering {url : Text} {fields : Form.Fields}
    (haskable : isAskable url fields = true) (userAgent : Text)
    (hfinal : ∀ reply, outcome = .reply reply → reply.redirect? = none) :
    (get Script.send userAgent url fields (answering outcome)).1 = outcome :=
  fst_get_of_final haskable userAgent (fun _ => rfl) hfinal

/-! ## Tables of texts -/

/-- The tokens of a table whose cells are texts. -/
def tableTokens (table : List (List Text)) : List Json.Token :=
  Json.arrayTokens (table.map fun row => Json.arrayTokens (row.map fun cell => [.text cell]))

theorem areEncodable_tableTokens {table : List (List Text)}
    (hencodable : ∀ row ∈ table, ∀ cell ∈ row, cell.isEncodable = true) :
    Json.AreEncodable (tableTokens table) := by
  intro value hvalue
  obtain ⟨rowTokens, hrowTokens, hvalue⟩ := Json.exists_mem_of_text_mem_arrayTokens hvalue
  obtain ⟨row, hrow, rfl⟩ := List.mem_map.mp hrowTokens
  obtain ⟨cellTokens, hcellTokens, hvalue⟩ := Json.exists_mem_of_text_mem_arrayTokens hvalue
  obtain ⟨cell, hcell, rfl⟩ := List.mem_map.mp hcellTokens
  obtain rfl := Json.Token.text.inj (List.mem_singleton.mp hvalue)
  exact hencodable row hrow value hcell

/-! ## Failed queries -/

/-- A query failed with this error, which has this status and this cause. -/
def FailsWith {α : Type} (returned : Except Unanswered α) (error : QueryError)
    (status? : Option Nat) (cause? : Option Text) : Prop :=
  returned = .error (.failed error) ∧ error.status? = status? ∧ error.cause? = cause?

/-- The octets that blank bodies are made of: space, tab, line feed, vertical tab, form feed
and carriage return. -/
def blankOctets : List UInt8 := [0x20, 0x09, 0x0a, 0x0b, 0x0c, 0x0d]

theorem isBlankBody_iff {body : List UInt8} :
    isBlankBody body = true ↔ ∀ octet ∈ body, octet ∈ blankOctets := by
  have hall : ∀ octet : UInt8,
      Text.isAsciiBlank (.ofNat octet.toNat) = true ↔ octet ∈ blankOctets :=
    Utf8.forall_octet (by decide +kernel)
  rw [isBlankBody, List.all_eq_true]
  exact forall₂_congr fun octet _ => hall octet

section Queries

variable [Json.Room]

/-- The rows that a query returns, none for a blank body. -/
def rowsIn (url : Text) (outcome : Outcome) : Except Unanswered (List Row) :=
  (captures url outcome).map (·.getD [])

theorem rowsIn_of_lists (hlists : Lists outcome rows) : rowsIn url outcome = .ok rows := by
  obtain ⟨captured, hcaptured, rfl⟩ := captures_of_lists url hlists
  rw [rowsIn, hcaptured]
  rfl

theorem rowsIn_eq_ok_iff : rowsIn url outcome = .ok rows ↔ Lists outcome rows := by
  refine ⟨fun hrows => ?_, rowsIn_of_lists⟩
  obtain ⟨others, hlists⟩ | hbroken | ⟨fault, hfailed⟩ := captures_cases url outcome
  · rw [rowsIn_of_lists hlists] at hrows
    rwa [← Except.ok.inj hrows]
  · obtain ⟨cause, hcause⟩ := captures_of_brokenOff url hbroken
    rw [rowsIn, hcause] at hrows
    cases hrows
  · rw [rowsIn, hfailed] at hrows
    cases hrows

theorem failsWith_of_captures {fault : TimemapFault}
    (hcaptures : captures url outcome = .error (.failed (.timemap url fault))) :
    FailsWith (rowsIn url outcome) (.timemap url fault) (QueryError.timemap url fault).status?
      (QueryError.timemap url fault).cause? := by
  refine ⟨?_, rfl, rfl⟩
  rw [rowsIn, hcaptures]
  rfl

theorem readsAs_tableTokens (table : List (List Text)) :
    Json.ReadsAs 2 (tableTokens table)
      (.array ((table.map fun row => row.map Json.string).map .array)) := by
  rw [List.map_map]
  refine Json.readsAs_array ?_
  rw [List.forall₂_map_left_iff, List.forall₂_map_right_iff, List.forall₂_same]
  intro row _
  refine Json.readsAs_array ?_
  rw [List.forall₂_map_left_iff, List.forall₂_map_right_iff, List.forall₂_same]
  exact fun cell _ => Json.readsAs_text cell

/-- A table of texts is in every body that it was written into. -/
theorem lists_of_writes (hstatus : reply.status = 200) {header : List Text}
    {table : List (List Text)} {document : Text}
    (hencodable : ∀ row ∈ header :: table, ∀ cell ∈ row, cell.isEncodable = true)
    (hwrites : Json.Writes (tableTokens (header :: table)) document)
    (hbody : reply.body = Utf8.encode document) :
    Lists (.reply reply) (table.map fun row => row.map .string) := by
  refine ⟨reply, rfl, hstatus, ?_⟩
  rw [hbody]
  exact .table (Json.read_encode_of_writes hwrites (areEncodable_tableTokens hencodable)
    (readsAs_tableTokens _) Json.Room.two_le)

/-! ## Queries -/

/-- A query returns rows exactly for a blank body and for a table, and then all rows behind
the header; a table of texts comes back from every body that it was written into.  Any other
end of an exchange that is not broken off has an error of its own, with the status of the
reply or the cause of the failure, if there is one. -/
theorem timemap_loses_no_row {σ : Type} (send : Sender σ) (settings : Settings) (url : Text)
    (options : TimemapOptions) (apiUrl : Option Text) (state : σ) :
    let outcome := (get send settings.userAgent (orDefault apiUrl settings.timemapUrl)
      (options.parameters url) state).1
    let returned := (timemap send settings url options apiUrl state).1.map (·.getD [])
    (∀ rows, returned = .ok rows ↔ Lists outcome rows) ∧
    (∀ kind message, outcome = .failure kind message →
      FailsWith returned (.timemap url (.transport kind message)) none (some kind)) ∧
    ∀ reply, outcome = .reply reply →
      (reply.status ≠ 200 →
        FailsWith returned (.timemap url (.status reply.status)) (some reply.status) none) ∧
      (reply.status = 200 →
        ((∀ octet ∈ reply.body, octet ∈ blankOctets) → returned = .ok []) ∧
        (∀ error, (∃ octet ∈ reply.body, octet ∉ blankOctets) →
          Json.read reply.body = .error error → ¬ IsTooDeep error →
          FailsWith returned (.timemap url (.unreadable error)) none (some error.kind)) ∧
        (∀ value, Json.read reply.body = .ok value →
          (∀ table : List Row, value ≠ .array (table.map .array)) →
          FailsWith returned (.timemap url .noTable) none none) ∧
        (∀ table : List Row, Json.read reply.body = .ok (.array (table.map .array)) →
          returned = .ok (table.drop 1)) ∧
        ∀ (header : List Text) (table : List (List Text)) (document : Text),
          (∀ row ∈ header :: table, ∀ cell ∈ row, cell.isEncodable = true) →
          Json.Writes (tableTokens (header :: table)) document →
          reply.body = Utf8.encode document →
          returned = .ok (table.map fun row => row.map .string)) := by
  simp only [timemap]
  generalize (get send settings.userAgent (orDefault apiUrl settings.timemapUrl)
    (options.parameters url) state).1 = outcome
  change (∀ rows, rowsIn url outcome = .ok rows ↔ _) ∧ _
  refine ⟨fun rows => rowsIn_eq_ok_iff, ?_, ?_⟩
  · rintro kind message rfl
    exact failsWith_of_captures rfl
  rintro reply rfl
  refine ⟨fun hstatus => failsWith_of_captures (captures_of_status url hstatus), fun hstatus => ?_⟩
  refine ⟨fun hblank => ?_, fun error hblank hread hdeep => ?_, fun value hread htable => ?_,
    fun table hread => ?_, fun header table document hencodable hwrites hbody => ?_⟩
  · exact rowsIn_of_lists ⟨reply, rfl, hstatus, .blank (isBlankBody_iff.mpr hblank)⟩
  · have hsolid : isBlankBody reply.body = false := by
      rw [Bool.eq_false_iff, ne_eq, isBlankBody_iff]
      push Not
      exact hblank
    exact failsWith_of_captures (captures_of_unreadable url hstatus hsolid hread hdeep)
  · exact failsWith_of_captures (captures_of_noTable url hstatus hread htable)
  · exact rowsIn_of_lists ⟨reply, rfl, hstatus, .table hread⟩
  · exact rowsIn_of_lists (lists_of_writes hstatus hencodable hwrites hbody)

end Queries

/-- A document with a header without cells and a row with one, whose text has an escaped and
a literal character. -/
def escapedDocument : Text := "[[],\n[\x22\\ud83d\\uDE00é\x22]]"

theorem spellsText_escaped : Json.SpellsText "😀é" "\\ud83d\\uDE00é" := by
  have hhigh : Json.FourDigits 0xd83d [.char 'd', .char '8', .char '3', .char 'd'] :=
    .digits rfl rfl rfl rfl
  have hlow : Json.FourDigits 0xde00 [.char 'D', .char 'E', .char '0', .char '0'] :=
    .digits rfl rfl rfl rfl
  have hsmiley : Json.SpellsCharacter (.char '😀') _ := .pair (by decide) hhigh hlow
  have haccent : Json.SpellsCharacter (.char 'é') _ :=
    .literal (by decide) (by decide) (by decide)
  exact .cons hsmiley (.cons haccent .nil)

theorem writes_escapedDocument : Json.Writes (tableTokens [[], ["😀é"]]) escapedDocument := by
  have hopen : (.char '[', .openArray) ∈ Json.marks := by simp [Json.marks]
  have hclose : (.char ']', .closeArray) ∈ Json.marks := by simp [Json.marks]
  have hcomma : (.char ',', .comma) ∈ Json.marks := by simp [Json.marks]
  have hend : Json.Writes [.closeArray, .closeArray] [.char ']', .char ']'] :=
    .mark hclose (.mark hclose .nil)
  have hrow : Json.Writes (.openArray :: .text "😀é" :: _) (.char '[' :: _) :=
    .mark hopen (.text spellsText_escaped hend)
  have hrows : Json.Writes (.comma :: _) (.char ',' :: .char '\n' :: _) :=
    .mark hcomma (.separator rfl hrow)
  exact .mark hopen (.mark hopen (.mark hclose hrows))

/-- What a query for the captures of one URL returns if it has this outcome. -/
def returnedFrom (outcome : Outcome) : Except Unanswered (List Row) :=
  (timemap Script.send .default "x" .none none (answering outcome)).1.map (·.getD [])

/-- The table comes back from the document, other replies have their errors, and so has a
failure. -/
theorem timemap_loses_no_row_escaped :
    returnedFrom (.reply ⟨200, none, Utf8.encode escapedDocument⟩) = .ok [[.string "😀é"]] ∧
    returnedFrom (.reply ⟨200, none, [0x20, 0x0a]⟩) = .ok [] ∧
    returnedFrom (.reply ⟨200, none, Utf8.encode "[[],[null]]"⟩) = .ok [[.null]] ∧
    FailsWith (returnedFrom (.reply ⟨503, none, []⟩))
      (.timemap "x" (.status 503)) (some 503) none ∧
    FailsWith (returnedFrom (.failure "ReadTimeout" "late"))
      (.timemap "x" (.transport "ReadTimeout" "late")) none (some "ReadTimeout") ∧
    FailsWith (returnedFrom (.reply ⟨200, none, Utf8.encode "[[],0]"⟩))
      (.timemap "x" .noTable) none none ∧
    FailsWith (returnedFrom (.reply ⟨200, none, Utf8.encode "["⟩))
      (.timemap "x" (.unreadable (.unreadable (.malformed .expectingValue 1 1 2)))) none
      (some "JSONDecodeError") := by
  have haskable : isAskable Settings.default.timemapUrl
      (TimemapOptions.none.parameters "x") = true := by
    decide +kernel
  have hstays (status : Nat) (body : List UInt8) (reply : Reply)
      (hreply : Outcome.reply ⟨status, none, body⟩ = .reply reply) : reply.redirect? = none := by
    cases hreply
    simp [Reply.redirect?]
  have houtcome {outcome : Outcome}
      (hfinal : ∀ reply, outcome = .reply reply → reply.redirect? = none) :=
    fst_get_answering haskable Settings.default.userAgent hfinal
  have hreplied (status : Nat) (body : List UInt8) := houtcome (hstays status body)
  have hanswers (outcome : Outcome) :=
    timemap_loses_no_row Script.send .default "x" .none none (answering outcome)
  have hreply (status : Nat) (body : List UInt8) :=
    (hanswers (.reply ⟨status, none, body⟩)).2.2 _ (hreplied status body)
  have hgood (body : List UInt8) := (hreply 200 body).2 rfl
  have hnoTable (table : List Row) :
      Json.array [.array [], .int 0] ≠ .array (table.map .array) := by
    intro heq
    have hrows : rows? (.array [.array [], .int 0]) = none := rfl
    rw [rows?_eq_some_iff.mpr heq] at hrows
    cases hrows
  refine ⟨?_, ?_, ?_, (hreply 503 []).1 (by decide),
    (hanswers _).2.1 _ _ (houtcome (by simp)), ?_, ?_⟩
  · obtain ⟨-, -, -, -, hwritten⟩ := hgood (Utf8.encode escapedDocument)
    exact hwritten [] [["😀é"]] escapedDocument (by simp) writes_escapedDocument rfl
  · exact (hgood [0x20, 0x0a]).1 (by simp [blankOctets])
  · obtain ⟨-, -, -, htable, -⟩ := hgood (Utf8.encode "[[],[null]]")
    exact htable [[], [.null]] rfl
  · obtain ⟨-, -, hvalue, -⟩ := hgood (Utf8.encode "[[],0]")
    exact hvalue _ rfl hnoTable
  · obtain ⟨-, herror, -⟩ := hgood (Utf8.encode "[")
    exact herror _ ⟨0x5b, by decide, by decide⟩ rfl (by rintro ⟨container, h⟩; cases h)

end ShortlinkCatalog.Archive
