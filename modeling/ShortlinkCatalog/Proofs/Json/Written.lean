import ShortlinkCatalog.Json.Parser
import ShortlinkCatalog.Proofs.Json.Octets
import ShortlinkCatalog.Proofs.Json.Spelling

/-!
# Documents that write a value

A document writes tokens: its marks are single characters, its texts are spelled between
quotes, and separators may stand anywhere in between.  Cutting it up gives the tokens back,
and the tokens of an array are read as the array if those of its items are read as the items.
So whatever is put together from texts and arrays is read back from every document that
writes it, as long as it is not nested too deeply.
-/

namespace ShortlinkCatalog.Json

/-- The marks, with the tokens that they are. -/
def marks : List (CodePoint × Token) :=
  [('[', .openArray), (']', .closeArray), ('\x7b', .openObject), ('\x7d', .closeObject),
    (',', .comma), (':', .colon)]

/-- `Writes tokens document` if `document` has these tokens, in any spelling and with any
separators between them. -/
inductive Writes : List Token → Text → Prop
  | nil : Writes [] []
  | separator {character : CodePoint} {tokens : List Token} {document : Text}
      (hseparator : isSeparator character = true) (hrest : Writes tokens document) :
      Writes tokens (character :: document)
  | mark {character : CodePoint} {token : Token} {tokens : List Token} {document : Text}
      (hmark : (character, token) ∈ marks) (hrest : Writes tokens document) :
      Writes (token :: tokens) (character :: document)
  | text {value written : Text} {tokens : List Token} {document : Text}
      (hspells : SpellsText value written) (hrest : Writes tokens document) :
      Writes (.text value :: tokens) (.char '\x22' :: (written ++ .char '\x22' :: document))

/-- Whether every text among the tokens can be encoded. -/
def AreEncodable (tokens : List Token) : Prop :=
  ∀ value, Token.text value ∈ tokens → value.isEncodable = true

variable {tokens : List Token} {document : Text} {token : Token} {character : CodePoint}

theorem areEncodable_cons_iff :
    AreEncodable (token :: tokens) ↔
      (∀ value, token = .text value → value.isEncodable = true) ∧ AreEncodable tokens := by
  simp only [AreEncodable, List.mem_cons, or_imp, forall_and, eq_comm]

/-! ## Tokens -/

theorem tokenAt_of_mark (hmark : (character, token) ∈ marks) (position : Nat) (rest : Text) :
    isSeparator character = false ∧ tokenAt position character rest = (token, position + 1) := by
  simp only [marks, List.mem_cons, Prod.mk.injEq, List.not_mem_nil, or_false] at hmark
  rcases hmark with ⟨rfl, rfl⟩ | ⟨rfl, rfl⟩ | ⟨rfl, rfl⟩ | ⟨rfl, rfl⟩ | ⟨rfl, rfl⟩ | ⟨rfl, rfl⟩ <;>
    exact ⟨rfl, rfl⟩

/-- What belongs to a token that has been read is passed over. -/
theorem tokensFrom_append (done : List Placed) {position next : Nat} {used : Text}
    (hused : position + used.length ≤ next) (rest : Text) :
    tokensFrom done position next (used ++ rest) =
      tokensFrom done (position + used.length) next rest := by
  induction used generalizing position with
  | nil => rfl
  | cons character used ih =>
      rw [List.length_cons] at hused
      have hinside : position < next := by omega
      rw [List.cons_append, tokensFrom, if_pos (by simp [hinside]), ih (by omega),
        List.length_cons, Nat.add_assoc, Nat.add_comm 1]

/-- A token is noted with its place, and the cutting goes on behind it. -/
theorem tokensFrom_of_tokenAt (done : List Placed) {position next after : Nat} {used rest : Text}
    (hnext : next ≤ position) (hseparator : isSeparator character = false)
    (htoken : tokenAt position character (used ++ rest) = (token, after))
    (hafter : after = position + 1 + used.length) :
    tokensFrom done position next (character :: (used ++ rest)) =
      tokensFrom (⟨token, position⟩ :: done) after after rest := by
  have houtside : ¬ position < next := by omega
  subst hafter
  rw [tokensFrom, if_neg (by simp [houtside, hseparator]), htoken]
  simp only
  rw [tokensFrom_append _ le_rfl]

/-- The tokens that a document writes are cut out of it. -/
theorem map_token_tokensFrom (hwrites : Writes tokens document) (hencodable : AreEncodable tokens)
    (done : List Placed) {position next : Nat} (hnext : next ≤ position) :
    (tokensFrom done position next document).map Placed.token =
      done.reverse.map Placed.token ++ tokens := by
  induction hwrites generalizing done position next with
  | nil => simp [tokensFrom]
  | separator hseparator _ ih =>
      rw [tokensFrom, if_pos (by simp [hseparator])]
      exact ih hencodable done (by omega)
  | mark hmark _ ih =>
      obtain ⟨hseparator, htoken⟩ := tokenAt_of_mark hmark position ([] ++ _)
      have hcut := tokensFrom_of_tokenAt done hnext hseparator htoken rfl
      rw [List.nil_append] at hcut
      rw [hcut, ih (areEncodable_cons_iff.mp hencodable).2 _ le_rfl]
      simp
  | @text value written tokens document hspells _ ih =>
      obtain ⟨hvalue, hrest⟩ := areEncodable_cons_iff.mp hencodable
      have hsplit : written ++ .char '\x22' :: document =
          (written ++ [.char '\x22']) ++ document := by simp
      have htoken : tokenAt position (.char '\x22') ((written ++ [.char '\x22']) ++ document) =
          (.text value, position + 1 + (written ++ [CodePoint.char '\x22']).length) := by
        rw [← hsplit]
        change scanText position [] (position + 1) 0 (written ++ .char '\x22' :: document) = _
        rw [scanText_of_spellsText (hvalue value rfl) hspells]
        simp
      rw [hsplit, tokensFrom_of_tokenAt done hnext rfl htoken rfl, ih hrest _ le_rfl]
      simp

theorem map_token_tokens (hwrites : Writes tokens document) (hencodable : AreEncodable tokens) :
    (Json.tokens document).map Placed.token = tokens :=
  map_token_tokensFrom hwrites hencodable [] le_rfl

/-! ## Values -/

/-- The tokens of an array whose items have these tokens. -/
def arrayTokens : List (List Token) → List Token
  | [] => [.openArray, .closeArray]
  | item :: items => .openArray :: (item ++ (items.flatMap (.comma :: ·) ++ [.closeArray]))

theorem exists_mem_of_text_mem_arrayTokens {items : List (List Token)} {text : Text}
    (hmem : .text text ∈ arrayTokens items) : ∃ item ∈ items, .text text ∈ item := by
  cases items with
  | nil => simp [arrayTokens] at hmem
  | cons item items => simpa [arrayTokens] using hmem

section Values

variable [Room]

/-- From where a value has to come, the tokens are read as the value, wherever they stand and
whatever is open, if `depth` containers more may be opened. -/
def ReadsAs (depth : Nat) (tokens : List Token) (value : Json) : Prop :=
  ∀ stack : Stack, stack.length + depth ≤ Room.most → ∀ placed : List Placed,
    placed.map Placed.token = tokens → run (.awaitValue stack) placed = .ok (.complete value stack)

variable {depth : Nat} {value : Json} {stack : Stack}

theorem run_append {state next : State} {before : List Placed}
    (hbefore : run state before = .ok next) (after : List Placed) :
    run state (before ++ after) = run next after := by
  induction before generalizing state with
  | nil =>
      obtain rfl := Except.ok.inj hbefore
      rfl
  | cons placed before ih =>
      rw [run] at hbefore
      rw [List.cons_append, run]
      cases hstep : state.step placed with
      | error fault => simp [hstep] at hbefore
      | ok state =>
          rw [hstep] at hbefore
          exact ih hbefore

/-- The tokens of a value begin with one that does not close an array. -/
theorem ReadsAs.exists_head (hreads : ReadsAs depth tokens value) (hdepth : depth ≤ Room.most) :
    ∃ first rest, tokens = first :: rest ∧ first ≠ .closeArray := by
  have hrun := hreads [] (by simpa using hdepth) (tokens.map (⟨·, 0⟩)) (by simp [Function.comp_def])
  cases tokens with
  | nil => cases hrun
  | cons first rest =>
      refine ⟨first, rest, rfl, ?_⟩
      rintro rfl
      cases hrun

theorem readsAs_text (text : Text) : ReadsAs 0 [.text text] (.string text) := by
  intro stack _ placed hplaced
  obtain ⟨first, rest, rfl, hfirst, hrest⟩ := List.map_eq_cons_iff.mp hplaced
  obtain rfl := List.map_eq_nil_iff.mp hrest
  simp [run, State.step, readValue, hfirst]

/-- Where an item may come, one is read as where a value has to come. -/
theorem run_awaitItem {placed : Placed} (hplaced : placed.token ≠ .closeArray)
    (rest : List Placed) :
    run (.awaitItem stack) (placed :: rest) =
      run (.awaitValue (.items [] :: stack)) (placed :: rest) := by
  obtain ⟨token, position⟩ := placed
  cases token with
  | closeArray => exact absurd rfl hplaced
  | _ => rfl

theorem run_items {items : List (List Token)} {values : List Json}
    (hitems : List.Forall₂ (ReadsAs depth) items values)
    (hdepth : stack.length + (depth + 1) ≤ Room.most) (value : Json) (done : List Json)
    {placed : List Placed}
    (hplaced : placed.map Placed.token = items.flatMap (.comma :: ·) ++ [.closeArray]) :
    run (.complete value (.items done :: stack)) placed =
      .ok (.complete (.array ((value :: done).reverse ++ values)) stack) := by
  induction hitems generalizing value done placed with
  | nil =>
      obtain ⟨last, rest, rfl, hlast, hrest⟩ := List.map_eq_cons_iff.mp hplaced
      obtain rfl := List.map_eq_nil_iff.mp hrest
      simp [run, State.step, readAfter, hlast]
  | @cons item next items values hitem _ ih =>
      rw [List.flatMap_cons, List.cons_append, List.cons_append, List.append_assoc] at hplaced
      obtain ⟨comma, rest, rfl, hcomma, hrest⟩ := List.map_eq_cons_iff.mp hplaced
      obtain ⟨before, after, rfl, hbefore, hafter⟩ := List.map_eq_append_iff.mp hrest
      have hread := hitem (.items (value :: done) :: stack)
        (by simp only [List.length_cons]; omega) before hbefore
      have hstep : (State.complete value (.items done :: stack)).step comma =
          .ok (.awaitValue (.items (value :: done) :: stack)) := by
        simp [State.step, readAfter, hcomma]
      rw [run, hstep]
      simp only
      rw [run_append hread, ih next (value :: done) hafter]
      simp

/-- An array is read back from the tokens of its items. -/
theorem readsAs_array {items : List (List Token)} {values : List Json}
    (hitems : List.Forall₂ (ReadsAs depth) items values) :
    ReadsAs (depth + 1) (arrayTokens items) (.array values) := by
  intro stack hdepth placed hplaced
  have hroom : ¬ Room.most ≤ stack.length := by omega
  cases hitems with
  | nil =>
      obtain ⟨first, rest, rfl, hfirst, hrest⟩ := List.map_eq_cons_iff.mp hplaced
      obtain ⟨last, rest, rfl, hlast, hrest⟩ := List.map_eq_cons_iff.mp hrest
      obtain rfl := List.map_eq_nil_iff.mp hrest
      simp [run, State.step, readValue, openContainer, hfirst, hlast, hroom]
  | @cons item value items values hitem hitems =>
      obtain ⟨first, rest, rfl, hfirst, hrest⟩ := List.map_eq_cons_iff.mp hplaced
      obtain ⟨before, after, rfl, hbefore, hafter⟩ := List.map_eq_append_iff.mp hrest
      have hstep : (State.awaitValue stack).step first = .ok (.awaitItem stack) := by
        simp [State.step, readValue, openContainer, hfirst, hroom]
      have hread : run (.awaitItem stack) before = .ok (.complete value (.items [] :: stack)) := by
        obtain ⟨head, tail, hhead, hopen⟩ := hitem.exists_head (by omega)
        obtain ⟨head, tail, rfl, rfl, -⟩ := List.map_eq_cons_iff.mp (hbefore.trans hhead)
        rw [run_awaitItem hopen]
        exact hitem (.items [] :: stack) (by simp only [List.length_cons]; omega) _ hbefore
      rw [run, hstep]
      simp only
      rw [run_append hread, run_items hitems hdepth value [] hafter]
      simp

end Values

/-! ## Characters -/

/-- A character that UTF-8 can write without a zero octet. -/
def IsWritable (character : CodePoint) : Prop :=
  character.isSurrogate = false ∧ character.toNat ≠ 0

theorem isWritable_of_ascii (hnul : character.toNat ≠ 0) (hascii : character.toNat < 0x80) :
    IsWritable character := by
  refine ⟨?_, hnul⟩
  rw [CodePoint.isSurrogate_eq_false_iff, CodePoint.firstSurrogate]
  omega

theorem isWritable_of_fourDigits {code : Nat} {digits : Text} (hdigits : FourDigits code digits) :
    ∀ character ∈ digits, IsWritable character := by
  have hdigit {character : CodePoint} {value : Nat}
      (hvalue : Text.hexValue? character = some value) : IsWritable character := by
    have hrange := Text.toNat_of_hexValue? hvalue
    exact isWritable_of_ascii (by omega) (by omega)
  cases hdigits with
  | digits hfirst hsecond hthird hfourth =>
      simp only [List.forall_mem_cons, List.not_mem_nil, false_implies, implies_true, and_true]
      exact ⟨hdigit hfirst, hdigit hsecond, hdigit hthird, hdigit hfourth⟩

theorem isWritable_of_simpleEscape? {letter : CodePoint}
    (hletter : simpleEscape? letter = some character) : IsWritable letter := by
  have hall {letter : CodePoint} (hletter : letter.toNat ≠ 0 ∧ letter.toNat < 0x80) :
      IsWritable letter :=
    isWritable_of_ascii hletter.1 hletter.2
  unfold simpleEscape? at hletter
  split at hletter
  all_goals first
    | exact hall (by decide)
    | cases hletter

theorem isWritable_of_spellsCharacter (hsurrogate : character.isSurrogate = false)
    {spelling : Text} (hspells : SpellsCharacter character spelling) :
    ∀ other ∈ spelling, IsWritable other := by
  have hbackslash : IsWritable (.char '\x5c') := isWritable_of_ascii (by decide) (by decide)
  have hu : IsWritable (.char 'u') := isWritable_of_ascii (by decide) (by decide)
  cases hspells with
  | literal _ _ hcontrol => exact List.forall_mem_singleton.mpr ⟨hsurrogate, by omega⟩
  | letter hletter => simpa [hbackslash] using isWritable_of_simpleEscape? hletter
  | code hdigits =>
      simp only [List.forall_mem_cons]
      exact ⟨hbackslash, hu, isWritable_of_fourDigits hdigits⟩
  | pair _ hhigh hlow =>
      simp only [List.forall_mem_cons, List.forall_mem_append]
      exact ⟨hbackslash, hu, isWritable_of_fourDigits hhigh, hbackslash, hu,
        isWritable_of_fourDigits hlow⟩

theorem isWritable_of_spellsText {text written : Text} (hencodable : text.isEncodable = true)
    (hspells : SpellsText text written) : ∀ character ∈ written, IsWritable character := by
  induction hspells with
  | nil => simp
  | cons hcharacter _ ih =>
      rw [Text.isEncodable, List.all_cons, Bool.and_eq_true, Bool.not_eq_true'] at hencodable
      rw [List.forall_mem_append]
      exact ⟨isWritable_of_spellsCharacter hencodable.1 hcharacter, ih hencodable.2⟩

theorem toNat_of_isSeparator (hseparator : isSeparator character = true) :
    character.toNat ≠ 0 ∧ character.toNat < 0x80 := by
  simp only [isSeparator, Bool.or_eq_true, beq_iff_eq] at hseparator
  rcases hseparator with ((rfl | rfl) | rfl) | rfl <;> decide

theorem toNat_of_mark (hmark : (character, token) ∈ marks) :
    character.toNat ≠ 0 ∧ character.toNat < 0x80 := by
  simp only [marks, List.mem_cons, Prod.mk.injEq, List.not_mem_nil, or_false] at hmark
  rcases hmark with ⟨rfl, -⟩ | ⟨rfl, -⟩ | ⟨rfl, -⟩ | ⟨rfl, -⟩ | ⟨rfl, -⟩ | ⟨rfl, -⟩ <;> decide

theorem isWritable_of_writes (hwrites : Writes tokens document)
    (hencodable : AreEncodable tokens) : ∀ character ∈ document, IsWritable character := by
  have hquote : IsWritable (.char '\x22') := isWritable_of_ascii (by decide) (by decide)
  induction hwrites with
  | nil => simp
  | separator hseparator _ ih =>
      obtain ⟨hnul, hascii⟩ := toNat_of_isSeparator hseparator
      exact List.forall_mem_cons.mpr ⟨isWritable_of_ascii hnul hascii, ih hencodable⟩
  | mark hmark _ ih =>
      obtain ⟨hnul, hascii⟩ := toNat_of_mark hmark
      exact List.forall_mem_cons.mpr
        ⟨isWritable_of_ascii hnul hascii, ih (areEncodable_cons_iff.mp hencodable).2⟩
  | text hspells _ ih =>
      obtain ⟨hvalue, hrest⟩ := areEncodable_cons_iff.mp hencodable
      simp only [List.forall_mem_cons, List.forall_mem_append]
      exact ⟨hquote, isWritable_of_spellsText (hvalue _ rfl) hspells, hquote, ih hrest⟩

/-- A document begins with an ASCII character. -/
theorem toNat_head_of_writes (hwrites : Writes tokens document) :
    ∀ character ∈ document.head?, character.toNat < 0x80 := by
  cases hwrites with
  | nil => simp
  | separator hseparator _ => simpa using (toNat_of_isSeparator hseparator).2
  | mark hmark _ => simpa using (toNat_of_mark hmark).2
  | text _ _ =>
      simp only [List.head?_cons, Option.mem_some_iff, forall_eq']
      decide

/-! ## Documents -/

theorem decodeOctets_encode_of_writes (hwrites : Writes tokens document)
    (hencodable : AreEncodable tokens) :
    decodeOctets (Utf8.encode document) = .ok document := by
  have hwritable := isWritable_of_writes hwrites hencodable
  have hdocument : document.isEncodable = true := by
    rw [Text.isEncodable, List.all_eq_true]
    intro character hmem
    rw [(hwritable character hmem).1, Bool.not_false]
  exact decodeOctets_encode hdocument (fun character hmem => (hwritable character hmem).2)
    (toNat_head_of_writes hwrites)

theorem writes_replicate (hmark : (character, token) ∈ marks) (count : Nat) :
    Writes (List.replicate count token) (List.replicate count character) := by
  induction count with
  | zero => exact .nil
  | succ count ih => exact .mark hmark ih

variable [Room] {depth : Nat} {value : Json} {stack : Stack}

/-- A value is read back from every document that writes its tokens. -/
theorem read_encode_of_writes (hwrites : Writes tokens document)
    (hencodable : AreEncodable tokens) (hreads : ReadsAs depth tokens value)
    (hdepth : depth ≤ Room.most) : read (Utf8.encode document) = .ok value := by
  have hparsed : parse document = .ok value := by
    rw [parse, hreads [] (by simpa using hdepth) _ (map_token_tokens hwrites hencodable)]
    rfl
  rw [read, decodeOctets_encode_of_writes hwrites hencodable]
  simp only [hparsed]

/-- Arrays are opened until there are too many. -/
theorem run_of_openArrays {count : Nat} (hcount : Room.most < stack.length + count)
    (hstack : stack.length ≤ Room.most) {placed : List Placed}
    (hplaced : placed.map Placed.token = List.replicate count .openArray) :
    run (.awaitValue stack) placed = .error (.tooDeep .array) := by
  induction count generalizing stack placed with
  | zero => omega
  | succ count ih =>
      obtain ⟨first, rest, rfl, hfirst, hrest⟩ := List.map_eq_cons_iff.mp hplaced
      by_cases hroom : Room.most ≤ stack.length
      · simp [run, State.step, readValue, openContainer, hfirst, hroom]
      · have hstep : (State.awaitValue stack).step first = .ok (.awaitItem stack) := by
          simp [State.step, readValue, openContainer, hfirst, hroom]
        rw [run, hstep]
        simp only
        cases count with
        | zero => omega
        | succ count =>
            obtain ⟨second, others, rfl, hsecond, hothers⟩ := List.map_eq_cons_iff.mp hrest
            rw [run_awaitItem (by simp [hsecond])]
            refine ih ?_ ?_ hrest <;> simp only [List.length_cons] <;> omega

/-- A document of more arrays than may be open is not read. -/
theorem read_encode_of_openArrays {count : Nat} (hcount : Room.most < count) :
    read (Utf8.encode (List.replicate count (.char '['))) =
      .error (.unreadable (.tooDeep .array)) := by
  have hwrites : Writes (List.replicate count .openArray) (List.replicate count (.char '[')) :=
    writes_replicate (by simp [marks]) count
  have hencodable : AreEncodable (List.replicate count .openArray) := by
    intro value hvalue
    cases List.eq_of_mem_replicate hvalue
  have hrun : run (.awaitValue []) (tokens (List.replicate count (.char '['))) =
      .error (.tooDeep .array) :=
    run_of_openArrays (by simpa using hcount) (Nat.zero_le _) (map_token_tokens hwrites hencodable)
  rw [read, decodeOctets_encode_of_writes hwrites hencodable]
  simp only [parse, hrun, Fault.locate]

end ShortlinkCatalog.Json
