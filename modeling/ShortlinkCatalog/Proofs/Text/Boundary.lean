import ShortlinkCatalog.Proofs.Text.Spelling

/-!
# Decoding a text in two parts

What has been decoded does not change when more follows, unless a character is unfinished
and what follows goes on with it.  So a well-formed text and a text that begins with a
character decode to the two texts that they decode to by themselves.  A character that is
left unfinished by the first part becomes U+FFFD, whether the text ends there or another
character begins.
-/

namespace ShortlinkCatalog

namespace Utf8

/-! ## The bounds of a second octet -/

/-- An octet that can be other than the first one of a character. -/
def isContinuation (octet : UInt8) : Bool := 0x80 ≤ octet.toNat && octet.toNat ≤ 0xbf

/-- A character that is being read goes on with such octets only. -/
def Pending.IsBounded (pending : Pending) : Prop := 0x80 ≤ pending.low ∧ pending.high ≤ 0xbf

theorem isBounded_of_lead {octet : UInt8} {pending : Pending}
    (hlead : lead octet = .more pending) : pending.IsBounded := by
  simp only [lead] at hlead
  split_ifs at hlead <;> simp only [Lead.more.injEq] at hlead <;> subst hlead <;>
    simp only [Pending.IsBounded] <;> omega

theorem isContinuation_head_encodeCharacter (character : CodePoint) :
    ∀ octet ∈ (encodeCharacter character).head?, isContinuation octet = false := by
  have hlast := character.toNat_lt
  intro octet hoctet
  rw [encodeCharacter] at hoctet
  split_ifs at hoctet <;> cases hoctet <;> rw [isContinuation, toNat_octet (by omega)] <;> grind

theorem encodeCharacter_ne_nil (character : CodePoint) : encodeCharacter character ≠ [] := by
  rw [encodeCharacter]
  split_ifs <;> simp

namespace Reader

variable {before : Text} {reader left right : Reader}

/-- The text that a reader has read if nothing follows. -/
def text (reader : Reader) : Text := reader.finish.map Event.lossy

def IsBounded (reader : Reader) : Prop := ∀ pending ∈ reader.pending, pending.IsBounded

theorem isBounded_begin (octet : UInt8) : (reader.begin octet).IsBounded := by
  intro pending hpending
  cases hlead : lead octet <;> simp only [begin, hlead, Option.mem_def, reduceCtorEq] at hpending
  rw [← Option.some.inj hpending]
  exact isBounded_of_lead hlead

theorem isBounded_step (octet : UInt8) : (reader.step octet).IsBounded := by
  rw [step]
  split
  · exact isBounded_begin octet
  · split_ifs
    · simp [IsBounded]
    · intro pending hpending
      rw [← Option.some.inj hpending]
      exact ⟨le_rfl, le_rfl⟩
    · exact isBounded_begin octet

/-! ## Two readers -/

/-- One reader has read a text more than another, and both are within the same character. -/
structure Follows (before : Text) (left right : Reader) : Prop where
  events : left.events.map Event.lossy = right.events.map Event.lossy ++ before.reverse
  pending : left.pending = right.pending

theorem Follows.begin
    (hevents : left.events.map Event.lossy = right.events.map Event.lossy ++ before.reverse)
    (octet : UInt8) : Follows before (left.begin octet) (right.begin octet) := by
  rw [Reader.begin, Reader.begin]
  cases lead octet with
  | character value => exact ⟨by simp [hevents], rfl⟩
  | more pending => exact ⟨hevents, rfl⟩
  | invalid => exact ⟨by simp [hevents, Event.lossy], rfl⟩

/-- Which fault an unfinished character ends in does not show. -/
theorem Follows.abandon (hfollows : Follows before left right) (kind other : Fault) :
    Follows before (left.abandon kind) (right.abandon other) := by
  rw [Reader.abandon, Reader.abandon, hfollows.pending]
  cases hpending : right.pending with
  | none => exact ⟨hfollows.events, hfollows.pending⟩
  | some pending => exact ⟨by simp [hfollows.events, Event.lossy], rfl⟩

theorem Follows.step (hfollows : Follows before left right) (octet : UInt8) :
    Follows before (left.step octet) (right.step octet) := by
  rw [Reader.step, Reader.step, hfollows.pending]
  cases right.pending with
  | none => exact .begin hfollows.events octet
  | some pending =>
      simp only
      split_ifs
      · exact ⟨by simp [hfollows.events, Event.lossy], rfl⟩
      · exact ⟨hfollows.events, rfl⟩
      · exact .begin (hfollows.abandon _ _).events octet

theorem Follows.put (hfollows : Follows before left right) (kind : Fault) (character : CodePoint)
    (length : Nat) :
    Follows before (left.put kind character length) (right.put kind character length) :=
  ⟨by simp [Reader.put, (hfollows.abandon kind kind).events, Event.lossy], rfl⟩

theorem Follows.text (hfollows : Follows before left right) :
    left.text = before ++ right.text := by
  have hevents := (hfollows.abandon .unexpectedEnd .unexpectedEnd).events
  rw [Reader.text, Reader.text, finish, finish, List.map_reverse, List.map_reverse, hevents]
  simp

theorem start_abandon (kind : Fault) : start.abandon kind = start := rfl

/-- A reader that is within no character follows the one that starts. -/
theorem follows_start (hpending : reader.pending = none) : Follows reader.text reader start := by
  refine ⟨?_, hpending⟩
  simp [Reader.text, finish, Reader.abandon, hpending, start]

end Reader

end Utf8

namespace Percent

open Utf8

variable {before after : Text} {reader left right : Reader}

/-! ## Reading pieces -/

/-- The reader of a text. -/
def read (text : Text) : Reader := (pieces text).foldl step Reader.start

theorem decode_eq_text_read (text : Text) : decode text = (read text).text := rfl

theorem follows_foldl_step (hfollows : Reader.Follows before left right) (pieces : List Piece) :
    Reader.Follows before (pieces.foldl step left) (pieces.foldl step right) := by
  induction pieces generalizing left right with
  | nil => exact hfollows
  | cons piece pieces ih =>
      cases piece with
      | octet value => exact ih (hfollows.step value)
      | literal character => exact ih (hfollows.put _ _ _)

theorem isBounded_read (text : Text) : (read text).IsBounded := by
  have hfoldl : ∀ pieces : List Piece, ∀ reader : Reader, reader.IsBounded →
      (pieces.foldl step reader).IsBounded := by
    intro pieces
    induction pieces with
    | nil => exact fun _ hbounded => hbounded
    | cons piece pieces ih =>
        intro reader _
        cases piece with
        | octet value => exact ih _ (Reader.isBounded_step value)
        | literal character => exact ih _ (by simp [step, Reader.put, Reader.IsBounded])
  exact hfoldl _ _ (by simp [Reader.start, Reader.IsBounded])

/-- A text that does not go on with a character that is being read. -/
def BeginsCharacter (text : Text) : Prop :=
  ∀ octet, (pieces text).head? = some (.octet octet) → isContinuation octet = false

/-- A piece that begins a character ends the one before it, as the end of the text would. -/
theorem follows_step (hbounded : reader.IsBounded) {piece : Piece}
    (hbegins : ∀ octet, piece = .octet octet → isContinuation octet = false) :
    Reader.Follows reader.text (step reader piece) (step .start piece) := by
  have habandon (kind : Fault) : Reader.Follows reader.text (reader.abandon kind) .start := by
    cases hpending : reader.pending <;>
      exact ⟨by simp [Reader.text, Reader.finish, Reader.abandon, hpending, Reader.start,
        Event.lossy], by simp [Reader.abandon, hpending, Reader.start]⟩
  cases piece with
  | octet value =>
      have hvalue := hbegins value rfl
      cases hpending : reader.pending with
      | none => exact (Reader.follows_start hpending).step value
      | some pending =>
          have hoctet : ¬ (pending.low ≤ value.toNat ∧ value.toNat ≤ pending.high) := by
            have hbounds := hbounded pending hpending
            simp only [Pending.IsBounded] at hbounds
            simp only [isContinuation, Bool.and_eq_false_iff, decide_eq_false_iff_not] at hvalue
            omega
          simp only [step, Reader.step, hpending, Bool.and_eq_true, decide_eq_true_eq, hoctet,
            if_false]
          exact .begin (habandon _).events value
  | literal character =>
      have hevents := (habandon .unexpectedEnd).events
      exact ⟨by simp only [step, Reader.put, Reader.start_abandon, List.map_cons, hevents,
        List.cons_append], rfl⟩

/-! ## Pieces of two texts -/

/-- No escape goes over the end of a well-formed text. -/
theorem pieces_append (hescaped : IsEscaped before) (after : Text) :
    pieces (before ++ after) = pieces before ++ pieces after := by
  rw [← wellFormed_iff] at hescaped
  simp only [pieces]
  induction before using wellFormed.induct with
  | case1 => rfl
  | case2 first second rest hdigits ih =>
      rw [wellFormed, if_pos hdigits] at hescaped
      obtain ⟨hfirst, hsecond⟩ := Bool.and_eq_true_iff.mp hdigits
      obtain ⟨high, hhigh⟩ := Option.isSome_iff_exists.mp hfirst
      obtain ⟨low, hlow⟩ := Option.isSome_iff_exists.mp hsecond
      simp [piecesAfter, escape?, hhigh, hlow, ih hescaped]
  | case3 first second rest hdigits =>
      rw [wellFormed, if_neg hdigits] at hescaped
      cases hescaped
  | case4 text hshort =>
      rw [wellFormed] at hescaped
      · cases hescaped
      · exact hshort
  | case5 character text hlong hne ih =>
      have hcharacter : character ≠ .char '%' := hne
      rw [wellFormed] at hescaped
      · rw [List.cons_append, piecesAfter_zero_cons_of_ne hcharacter,
          piecesAfter_zero_cons_of_ne hcharacter, ih hescaped, List.cons_append]
      · exact hlong
      · exact hne

theorem read_append (hescaped : IsEscaped before) (after : Text) :
    read (before ++ after) = (pieces after).foldl step (read before) := by
  rw [read, pieces_append hescaped, List.foldl_append, read]

/-! ## Decoding in two parts -/

theorem decode_append_of_whole (hescaped : IsEscaped before)
    (hpending : (read before).pending = none) (after : Text) :
    decode (before ++ after) = decode before ++ decode after := by
  simp only [decode_eq_text_read, read_append hescaped]
  exact (follows_foldl_step (Reader.follows_start hpending) _).text

theorem decode_append (hescaped : IsEscaped before) (hbegins : BeginsCharacter after) :
    decode (before ++ after) = decode before ++ decode after := by
  have hafter : read after = (pieces after).foldl step .start := rfl
  simp only [decode_eq_text_read, read_append hescaped, hafter]
  cases hpieces : pieces after with
  | nil => exact (List.append_nil _).symm
  | cons piece rest =>
      have hpiece : ∀ octet, piece = .octet octet → isContinuation octet = false := by
        rintro octet rfl
        exact hbegins octet (by rw [hpieces, List.head?_cons])
      exact (follows_foldl_step (follows_step (isBounded_read before) hpiece) rest).text

/-! ## Spelled characters -/

variable {isReserved : CodePoint → Bool} {written : Text} {character : CodePoint}

/-- A spelled character goes on with none before it. -/
theorem beginsCharacter_of_spells (hpercent : isReserved (.char '%') = true)
    (hspells : Spells isReserved written [character]) (after : Text) :
    BeginsCharacter (written ++ after) := by
  intro octet hoctet
  rw [pieces_append (isEscaped_of_spells hpercent hspells)] at hoctet
  cases hspells with
  | literal hfree hrest =>
      have hne := ne_percent_of_free hpercent hfree
      rw [pieces, piecesAfter_zero_cons_of_ne hne, List.cons_append, List.head?_cons,
        Option.some.injEq, piece] at hoctet
      split_ifs at hoctet with hascii
      have hbound := (Text.isAscii_iff character).mp hascii
      rw [← Piece.octet.inj hoctet, isContinuation, toNat_octet (by omega)]
      grind
  | @escaped _ escapes written _ hescapes _ =>
      apply isContinuation_head_encodeCharacter character
      rw [pieces, piecesAfter_zero_of_escapes hescapes] at hoctet
      cases hoctets : encodeCharacter character with
      | nil => exact absurd hoctets (encodeCharacter_ne_nil character)
      | cons first octets =>
          rw [hoctets] at hoctet
          exact congrArg some (Piece.octet.inj (Option.some.inj hoctet))

/-- A spelled character and what is around it decode by themselves. -/
theorem decode_append_spells (hpercent : isReserved (.char '%') = true)
    (hspells : Spells isReserved written [character])
    (hencodable : character.isSurrogate = false) (hescaped : IsEscaped before) (after : Text) :
    decode (before ++ (written ++ after)) = decode before ++ character :: decode after := by
  have hencodable : Text.isEncodable [character] = true := by
    simp [Text.isEncodable, hencodable]
  obtain ⟨position, hread⟩ := foldl_step_of_spells hpercent hspells hencodable
    (rfl : Reader.start.pending = none)
  rw [decode_append hescaped (beginsCharacter_of_spells hpercent hspells after),
    decode_append_of_whole (isEscaped_of_spells hpercent hspells)
      (by rw [read, pieces, hread]), decode_of_spells hpercent hspells hencodable]
  rfl

/-- A literal character is read as it stands, whatever is around it. -/
theorem decode_append_literal (hne : character ≠ .char '%')
    (hencodable : character.isSurrogate = false) (hescaped : IsEscaped before) (after : Text) :
    decode (before ++ character :: after) = decode before ++ character :: decode after := by
  have hspells : Spells (· == .char '%') [character] [character] :=
    .literal (beq_eq_false_iff_ne.mpr hne) .nil
  exact decode_append_spells (by decide) hspells hencodable hescaped after

end Percent

end ShortlinkCatalog
