import ShortlinkCatalog.Text.Basic

/-!
# UTF-8

Encoding writes one to four octets a character.  Decoding is a machine that takes
one octet at a time and reports a character or a fault; a fault covers the longest
run of octets that could still have begun a character, so that what follows it is
read afresh.  The lossy decoder replaces each fault by U+FFFD, and the strict one
gives the first.  Both are views of the events of one run of the machine.
-/

namespace ShortlinkCatalog.Utf8

/-- The octets of one character.  A surrogate has the octets that its number would give
a character; no strict reader takes them. -/
def encodeCharacter (character : CodePoint) : List UInt8 :=
  let code := character.toNat
  if code < 0x80 then [UInt8.ofNat code]
  else if code < 0x800 then
    [UInt8.ofNat (0xc0 + code / 0x40), UInt8.ofNat (0x80 + code % 0x40)]
  else if code < 0x10000 then
    [UInt8.ofNat (0xe0 + code / 0x1000), UInt8.ofNat (0x80 + code / 0x40 % 0x40),
      UInt8.ofNat (0x80 + code % 0x40)]
  else
    [UInt8.ofNat (0xf0 + code / 0x40000), UInt8.ofNat (0x80 + code / 0x1000 % 0x40),
      UInt8.ofNat (0x80 + code / 0x40 % 0x40), UInt8.ofNat (0x80 + code % 0x40)]

def encode (text : Text) : List UInt8 := text.flatMap encodeCharacter

/-- A character of which some octets have been read: the code so far, how many
octets it has taken and still needs, and the bounds of the next one. -/
structure Pending where
  code : Nat
  taken : Nat
  missing : Nat
  low : Nat
  high : Nat
deriving DecidableEq, Repr

inductive Lead
  | character (value : CodePoint)
  | more (pending : Pending)
  | invalid

/-- What an octet means where a character begins.  The bounds on the second octet
exclude overlong forms, surrogates and codes past U+10FFFF. -/
def lead (octet : UInt8) : Lead :=
  let value := octet.toNat
  if value < 0x80 then .character (CodePoint.ofNat value)
  else if value < 0xc2 then .invalid
  else if value < 0xe0 then .more ⟨value - 0xc0, 1, 1, 0x80, 0xbf⟩
  else if value < 0xf0 then
    .more ⟨value - 0xe0, 1, 2, if value = 0xe0 then 0xa0 else 0x80,
      if value = 0xed then 0x9f else 0xbf⟩
  else if value < 0xf5 then
    .more ⟨value - 0xf0, 1, 3, if value = 0xf0 then 0x90 else 0x80,
      if value = 0xf4 then 0x8f else 0xbf⟩
  else .invalid

inductive Fault
  | invalidStart
  | invalidContinuation
  | unexpectedEnd
deriving DecidableEq, Repr

def Fault.message : Fault → Text
  | .invalidStart => "invalid start byte"
  | .invalidContinuation => "invalid continuation byte"
  | .unexpectedEnd => "unexpected end of data"

/-- A character, or a fault with the position and the number of its octets. -/
inductive Event
  | character (value : CodePoint)
  | fault (kind : Fault) (position length : Nat)
deriving DecidableEq, Repr

/-- The machine's state: the events so far, last first, the position of the next
octet, and the character that is being read. -/
structure Reader where
  events : List Event
  position : Nat
  pending : Option Pending
deriving DecidableEq, Repr

namespace Reader

def start : Reader := ⟨[], 0, none⟩

/-- Takes an octet where a character begins. -/
def begin (reader : Reader) (octet : UInt8) : Reader :=
  match lead octet with
  | .character value => ⟨.character value :: reader.events, reader.position + 1, none⟩
  | .more pending => ⟨reader.events, reader.position + 1, some pending⟩
  | .invalid =>
      ⟨.fault .invalidStart reader.position 1 :: reader.events, reader.position + 1, none⟩

/-- Gives up a character that has not been read to its end. -/
def abandon (kind : Fault) (reader : Reader) : Reader :=
  match reader.pending with
  | none => reader
  | some pending =>
      ⟨.fault kind (reader.position - pending.taken) pending.taken :: reader.events,
        reader.position, none⟩

def step (reader : Reader) (octet : UInt8) : Reader :=
  match reader.pending with
  | none => reader.begin octet
  | some pending =>
      if pending.low ≤ octet.toNat && octet.toNat ≤ pending.high then
        let code := pending.code * 0x40 + (octet.toNat - 0x80)
        if pending.missing ≤ 1 then
          ⟨.character (CodePoint.ofNat code) :: reader.events, reader.position + 1, none⟩
        else
          ⟨reader.events, reader.position + 1,
            some ⟨code, pending.taken + 1, pending.missing - 1, 0x80, 0xbf⟩⟩
      else (reader.abandon .invalidContinuation).begin octet

/-- Takes a character that is given as such in place of `length` octets; one that is
being read ends in a fault of the given kind. -/
def put (reader : Reader) (kind : Fault) (character : CodePoint) (length : Nat) : Reader :=
  let reader := reader.abandon kind
  ⟨.character character :: reader.events, reader.position + length, none⟩

/-- The events in order, once no octet follows. -/
def finish (reader : Reader) : List Event :=
  (reader.abandon .unexpectedEnd).events.reverse

end Reader

def events (octets : List UInt8) : List Event :=
  (octets.foldl Reader.step Reader.start).finish

def replacement : CodePoint := '\ufffd'

def Event.lossy : Event → CodePoint
  | .character value => value
  | .fault .. => replacement

/-- Decodes with U+FFFD for each fault. -/
def decodeLossy (octets : List UInt8) : Text := (events octets).map Event.lossy

/-- Why octets are not UTF-8: the first fault. -/
structure DecodeError where
  kind : Fault
  position : Nat
  length : Nat
deriving DecidableEq, Repr

/-- The text of events without faults. -/
def textOf (events : List Event) : Except DecodeError Text :=
  events.reverse.foldl (fun (text : Except DecodeError Text) event =>
    match event with
    | .fault kind position length => .error ⟨kind, position, length⟩
    | .character value => text.map (value :: ·)) (.ok [])

end ShortlinkCatalog.Utf8
