import ShortlinkCatalog.Json.Parser
import ShortlinkCatalog.Text.Quoted
import ShortlinkCatalog.Text.Utf8

/-!
# Octets of a JSON document

A document may be in UTF-8, UTF-16 or UTF-32.  A byte order mark decides; without
one the zero octets among the first four do, since a document starts with two ASCII
characters or is one of them.  Surrogates that form no pair are flaws that are let
through; any other flaw ends the decoding.
-/

namespace ShortlinkCatalog.Json

inductive ByteOrder
  | little
  | big
deriving DecidableEq, Repr

inductive Encoding
  | utf8
  | utf16 (order : ByteOrder)
  | utf32 (order : ByteOrder)
deriving DecidableEq, Repr

def Encoding.name : Encoding → Text
  | .utf8 => "utf-8"
  | .utf16 .little => "utf-16-le"
  | .utf16 .big => "utf-16-be"
  | .utf32 .little => "utf-32-le"
  | .utf32 .big => "utf-32-be"

/-- The byte order marks, in the order they are looked for: that of UTF-16 starts that of
UTF-32. -/
def byteOrderMarks : List (List UInt8 × Encoding) :=
  [([0x00, 0x00, 0xfe, 0xff], .utf32 .big), ([0xff, 0xfe, 0x00, 0x00], .utf32 .little),
    ([0xfe, 0xff], .utf16 .big), ([0xff, 0xfe], .utf16 .little), ([0xef, 0xbb, 0xbf], .utf8)]

/-- The encoding of a document without a byte order mark. -/
def detectUnmarked : List UInt8 → Encoding
  | first :: second :: third :: fourth :: _ =>
      if first == 0 then (if second == 0 then .utf32 .big else .utf16 .big)
      else if second == 0 then
        (if third == 0 && fourth == 0 then .utf32 .little else .utf16 .little)
      else .utf8
  | [first, second] =>
      if first == 0 then .utf16 .big
      else if second == 0 then .utf16 .little
      else .utf8
  | _ => .utf8

/-- The encoding of a document and the length of its byte order mark. -/
def detect (octets : List UInt8) : Encoding × Nat :=
  match byteOrderMarks.find? fun (mark, _) => mark.isPrefixOf octets with
  | some (mark, encoding) => (encoding, mark.length)
  | none => (detectUnmarked octets, 0)

/-- Octets that stand for no character, from `start` up to `stop`, and why. -/
structure Flaw where
  start : Nat
  stop : Nat
  reason : Text
deriving DecidableEq, Repr

/-- Why octets cannot be decoded: the flaw that ended the decoding, and the first one
that was met.  The octets are those that the positions count, which leave out a UTF-8
byte order mark. -/
structure DecodeError where
  encoding : Encoding
  octets : List UInt8
  flaw : Flaw
  first : Flaw
deriving DecidableEq, Repr

def DecodeError.message (error : DecodeError) : Text :=
  let flaw := error.flaw
  let place : Text := match error.octets.drop flaw.start, flaw.stop - flaw.start with
    | octet :: _, 1 =>
        "byte 0x" ++ Text.lowerHex octet.toNat 2 ++ " in position " ++ Text.ofNat flaw.start
    | _, _ =>
        "bytes in position " ++ Text.ofNat flaw.start ++ "-" ++ Text.ofNat (flaw.stop - 1)
  "'" ++ error.encoding.name ++ "' codec can't decode " ++ place ++ ": " ++ flaw.reason

/-- The earlier one of a flaw that was let through, if there is one, and the last flaw. -/
def firstFlaw (passed : Option Flaw) (last : Flaw) : Flaw :=
  match passed with
  | some flaw => if flaw.start < last.start then flaw else last
  | none => last

/-! ## UTF-8 -/

/-- The surrogate that the first three octets write. -/
def writtenSurrogate? : List UInt8 → Option CodePoint
  | 0xed :: second :: third :: _ =>
      if 0xa0 ≤ second && second ≤ 0xbf && 0x80 ≤ third && third ≤ 0xbf then
        some (CodePoint.ofNat (0xd000 + (second.toNat - 0x80) * 0x40 + (third.toNat - 0x80)))
      else none
  | _ => none

/-- Takes octets, of which the first `used` belong to a surrogate already taken. -/
def takeOctets (reader : Utf8.Reader) (used : Nat) : List UInt8 → Utf8.Reader
  | [] => reader
  | octet :: rest =>
      match used with
      | left + 1 => takeOctets reader left rest
      | 0 =>
          match writtenSurrogate? (octet :: rest) with
          | some surrogate =>
              takeOctets (reader.put .invalidContinuation surrogate 3) 2 rest
          | none => takeOctets (reader.step octet) 0 rest

/-- The flaw that the first surrogate is, given the position of the first octet. -/
def surrogateFlaw? (position : Nat) : List UInt8 → Option Flaw
  | [] => none
  | octet :: rest =>
      match writtenSurrogate? (octet :: rest) with
      | some _ => some ⟨position, position + 1, Utf8.Fault.invalidContinuation.message⟩
      | none => surrogateFlaw? (position + 1) rest

def decodeUtf8 (octets : List UInt8) : Except DecodeError Text :=
  match Utf8.textOf (takeOctets .start 0 octets).finish with
  | .ok text => .ok text
  | .error ⟨kind, position, length⟩ =>
      let flaw : Flaw := ⟨position, position + length, kind.message⟩
      .error ⟨.utf8, octets, flaw, firstFlaw (surrogateFlaw? 0 octets) flaw⟩

/-! ## UTF-16 and UTF-32 -/

def codeOf (order : ByteOrder) (octets : List UInt8) : Nat :=
  let octets := match order with
    | .big => octets
    | .little => octets.reverse
  octets.foldl (fun code octet => 0x100 * code + octet.toNat) 0

/-- Groups of `size` octets, which has to be positive, as numbers; the number of
octets that are left over comes second. -/
def units (order : ByteOrder) (size : Nat) (octets : List UInt8) : List Nat × Nat :=
  let (done, group) := octets.foldl (fun (done, group) octet =>
    let group := group ++ [octet]
    if group.length == size then (codeOf order group :: done, []) else (done, group))
    (([] : List Nat), ([] : List UInt8))
  (done.reverse, group.length)

/-- The characters of UTF-16 units. -/
def charactersOfUnits (done : Text) : List Nat → Text
  | [] => done.reverse
  | [unit] => (CodePoint.ofNat unit :: done).reverse
  | high :: low :: rest =>
      if isHighSurrogate high && isLowSurrogate low then
        charactersOfUnits (pairCharacter high low :: done) rest
      else charactersOfUnits (CodePoint.ofNat high :: done) (low :: rest)

/-- The flaw that the first half of no pair is, given the position of the first unit
and the number of all octets. -/
def unpairedFlaw? (position size : Nat) : List Nat → Option Flaw
  | [] => none
  | [unit] =>
      if isHighSurrogate unit then some ⟨position, size, "unexpected end of data"⟩
      else if isLowSurrogate unit then some ⟨position, position + 2, "illegal encoding"⟩
      else none
  | first :: second :: rest =>
      if isLowSurrogate first then some ⟨position, position + 2, "illegal encoding"⟩
      else if !isHighSurrogate first then unpairedFlaw? (position + 2) size (second :: rest)
      else if isLowSurrogate second then unpairedFlaw? (position + 4) size rest
      else some ⟨position, position + 2, "illegal UTF-16 surrogate"⟩

/-- The flaw of `left` octets at the end that are too few for a unit. -/
def truncated (octets : List UInt8) (left : Nat) : Flaw :=
  ⟨octets.length - left, octets.length, "truncated data"⟩

/-- Decodes UTF-16 whose first `mark` octets are a byte order mark. -/
def decodeUtf16 (order : ByteOrder) (mark : Nat) (octets : List UInt8) :
    Except DecodeError Text :=
  let (codes, left) := units order 2 (octets.drop mark)
  if left = 0 then .ok (charactersOfUnits [] codes)
  else
    let flaw := truncated octets left
    .error ⟨.utf16 order, octets, flaw,
      firstFlaw (unpairedFlaw? mark octets.length codes) flaw⟩

/-- The flaw that the first UTF-32 unit of a class is. -/
def unitFlaw? (mark : Nat) (reason : Text) (member : Nat → Bool) (codes : List Nat) :
    Option Flaw :=
  (codes.findIdx? member).map fun index =>
    ⟨mark + 4 * index, mark + 4 * index + 4, reason⟩

/-- Decodes UTF-32 whose first `mark` octets are a byte order mark. -/
def decodeUtf32 (order : ByteOrder) (mark : Nat) (octets : List UInt8) :
    Except DecodeError Text :=
  let (codes, left) := units order 4 (octets.drop mark)
  let surrogate := unitFlaw? mark "code point in surrogate code point range(0xd800, 0xe000)"
    (fun code => isHighSurrogate code || isLowSurrogate code) codes
  let fail (flaw : Flaw) : Except DecodeError Text :=
    .error ⟨.utf32 order, octets, flaw, firstFlaw surrogate flaw⟩
  match unitFlaw? mark "code point not in range(0x110000)" (0x110000 ≤ ·) codes with
  | some flaw => fail flaw
  | none =>
      if left = 0 then .ok (codes.map CodePoint.ofNat) else fail (truncated octets left)

def decodeOctets (octets : List UInt8) : Except DecodeError Text :=
  match detect octets with
  | (.utf8, mark) => decodeUtf8 (octets.drop mark)
  | (.utf16 order, mark) => decodeUtf16 order mark octets
  | (.utf32 order, mark) => decodeUtf32 order mark octets

/-! ## Documents -/

inductive ReadError
  | undecodable (error : DecodeError)
  | unreadable (error : ParseError)
deriving DecidableEq, Repr

def read [Room] (octets : List UInt8) : Except ReadError Json :=
  match decodeOctets octets with
  | .error error => .error (.undecodable error)
  | .ok text =>
      match parse text with
      | .error fault => .error (.unreadable (fault.locate text))
      | .ok value => .ok value

def ReadError.message : ReadError → Text
  | .undecodable error => error.message
  | .unreadable error => error.message

/-- The name of the kind of error. -/
def ReadError.kind : ReadError → Text
  | .undecodable _ => "UnicodeDecodeError"
  | .unreadable (.malformed ..) => "JSONDecodeError"
  | .unreadable (.tooManyDigits _) => "ValueError"
  | .unreadable (.tooDeep _) => "RecursionError"

/-- The error as its kind applied to its parts.  Octets that cannot be decoded are
described by the first flaw. -/
def ReadError.detailed (error : ReadError) : Text :=
  let parts := match error with
    | .undecodable error =>
        Text.join ", " [Text.quoted error.encoding.name, Text.quotedOctets error.octets,
          Text.ofNat error.first.start, Text.ofNat error.first.stop,
          Text.quoted error.first.reason]
    | .unreadable error => Text.quoted error.message
  error.kind ++ "(" ++ parts ++ ")"

end ShortlinkCatalog.Json
