import ShortlinkCatalog.Text.Basic

/-!
# Punycode

A label with characters outside ASCII is written in ASCII: its ASCII characters come
first, then a hyphen if there are any, and then the others in ascending order, each as
the distance from the one before.  A distance counts the places that a character of
the current number or of one in between could be inserted at, and is written with
digits of base 36 whose thresholds adapt to the distances so far.
-/

namespace ShortlinkCatalog.Domain.Punycode

def base : Nat := 36

/-- The digits are the letters and then `0` to `9`. -/
def digit (value : Nat) : CodePoint :=
  if value < 26 then CodePoint.ofNat (97 + value) else CodePoint.ofNat (22 + value)

/-- The value of a digit; letters count in either case. -/
def digitValue? (character : CodePoint) : Option Nat :=
  let letter := Text.lowerAscii character
  if Text.isAsciiDigit character then some (character.toNat - 22)
  else if 'a' ≤ letter && letter ≤ 'z' then some (letter.toNat - 97)
  else none

/-- The least value that does not end a number at this digit: between 1 and 26. -/
def threshold (place bias : Nat) : Nat :=
  if base * (place + 1) < bias + 1 then 1 else min 26 (base * (place + 1) - bias)

theorem threshold_pos (place bias : Nat) : 0 < threshold place bias := by
  unfold threshold
  split <;> omega

/-- Divides by 35 until at most 455 is left, and counts the divisions. -/
def scale (value divisions : Nat) : Nat × Nat :=
  if 455 < value then scale (value / 35) (divisions + 1) else (value, divisions)
termination_by value
decreasing_by omega

/-- The bias after a distance that made the text `length` characters long. -/
def adapt (distance length : Nat) (isFirst : Bool) : Nat :=
  let damped := if isFirst then distance / 700 else distance / 2
  let (value, divisions) := scale (damped + damped / length) 0
  base * divisions + base * value / (value + 38)

def initialBias : Nat := 72

/-- The first number of an extended character. -/
def firstExtended : Nat := 0x80

/-! ## Writing -/

/-- A number as digits, the lowest first, from a place on. -/
def writeNumber (bias place value : Nat) : Text :=
  let limit := threshold place bias
  if value < limit then [digit value]
  else
    digit (limit + (value - limit) % (base - limit))
      :: writeNumber bias (place + 1) ((value - limit) / (base - limit))
termination_by value
decreasing_by
  have hpos := threshold_pos place bias
  exact Nat.lt_of_le_of_lt (Nat.div_le_self _ _) (by omega)

/-- What has been written, the distance since the last character that was, the bias,
and the number of characters that are settled. -/
structure Writer where
  output : Text
  distance : Nat
  bias : Nat
  settled : Nat

/-- Passes a character of the text while those with the number `code` are written. -/
def Writer.pass (basics code : Nat) (writer : Writer) (character : CodePoint) : Writer :=
  if character.toNat < code then { writer with distance := writer.distance + 1 }
  else if character.toNat = code then
    ⟨writer.output ++ writeNumber writer.bias 0 writer.distance, 0,
      adapt writer.distance (writer.settled + 1) (writer.settled == basics),
      writer.settled + 1⟩
  else writer

/-- Writes the characters with the given numbers, which ascend from `next` on. -/
def writeExtended (text : Text) (basics : Nat) (writer : Writer) (next : Nat) :
    List Nat → Text
  | [] => writer.output
  | code :: codes =>
      let writer := { writer with
        distance := writer.distance + (code - next) * (writer.settled + 1) }
      let writer := text.foldl (Writer.pass basics code) writer
      writeExtended text basics { writer with distance := writer.distance + 1 } (code + 1) codes

/-- Adds a number to ascending ones. -/
def insertNumber (number : Nat) : List Nat → List Nat
  | [] => [number]
  | next :: rest =>
      if number < next then number :: next :: rest
      else if number = next then next :: rest
      else next :: insertNumber number rest

def encode (text : Text) : Text :=
  let basic := text.filter Text.isAscii
  let extended := (text.filter (!Text.isAscii ·)).map CodePoint.toNat
  basic ++ (if basic.isEmpty then [] else "-")
    ++ writeExtended text basic.length ⟨[], 0, initialBias, basic.length⟩ firstExtended
      (extended.foldr insertNumber [])

/-! ## Reading -/

/-- A number from a place on, and what follows it. -/
def readNumber? (bias place weight value : Nat) : Text → Option (Nat × Text)
  | [] => none
  | character :: rest =>
      match digitValue? character with
      | none => none
      | some digit =>
          let limit := threshold place bias
          if digit < limit then some (value + digit * weight, rest)
          else readNumber? bias (place + 1) (weight * (base - limit)) (value + digit * weight) rest

theorem length_lt_of_readNumber? {bias place weight value : Nat} {text : Text}
    {number : Nat × Text} (hread : readNumber? bias place weight value text = some number) :
    number.2.length < text.length := by
  induction text generalizing place weight value with
  | nil => simp [readNumber?] at hread
  | cons character rest ih =>
      rw [readNumber?] at hread
      split at hread
      · cases hread
      · dsimp only at hread
        split at hread
        · cases hread
          simp
        · have := ih hread
          simp only [List.length_cons]
          omega

/-- Inserts the characters that are left into those read so far, where `code` and
`place` are the number and the place at which the search for the next one starts. -/
def readExtended (done : Text) (code place bias : Nat) (isFirst : Bool) (text : Text) :
    Option Text :=
  if text.isEmpty then some done
  else
    match hread : readNumber? bias 0 1 0 text with
    | none => none
    | some (distance, rest) =>
        let size := done.length + 1
        let code := code + (place + distance) / size
        let place := (place + distance) % size
        if 0x10ffff < code then none
        else
          readExtended (done.take place ++ CodePoint.ofNat code :: done.drop place) code
            (place + 1) (adapt distance size isFirst) false rest
termination_by text.length
decreasing_by exact length_lt_of_readNumber? hread

/-- Reads a written label; none if a digit is missing or is none, or if a number is past
the last code point. -/
def decode? (text : Text) : Option Text :=
  let (basic, extended) := Text.splitLast '-' text
  readExtended (basic.getD []) firstExtended 0 initialBias true extended

end ShortlinkCatalog.Domain.Punycode
