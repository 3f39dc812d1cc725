import ShortlinkCatalog.Text.Blank
import ShortlinkCatalog.Text.DecimalDigit

/-!
# Written integers

An integer in a setting or a query may be padded with white space, start with a plus
sign or with zeros, hold single underscores and end in a fraction of zeros.  These
liberties are taken away one after the other, and what is left has to be an integer
as JSON writes it.  Each step sees only what the one before it has left, so leading
zeros are dropped in front of a minus sign too.  Integers of more than 4300 digits
are refused wherever a text is turned into a number.
-/

namespace ShortlinkCatalog.Decimal

def maxDigits : Nat := 4300

/-- The number that decimal digits write. -/
def natOfDigits (digits : Text) : Nat :=
  digits.foldl (fun value digit => 10 * value + (digit.toNat - 48)) 0

/-- A sign, if there is one, and what follows it. -/
def splitSign : Text → Bool × Text
  | '-' :: rest => (true, rest)
  | '+' :: rest => (false, rest)
  | rest => (false, rest)

def signed (negative : Bool) (value : Nat) : Int :=
  if negative then -(value : Int) else value

/-! ## Liberties -/

/-- Drops a plus sign, after which no minus sign may come. -/
def dropPlus : Text → Option Text
  | '+' :: '-' :: _ => none
  | '+' :: rest => some rest
  | text => some text

/-- Drops zeros and underscores after the zero or underscore `last`, which stays if a
point or nothing follows. -/
def dropZerosAfter (last : CodePoint) : Text → Option Text
  | [] => some [last]
  | character :: rest =>
      if character == '0' || character == '_' then dropZerosAfter character rest
      else if character == '.' then some (last :: character :: rest)
      else if Text.isAsciiDigit character || character == '-' then some (character :: rest)
      else none

/-- Drops the zeros at the start of a text, which has to be a digit or a minus sign. -/
def dropLeadingZeros : Text → Option Text
  | [] => none
  | character :: rest =>
      if character == '0' then dropZerosAfter character rest
      else if Text.isAsciiDigit character || character == '-' then some (character :: rest)
      else none

/-- Whether the text after a decimal point writes zero. -/
def isZeroFraction (fraction : Text) : Bool :=
  !fraction.isEmpty && fraction.all (· == '0')

def dropZeroFraction (text : Text) : Text :=
  match Text.splitFirst '.' text with
  | (whole, some fraction) => if isZeroFraction fraction then whole else text
  | (_, none) => text

/-- Drops underscores, if they stand one by one inside the text. -/
def dropUnderscores (text : Text) : Text :=
  let groups := Text.splitAll '_' text
  if groups.any (·.isEmpty) then text else groups.flatten

/-- The text without the liberties. -/
def plainForm? (text : Text) : Option Text := do
  let text ← dropPlus (Text.trim Text.isWhiteSpace text)
  let text ← dropLeadingZeros text
  some (dropUnderscores (dropZeroFraction text))

/-! ## Integers -/

inductive IntegerError
  | malformed
  | tooManyDigits
deriving DecidableEq, Repr

/-- Reads a minus sign or none and digits without a leading zero.  A minus sign counts
for the length, and a text that is too long is so whatever follows its digits. -/
def parsePlain (text : Text) : Except IntegerError Int :=
  let negative := text.head? == some '-'
  let unsigned := if negative then text.drop 1 else text
  let digits := unsigned.takeWhile Text.isAsciiDigit
  if digits.isEmpty || (digits.head? == some '0' && digits.length > 1) then .error .malformed
  else if text.length - unsigned.length + digits.length > maxDigits then .error .tooManyDigits
  else if digits.length < unsigned.length then .error .malformed
  else .ok (signed negative (natOfDigits digits))

def parseInteger (text : Text) : Except IntegerError Int :=
  match plainForm? text with
  | none => .error .malformed
  | some text => parsePlain text

/-- Reads an integer in the digits of any script: padded with blanks, with a sign or none,
and with single underscores between the digits. -/
def parseAnyScript? (text : Text) : Option Int :=
  let (negative, unsigned) := splitSign (Text.trim Text.isBlank text)
  let groups := Text.splitAll '_' unsigned
  if groups.any (·.isEmpty) then none
  else
    match groups.flatten.mapM Text.decimalDigitValue? with
    | none => none
    | some values =>
        if values.length > maxDigits then none
        else some (signed negative (values.foldl (fun value digit => 10 * value + digit) 0))

/-- The refusal of a number of `digits` digits. -/
def tooManyDigitsMessage (digits : Nat) : Text :=
  "Exceeds the limit (4300 digits) for integer string conversion: value has "
    ++ Text.ofNat digits ++ " digits; use sys.set_int_max_str_digits() to increase the limit"

end ShortlinkCatalog.Decimal
