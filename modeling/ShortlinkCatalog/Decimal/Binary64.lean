import ShortlinkCatalog.Decimal.Integer

/-!
# Binary floating point

A finite number is an integer mantissa times a power of two, kept as integers so
that every statement about it is one of exact arithmetic.  Decimals are rounded to
the nearest number of 53 bits and exponent at least −1074, a half to the even
mantissa.
-/

namespace ShortlinkCatalog

/-- The value `mantissa * 2 ^ exponent` with a sign, an infinity, or no number. -/
inductive Binary64
  | nan
  | infinite (negative : Bool)
  | finite (negative : Bool) (mantissa : Nat) (exponent : Int)
deriving DecidableEq, Repr

namespace Binary64

def minExponent : Int := -1074
def maxExponent : Int := 971
/-- Mantissas have 53 bits. -/
def mantissaBound : Nat := 0x20000000000000

/-- The quotient rounded to the nearest integer, a half to the even one. -/
def divideToEven (numerator denominator : Nat) : Nat :=
  let quotient := numerator / denominator
  let twice := 2 * (numerator % denominator)
  if twice < denominator then quotient
  else if denominator < twice then quotient + 1
  else quotient + quotient % 2

/-- Rounds `numerator / denominator` on the grid of multiples of `2 ^ exponent`. -/
def onGrid (numerator denominator : Nat) (exponent : Int) : Nat :=
  if 0 ≤ exponent then divideToEven numerator (denominator * Nat.pow 2 exponent.toNat)
  else divideToEven (numerator * Nat.pow 2 (-exponent).toNat) denominator

/-- The nearest number to a quotient of positive integers. -/
def ofRatio (negative : Bool) (numerator denominator : Nat) : Binary64 :=
  let coarse : Int := (Nat.log2 numerator : Int) - Nat.log2 denominator - 53
  let below := max minExponent coarse
  let exponent := if onGrid numerator denominator below < mantissaBound then below else below + 1
  let mantissa := onGrid numerator denominator exponent
  let (mantissa, exponent) :=
    if mantissa < mantissaBound then (mantissa, exponent) else (mantissa / 2, exponent + 1)
  if maxExponent < exponent then .infinite negative
  else .finite negative mantissa exponent

/-- The number nearest to `digits * 10 ^ exponent`.  Exponents that are out of reach
are settled without computing the power. -/
def ofDecimal (negative : Bool) (digits : Nat) (exponent : Int) : Binary64 :=
  if digits = 0 then .finite negative 0 minExponent
  else
    let size : Int := (Nat.toDigits 10 digits).length + exponent
    if size > 400 then .infinite negative
    else if size < -400 then .finite negative 0 minExponent
    else if 0 ≤ exponent then ofRatio negative (digits * Nat.pow 10 exponent.toNat) 1
    else ofRatio negative digits (Nat.pow 10 (-exponent).toNat)

/-- Zero of either sign; no infinity, and not `nan`. -/
def isZero : Binary64 → Bool
  | .finite _ mantissa _ => mantissa == 0
  | _ => false

def isFinite : Binary64 → Bool
  | .finite .. => true
  | _ => false

/-- The greatest integer that is not above the number. -/
def floor? : Binary64 → Option Int
  | .finite negative mantissa exponent =>
      let value := Decimal.signed negative mantissa
      if 0 ≤ exponent then some (value * (Nat.pow 2 exponent.toNat : Nat))
      else some (value.fdiv (Nat.pow 2 (-exponent).toNat : Nat))
  | _ => none

/-- The parts of a decimal: digits before and after the point, and the exponent. -/
structure Written where
  whole : Text
  fraction : Text
  exponent : Int
deriving DecidableEq, Repr

def ofWritten (negative : Bool) (written : Written) : Binary64 :=
  ofDecimal negative (Decimal.natOfDigits (written.whole ++ written.fraction))
    (written.exponent - written.fraction.length)

/-- An exponent after its letter: a sign and at least one digit. -/
def exponent? (text : Text) : Option Int :=
  let (negative, digits) := Decimal.splitSign text
  if digits.isEmpty || !digits.all Text.isAsciiDigit then none
  else some (Decimal.signed negative (Decimal.natOfDigits digits))

/-- Digits with an optional point among them or at either end, and an optional
exponent. -/
def written? (text : Text) : Option Written := do
  let mantissa := text.takeWhile fun character : CodePoint => character != 'e' && character != 'E'
  let exponent ← match text.drop mantissa.length with
    | [] => some 0
    | _ :: rest => exponent? rest
  let (whole, fraction) := Text.splitFirst '.' mantissa
  let fraction := fraction.getD []
  if (whole ++ fraction).isEmpty || !(whole ++ fraction).all Text.isAsciiDigit then none
  else some ⟨whole, fraction, exponent⟩

/-- A decimal, or one of the names of the special values in any case. -/
def plain? (text : Text) : Option Binary64 :=
  let (negative, unsigned) := Decimal.splitSign text
  let name := unsigned.map Text.lowerAscii
  if name == "inf" || name == "infinity" then some (.infinite negative)
  else if name == "nan" then some .nan
  else (written? unsigned).map (ofWritten negative)

/-- `text` without its underscores, which have to stand one by one inside it. -/
def withoutUnderscores? (text : Text) : Option Text :=
  let groups := Text.splitAll '_' text
  if groups.any (·.isEmpty) then none else some groups.flatten

/-- Reads a number that is padded with white space or holds underscores. -/
def parse? (text : Text) : Option Binary64 :=
  (plain? (Text.trim Text.isWhiteSpace text)).or ((withoutUnderscores? text).bind plain?)

end Binary64

end ShortlinkCatalog
