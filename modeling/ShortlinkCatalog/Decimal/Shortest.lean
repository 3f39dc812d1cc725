import ShortlinkCatalog.Decimal.Binary64

/-!
# Shortest decimals

A number is written with the fewest digits that read back as the same number, and
of two such decimals with the one nearer to it.  For each count of digits only the
two neighbours of the number on that decimal grid come into question.
-/

namespace ShortlinkCatalog.Binary64

/-- A decimal `0.d₁d₂… * 10 ^ point`. -/
structure Digits where
  digits : Text
  point : Int
deriving DecidableEq, Repr

/-- `value * 10 ^ exponent` as digits without zeros at the end. -/
def Digits.ofScaled (value : Nat) (exponent : Int) : Digits :=
  let digits := Text.ofNat value
  ⟨Text.trimEnd (· == '0') digits, digits.length + exponent⟩

/-- The exact positive value as a quotient. -/
def ratio (mantissa : Nat) (exponent : Int) : Nat × Nat :=
  if 0 ≤ exponent then (mantissa * Nat.pow 2 exponent.toNat, 1)
  else (mantissa, Nat.pow 2 (-exponent).toNat)

/-- The least `point` with `numerator / denominator < 10 ^ point`. -/
def decimalPoint (numerator denominator : Nat) : Int :=
  let below (point : Int) : Bool :=
    if 0 ≤ point then numerator < denominator * Nat.pow 10 point.toNat
    else numerator * Nat.pow 10 (-point).toNat < denominator
  let points : List Int := (List.range 660).map fun (offset : Nat) => (offset : Int) - 330
  (points.find? below).getD 330

/-- The decimal with `count` digits that reads back as the number and is nearest to
it, if there is one. -/
def digitsOfCount? (number : Binary64) (numerator denominator : Nat) (point : Int)
    (count : Nat) : Option Digits :=
  let exponent := point - count
  let (scaled, unit) :=
    if 0 ≤ exponent then (numerator, denominator * Nat.pow 10 exponent.toNat)
    else (numerator * Nat.pow 10 (-exponent).toNat, denominator)
  let below := scaled / unit
  let above := below + 1
  let readsBack (value : Nat) : Bool := ofDecimal false value exponent == number
  let nearerBelow := 2 * (scaled % unit) < unit || (2 * (scaled % unit) == unit && below % 2 == 0)
  let candidates := if nearerBelow then [below, above] else [above, below]
  (candidates.find? readsBack).map (Digits.ofScaled · exponent)

/-- The shortest digits of a positive number; seventeen always suffice. -/
def shortestDigits (mantissa : Nat) (exponent : Int) : Digits :=
  let (numerator, denominator) := ratio mantissa exponent
  let point := decimalPoint numerator denominator
  let number := Binary64.finite false mantissa exponent
  ((List.range 17).findSome? fun count =>
    digitsOfCount? number numerator denominator point (count + 1)).getD
    (Digits.ofScaled numerator 0)

def zeros (count : Nat) : Text := List.replicate count '0'

/-- Two digits of exponent at least, and always a sign. -/
def exponentText (exponent : Int) : Text :=
  let sign : Text := if exponent < 0 then "-" else "+"
  let digits := Text.ofNat exponent.natAbs
  "e" ++ sign ++ zeros (2 - digits.length) ++ digits

/-- Numbers from 10⁻⁴ up to 10¹⁶ are written positionally, all others with an exponent. -/
def Digits.render (decimal : Digits) : Text :=
  let digits := decimal.digits
  if -4 < decimal.point && decimal.point ≤ 16 then
    if decimal.point ≤ 0 then
      "0." ++ zeros (-decimal.point).toNat ++ digits
    else
      let whole := decimal.point.toNat
      if digits.length ≤ whole then
        digits ++ zeros (whole - digits.length) ++ ".0"
      else digits.take whole ++ "." ++ digits.drop whole
  else
    match digits with
    | [] => []
    | [digit] => digit :: exponentText (decimal.point - 1)
    | digit :: rest => digit :: '.' :: rest ++ exponentText (decimal.point - 1)

def render : Binary64 → Text
  | .nan => "nan"
  | .infinite negative => if negative then "-inf" else "inf"
  | .finite negative mantissa exponent =>
      let sign : Text := if negative then "-" else []
      if mantissa = 0 then sign ++ "0.0"
      else sign ++ (shortestDigits mantissa exponent).render

end ShortlinkCatalog.Binary64
