import ShortlinkCatalog.Text.Basic

/-!
# Timestamps

A log line is dated in universal time to the second.  Days are counted from 1970 in
the Gregorian calendar; the computation counts from the first of March of the year
zero, so that leap days come last in their year.
-/

namespace ShortlinkCatalog.Log

structure Date where
  year : Int
  month : Nat
  day : Nat
deriving DecidableEq, Repr

/-- The date that is `days` after 1 January 1970. -/
def Date.ofDays (days : Int) : Date :=
  let shifted := days + 719468
  let era := shifted.fdiv 146097
  let dayOfEra := (shifted - era * 146097).toNat
  let yearOfEra :=
    (dayOfEra - dayOfEra / 1460 + dayOfEra / 36524 - dayOfEra / 146096) / 365
  let dayOfYear := dayOfEra - (365 * yearOfEra + yearOfEra / 4 - yearOfEra / 100)
  let monthFromMarch := (5 * dayOfYear + 2) / 153
  let day := dayOfYear - (153 * monthFromMarch + 2) / 5 + 1
  let month := if monthFromMarch < 10 then monthFromMarch + 3 else monthFromMarch - 9
  ⟨yearOfEra + era * 400 + (if month ≤ 2 then 1 else 0), month, day⟩

/-- At least two digits. -/
def twoDigits (value : Nat) : Text :=
  if value < 10 then "0" ++ Text.ofNat value else Text.ofNat value

/-- The moment `seconds` after the start of 1970. -/
def timestamp (seconds : Int) : Text :=
  let days := seconds.fdiv 86400
  let second := (seconds - days * 86400).toNat
  let date := Date.ofDays days
  let time := [second / 3600, second / 60 % 60, second % 60].map twoDigits
  Text.ofInt date.year ++ "-" ++ twoDigits date.month ++ "-" ++ twoDigits date.day ++ " "
    ++ Text.join ":" time

end ShortlinkCatalog.Log
