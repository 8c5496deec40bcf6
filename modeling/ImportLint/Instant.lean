import ImportLint.Text.Basic

/-!
# Moments

The time that a report carries, as a date and time of day in universal time.
-/

namespace ImportLint

namespace Instant

def padded (width n : Nat) : Text :=
  let digits := Text.ofNat n
  List.replicate (width - digits.length) '0' ++ digits

/-- The year, month and day that lie so many days after the first of January 1970. -/
def civilDate (days : Nat) : Nat × Nat × Nat :=
  -- Years are counted from March, so that a leap day is the last day of its year, in eras of 400
  -- years.
  let shifted := days + 719468
  let era := shifted / 146097
  let dayOfEra := shifted % 146097
  let yearOfEra := (dayOfEra - dayOfEra / 1460 + dayOfEra / 36524 - dayOfEra / 146096) / 365
  let dayOfYear := dayOfEra - (365 * yearOfEra + yearOfEra / 4 - yearOfEra / 100)
  let monthFromMarch := (5 * dayOfYear + 2) / 153
  let day := dayOfYear - (153 * monthFromMarch + 2) / 5 + 1
  let month := if monthFromMarch < 10 then monthFromMarch + 3 else monthFromMarch - 9
  let year := yearOfEra + era * 400 + (if month ≤ 2 then 1 else 0)
  (year, month, day)

/-- The moment so many microseconds after 1970 began, as in `2024-01-02T03:04:05.678901+00:00`. -/
def iso (microseconds : Nat) : Text :=
  let seconds := microseconds / 1000000
  let fraction := microseconds % 1000000
  let (year, month, day) := civilDate (seconds / 86400)
  padded 4 year ++ '-' :: padded 2 month ++ '-' :: padded 2 day ++ 'T' ::
    padded 2 (seconds / 3600 % 24) ++ ':' :: padded 2 (seconds / 60 % 60) ++ ':' ::
    padded 2 (seconds % 60) ++ (if fraction = 0 then [] else '.' :: padded 6 fraction) ++
    "+00:00".toList

end Instant

end ImportLint
