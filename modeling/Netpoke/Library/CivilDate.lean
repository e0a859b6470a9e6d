import Netpoke.Library.Text

/-!
# Calendar dates of timestamps

The proleptic Gregorian date of a day number counted from 1970-01-01, computed by eras of
400 years (146097 days) as in the well-known `civil_from_days` conversion, and the numeric
fields `%Y`, `%m` and `%d` of a `strftime`-style format: the year with at least four digits
and a sign outside `0..=9999`, month and day with two. `fromTimestampMillis` is chrono's
`DateTime::from_timestamp_millis`, which fails outside the years `-262144..=262143`.

The fields are made of digits and a sign only (`formatYear_noSep`, `padDigits_noSep`), which
is what a path built from them needs.
-/

namespace CivilDate

/-- Year, month and day of the day `days` after 1970-01-01 (before it when negative). -/
def civilFromDays (days : Int) : Int × Nat × Nat :=
  let z := days + 719468
  let era := z / 146097
  let doe := (z % 146097).toNat
  let yoe := (doe - doe / 1460 + doe / 36524 - doe / 146096) / 365
  let doy := doe - (365 * yoe + yoe / 4 - yoe / 100)
  let mp := (5 * doy + 2) / 153
  let day := doy - (153 * mp + 2) / 5 + 1
  let month := if mp < 10 then mp + 3 else mp - 9
  ((yoe : Int) + era * 400 + (if month ≤ 2 then 1 else 0), month, day)

/-- `DateTime::from_timestamp_millis`: the date of a time in milliseconds since the epoch. -/
def fromTimestampMillis (millis : Int) : Option (Int × Nat × Nat) :=
  let date := civilFromDays (millis / 86400000)
  if -262144 ≤ date.1 ∧ date.1 ≤ 262143 then some date else none

/-- The decimal digits of `n`, zero-padded to `width`. -/
def padDigits (width n : Nat) : List Char :=
  List.replicate (width - (Nat.toDigits 10 n).length) '0' ++ Nat.toDigits 10 n

/-- `%Y`. -/
def formatYear (year : Int) : List Char :=
  if 0 ≤ year ∧ year ≤ 9999 then padDigits 4 year.toNat
  else (if year < 0 then '-' else '+') :: padDigits 4 year.natAbs

/-- Hours, minutes and seconds into the day of a Unix time in seconds. -/
def timeOfDay (secs : Int) : Nat × Nat × Nat :=
  let s := (secs % 86400).toNat
  (s / 3600, s / 60 % 60, s % 60)

/-- `%Y-%m-%d %H:%M:%S` of a Unix time in seconds. -/
def formatDateTime (secs : Int) : List Char :=
  let (year, month, day) := civilFromDays (secs / 86400)
  let (hours, minutes, seconds) := timeOfDay secs
  formatYear year ++ '-' :: padDigits 2 month ++ '-' :: padDigits 2 day ++ ' ' ::
    padDigits 2 hours ++ ':' :: padDigits 2 minutes ++ ':' :: padDigits 2 seconds

/-- `%Y%m%d_%H%M%S` of a Unix time in seconds. -/
def formatCompact (secs : Int) : List Char :=
  let (year, month, day) := civilFromDays (secs / 86400)
  let (hours, minutes, seconds) := timeOfDay secs
  formatYear year ++ padDigits 2 month ++ padDigits 2 day ++ '_' ::
    padDigits 2 hours ++ padDigits 2 minutes ++ padDigits 2 seconds

/-- Whether `DateTime::from_timestamp` accepts a time in seconds, with a nanosecond part below
one second: its day must fall within chrono's years. -/
def timestampInRange (secs : Int) : Bool :=
  let year := (civilFromDays (secs / 86400)).1
  decide (-262144 ≤ year ∧ year ≤ 262143)

example : civilFromDays 19675 = (2023, 11, 14) := by decide
example : civilFromDays (-1) = (1969, 12, 31) := by decide
example : formatYear 2023 = "2023".toList ∧ formatYear (-1) = "-0001".toList := by decide
example : formatDateTime 1700000000 = "2023-11-14 22:13:20".toList := by decide
example : formatCompact 1700000000 = "20231114_221320".toList := by decide

/-- Neither a separator nor a dot. -/
def NoSep (s : List Char) : Prop :=
  '/' ∉ s ∧ '.' ∉ s

theorem padDigits_noSep (width n : Nat) : NoSep (padDigits width n) := by
  have hdigit : ∀ c ∈ Nat.toDigits 10 n, c.isDigit = true := fun c hc =>
    List.all_eq_true.mp (CharList.all_isDigit_toDigits n) c hc
  constructor
  all_goals
    intro hmem
    rcases List.mem_append.mp hmem with hzero | hdig
    · cases List.eq_of_mem_replicate hzero
    · have := hdigit _ hdig
      revert this
      decide

theorem formatYear_noSep (year : Int) : NoSep (formatYear year) := by
  unfold formatYear
  split
  · exact padDigits_noSep 4 _
  · obtain ⟨hsep, hdot⟩ := padDigits_noSep 4 year.natAbs
    constructor
    all_goals
      intro hmem
      rcases List.mem_cons.mp hmem with hsign | hrest
      · split at hsign <;> cases hsign
      · first | exact hsep hrest | exact hdot hrest

end CivilDate
