/-!
Durations, to the nanosecond and with a longest one, and points of calendar time
with the texts made of them.
-/

namespace TangibleBlocks

/-- A stretch of time. The longest one has `2 ^ 64 - 1` full seconds. -/
structure Duration where
  nanoseconds : Nat
  le_longest : nanoseconds ≤ 18446744073709551615999999999
  deriving DecidableEq

namespace Duration

/-- The given number of nanoseconds, or the longest duration if that is less. -/
def ofNanoseconds (n : Nat) : Duration :=
  ⟨min n 18446744073709551615999999999, Nat.min_le_right _ _⟩

def ofMilliseconds (n : Nat) : Duration :=
  ofNanoseconds (n * 1000000)

def zero : Duration :=
  ofNanoseconds 0

instance : Inhabited Duration := ⟨zero⟩

/-- `n` times as long, as far as there is a duration that long. -/
def times (d : Duration) (n : Nat) : Duration :=
  ofNanoseconds (d.nanoseconds * n)

def seconds (d : Duration) : Nat :=
  d.nanoseconds / 1000000000

/-- The nanoseconds beyond the full seconds. -/
def subsecond (d : Duration) : Nat :=
  d.nanoseconds % 1000000000

def milliseconds (d : Duration) : Nat :=
  d.nanoseconds / 1000000

/-- Hundredths of `unit`, as a number with two places. -/
def hundredths (d : Duration) (unit : Nat) : String :=
  let h := (d.nanoseconds * 100 + unit / 2) / unit
  let cents := h % 100
  s!"{h / 100}." ++ (if cents < 10 then "0" else "") ++ toString cents

/-- The duration in the largest unit that it fills, with two places. -/
def brief (d : Duration) : String :=
  if 1000000000 ≤ d.nanoseconds then d.hundredths 1000000000 ++ "s"
  else if 1000000 ≤ d.nanoseconds then d.hundredths 1000000 ++ "ms"
  else if 1000 ≤ d.nanoseconds then d.hundredths 1000 ++ "µs"
  else d.hundredths 1 ++ "ns"

end Duration

/-- `n` in decimal, filled up with zeros to `width` places. -/
def padded (width n : Nat) : String :=
  let ds := Nat.toDigits 10 n
  String.ofList (List.replicate (width - ds.length) '0' ++ ds)

/-- A point of time in the calendar of universal time. -/
structure Timestamp where
  year : Nat
  month : Nat
  day : Nat
  hour : Nat
  minute : Nat
  second : Nat
  nanosecond : Nat
  deriving DecidableEq, Inhabited

namespace Timestamp

/-- The point of time that lies the given number of seconds after the beginning of 1970. Years are
counted from March here, so that the day that may be missing is the last one, in eras of 400
years. -/
def ofSeconds (seconds nanosecond : Nat) : Timestamp :=
  let day := seconds / 86400 + 719468
  let era := day / 146097
  let dayOfEra := day % 146097
  let yearOfEra := (dayOfEra - dayOfEra / 1460 + dayOfEra / 36524 - dayOfEra / 146096) / 365
  let dayOfYear := dayOfEra - (365 * yearOfEra + yearOfEra / 4 - yearOfEra / 100)
  let fromMarch := (5 * dayOfYear + 2) / 153
  let month := if fromMarch < 10 then fromMarch + 3 else fromMarch - 9
  let year := 400 * era + yearOfEra + (if month ≤ 2 then 1 else 0)
  ⟨year, month, dayOfYear - (153 * fromMarch + 2) / 5 + 1, seconds / 3600 % 24,
    seconds / 60 % 60, seconds % 60, nanosecond⟩

/-- Hour, minute and second. -/
def clockText (t : Timestamp) : String :=
  s!"{padded 2 t.hour}-{padded 2 t.minute}-{padded 2 t.second}"

/-- The fraction of a second in as few groups of three places as it needs. -/
def fractionText (t : Timestamp) : String :=
  if t.nanosecond = 0 then ""
  else if t.nanosecond % 1000000 = 0 then "." ++ padded 3 (t.nanosecond / 1000000)
  else if t.nanosecond % 1000 = 0 then "." ++ padded 6 (t.nanosecond / 1000)
  else "." ++ padded 9 t.nanosecond

/-- Date and time of day, to the fraction of a second. -/
def toText (t : Timestamp) : String :=
  s!"{padded 4 t.year}-{padded 2 t.month}-{padded 2 t.day}" ++
    s!"T{padded 2 t.hour}:{padded 2 t.minute}:{padded 2 t.second}" ++ t.fractionText ++ "Z"

end Timestamp

end TangibleBlocks
