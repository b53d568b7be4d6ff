import Admission.Time.Calendar
import Admission.Time.Duration

/-!
Points in time on the UTC scale, to the nanosecond. The last second of a minute may be a leap
second, which is told by a count of nanoseconds of a whole second or more. Adding a span fails only
past the last representable instant (`Instant.add?`).
-/

namespace Admission

/-- The first representable second, the start of the year -262143. -/
def firstSecond : Int := -8334601228800

/-- The last representable second, the end of the year 262142. -/
def lastSecond : Int := 8210266876799

/-- A point in time: the second it lies in, counted from 1970-01-01T00:00:00Z without leap
    seconds, and the nanoseconds since the start of that second. From 1000000000 nanoseconds on it
    lies in the leap second that follows. -/
structure Instant where
  second : Int
  nano : Nat
  first_le : firstSecond ≤ second
  le_last : second ≤ lastSecond
  nano_lt : nano < 2000000000
  minute_end : 1000000000 ≤ nano → second % 60 = 59
deriving DecidableEq

namespace Instant

/-- The instant with that second and those nanoseconds, if there is one. -/
def ofParts? (second : Int) (nano : Nat) : Option Instant :=
  if h : firstSecond ≤ second ∧ second ≤ lastSecond ∧ nano < 2000000000 ∧
      (1000000000 ≤ nano → second % 60 = 59) then
    some ⟨second, nano, h.1, h.2.1, h.2.2.1, h.2.2.2⟩
  else none

/-- 1970-01-01T00:00:00Z. -/
def epoch : Instant := ⟨0, 0, by decide, by decide, by decide, by decide⟩

instance : Inhabited Instant := ⟨epoch⟩

/-- Whether an instant lies before another. -/
def before (a b : Instant) : Bool :=
  a.second < b.second || (a.second == b.second && a.nano < b.nano)

/-- Whether the instant lies inside a leap second. -/
def inLeapSecond (t : Instant) : Bool := 1000000000 ≤ t.nano

/-- The instant a span of time later, unless it is not representable. Out of a leap second the
    count goes on from the second that it belongs to; inside it, it stays in the leap second. -/
def add? (t : Instant) (d : Duration) : Option Instant :=
  let stays := t.inLeapSecond && d.seconds == 0 && t.nano + d.subsecond < 2000000000
  if stays then ofParts? t.second (t.nano + d.subsecond).toNat
  else
    let second := if t.inLeapSecond && d.seconds < 0 then t.second + 1 else t.second
    let nano : Int := if t.inLeapSecond then t.nano - 1000000000 else t.nano
    let total := second * Duration.nanosPerSecond + nano + d.nanos
    ofParts? (total / Duration.nanosPerSecond) (total % Duration.nanosPerSecond).toNat

/-- The second of the day. -/
def secondOfDay (t : Instant) : Int := t.second % 86400

/-- The span from one instant to another. A leap second counts where the earlier time of day lies
    in it. -/
def since (t start : Instant) : Duration :=
  let leap : Int :=
    if start.secondOfDay < t.secondOfDay && start.inLeapSecond then 1
    else if t.secondOfDay < start.secondOfDay && t.inLeapSecond then -1
    else 0
  ⟨(t.second - start.second + leap) * Duration.nanosPerSecond + (t.nano - start.nano)⟩

end Instant

end Admission
