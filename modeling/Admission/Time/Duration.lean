/-!
Spans of time to the nanosecond, of either sign. Their whole seconds and milliseconds are counted
toward zero.
-/

namespace Admission

/-- A span of time. -/
structure Duration where
  nanos : Int
deriving DecidableEq, Repr

namespace Duration

/-- The number of nanoseconds in a second. -/
def nanosPerSecond : Int := 1000000000

def zero : Duration := ⟨0⟩

def ofSeconds (n : Int) : Duration := ⟨n * nanosPerSecond⟩

def ofMillis (n : Int) : Duration := ⟨n * 1000000⟩

/-- The whole seconds, counted toward zero. -/
def seconds (d : Duration) : Int := d.nanos.tdiv nanosPerSecond

/-- What is left of the span after its whole seconds, with the sign of the span. -/
def subsecond (d : Duration) : Int := d.nanos.tmod nanosPerSecond

/-- The whole milliseconds, counted toward zero. -/
def millis (d : Duration) : Int := d.nanos.tdiv 1000000

/-- The shorter of two spans. -/
def min (a b : Duration) : Duration := if a.nanos ≤ b.nanos then a else b

/-- The longest span in milliseconds that a span may be given by. -/
def maxMillis : Int := 9223372036854775807

end Duration

end Admission
