/-!
# Durations

Spans of time to the nanosecond.
-/

namespace Underwriting

/-- A span of time. -/
structure Duration where
  nanoseconds : Nat
deriving DecidableEq

namespace Duration

/-- A span of seconds and nanoseconds. -/
def ofParts (seconds nanoseconds : Nat) : Duration := ⟨seconds * 1000000000 + nanoseconds⟩

/-- A span of milliseconds. -/
def ofMilliseconds (milliseconds : Nat) : Duration := ⟨milliseconds * 1000000⟩

/-- The whole milliseconds of a span. -/
def milliseconds (duration : Duration) : Nat := duration.nanoseconds / 1000000

end Duration

end Underwriting
