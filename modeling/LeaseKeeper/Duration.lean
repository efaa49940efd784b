/-
  Spans of time.

  A `Duration` counts whole milliseconds, the resolution of every clock in this library.  Settings
  are written in seconds, so a duration made from a setting is a multiple of a thousand.
-/

namespace LeaseKeeper

/-- **A span of time**, in milliseconds. -/
structure Duration where
  millis : Nat
  deriving DecidableEq, Repr, Inhabited

namespace Duration

/-- A number of seconds. -/
def ofSeconds (n : Nat) : Duration := ⟨n * 1000⟩

/-- The whole seconds of a span. -/
def wholeSeconds (d : Duration) : Nat := d.millis / 1000

end Duration

end LeaseKeeper
