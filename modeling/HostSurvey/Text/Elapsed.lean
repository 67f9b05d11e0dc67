/-!
# Spans of time

A span is a number of nanoseconds. It is written in the largest unit that it fills, with the fraction
that is left and no zero at its end.
-/
namespace HostSurvey

/-- A span of time. -/
structure Elapsed where
  /-- Its length in nanoseconds. -/
  nanos : Nat
  deriving Repr, DecidableEq, Inhabited

namespace Elapsed

/-- A span of so many milliseconds. -/
def ofMillis (n : Nat) : Elapsed := ⟨n * 1000000⟩

/-- The whole milliseconds of a span. -/
def millis (e : Elapsed) : Nat := e.nanos / 1000000

/-- The digits of a fraction of `places` places, up to the last one that is not zero. -/
def fractionDigits (places n : Nat) : List Char :=
  let digits := Nat.toDigits 10 n
  let padded := List.replicate (places - digits.length) '0' ++ digits
  (padded.reverse.dropWhile (· = '0')).reverse

/-- A number of units of `10 ^ places` nanoseconds each. -/
def inUnits (nanos places : Nat) (unit : String) : String :=
  let whole := nanos / Nat.pow 10 places
  let rest := nanos % Nat.pow 10 places
  toString whole ++ (if rest = 0 then "" else "." ++ String.ofList (fractionDigits places rest)) ++ unit

/-- The span in words: seconds, milliseconds, microseconds or nanoseconds. -/
def text (e : Elapsed) : String :=
  if 1000000000 ≤ e.nanos then inUnits e.nanos 9 "s"
  else if 1000000 ≤ e.nanos then inUnits e.nanos 6 "ms"
  else if 1000 ≤ e.nanos then inUnits e.nanos 3 "µs"
  else inUnits e.nanos 0 "ns"

end Elapsed
end HostSurvey
