import CouponSale.Text.Decimal

/-!
Lengths of time in nanoseconds, and their text: the largest of the units s, ms, µs and ns that
goes into the span at least once, then the exact fraction without trailing zeros.
-/
namespace CouponSale

structure Span where
  nanos : Nat
  deriving DecidableEq, Repr, Inhabited

namespace Span

def ofMillis (ms : Nat) : Span := ⟨ms * 1000000⟩

def ofSeconds (s : Nat) : Span := ⟨s * 1000000000⟩

def millis (d : Span) : Nat := d.nanos / 1000000

def seconds (d : Span) : Nat := d.nanos / 1000000000

def subsecond (d : Span) : Nat := d.nanos % 1000000000

/-- The milliseconds of a timer of this length: a started millisecond counts as a whole one. -/
def ticks (d : Span) : Nat := (d.nanos + 999999) / 1000000

theorem millis_ofMillis (ms : Nat) : (ofMillis ms).millis = ms := by
  simp [ofMillis, millis]

theorem ticks_ofMillis (ms : Nat) : (ofMillis ms).ticks = ms := by
  simp only [ofMillis, ticks]
  omega

/-- The milliseconds of a pause of this length under a timer whose longest pause is given. -/
def pauseWithin (longest : Nat) (d : Span) : Nat := Nat.min d.ticks longest

/-- The longest pause, in milliseconds: thirty years of 365 days. The figure is one of the timer
that the program runs on, and not of the program: retrying is defined for any such figure, and what
is proved of waits does not depend on it. -/
def longestPause : Nat := 30 * 365 * 86400 * 1000

/-- The milliseconds of a pause of this length, which takes no longer than the longest. -/
def pause (d : Span) : Nat := d.pauseWithin longestPause

/-- The milliseconds after which a wait of at most this length ends. A length in seconds beyond a
signed 64-bit word leads past every clock and is cut to the longest pause. -/
def limit (d : Span) : Nat := if (d.seconds : Int) < maxInt64 then d.ticks else longestPause

/-- The digits of `n` below `10 ^ width`, with leading zeros and without trailing ones. -/
def fraction (width n : Nat) : List Char :=
  let digits := Decimal.ofNat n
  let padded := List.replicate (width - digits.length) '0' ++ digits
  (padded.reverse.dropWhile (· = '0')).reverse

/-- The quotient by `10 ^ width` in positional notation, followed by a unit. -/
def inUnit (nanos width : Nat) (unit : String) : String :=
  let rest := nanos % Decimal.tenTo width
  Decimal.text (nanos / Decimal.tenTo width : Nat)
    ++ (if rest = 0 then "" else "." ++ String.ofList (fraction width rest)) ++ unit

/-- The text of a span, such as `1.5s`, `12.345678ms` or `0ns`. -/
def text (d : Span) : String :=
  if Decimal.tenTo 9 ≤ d.nanos then inUnit d.nanos 9 "s"
  else if Decimal.tenTo 6 ≤ d.nanos then inUnit d.nanos 6 "ms"
  else if Decimal.tenTo 3 ≤ d.nanos then inUnit d.nanos 3 "µs"
  else inUnit d.nanos 0 "ns"

example : (Span.mk 1500000000).text = "1.5s" := by decide +kernel
example : (Span.mk 12345678).text = "12.345678ms" := by decide +kernel
example : (Span.mk 1001).text = "1.001µs" := by decide +kernel
example : (Span.mk 0).text = "0ns" := by decide +kernel

end Span
end CouponSale
