import CouponSale.Time.Calendar

/-!
Points in universal time. A leap second is the same second as the one before it, with a
nanosecond count of 10^9 and above; so it sorts after the rest of that second and before the
next minute. The table format keeps whole microseconds and has no leap seconds.
-/
namespace CouponSale

/-- A point in universal time: seconds since 1970-01-01T00:00:00Z and nanoseconds, the latter
reaching 10^9 only inside a leap second. -/
structure Moment where
  second : Int
  nanos : Nat
  deriving DecidableEq, Repr, Inhabited

namespace Moment

def billion : Nat := 1000000000

/-- The order of moments: by second, then by nanosecond. -/
def before (a b : Moment) : Prop :=
  a.second < b.second ∨ a.second = b.second ∧ a.nanos < b.nanos

instance (a b : Moment) : Decidable (a.before b) := inferInstanceAs (Decidable (_ ∨ _))

instance : LT Moment := ⟨before⟩

instance (a b : Moment) : Decidable (a < b) := inferInstanceAs (Decidable (a.before b))

def notAfter (a b : Moment) : Prop := ¬ b < a

instance : LE Moment := ⟨notAfter⟩

instance (a b : Moment) : Decidable (a ≤ b) := inferInstanceAs (Decidable (¬ b < a))

/-- A whole number of seconds later. A leap second is left for the ordinary second it is
counted with. -/
def addSeconds (m : Moment) (s : Nat) : Moment :=
  if s = 0 then m else ⟨m.second + s, m.nanos % billion⟩

def ofDate (d : Date) (hour minute second nanos : Nat) : Moment :=
  ⟨d.toDays * 86400 + (hour * 3600 + minute * 60 + second : Nat), nanos⟩

def date (m : Moment) : Date := Date.ofDays (m.second / 86400)

/-- The seconds since midnight, in universal time. -/
def ofDay (m : Moment) : Nat := (m.second % 86400).toNat

/-- The microseconds from 2000-01-01T00:00:00Z, cut toward that moment; a leap second counts as
the second after it. -/
def toMicros (m : Moment) : Int :=
  Int.tdiv ((m.second - 946684800) * billion + m.nanos) 1000

def ofMicros (micros : Int) : Moment :=
  ⟨946684800 + micros / 1000000, (micros % 1000000).toNat * 1000⟩

/-- The moment as a table column keeps it. -/
def stored (m : Moment) : Moment := ofMicros m.toMicros

def epoch : Moment := ⟨0, 0⟩

end Moment
end CouponSale
