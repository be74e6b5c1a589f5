import CouponSale.Sale.Backend
import CouponSale.Store.Counter
import CouponSale.Store.Ledger

/-!
Stores in memory. The counter and the ledger answer after a latency that can be set, and their
next calls can be made to fail without effect; a failure is spent when the answer is decided.
-/
namespace CouponSale

/-- What becomes of dead letters. -/
inductive Sink where
  | recording
  | logging
  | failing
  deriving DecidableEq, Repr, Inhabited

/-- A call that can be delayed and made to fail. -/
structure Service where
  calls : Nat
  /-- How many of the next answers are failures. -/
  failing : Nat
  latency : Option Span
  deriving DecidableEq, Repr, Inhabited

namespace Service

def new : Service := ⟨0, 0, none⟩

def begin (s : Service) : Service := { s with calls := s.calls + 1 }

/-- The milliseconds that a call which begins now waits; `none` when it does not wait. -/
def wait? (s : Service) : Option Nat := s.latency.map Span.pause

end Service

/-- A counter and a ledger in memory, and the dead letters kept, the latest first. -/
structure Memory where
  counter : Counter
  reserving : Service
  ledger : Ledger
  writing : Service
  sink : Sink
  letters : List DeadLetter
  deriving DecidableEq, Repr, Inhabited

/-- A setting of the faults and latencies of stores in memory. -/
inductive Memory.Setting where
  /-- So many of the next reservations fail. -/
  | failReserves (count : Nat)
  | delayReserves (latency : Option Span)
  /-- So many of the next writes fail. -/
  | failWrites (count : Nat)
  | delayWrites (latency : Option Span)
  deriving DecidableEq, Repr, Inhabited

namespace Memory

def new (sink : Sink) : Memory := ⟨.empty, .new, .empty, .new, sink, []⟩

def reserveFault : Failure := .counterUnavailable "injected counter failure"

def writeFault : Failure := .database "injected persistence failure"

def fileFault : Failure := .database "outbox unreachable"

/-- Decides a reservation: a failure that is due, or the counter's verdict. -/
def reserve (m : Memory) (coupon : CouponId) (user : UserId) : Answer Reservation × Memory :=
  match m.reserving.failing with
  | n + 1 => (.error reserveFault, { m with reserving := { m.reserving with failing := n } })
  | 0 =>
    let (verdict, counter) := m.counter.reserve coupon user
    (.ok verdict, { m with counter })

/-- Decides a write: a failure that is due, or what the ledger says. -/
def write (m : Memory) (user : UserId) (coupon : CouponId) : Answer Persisted × Memory :=
  match m.writing.failing with
  | n + 1 => (.error writeFault, { m with writing := { m.writing with failing := n } })
  | 0 =>
    let (answer, ledger) := m.ledger.persist user coupon
    (answer, { m with ledger })

/-- Sets a fault or a latency; nothing else changes. -/
def adjust (m : Memory) : Setting → Memory
  | .failReserves failing => { m with reserving := { m.reserving with failing } }
  | .delayReserves latency => { m with reserving := { m.reserving with latency } }
  | .failWrites failing => { m with writing := { m.writing with failing } }
  | .delayWrites latency => { m with writing := { m.writing with latency } }

/-- Takes a dead letter as the sink does. -/
def file (m : Memory) (letter : DeadLetter) : Answer Unit × Memory × List Note :=
  match m.sink with
  | .recording => (.ok (), { m with letters := letter :: m.letters }, [])
  | .logging => (.ok (), m, [.letterLogged letter])
  | .failing => (.error fileFault, m, [])

instance : Backend Memory where
  reserveLatency m := m.reserving.wait?.getD 0
  beginReserve m := { m with reserving := m.reserving.begin }
  reserve := reserve
  seed m coupon total := (.ok (), { m with counter := m.counter.seed coupon total }, [])
  writeLatency m := m.writing.wait?
  beginWrite m := { m with writing := m.writing.begin }
  write := write
  create m c :=
    let (coupon, ledger) := m.ledger.create c
    (.ok coupon, { m with ledger }, [])
  find m coupon := (m.ledger.get coupon, m)
  claimsOf m user := (.ok (m.ledger.claimsOf user), m)
  file := file

end Memory
end CouponSale
