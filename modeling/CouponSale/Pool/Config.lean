import CouponSale.Retry.Policy

/-!
The size and the patience of a worker pool.
-/
namespace CouponSale.Pool

/-- How a pool is built. A count of zero means one. -/
structure Config where
  workers : Nat
  queueCapacity : Nat
  retryCapacity : Nat
  retry : RetryPolicy
  /-- How long a stop waits for each background task. -/
  shutdownTimeout : Span
  deriving DecidableEq, Repr, Inhabited

namespace Config

/-- Four workers, 1024 queued tasks, 256 waiting retries, ten seconds to stop. -/
def standard : Config where
  workers := 4
  queueCapacity := 1024
  retryCapacity := 256
  retry := .standard
  shutdownTimeout := .ofSeconds 10

/-- The same configuration, multipliers being compared as numbers. -/
def same (c d : Config) : Bool :=
  c.workers = d.workers ∧ c.queueCapacity = d.queueCapacity ∧ c.retryCapacity = d.retryCapacity
    ∧ c.retry.same d.retry ∧ c.shutdownTimeout = d.shutdownTimeout

def crew (c : Config) : Nat := max c.workers 1

/-- The tasks that fit into the primary queue, reserved places included. -/
def room (c : Config) : Nat := max c.queueCapacity 1

/-- The tasks that may wait for a retry at one time. -/
def retryRoom (c : Config) : Nat := max c.retryCapacity 1

end Config
end CouponSale.Pool
