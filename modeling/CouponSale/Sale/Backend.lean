import CouponSale.Note

/-!
What a sale asks of its stores: a counter that reserves, a durable store that writes, and a place
for dead letters. Latencies are in milliseconds and belong to calls that begin now; a call that
is given up before its latency is over leaves no trace but its beginning.
-/
namespace CouponSale

class Backend (σ : Type) where
  /-- How long a reservation that begins now takes. -/
  reserveLatency : σ → Nat
  beginReserve : σ → σ
  reserve : σ → CouponId → UserId → Answer Reservation × σ
  /-- Sets the units a counter has left. -/
  seed : σ → CouponId → Int → Answer Unit × σ × List Note
  /-- How long a write that begins now waits for its answer; `none` when it does not wait. -/
  writeLatency : σ → Option Nat
  beginWrite : σ → σ
  write : σ → UserId → CouponId → Answer Persisted × σ
  create : σ → NewCoupon → Answer Coupon × σ × List Note
  find : σ → CouponId → Answer Coupon × σ
  claimsOf : σ → UserId → Answer (List ClaimRecord) × σ
  file : σ → DeadLetter → Answer Unit × σ × List Note

end CouponSale
