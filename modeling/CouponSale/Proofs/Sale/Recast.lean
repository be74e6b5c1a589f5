import CouponSale.Proofs.Sale.Rows

/-!
What a sale does not look at. With another counter, with other claims in progress and with other
coupons about to get their counters, the pool moves the same, reports the same and writes the same,
and so does a claim that has its verdict.
-/
namespace CouponSale

/-- Stores with another counter, of which so many reservations were asked. -/
def Memory.recast (m : Memory) (k : Counter) (asked : Nat) : Memory :=
  { m with counter := k, reserving := { m.reserving with calls := asked } }

/-- A sale with another counter and other claims and creations in progress. -/
def Sale.recast (s : Sale Memory) (k : Counter) (asked : Nat) (calls : List Call)
    (unseeded : List Coupon) : Sale Memory :=
  { s with stores := s.stores.recast k asked, calls, unseeded }

variable {k : Counter} {asked : Nat} {calls : List Call} {unseeded : List Coupon}

theorem Memory.write_recast (m : Memory) (k : Counter) (asked : Nat) (user : UserId)
    (coupon : CouponId) :
    (m.recast k asked).write user coupon =
      ((m.write user coupon).1, (m.write user coupon).2.recast k asked) := by
  unfold write
  cases failing : m.writing.failing <;> simp [recast, failing]

theorem Memory.adjust_recast (m : Memory) (setting : Setting) :
    (m.recast k asked).adjust setting = (m.adjust setting).recast k asked := by
  cases setting <;> rfl

theorem Memory.file_recast (m : Memory) (letter : DeadLetter) :
    (m.recast k asked).file letter =
      ((m.file letter).1, (m.file letter).2.1.recast k asked, (m.file letter).2.2) := by
  unfold file
  cases sink : m.sink <;> simp [recast, sink]

namespace Sale

theorem fileLetters_recast (m : Memory) (k : Counter) (asked : Nat) (notes : List Note) :
    fileLetters (m.recast k asked) notes =
      ((fileLetters m notes).1.recast k asked, (fileLetters m notes).2) := by
  induction notes generalizing m with
  | nil => rfl
  | cons note notes ih =>
    cases note with
    | deadLettered job reason lastError =>
      simp only [fileLetters, Backend.file, Memory.file_recast, ih]
    | _ => simp only [fileLetters, ih]

theorem absorb_recast (s : Sale Memory) (moved : Pool.Moved) :
    (s.recast k asked calls unseeded).absorb moved =
      ((s.absorb moved).1.recast k asked calls unseeded, (s.absorb moved).2) := by
  have filed := fileLetters_recast s.stores k asked moved.2
  simp only [absorb, recast, filed]

/-- Moves the pool, or lets time pass. -/
def Label.ofPool : Label → Bool
  | .worker _ _ | .scheduler | .stopper | .submit _ | .start | .stop | .wait _ => true
  | _ => false

theorem workerStep?_recast (s : Sale Memory) (w : Nat) (draw : Binary64) :
    (s.recast k asked calls unseeded).workerStep? w draw =
      (s.workerStep? w draw).map fun moved =>
        (moved.1.recast k asked calls unseeded, moved.2) := by
  have absorbs (u : Sale Memory) (step : Option Pool.Moved) :
      step.map ((u.recast k asked calls unseeded).absorb ·) =
        (step.map u.absorb).map fun moved =>
          (moved.1.recast k asked calls unseeded, moved.2) := by
    rw [Option.map_map]
    congr 1
    funext moved
    exact absorb_recast u moved
  unfold workerStep?
  have pool : (s.recast k asked calls unseeded).pool = s.pool := rfl
  rw [pool]
  split
  · exact absorbs { s with stores := Backend.beginWrite s.stores } _
  · rename_i job due _
    have now : (s.recast k asked calls unseeded).now = s.now := rfl
    have wrote := s.stores.write_recast k asked job.task.user job.task.coupon
    rw [now]
    split
    · simp only [Backend.write, recast, wrote]
      exact absorbs { s with stores := (s.stores.write job.task.user job.task.coupon).2 } _
    · rfl
  · exact absorbs s _

/-- The pool moves the same whatever the counter and the claims are. -/
theorem step?_recast (s : Sale Memory) {label : Label} (pools : label.ofPool = true) :
    (s.recast k asked calls unseeded).step? label =
      (s.step? label).map fun moved => (moved.1.recast k asked calls unseeded, moved.2) := by
  have managed (part : Pool.Label) :
      ((s.recast k asked calls unseeded).pool.step? part).map
          (s.recast k asked calls unseeded).absorb =
        ((s.pool.step? part).map s.absorb).map fun moved =>
          (moved.1.recast k asked calls unseeded, moved.2) := by
    rw [Option.map_map]
    congr 1
    funext moved
    exact absorb_recast s moved
  cases label with
  | worker w draw => exact workerStep?_recast s w draw
  | wait ms => rfl
  | scheduler => exact managed .scheduler
  | stopper => exact managed .stopper
  | submit task => exact managed (.submit task)
  | start => exact managed .start
  | stop => exact managed .stop
  | _ => simp [Label.ofPool] at pools

/-- The pool leaves the claims, the creations and the counter as they are. -/
theorem step?_ofPool {s t : Sale Memory} {notes : List Note} {label : Label}
    (pools : label.ofPool = true) (step : s.step? label = some (t, notes)) :
    t.calls = s.calls ∧ t.unseeded = s.unseeded ∧ t.stores.counter = s.stores.counter := by
  cases step?_move step with
  | beginWrite holds step => exact ⟨rfl, rfl, absorb_counter _ _⟩
  | @endWrite _ _ job _ moved writes step =>
    have counter := (s.stores.write_frame job.task.user job.task.coupon).1
    exact ⟨rfl, rfl, (absorb_counter _ moved).trans counter⟩
  | work apart step => exact ⟨rfl, rfl, absorb_counter _ _⟩
  | manage same step => exact ⟨rfl, rfl, absorb_counter _ _⟩
  | wait => exact ⟨rfl, rfl, rfl⟩
  | _ => simp [Label.ofPool] at pools

theorem follow_recast (s : Sale Memory) (call : Call) (verdict : Reservation) :
    (s.recast k asked calls unseeded).follow call verdict =
      ((s.follow call verdict).1.recast k asked calls unseeded, (s.follow call verdict).2) := by
  cases verdict with
  | claimed => exact absorb_recast s _
  | _ => rfl

/-- A claim that has its verdict ends the same. -/
theorem conclude_recast (s : Sale Memory) (call : Call) (verdict : Answer Reservation) :
    (s.recast k asked calls unseeded).conclude call verdict =
      ((s.conclude call verdict).1.recast k asked (calls.filter (·.number ≠ call.number)) unseeded,
        (s.conclude call verdict).2) := by
  cases verdict with
  | error e => rfl
  | ok verdict =>
    simp only [conclude, follow_recast]
    rfl

/-- The end of a claim takes it off the list, and leaves the creations and the counter as they
are. -/
theorem conclude_frame (s : Sale Memory) (call : Call) (verdict : Answer Reservation) :
    (s.conclude call verdict).1.calls = (s.dropCall call.number).calls ∧
      (s.conclude call verdict).1.unseeded = s.unseeded ∧
      (s.conclude call verdict).1.stores.counter = s.stores.counter := by
  cases verdict with
  | error e => exact ⟨rfl, rfl, rfl⟩
  | ok verdict =>
    cases verdict with
    | claimed => exact ⟨rfl, rfl, absorb_counter s _⟩
    | _ => exact ⟨rfl, rfl, rfl⟩

end Sale
end CouponSale
