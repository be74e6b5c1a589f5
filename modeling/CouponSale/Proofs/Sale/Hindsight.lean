import CouponSale.Proofs.Sale.Recast
import CouponSale.Proofs.Sale.Unseeded

/-!
A sale in which a coupon was written without its counter, next to the same sale with the counter
seeded at once. In hindsight the two differ in the claims that were turned away for want of a
counter: the one sale makes every move of the other but those of such claims, the end of the
creation and the seeding that makes up for it. Whether a claim is turned away is seen only later, so
the moves to come are part of the comparison.
-/
namespace CouponSale

/-- A counter that knows a coupon, untouched, which another does not know, and is the same in all
else. -/
def Counter.Mended (coupon : CouponId) (total : Int) (k l : Counter) : Prop :=
  ∀ other, l.tab? other =
    if other = coupon ∧ k.tab? other = none then some ⟨total, []⟩ else k.tab? other

namespace Counter.Mended

variable {coupon other : CouponId} {total : Int} {k l : Counter}

theorem same (mended : Mended coupon total k l)
    (apart : other ≠ coupon ∨ k.tab? other ≠ none) : l.tab? other = k.tab? other := by
  rw [mended other, if_neg]
  rintro ⟨about, unknown⟩
  exact apart.elim (· about) (· unknown)

theorem put (mended : Mended coupon total k l) (other : CouponId) (tab : Tab) :
    Mended coupon total (k.put other tab) (l.put other tab) := by
  intro third
  rw [tab?_put, tab?_put]
  split
  · simp
  · exact mended third

/-- The coupon becomes known to the counter that did not know it. -/
theorem learn (mended : Mended coupon total k l) (unknown : k.tab? coupon = none) :
    Mended coupon total (k.put coupon ⟨total, []⟩) l := by
  intro other
  rw [tab?_put]
  split
  · rename_i same
    rw [mended other, if_pos ⟨same, same ▸ unknown⟩]
    simp
  · rename_i apart
    rw [if_neg fun about => apart about.1]
    exact mended.same (.inl apart)

theorem seed (mended : Mended coupon total k l) (stock : Int)
    (apart : other ≠ coupon ∨ k.tab? other ≠ none) :
    Mended coupon total (k.seed other stock) (l.seed other stock) := by
  unfold Counter.seed
  rw [mended.same apart]
  exact mended.put other _

/-- Both answer a reservation the same if the one knows the coupon it is about. -/
theorem reserve (mended : Mended coupon total k l) (user : UserId)
    (apart : other ≠ coupon ∨ (k.reserve other user).1 ≠ .notSeeded) :
    (l.reserve other user).1 = (k.reserve other user).1 ∧
      Mended coupon total (k.reserve other user).2 (l.reserve other user).2 := by
  have same : l.tab? other = k.tab? other := by
    apply mended.same
    refine apart.imp_right fun told unknown => told ?_
    simp [Counter.reserve, unknown]
  unfold Counter.reserve
  rw [same]
  cases k.tab? other with
  | none => exact ⟨rfl, mended⟩
  | some tab =>
    dsimp only
    split
    · exact ⟨rfl, mended⟩
    · split
      · exact ⟨rfl, mended⟩
      · exact ⟨rfl, mended.put other _⟩

end Counter.Mended

theorem Memory.reserve_recast {coupon other : CouponId} {total : Int} {k : Counter} {m n : Memory}
    {verdict : Answer Reservation} (mended : m.counter.Mended coupon total k) (asked : Nat)
    {user : UserId} (said : m.reserve other user = (verdict, n))
    (apart : other ≠ coupon ∨ verdict ≠ .ok .notSeeded) :
    ∃ l, n.counter.Mended coupon total l ∧
      (m.recast k asked).reserve other user = (verdict, n.recast l asked) := by
  unfold reserve at said ⊢
  cases failing : m.reserving.failing with
  | succ left =>
    simp only [failing, Prod.mk.injEq] at said
    obtain ⟨rfl, rfl⟩ := said
    exact ⟨k, mended, by simp [recast, failing]⟩
  | zero =>
    simp only [failing, Prod.mk.injEq] at said
    obtain ⟨rfl, rfl⟩ := said
    have apart : other ≠ coupon ∨ (m.counter.reserve other user).1 ≠ .notSeeded := by
      simpa using apart
    obtain ⟨same, after⟩ := mended.reserve user apart
    exact ⟨(k.reserve other user).2, after, by simp [recast, failing, same]⟩

/-- To be told that the counter does not know the coupon changes nothing. -/
theorem Memory.reserve_notSeeded {m n : Memory} {coupon : CouponId} {user : UserId}
    (said : m.reserve coupon user = (.ok .notSeeded, n)) : n = m := by
  unfold reserve at said
  cases failing : m.reserving.failing with
  | succ n => simp [failing] at said
  | zero =>
    simp only [failing, Prod.mk.injEq, Except.ok.injEq] at said
    have reserves := m.counter.reserve_reserves coupon user
    rw [said.1] at reserves
    rw [← said.2]
    generalize (m.counter.reserve coupon user).2 = k at reserves
    cases reserves
    rfl

/-- Has the verdict that the counter does not know the coupon. -/
def Call.unknown (call : Call) : Bool :=
  match call.stage with
  | .told (.ok .notSeeded) => true
  | _ => false

namespace Reseeding

/-- The claim that a move is the next of, and does not open. -/
def Label.called? : Label → Option Nat
  | .sale (.move (.call n)) => some n
  | _ => none

/-- The next move of a claim gives it the verdict that the counter does not know the coupon. -/
def willBeUnknown (n : Nat) : List Event → Bool
  | [] => false
  | event :: later =>
    if event.label.called? = some n then (event.after.call? n).any Call.unknown
    else willBeUnknown n later

/-- Is about a coupon and was turned away for want of a counter, or will be. -/
def turnedAway (coupon : CouponId) (later : List Event) (call : Call) : Bool :=
  call.coupon = coupon && match call.stage with
    | .asking _ _ => willBeUnknown call.number later
    | .told _ => call.unknown

/-- Would not happen had the counter of a coupon been seeded at once: the moves of claims that are
turned away for want of it, the seeding that makes up for it, and the failure to seed it. -/
def leftOut (coupon : CouponId) (event : Event) (later : List Event) : Bool :=
  match event.label with
  | .sale (.move (.claim n _ _ _)) => (event.after.call? n).any (turnedAway coupon later)
  | .sale (.move (.call n)) => (event.before.call? n).any (turnedAway coupon (event :: later))
  | .sale (.move (.reseed other)) =>
    other = coupon && (event.before.stores.counter.tab? coupon).isNone
  | .failSeed other _ => other = coupon
  | _ => false

/-- The moves that would happen had the counter of a coupon been seeded at once. -/
def kept (coupon : CouponId) : List Event → List Event
  | [] => []
  | event :: later =>
    if leftOut coupon event later then kept coupon later else event :: kept coupon later

/-- The claims that are not turned away. -/
def served (coupon : CouponId) (later : List Event) (calls : List Call) : List Call :=
  calls.filter fun call => !turnedAway coupon later call

/-- A sale with another counter, with neither the claims that are turned away nor the creation of
the coupon in progress. -/
def hindsight (coupon : CouponId) (later : List Event) (k : Counter) (asked : Nat)
    (s : Sale Memory) : Sale Memory :=
  s.recast k asked (served coupon later s.calls) (s.unseeded.filter (·.id ≠ coupon))

/-- What a sale would be had the counter of a coupon been seeded at once. It has the same pool,
ledger, flags, letters, faults and latencies; its counter knows the coupon and is the same in all
else; and the claims that are turned away are not among its claims. -/
inductive Mended (coupon : CouponId) (total : Int) (later : List Event) (s : Sale Memory) :
    Sale Memory → Prop where
  | intro {k : Counter} {asked : Nat} (counter : s.stores.counter.Mended coupon total k) :
      Mended coupon total later s (hindsight coupon later k asked s)

/-- The mended sale stays where it is if an event is left out, and makes the same move if not. -/
def Follows (coupon : CouponId) (total : Int) (event : Event) (later : List Event)
    (t : Sale Memory) : Prop :=
  if leftOut coupon event later then Mended coupon total later event.after t
  else ∃ u, step? t event.label = some (u, event.told) ∧ Mended coupon total later event.after u

variable {coupon : CouponId} {total : Int} {t : Sale Memory} {later : List Event} {event : Event}
  {k : Counter} {asked : Nat}

theorem follows_kept {l : Counter} {n : Nat} (keeps : leftOut coupon event later = false)
    (counter : event.after.stores.counter.Mended coupon total l)
    (step : step? t event.label =
      some (hindsight coupon later l n event.after, event.told)) :
    Follows coupon total event later t := by
  rw [Follows, keeps]
  exact ⟨_, step, .intro counter⟩

theorem follows_left {l : Counter} {n : Nat} (leaves : leftOut coupon event later = true)
    (counter : event.after.stores.counter.Mended coupon total l)
    (same : t = hindsight coupon later l n event.after) :
    Follows coupon total event later t := by
  rw [Follows, leaves, same]
  exact .intro counter

theorem turnedAway_cons {call : Call} (other : event.label.called? ≠ some call.number) :
    turnedAway coupon (event :: later) call = turnedAway coupon later call := by
  unfold turnedAway
  cases call.stage with
  | told verdict => rfl
  | asking due expiry => rw [willBeUnknown, if_neg other]

theorem served_cons {calls : List Call}
    (others : ∀ call ∈ calls, event.label.called? ≠ some call.number) :
    served coupon (event :: later) calls = served coupon later calls := by
  apply List.filter_congr
  intro call member
  rw [turnedAway_cons (others call member)]

theorem served_append (calls : List Call) (call : Call) :
    served coupon later (calls ++ [call]) =
      served coupon later calls ++ if turnedAway coupon later call then [] else [call] := by
  rw [served, List.filter_append, served]
  cases turned : turnedAway coupon later call <;> simp [turned]

/-- A claim that is served is found there. -/
theorem find?_served {calls : List Call} {call : Call} {n : Nat}
    (found : calls.find? (·.number = n) = some call)
    (stays : turnedAway coupon later call = false) :
    (served coupon later calls).find? (·.number = n) = some call := by
  obtain ⟨same, before, after, rfl, earlier⟩ := List.find?_eq_some_iff_append.mp found
  rw [served, List.filter_append, List.filter_cons, stays, List.find?_append]
  have none : (before.filter fun call => !turnedAway coupon later call).find? (·.number = n) =
      none := by
    apply List.find?_eq_none.mpr
    intro other member
    simpa using earlier other (List.mem_filter.mp member).1
  have same : call.number = n := by simpa using same
  simp [none, same]

/-- What is no move of a claim on its way changes nothing about the claims that are served. -/
theorem hindsight_cons (uncalled : event.label.called? = none) (s : Sale Memory) :
    hindsight coupon (event :: later) k asked s = hindsight coupon later k asked s := by
  unfold hindsight
  rw [served_cons fun call _ => by simp [uncalled]]

section Calls

variable {s : Sale Memory} {call : Call} {n : Nat} (calls : event.label.called? = some n)
  (numbered : (s.calls.map Call.number).Nodup) (found : s.call? n = some call)

include numbered found

theorem only_call {other : Call} (member : other ∈ s.calls) (same : other.number = n) :
    other = call :=
  List.inj_on_of_nodup_map numbered member (List.mem_of_find?_eq_some found)
    (same.trans (Sale.call?_number found).symm)

/-- A claim that is turned away is not among those served. -/
theorem others_served (turned : turnedAway coupon later call = true) :
    ∀ other ∈ served coupon later s.calls, other.number ≠ n := by
  intro other member same
  obtain ⟨here, stays⟩ := List.mem_filter.mp member
  rw [only_call numbered found here same, turned] at stays
  cases stays

include calls

theorem served_setStage {stage : Call.Stage}
    (same : turnedAway coupon later { call with stage } = turnedAway coupon (event :: later) call) :
    served coupon later (s.setStage n stage).calls = (served coupon (event :: later) s.calls).map
      fun c => if c.number = n then { c with stage } else c := by
  rw [served, Sale.setStage, List.filter_map, served]
  congr 1
  apply List.filter_congr
  intro other member
  by_cases own : other.number = n
  · obtain rfl := only_call numbered found member own
    subst own
    simp [same]
  · rw [turnedAway_cons (by rw [calls]; simpa using Ne.symm own)]
    simp [own]

end Calls

theorem served_dropCall {n : Nat} (calls : event.label.called? = some n) (s : Sale Memory) :
    served coupon later (s.dropCall n).calls =
      (served coupon (event :: later) s.calls).filter (·.number ≠ n) := by
  rw [served, Sale.dropCall, List.filter_filter, served, List.filter_filter]
  apply List.filter_congr
  intro other _
  by_cases own : other.number = n
  · simp [own]
  · rw [turnedAway_cons (by rw [calls]; simpa using Ne.symm own), Bool.and_comm]

theorem turnedAway_told {call : Call} {verdict : Answer Reservation}
    (told : call.stage = .told verdict) :
    turnedAway coupon later call = true ↔ call.coupon = coupon ∧ verdict = .ok .notSeeded := by
  unfold turnedAway Call.unknown
  rw [told]
  cases verdict with
  | error e => simp
  | ok verdict => cases verdict <;> simp

/-- A claim is turned away just when the verdict that it is given turns it away. -/
theorem turnedAway_next {call : Call} {due expiry : Nat} {stage : Call.Stage}
    (calls : event.label.called? = some call.number) (asks : call.stage = .asking due expiry)
    {verdict : Answer Reservation} (told : stage = .told verdict)
    (after : event.after.call? call.number = some { call with stage }) :
    turnedAway coupon later { call with stage } = turnedAway coupon (event :: later) call := by
  simp [turnedAway, told, asks, willBeUnknown, calls, after]

section Call

variable {call : Call} {s : Sale Memory} (calls : event.label.called? = some call.number)
  (numbered : (s.calls.map Call.number).Nodup) (found : s.call? call.number = some call)

include calls numbered found

/-- To give a claim that is turned away its verdict changes nothing in hindsight. -/
theorem hindsight_turned {stage : Call.Stage}
    (turned : turnedAway coupon (event :: later) call = true)
    (same : turnedAway coupon later { call with stage } = turnedAway coupon (event :: later) call) :
    hindsight coupon later k asked (s.setStage call.number stage) =
      hindsight coupon (event :: later) k asked s := by
  have others := others_served numbered found turned
  have unmoved : (served coupon (event :: later) s.calls).map
      (fun c => if c.number = call.number then { c with stage } else c) =
        served coupon (event :: later) s.calls :=
    (List.map_congr_left fun other member => if_neg (others other member)).trans (List.map_id' _)
  unfold hindsight
  rw [served_setStage calls numbered found same, unmoved]
  rfl

/-- Neither does it to end it. -/
theorem hindsight_dropped (turned : turnedAway coupon (event :: later) call = true) :
    hindsight coupon later k asked (s.dropCall call.number) =
      hindsight coupon (event :: later) k asked s := by
  have others := others_served numbered found turned
  have undropped : (served coupon (event :: later) s.calls).filter (·.number ≠ call.number) =
      served coupon (event :: later) s.calls :=
    List.filter_eq_self.mpr fun other member => decide_eq_true (others other member)
  unfold hindsight
  rw [served_dropCall calls, undropped]
  rfl

theorem hindsight_told {l : Counter} {m : Memory} {stage : Call.Stage}
    (same : turnedAway coupon later { call with stage } = turnedAway coupon (event :: later) call) :
    hindsight coupon later l asked (({ s with stores := m } : Sale Memory).setStage call.number
        stage) =
      ({ hindsight coupon (event :: later) k asked s with
        stores := m.recast l asked } : Sale Memory).setStage call.number stage := by
  have calls := served_setStage (s := { s with stores := m }) calls numbered found same
  unfold hindsight
  rw [calls]
  rfl

end Call

/-- Of the creations in progress, hindsight keeps those of other coupons. -/
theorem find?_unseeded {s : Sale Memory} {other : CouponId} {c : Coupon} (apart : other ≠ coupon)
    (found : s.unseeded.find? (·.id = other) = some c) :
    (hindsight coupon later k asked s).unseeded.find? (·.id = other) = some c := by
  rw [← found]
  refine List.find?_filter.trans (congrArg (List.find? · s.unseeded) ?_)
  funext d
  by_cases same : d.id = other <;> simp [same, apart]

section Steps

variable (step : step? event.before event.label = some (event.after, event.told))
  (counter : event.before.stores.counter.Mended coupon total k)

include step counter

/-- The pool makes the same moves. -/
theorem follows_pool {label : Sale.Label} (moves : event.label = .sale (.move label))
    (pools : label.ofPool = true) :
    Follows coupon total event later (hindsight coupon (event :: later) k asked event.before) := by
  have uncalled : event.label.called? = none := by
    rw [moves]
    cases label <;> simp_all [Label.called?, Sale.Label.ofPool]
  have byClaims : ∀ task, label ≠ .submit task := by
    rintro task rfl
    rw [moves] at step
    cases step
  have own (v : Sale Memory) : step? v event.label = v.step? label := by
    rw [moves]
    cases label <;> simp_all [step?, MemorySale.step?]
  rw [own] at step
  obtain ⟨calls, unseeded, same⟩ := Sale.step?_ofPool pools step
  rw [hindsight_cons uncalled]
  apply follows_kept (l := k) (n := asked)
  · unfold leftOut
    rw [moves]
    cases label <;> simp_all [Sale.Label.ofPool]
  · rw [same]
    exact counter
  · rw [own, hindsight, Sale.step?_recast _ pools, step, hindsight, calls, unseeded]
    rfl

/-- A claim is opened. -/
theorem follows_claim {n : Nat} {user : UserId} {about : CouponId} {admin : Option UserId}
    (opens : event.label = .sale (.move (.claim n user about admin))) :
    Follows coupon total event later (hindsight coupon (event :: later) k asked event.before) := by
  rw [hindsight_cons (by simp [opens, Label.called?])]
  have opening (v : Sale Memory) (fresh : v.call? n = none) :
      step? v event.label = some (v.openCall n user about admin) := by
    simp [opens, step?, MemorySale.step?, Sale.step?, fresh]
  have fresh : event.before.call? n = none := by
    rw [opens] at step
    simp only [step?, MemorySale.step?, Sale.step?] at step
    split at step
    · contradiction
    · rename_i new
      simpa using new
  have unknown : (hindsight coupon later k asked event.before).call? n = none := by
    apply List.find?_eq_none.mpr
    intro call member
    exact List.find?_eq_none.mp fresh call (List.mem_filter.mp member).1
  have opened : event.before.openCall n user about admin = (event.after, event.told) :=
    Option.some.inj ((opening _ fresh).symm.trans step)
  cases flagged : event.before.soldOut.check about with
  | true =>
    obtain ⟨after, told⟩ := Prod.mk.inj ((if_pos flagged).symm.trans opened)
    apply follows_kept (l := k) (n := asked)
    · simp [leftOut, opens, ← after, fresh]
    · rw [← after]
      exact counter
    · rw [opening _ unknown, ← after, ← told]
      exact congrArg some (if_pos flagged)
  | false =>
    have unflagged : ¬ event.before.soldOut.check about = true := by simp [flagged]
    obtain ⟨after, told⟩ := Prod.mk.inj ((if_neg unflagged).symm.trans opened)
    generalize asks : Call.Stage.asking (event.before.now +
      Backend.reserveLatency event.before.stores)
      (event.before.now + event.before.reserveTimeout.limit) = stage at after
    have found : event.after.call? n = some ⟨n, user, about, admin, stage⟩ := by
      have none : event.before.calls.find? (·.number = n) = none := fresh
      rw [← after]
      simp [Sale.call?, none]
    cases turned : turnedAway coupon later ⟨n, user, about, admin, stage⟩ with
    | true =>
      apply follows_left (l := k) (n := asked)
      · simp [leftOut, opens, found, turned]
      · rw [← after]
        exact counter
      · rw [hindsight, hindsight, ← after, served_append, turned, if_pos rfl, List.append_nil]
        rfl
    | false =>
      apply follows_kept (l := k) (n := asked + 1)
      · simp [leftOut, opens, found, turned]
      · rw [← after]
        exact counter
      · have joins : served coupon later event.after.calls =
            served coupon later event.before.calls ++ [⟨n, user, about, admin, stage⟩] := by
          rw [← after, served_append, turned]
          rfl
        rw [opening _ unknown, hindsight, hindsight, joins, ← after, ← told, ← asks]
        exact congrArg some (if_neg unflagged)

/-- A claim hears the counter, or waits no longer. -/
theorem follows_hear {call : Call} {due expiry : Nat}
    (moves : event.label = .sale (.move (.call call.number)))
    (numbered : (event.before.calls.map Call.number).Nodup)
    (found : event.before.call? call.number = some call) (asks : call.stage = .asking due expiry) :
    Follows coupon total event later (hindsight coupon (event :: later) k asked event.before) := by
  have calls : event.label.called? = some call.number := by rw [moves]; rfl
  have calling (v : Sale Memory) (here : v.call? call.number = some call) :
      step? v event.label = v.hear call due expiry := by
    simp [moves, step?, MemorySale.step?, Sale.step?, Sale.callStep?, here, asks]
  have leaves : leftOut coupon event later = turnedAway coupon (event :: later) call := by
    simp [leftOut, moves, found]
  have there (stays : turnedAway coupon (event :: later) call = false) :
      (hindsight coupon (event :: later) k asked event.before).call? call.number = some call :=
    find?_served found stays
  have next {m : Memory} {verdict : Answer Reservation} (after : ({ event.before with
      stores := m } : Sale Memory).setStage call.number (.told verdict) = event.after) :
      turnedAway coupon later { call with stage := .told verdict } =
        turnedAway coupon (event :: later) call := by
    apply turnedAway_next calls asks rfl
    rw [← after]
    exact Sale.call?_setStage_own found
  -- Hindsight gives the claim the same verdict if it gives it one.
  have tells {m : Memory} {l : Counter} {verdict : Answer Reservation} (after : ({ event.before with
      stores := m } : Sale Memory).setStage call.number (.told verdict) = event.after)
      (mended : m.counter.Mended coupon total l)
      (stays : turnedAway coupon (event :: later) call = false)
      (told : (hindsight coupon (event :: later) k asked event.before).hear call due expiry =
        some (({ hindsight coupon (event :: later) k asked event.before with
          stores := m.recast l asked } : Sale Memory).setStage call.number (.told verdict),
          event.told)) :
      Follows coupon total event later
        (hindsight coupon (event :: later) k asked event.before) := by
    apply follows_kept (l := l) (n := asked)
    · exact leaves.trans stays
    · rw [← after]
      exact mended
    · rw [calling _ (there stays), told, ← after,
        ← hindsight_told calls numbered found (next after)]
  rw [calling _ found, Sale.hear] at step
  cases reserved : Backend.reserve event.before.stores call.coupon call.user with
  | mk verdict m =>
    rw [reserved] at step
    split at step
    · rename_i ripe
      obtain ⟨after, told⟩ := Prod.mk.inj (Option.some.inj step)
      cases turned : turnedAway coupon (event :: later) call with
      | true =>
        have same := next after
        obtain ⟨_, rfl⟩ := (turnedAway_told rfl).mp (same.trans turned)
        obtain rfl := Memory.reserve_notSeeded reserved
        apply follows_left (l := k) (n := asked)
        · exact leaves.trans turned
        · rw [← after]
          exact counter
        · rw [← after]
          exact (hindsight_turned calls numbered found turned same).symm
      | false =>
        have apart : call.coupon ≠ coupon ∨ verdict ≠ .ok .notSeeded := by
          by_contra both
          have stays := turned
          rw [← next after, Bool.eq_false_iff, Ne, turnedAway_told rfl] at stays
          simp_all
        obtain ⟨l, mended, reserves⟩ := Memory.reserve_recast counter asked reserved apart
        apply tells after mended turned
        have reserves : Backend.reserve (hindsight coupon (event :: later) k asked
          event.before).stores call.coupon call.user = (verdict, m.recast l asked) := reserves
        rw [Sale.hear, reserves, ← told]
        exact if_pos ripe
    · split at step
      · rename_i early late
        obtain ⟨after, told⟩ := Prod.mk.inj (Option.some.inj step)
        have stays : turnedAway coupon (event :: later) call = false := by
          rw [← next after, Bool.eq_false_iff, Ne, turnedAway_told rfl]
          simp
        apply tells after counter stays
        rw [Sale.hear, ← told]
        exact (if_neg early).trans (if_pos late)
      · contradiction

/-- A claim that has its verdict ends. -/
theorem follows_conclude {call : Call} {verdict : Answer Reservation}
    (moves : event.label = .sale (.move (.call call.number)))
    (numbered : (event.before.calls.map Call.number).Nodup)
    (found : event.before.call? call.number = some call) (told : call.stage = .told verdict) :
    Follows coupon total event later (hindsight coupon (event :: later) k asked event.before) := by
  have calls : event.label.called? = some call.number := by rw [moves]; rfl
  have calling (v : Sale Memory) (here : v.call? call.number = some call) :
      step? v event.label = some (v.conclude call verdict) := by
    simp [moves, step?, MemorySale.step?, Sale.step?, Sale.callStep?, here, told]
  have leaves : leftOut coupon event later = turnedAway coupon (event :: later) call := by
    simp [leftOut, moves, found]
  have ended : event.before.conclude call verdict = (event.after, event.told) :=
    Option.some.inj ((calling _ found).symm.trans step)
  have after : event.after = (event.before.conclude call verdict).1 := by rw [ended]
  cases turned : turnedAway coupon (event :: later) call with
  | true =>
    obtain ⟨_, rfl⟩ := (turnedAway_told told).mp turned
    apply follows_left (l := k) (n := asked)
    · exact leaves.trans turned
    · rw [after]
      exact counter
    · rw [after]
      exact (hindsight_dropped calls numbered found turned).symm
  | false =>
    obtain ⟨listed, begun, same⟩ := event.before.conclude_frame call verdict
    rw [← after] at listed begun same
    apply follows_kept (l := k) (n := asked)
    · exact leaves.trans turned
    · rw [same]
      exact counter
    · have there : (hindsight coupon (event :: later) k asked event.before).call? call.number =
          some call := find?_served found turned
      rw [calling _ there, hindsight, Sale.conclude_recast, ended, hindsight, listed, begun,
        served_dropCall calls]

/-- A claim on its way moves on. -/
theorem follows_call {n : Nat} (moves : event.label = .sale (.move (.call n)))
    (numbered : (event.before.calls.map Call.number).Nodup) :
    Follows coupon total event later (hindsight coupon (event :: later) k asked event.before) := by
  cases found : event.before.call? n with
  | none => simp [moves, step?, MemorySale.step?, Sale.step?, Sale.callStep?, found] at step
  | some call =>
    obtain rfl := Sale.call?_number found
    cases stage : call.stage with
    | asking due expiry => exact follows_hear step counter moves numbered found stage
    | told verdict => exact follows_conclude step counter moves numbered found stage

/-- Another coupon is written. -/
theorem follows_create {c : NewCoupon} {now : Moment}
    (creates : event.label = .sale (.move (.create c now)))
    (known : coupon.number ≤ event.before.stores.ledger.coupons.length) :
    Follows coupon total event later (hindsight coupon (event :: later) k asked event.before) := by
  rw [hindsight_cons (by rw [creates]; rfl)]
  have creating (v : Sale Memory) : step? v event.label = some (v.openCoupon c now) := by
    rw [creates]
    rfl
  have opened : event.before.openCoupon c now = (event.after, event.told) :=
    Option.some.inj ((creating _).symm.trans step)
  have other : (event.before.stores.ledger.create c).1.id ≠ coupon := by
    rintro rfl
    simp only [Ledger.create] at known
    omega
  unfold Sale.openCoupon Sale.writeCoupon at opened creating
  cases valid : c.validate now with
  | error e =>
    simp only [valid] at opened creating
    obtain ⟨after, told⟩ := Prod.mk.inj opened
    apply follows_kept (l := k) (n := asked)
    · simp [leftOut, creates]
    · exact after ▸ counter
    · rw [creating, ← after, ← told]
  | ok =>
    simp only [valid, Backend.create] at opened creating
    obtain ⟨after, told⟩ := Prod.mk.inj opened
    apply follows_kept (l := k) (n := asked)
    · simp [leftOut, creates]
    · rw [← after]
      exact counter
    · rw [creating, hindsight, hindsight, ← after, ← told, List.filter_append]
      simp [Sale.recast, Memory.recast, other]

/-- The creation of another coupon ends. -/
theorem follows_seed {other : CouponId} (seeds : event.label = .sale (.move (.seed other)))
    (apart : other ≠ coupon) :
    Follows coupon total event later (hindsight coupon (event :: later) k asked event.before) := by
  rw [hindsight_cons (by rw [seeds]; rfl)]
  have seeding (v : Sale Memory) : step? v event.label =
      (v.unseeded.find? (·.id = other)).map fun c => ({ v with
        unseeded := v.unseeded.erase c
        stores := { v.stores with counter := v.stores.counter.seed c.id c.total } },
        [.couponCreated c]) := by
    rw [seeds]
    rfl
  rw [seeding] at step
  obtain ⟨c, found, ends⟩ := Option.map_eq_some_iff.mp step
  obtain ⟨after, told⟩ := Prod.mk.inj ends
  have same : c.id = other := by simpa using List.find?_some found
  apply follows_kept (l := k.seed c.id c.total) (n := asked)
  · simp [leftOut, seeds]
  · rw [← after]
    exact counter.seed c.total (.inl (same ▸ apart))
  · rw [seeding, find?_unseeded apart found, hindsight, hindsight, ← after, ← told]
    simp only [Option.map_some, Sale.recast, Memory.recast, List.erase_filter]

/-- A creation fails to seed its counter. -/
theorem follows_failSeed {other : CouponId} {e : Failure}
    (fails : event.label = .failSeed other e) :
    Follows coupon total event later (hindsight coupon (event :: later) k asked event.before) := by
  rw [hindsight_cons (by rw [fails]; rfl)]
  have failing (v : Sale Memory) : step? v event.label =
      (v.unseeded.find? (·.id = other)).map fun c =>
        ({ v with unseeded := v.unseeded.erase c }, [.seedingFailed c e]) := by
    rw [fails]
    rfl
  rw [failing] at step
  obtain ⟨c, found, ends⟩ := Option.map_eq_some_iff.mp step
  obtain ⟨after, told⟩ := Prod.mk.inj ends
  have same : c.id = other := by simpa using List.find?_some found
  by_cases own : other = coupon
  · have gone : (event.before.unseeded.erase c).filter (·.id ≠ coupon) =
        event.before.unseeded.filter (·.id ≠ coupon) := by
      rw [← List.erase_filter, List.erase_of_not_mem]
      simp [same, own]
    apply follows_left (l := k) (n := asked)
    · simp [leftOut, fails, own]
    · rw [← after]
      exact counter
    · rw [hindsight, hindsight, ← after, gone]
      rfl
  · apply follows_kept (l := k) (n := asked)
    · simp [leftOut, fails, own]
    · rw [← after]
      exact counter
    · rw [failing, find?_unseeded own found, hindsight, hindsight, ← after, ← told]
      simp only [Option.map_some, Sale.recast, List.erase_filter]

/-- A coupon is seeded again. -/
theorem follows_reseed {other : CouponId} (seeds : event.label = .sale (.move (.reseed other)))
    (whole : event.before.stores.counter.tab? coupon = none →
      ∃ row, event.before.stores.ledger.find? coupon = some row ∧ row.stock = total) :
    Follows coupon total event later (hindsight coupon (event :: later) k asked event.before) := by
  rw [hindsight_cons (by rw [seeds]; rfl)]
  have seeding (v : Sale Memory) : step? v event.label =
      some ((v.stores.ledger.find? other).elim (v, []) fun c =>
        ({ v with stores := { v.stores with
            counter := v.stores.counter.seed other c.stock } }, [.reseeded other c.stock])) := by
    rw [seeds]
    simp only [step?, MemorySale.step?, Sale.step?, Sale.reseed, Backend.find, Ledger.get]
    cases v.stores.ledger.find? other <;> rfl
  have seeded := Option.some.inj ((seeding _).symm.trans step)
  by_cases early : other = coupon ∧ event.before.stores.counter.tab? coupon = none
  · obtain ⟨rfl, unknown⟩ := early
    obtain ⟨row, found, rfl⟩ := whole unknown
    rw [found] at seeded
    obtain ⟨after, _⟩ := Prod.mk.inj seeded
    apply follows_left (l := k) (n := asked)
    · simp [leftOut, seeds, unknown]
    · rw [← after]
      simpa [Counter.seed, unknown] using counter.learn unknown
    · rw [← after]
      rfl
  · have apart : other ≠ coupon ∨ event.before.stores.counter.tab? other ≠ none := by
      by_contra both
      apply early
      simp only [not_or, ne_eq, not_not] at both
      exact ⟨both.1, both.1 ▸ both.2⟩
    have keeps : leftOut coupon event later = false := by
      simpa [leftOut, seeds, Option.isSome_iff_ne_none] using early
    have same : (hindsight coupon later k asked event.before).stores.ledger =
      event.before.stores.ledger := rfl
    cases found : event.before.stores.ledger.find? other with
    | none =>
      rw [found] at seeded
      obtain ⟨after, told⟩ := Prod.mk.inj seeded
      apply follows_kept (l := k) (n := asked) keeps
      · exact after ▸ counter
      · rw [seeding, same, found, ← after, ← told, Option.elim_none]
    | some c =>
      rw [found] at seeded
      obtain ⟨after, told⟩ := Prod.mk.inj seeded
      apply follows_kept (l := k.seed other c.stock) (n := asked) keeps
      · rw [← after]
        exact counter.seed c.stock apart
      · rw [seeding, same, found, ← after, ← told]
        rfl

/-- The faults and latencies are set. -/
theorem follows_set {setting : Memory.Setting} (sets : event.label = .sale (.set setting)) :
    Follows coupon total event later (hindsight coupon (event :: later) k asked event.before) := by
  rw [hindsight_cons (by rw [sets]; rfl)]
  have changes (v : Sale Memory) : step? v event.label =
      some ({ v with stores := v.stores.adjust setting }, []) := by
    rw [sets]
    rfl
  obtain ⟨after, told⟩ := Prod.mk.inj (Option.some.inj ((changes _).symm.trans step))
  apply follows_kept (l := k) (n := asked)
  · simp [leftOut, sets]
  · rw [← after, (event.before.stores.adjust_frame setting).1]
    exact counter
  · rw [changes, hindsight, hindsight, ← after, ← told]
    simp only [Sale.recast, Memory.adjust_recast]

/-- A coupon fails to be seeded again. -/
theorem follows_failReseed {other : CouponId} {e : Failure}
    (fails : event.label = .failReseed other e) :
    Follows coupon total event later (hindsight coupon (event :: later) k asked event.before) := by
  rw [hindsight_cons (by rw [fails]; rfl)]
  have stays (v : Sale Memory) : step? v event.label = some (v, []) := by
    rw [fails]
    exact failReseed_step v other e
  obtain ⟨after, told⟩ := Prod.mk.inj (Option.some.inj ((stays _).symm.trans step))
  apply follows_kept (l := k) (n := asked)
  · simp [leftOut, fails]
  · exact after ▸ counter
  · rw [stays, ← after, ← told]

end Steps

/-- Hindsight follows every move but a seeding of the coupon by the end of its creation. -/
theorem Mended.follow (mended : Mended coupon total (event :: later) event.before t)
    (step : step? event.before event.label = some (event.after, event.told))
    (numbered : (event.before.calls.map Call.number).Nodup)
    (known : coupon.number ≤ event.before.stores.ledger.coupons.length)
    (whole : event.before.stores.counter.tab? coupon = none →
      ∃ row, event.before.stores.ledger.find? coupon = some row ∧ row.stock = total)
    (unseeded : event.label ≠ .sale (.move (.seed coupon))) :
    Follows coupon total event later t := by
  obtain ⟨counter⟩ := mended
  cases label : event.label with
  | failSeed => exact follows_failSeed step counter label
  | failReseed => exact follows_failReseed step counter label
  | sale inner =>
    cases inner with
    | set => exact follows_set step counter label
    | move inner =>
      cases inner with
      | claim => exact follows_claim step counter label
      | call => exact follows_call step counter label numbered
      | create => exact follows_create step counter label known
      | reseed => exact follows_reseed step counter label whole
      | seed other =>
        apply follows_seed step counter label
        rintro rfl
        exact unseeded label
      | _ => exact follows_pool step counter label rfl

end Reseeding
end CouponSale
