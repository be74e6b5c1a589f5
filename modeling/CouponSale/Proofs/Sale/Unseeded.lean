import CouponSale.Proofs.Sale.Reseeding

/-!
Claims on a coupon that the counter does not know. They are asked like any other, the only verdict
that the counter has for them is that there is no stock to reserve from, and none of their moves
leaves a trace in the counter, the ledger, the pool or the flags.
-/
namespace CouponSale

/-- The number of the next coupon. -/
def Ledger.nextId (l : Ledger) : CouponId := ⟨l.coupons.length + 1⟩

namespace Reseeding

abbrev Event := Transition (Sale Memory) Label Note

/-- Leaves the counter, the ledger, the pool and the flags as they are, and submits no task. -/
structure Event.Fruitless (event : Event) : Prop where
  counter : event.after.stores.counter = event.before.stores.counter
  ledger : event.after.stores.ledger = event.before.stores.ledger
  pool : event.after.pool = event.before.pool
  soldOut : event.after.soldOut = event.before.soldOut
  submits : submitted event.told = []

/-- Opens a claim on a coupon. -/
def Event.Opens (n : Nat) (coupon : CouponId) (event : Event) : Prop :=
  ∃ user admin, event.label = .sale (.move (.claim n user coupon admin))

/-- Moves a claim on. -/
def Event.Moves (call : Call) (event : Event) : Prop :=
  event.label = .sale (.move (.call call.number)) ∧ event.before.call? call.number = some call

/-- Comes while the counter does not know a coupon. -/
def Event.Early (coupon : CouponId) (event : Event) : Prop :=
  event.before.stores.counter.tab? coupon = none

/-- What claims on a coupon come to as long as the counter does not know it. -/
structure TurnedAway (coupon : CouponId) (events : List Event) : Prop where
  /-- They are asked, and not refused. -/
  opens : ∀ event ∈ events, event.Early coupon → ∀ n, event.Opens n coupon →
    event.Fruitless ∧ event.told = [] ∧ (event.after.call? n).isSome
  moves : ∀ event ∈ events, event.Early coupon → ∀ call, event.Moves call → call.coupon = coupon →
    event.Fruitless
  /-- A claim that the counter answers is told that there is nothing to reserve from. -/
  hears : ∀ event ∈ events, event.Early coupon → ∀ call, event.Moves call → call.coupon = coupon →
    ∀ due expiry, call.stage = .asking due expiry → due ≤ event.before.now →
    event.before.stores.reserving.failing = 0 →
    event.after.call? call.number = some { call with stage := .told (.ok .notSeeded) }
  /-- There is no other verdict. -/
  told : ∀ event ∈ events, event.Early coupon → ∀ call, event.Moves call → call.coupon = coupon →
    ∀ verdict, call.stage = .told (.ok verdict) → verdict = .notSeeded
  /-- A claim with that verdict ends as out of stock, also when the counter knows the coupon by
  then. -/
  ends : ∀ event ∈ events, ∀ call, event.Moves call → call.coupon = coupon →
    call.stage = .told (.ok .notSeeded) → event.Fruitless ∧
      event.told = .notSeeded coupon :: .decided call.user coupon .outOfStock ::
        Sale.answerNotes call (.ok .outOfStock)

/-- A coupon that is written, and that the counter does not know. -/
structure Unserved (coupon : CouponId) (total : Int) (s : Sale Memory) : Prop where
  unknown : s.stores.counter.tab? coupon = none
  row : ∃ row, s.stores.ledger.find? coupon = some row ∧ row.stock = total ∧ row.total = total
  unsold : s.Unsold coupon
  unflagged : s.soldOut.check coupon = false

variable {s t : Sale Memory} {notes more : List Note} {coupon : CouponId}

theorem reserve_unknown {m : Memory} (unknown : m.counter.tab? coupon = none) (user : UserId) :
    (m.reserve coupon user).2.counter = m.counter ∧
      ((m.reserve coupon user).1 = .error Memory.reserveFault ∨
        (m.reserve coupon user).1 = .ok .notSeeded) := by
  rcases m.reserve_cases coupon user with ⟨failed, same⟩ | ⟨verdict, said, reserves⟩
  · exact ⟨same, .inl failed⟩
  · generalize (m.reserve coupon user).2.counter = k at reserves
    cases reserves with
    | notSeeded => exact ⟨rfl, .inr said⟩
    | alreadyClaimed seeded | outOfStock seeded | claimed seeded => simp [unknown] at seeded

/-- A claim that was not in progress is refused by the flag of its coupon, or asks the counter. -/
theorem claim_cases {n : Nat} {user : UserId} {about : CouponId} {admin : Option UserId}
    (step : step? s (.sale (.move (.claim n user about admin))) = some (t, more)) :
    s.call? n = none ∧ (t = s ∧ s.soldOut.check about = true ∨
      more = [] ∧ ∃ due expiry, t = { s with
        stores := Backend.beginReserve s.stores
        calls := s.calls ++ [⟨n, user, about, admin, .asking due expiry⟩] }) := by
  simp only [step?, MemorySale.step?, Sale.step?] at step
  split at step
  · contradiction
  · rename_i new
    refine ⟨by simpa using new, ?_⟩
    simp only [Sale.openCall] at step
    split at step
    · rename_i flagged
      obtain ⟨rfl, _⟩ := Prod.mk.inj (Option.some.inj step)
      exact .inl ⟨rfl, flagged⟩
    · obtain ⟨rfl, rfl⟩ := Prod.mk.inj (Option.some.inj step)
      exact .inr ⟨rfl, _, _, rfl⟩

/-- Only the counter's verdict on a coupon that it knows makes a claim do anything. -/
theorem fruitless_of_call {call : Call} {n : Nat} (move : Sale.Move s (.call n) t more)
    (found : s.call? n = some call)
    (unknown : s.stores.counter.tab? call.coupon = none ∧
      (∀ verdict, call.stage = .told (.ok verdict) → verdict = .notSeeded) ∨
      call.stage = .told (.ok .notSeeded)) :
    Event.Fruitless ⟨s, .sale (.move (.call n)), t, more⟩ := by
  cases move with
  | @hear heard due expiry here asks ripe =>
    obtain rfl := Option.some.inj (here.symm.trans found)
    rcases unknown with ⟨unknown, _⟩ | told
    · obtain ⟨ledger, _⟩ := s.stores.reserve_frame heard.coupon heard.user
      exact ⟨(reserve_unknown unknown heard.user).1, ledger, rfl, rfl,
        Sale.submitted_reserveNotes _ _⟩
    · rw [asks] at told
      cases told
  | @expire heard due expiry here asks late =>
    exact ⟨rfl, rfl, rfl, rfl, Sale.submitted_reserveNotes heard (.error _)⟩
  | fail here told => exact ⟨rfl, rfl, rfl, rfl, Sale.submitted_answerNotes _ _⟩
  | @decide ended verdict here told =>
    obtain rfl := Option.some.inj (here.symm.trans found)
    obtain rfl : verdict = .notSeeded := by
      rcases unknown with ⟨_, only⟩ | same
      · exact only verdict told
      · rw [told] at same
        cases same
        rfl
    refine ⟨rfl, rfl, rfl, rfl, ?_⟩
    rw [submitted_append, Sale.submitted_follow]
    exact Sale.submitted_answerNotes _ _
  | manage same => simp [Sale.Label.pool?] at same

theorem turnedAway_of_orderly {events : List Event} (coupon : CouponId)
    (orderly : ∀ event ∈ events, ∃ notes, Sale.Orderly event.before notes)
    (steps : ∀ event ∈ events, step? event.before event.label = some (event.after, event.told)) :
    TurnedAway coupon events := by
  have moved : ∀ event ∈ events, ∀ call, event.Moves call →
      event.before.callStep? call.number = some (event.after, event.told) := by
    intro event member call moves
    have step := steps event member
    rw [moves.1] at step
    exact step
  have told : ∀ event ∈ events, event.Early coupon → ∀ call, event.Moves call →
      call.coupon = coupon → ∀ verdict, call.stage = .told (.ok verdict) →
      verdict = .notSeeded := by
    rintro event member early call moves rfl verdict said
    obtain ⟨notes, orderly⟩ := orderly event member
    by_contra other
    have known := orderly.told call (List.mem_of_find?_eq_some moves.2) verdict said other
    rw [early] at known
    cases known
  have fruitless : ∀ event ∈ events, ∀ call, event.Moves call → call.coupon = coupon →
      event.Early coupon ∨ call.stage = .told (.ok .notSeeded) → event.Fruitless := by
    rintro event member call moves rfl either
    have move := Sale.callStep?_move (moved event member call moves)
    have fruitless := fruitless_of_call move moves.2
      (either.imp_left fun early => ⟨early, told event member early call moves rfl⟩)
    exact ⟨fruitless.counter, fruitless.ledger, fruitless.pool, fruitless.soldOut,
      fruitless.submits⟩
  constructor
  · rintro event member early n ⟨user, admin, label⟩
    obtain ⟨notes, orderly⟩ := orderly event member
    have step := steps event member
    rw [label] at step
    obtain ⟨fresh, ⟨_, flagged⟩ | ⟨silent, due, expiry, after⟩⟩ := claim_cases step
    · have known := orderly.flagged coupon flagged
      rw [early] at known
      cases known
    · refine ⟨⟨?_, ?_, ?_, ?_, ?_⟩, silent, ?_⟩
      · rw [after]
        rfl
      · rw [after]
        rfl
      · rw [after]
      · rw [after]
      · rw [silent]
        rfl
      · rw [after]
        simp [Sale.call?]
  · exact fun event member early call moves same =>
      fruitless event member call moves same (.inl early)
  · rintro event member early call moves rfl due expiry asks ripe sound
    have step := moved event member call moves
    have said : event.before.stores.reserve call.coupon call.user =
        (.ok .notSeeded, event.before.stores) := by
      have none : event.before.stores.counter.tab? call.coupon = none := early
      simp [Memory.reserve, sound, Counter.reserve, none]
    simp only [Sale.callStep?, moves.2, asks, Sale.hear, ripe, if_true, Backend.reserve,
      said] at step
    obtain ⟨after, _⟩ := Prod.mk.inj (Option.some.inj step)
    rw [← after]
    exact Sale.call?_setStage_own moves.2
  · exact told
  · rintro event member call moves same stage
    refine ⟨fruitless event member call moves same (.inr stage), ?_⟩
    have step := moved event member call moves
    simp only [Sale.callStep?, moves.2, stage, Sale.conclude, Sale.follow] at step
    obtain ⟨_, told⟩ := Prod.mk.inj (Option.some.inj step)
    rw [← told, same]
    rfl

/-- A coupon of the ledger that the counter does not know has its whole stock. -/
theorem unserved_of_orderly {total : Int} (orderly : Sale.Orderly s notes)
    (unknown : s.stores.counter.tab? coupon = none) (sells : s.stores.ledger.Sells coupon total) :
    Unserved coupon total s := by
  have unsold := orderly.unsold coupon unknown
  obtain ⟨row, member, rfl, rfl⟩ := sells
  have sound := orderly.numbered.sound
  refine ⟨unknown, ⟨row, sound.find? member, ?_, rfl⟩, unsold, ?_⟩
  · have stocked := (sound.stocked row member).2
    rw [unsold.unclaimed] at stocked
    simpa using stocked
  · apply Bool.eq_false_iff.mpr
    intro flagged
    have known := orderly.flagged row.id flagged
    rw [unknown] at known
    cases known

/-- To seed the counter of such a coupon sets its total. -/
theorem Unserved.reseed {total : Int} (unserved : Unserved coupon total s) :
    (s.reseed coupon).1 = .ok total ∧ (s.reseed coupon).2.1 =
      { s with stores := { s.stores with
        counter := s.stores.counter.put coupon ⟨total, []⟩ } } := by
  obtain ⟨unknown, ⟨row, found, rfl, _⟩, _, _⟩ := unserved
  simp [Sale.reseed, Backend.find, Ledger.get, found, Backend.seed, Counter.seed, unknown]

end Reseeding
end CouponSale
