import CouponSale.Proofs.Sale.Overselling
import CouponSale.Proofs.Sale.Unseeded

/-!
What the flags of a sale mean while no counter is seeded twice. A flag is set only at the end of a
claim to which the counter has said that the coupon is out of stock, so that a flagged coupon is
exhausted, and it stays flagged and exhausted whatever happens later. Every claim that comes after
such an answer is refused without any effect.

A creation that fails to seed its counter leaves it to be seeded later, which does no harm. But a
counter that is seeded for a creation still in progress is seeded once more at the end of it, with
the whole stock, be the coupon flagged by then or not.
-/
namespace CouponSale

/-- What may happen to a counter that is seeded once for each coupon. -/
inductive Counter.Next (k : Counter) : Counter → Prop where
  | same : Next k k
  | reserve {coupon : CouponId} {user : UserId} {verdict : Reservation} {l : Counter}
      (reserves : k.Reserves coupon user verdict l) : Next k l
  | seed {coupon : CouponId} (unseeded : k.tab? coupon = none) (total : Int) :
      Next k (k.seed coupon total)

theorem Counter.Next.exhausted {k l : Counter} {coupon : CouponId} (next : k.Next l)
    (exhausted : k.Exhausted coupon) : l.Exhausted coupon := by
  cases next with
  | same => exact exhausted
  | reserve reserves => exact reserves.exhausted exhausted
  | seed unseeded total => exact exhausted.seed unseeded total

namespace Sale

variable {s t : Sale Memory} {notes : List Note} {label : Label}

/-- A move goes on with the counter if it seeds only what the counter does not know. -/
theorem Change.next (change : Change s label t notes)
    (early : ∀ coupon, label = .seed coupon ∨ label = .reseed coupon →
      s.stores.counter.tab? coupon = none) : s.stores.counter.Next t.stores.counter := by
  cases change with
  | aside counter | create _ counter => exact counter ▸ .same
  | reserve reserves => exact .reserve reserves
  | @seed c _ ends counter =>
    rw [counter]
    exact .seed (early c.id (.inl ends)) c.total
  | @reseed coupon again total counter =>
    rw [counter]
    exact .seed (early coupon (.inr again)) total

/-- A coupon that waits for its counter is unknown to it, unless that knew it before, or this move
seeds it again. -/
theorem Change.waits (change : Change s label t notes) (numbered : s.stores.Numbered s.unseeded)
    (apart : (s.unseeded.map Coupon.id).Nodup) {c : Coupon} (member : c ∈ t.unseeded) :
    t.stores.counter.tab? c.id = none ∨
      c ∈ s.unseeded ∧ (s.stores.counter.tab? c.id ≠ none ∨ label = .reseed c.id) := by
  by_cases before : c ∈ s.unseeded ∧ s.stores.counter.tab? c.id ≠ none
  · exact .inr ⟨before.1, .inl before.2⟩
  · have unknown : c ∈ s.unseeded → s.stores.counter.tab? c.id = none := by simpa using before
    cases change with
    | aside counter unseeded =>
      rw [counter]
      exact .inl (unknown (unseeded ▸ member))
    | reserve reserves unseeded => exact .inl (reserves.unseeded (unknown (unseeded ▸ member)))
    | @create new _ counter _ unseeded =>
      rw [counter]
      rw [unseeded] at member
      rcases List.mem_append.mp member with old | added
      · exact .inl (unknown old)
      · -- The number is new, so that the counter cannot know it.
        left
        rw [List.mem_singleton.mp added]
        apply Option.not_isSome_iff_eq_none.mp
        intro known
        have bound := numbered.seeded _ known
        simp only [Ledger.create] at bound
        omega
    | @seed ended here _ counter unseeded =>
      rw [unseeded] at member
      rw [counter, Counter.tab?_seed_other (ne_of_mem_erase apart here member)]
      exact .inl (unknown (List.mem_of_mem_erase member))
    | @reseed coupon again total counter unseeded =>
      rw [unseeded] at member
      by_cases same : c.id = coupon
      · exact .inr ⟨member, .inr (same ▸ again)⟩
      · rw [counter, Counter.tab?_seed_other same]
        exact .inl (unknown member)

/-- What the counter says to be out of stock is exhausted. -/
theorem Move.told (move : Move s label t notes) {n : Nat} {call : Call}
    (found : t.call? n = some call) (told : call.stage = .told (.ok .outOfStock)) :
    s.call? n = some call ∨ t.stores.counter.Exhausted call.coupon := by
  cases own : (MemorySale.Label.move label).isOf n with
  | false => exact .inl ((move.aside own).1 ▸ found)
  | true =>
    cases move with
    | refuse => exact .inl found
    | @ask opened due expiry asks new =>
      obtain rfl : opened.number = n := by simpa [MemorySale.Label.isOf] using own
      have opens : (s.calls ++ [opened]).find? (·.number = opened.number) = some opened := by
        rw [List.find?_append, show s.calls.find? (·.number = opened.number) = none from new]
        simp
      obtain rfl := Option.some.inj (opens.symm.trans found)
      rw [asks] at told
      cases told
    | @hear heard due expiry here asks ripe =>
      obtain rfl : heard.number = n := by simpa [MemorySale.Label.isOf] using own
      obtain rfl := Option.some.inj ((call?_setStage_own here).symm.trans found)
      have said : (s.stores.reserve heard.coupon heard.user).1 = .ok .outOfStock :=
        Call.Stage.told.inj told
      rcases s.stores.reserve_cases heard.coupon heard.user with
        ⟨failed, _⟩ | ⟨_, verdict, reserves⟩
      · rw [failed] at said
        cases said
      · rw [said] at verdict
        cases verdict
        exact .inr reserves.outOfStock_exhausted
    | @expire heard due expiry here asks late =>
      obtain rfl : heard.number = n := by simpa [MemorySale.Label.isOf] using own
      obtain rfl := Option.some.inj ((call?_setStage_own here).symm.trans found)
      cases told
    | @fail ended e here said | @decide ended e here said =>
      obtain rfl : ended.number = n := by simpa [MemorySale.Label.isOf] using own
      rw [call?_dropCall, if_pos rfl] at found
      cases found
    | manage => exact .inl found
    | _ => simp [MemorySale.Label.isOf] at own

end Sale

namespace Reseeding

/-- The coupon whose counter an event seeds again. -/
def Event.reseeded? (event : Event) : Option CouponId :=
  match event.label with
  | .sale (.move (.reseed coupon)) => some coupon
  | _ => none

/-- The coupon that an event seeds again while its creation is in progress. -/
def Event.interrupted? (event : Event) : Option CouponId :=
  event.reseeded?.filter (· ∈ event.before.unseeded.map Coupon.id)

/-- The coupon whose creation an event ends by seeding its counter. -/
def Event.launched? (event : Event) : Option CouponId :=
  match event.label with
  | .sale (.move (.seed coupon)) => some coupon
  | _ => none

/-- Coupons are seeded again only while the counter does not know them, and no creation seeds a
counter that was seeded again while it was in progress. -/
structure SeededOnce (events : List Event) : Prop where
  reseeds : ∀ event ∈ events, ∀ coupon ∈ event.reseeded?, event.Early coupon
  creations : events.Pairwise fun reseed seed =>
    ∀ coupon ∈ reseed.interrupted?, coupon ∉ seed.launched?

instance (coupon : CouponId) (event : Event) : Decidable (event.Early coupon) :=
  inferInstanceAs (Decidable (event.before.stores.counter.tab? coupon = none))

instance (events : List Event) : Decidable (SeededOnce events) :=
  decidable_of_iff ((∀ event ∈ events, ∀ coupon ∈ event.reseeded?, event.Early coupon) ∧
      events.Pairwise fun reseed seed => ∀ coupon ∈ reseed.interrupted?, coupon ∉ seed.launched?)
    ⟨fun ⟨reseeds, creations⟩ => ⟨reseeds, creations⟩, fun once => ⟨once.1, once.2⟩⟩

/-- Ends a claim on a coupon to which the counter has said that it is out of stock. -/
def Event.EndsSoldOut (coupon : CouponId) (event : Event) : Prop :=
  ∃ call, event.Moves call ∧ call.coupon = coupon ∧ call.stage = .told (.ok .outOfStock)

variable {s t : Sale Memory} {notes told : List Note} {label : Label} {coupon : CouponId}
  {events earlier later : List Event} {event : Event} {config : Pool.Config}
  {reserveTimeout : Span} {sink : Sink}

theorem SeededOnce.prefix (once : SeededOnce (earlier ++ later)) : SeededOnce earlier :=
  ⟨fun event member => once.reseeds event (List.mem_append_left _ member),
    (List.pairwise_append.mp once.creations).1⟩

/-! Which counters are seeded -/

/-- The coupons that wait for their counters. The counter knows one only if it was seeded again in
the meantime. -/
structure Creating (events : List Event) (s : Sale Memory) : Prop where
  numbered : s.stores.Numbered s.unseeded
  apart : (s.unseeded.map Coupon.id).Nodup
  waits : ∀ c ∈ s.unseeded, s.stores.counter.tab? c.id = none ∨
    ∃ event ∈ events, c.id ∈ event.interrupted?

theorem new_creating (config : Pool.Config) (reserveTimeout : Span) (sink : Sink) :
    Creating [] (.new config reserveTimeout (.new sink)) where
  numbered := (Sale.new_orderly config reserveTimeout sink).numbered
  apart := List.nodup_nil
  waits _ member := absurd member List.not_mem_nil

theorem Creating.step (creating : Creating events s) (step : step? s label = some (t, told)) :
    Creating (events ++ [⟨s, label, t, told⟩]) t := by
  obtain ⟨numbered, apart, waits⟩ := creating
  have waits : ∀ c ∈ s.unseeded, s.stores.counter.tab? c.id = none ∨
      ∃ event ∈ events ++ [⟨s, label, t, told⟩], c.id ∈ event.interrupted? := by
    intro c member
    refine (waits c member).imp_right ?_
    rintro ⟨event, here, interrupted⟩
    exact ⟨event, List.mem_append_left _ here, interrupted⟩
  cases step?_move step with
  | sale move =>
    refine ⟨(move.numbered numbered).1, move.change.apart numbered apart, fun c member => ?_⟩
    rcases move.change.waits numbered apart member with unknown | ⟨here, known | again⟩
    · exact .inl unknown
    · exact .inr ((waits c here).resolve_left known)
    · refine .inr ⟨_, List.mem_append_right _ (List.mem_singleton_self _), ?_⟩
      have listed : c.id ∈ s.unseeded.map Coupon.id := List.mem_map_of_mem here
      rw [again]
      exact Option.mem_filter_iff.mpr ⟨rfl, decide_eq_true listed⟩
  | @set setting =>
    obtain ⟨counter, ledger⟩ := s.stores.adjust_frame setting
    refine ⟨numbered.same (fun _ known => counter ▸ known) ledger, apart, ?_⟩
    rw [counter]
    exact waits
  | failSeed =>
    exact ⟨numbered.fewer List.erase_subset, apart.sublist (List.erase_sublist.map _),
      fun c member => waits c (List.mem_of_mem_erase member)⟩
  | failReseed => exact ⟨numbered, apart, waits⟩

/-- While no counter is seeded twice, the counter only goes on. -/
theorem Creating.next (creating : Creating events s) (step : step? s label = some (t, told))
    (once : SeededOnce (events ++ [⟨s, label, t, told⟩])) :
    s.stores.counter.Next t.stores.counter := by
  have last := List.mem_append_right events (List.mem_singleton_self (⟨s, label, t, told⟩ : Event))
  cases step?_move step with
  | @sale label _ _ move =>
    refine move.change.next ?_
    rintro coupon (rfl | rfl)
    · cases move with
      | manage same => cases same
      | @seed _ c found =>
        have here := List.mem_of_find?_eq_some found
        obtain rfl : c.id = coupon := by simpa using List.find?_some found
        refine (creating.waits c here).resolve_right ?_
        rintro ⟨event, member, interrupted⟩
        exact (List.pairwise_append.mp once.creations).2.2 event member _
          (List.mem_singleton_self _) c.id interrupted rfl
    · exact once.reseeds _ last coupon rfl
  | @set setting => exact (s.stores.adjust_frame setting).1 ▸ .same
  | failSeed | failReseed => exact .same

/-! What is flagged -/

/-- A flagged coupon is exhausted, and so is one that a claim was told to be out of stock. -/
structure Truthful (s : Sale Memory) : Prop where
  flagged : ∀ coupon, s.soldOut.check coupon = true → s.stores.counter.Exhausted coupon
  told : ∀ n call, s.call? n = some call → call.stage = .told (.ok .outOfStock) →
    s.stores.counter.Exhausted call.coupon

theorem new_truthful (config : Pool.Config) (reserveTimeout : Span) (sink : Sink) :
    Truthful (.new config reserveTimeout (.new sink)) where
  flagged := by simp [Sale.new, SoldOut.check, SoldOut.empty]
  told := by simp [Sale.new, Sale.call?]

/-- What a move does to the flags. -/
theorem step?_soldOut (step : step? s label = some (t, told)) :
    t.soldOut = s.soldOut ∨ ∃ call, Event.Moves call ⟨s, label, t, told⟩ ∧
      call.stage = .told (.ok .outOfStock) ∧ t.soldOut = (s.soldOut.mark call.coupon).2 := by
  cases step?_move step with
  | sale move =>
    rcases move.soldOut with same | ⟨call, rfl, found, said, marked⟩
    · exact .inl same
    · exact .inr ⟨call, ⟨rfl, found⟩, said, marked⟩
  | _ => exact .inl rfl

/-- What a claim was told that is out of stock, it was told before, or it is exhausted. -/
theorem step?_told (step : step? s label = some (t, told)) {n : Nat} {call : Call}
    (found : t.call? n = some call) (said : call.stage = .told (.ok .outOfStock)) :
    s.call? n = some call ∨ t.stores.counter.Exhausted call.coupon := by
  cases step?_move step with
  | sale move => exact move.told found said
  | _ => exact .inl found

theorem Truthful.step (truthful : Truthful s) (step : step? s label = some (t, told))
    (next : s.stores.counter.Next t.stores.counter) : Truthful t := by
  constructor
  · intro coupon flagged
    rcases step?_soldOut step with same | ⟨call, ⟨_, found⟩, said, marked⟩
    · exact next.exhausted (truthful.flagged coupon (same ▸ flagged))
    · rw [marked, SoldOut.check_mark, Bool.or_eq_true, decide_eq_true_eq] at flagged
      rcases flagged with rfl | flagged
      · exact next.exhausted (truthful.told _ call found said)
      · exact next.exhausted (truthful.flagged coupon flagged)
  · intro n call found said
    rcases step?_told step found said with before | exhausted
    · exact next.exhausted (truthful.told n call before said)
    · exact exhausted

theorem truthful_of_trace (run : Trace step? (.new config reserveTimeout (.new sink)) events s)
    (once : SeededOnce events) : Creating events s ∧ Truthful s := by
  induction run with
  | start =>
    exact ⟨new_creating config reserveTimeout sink, new_truthful config reserveTimeout sink⟩
  | move sofar step ih =>
    obtain ⟨creating, truthful⟩ := ih once.prefix
    exact ⟨creating.step step, truthful.step step (creating.next step once)⟩

theorem flag_stays (step : step? s label = some (t, told))
    (flagged : s.soldOut.check coupon = true) : t.soldOut.check coupon = true := by
  rcases step?_soldOut step with same | ⟨call, _, _, marked⟩
  · rwa [same]
  · rw [marked, SoldOut.check_mark, flagged, Bool.or_true]

/-- A flagged coupon stays flagged. -/
theorem flag_lasts (run : Trace step? s events t) (flagged : s.soldOut.check coupon = true) :
    t.soldOut.check coupon = true ∧ ∀ event ∈ events, event.after.soldOut.check coupon = true := by
  induction run with
  | start => exact ⟨flagged, by simp⟩
  | move sofar step ih =>
    obtain ⟨before, earlier⟩ := ih
    have after := flag_stays step before
    refine ⟨after, ?_⟩
    intro event member
    rcases List.mem_append.mp member with old | new
    · exact earlier event old
    · rwa [List.mem_singleton.mp new]

/-- Only the end of such a claim on the coupon sets its flag. -/
theorem flag_origin (step : step? event.before event.label = some (event.after, event.told))
    (before : event.before.soldOut.check coupon = false)
    (after : event.after.soldOut.check coupon = true) : event.EndsSoldOut coupon := by
  rcases step?_soldOut step with same | ⟨call, moves, said, marked⟩
  · rw [same, before] at after
    cases after
  · refine ⟨call, moves, ?_, said⟩
    simpa [marked, SoldOut.check_mark, before, eq_comm] using after

/-- The end of such a claim leaves the coupon flagged. -/
theorem Event.EndsSoldOut.flags (ends : event.EndsSoldOut coupon)
    (step : step? event.before event.label = some (event.after, event.told)) :
    event.after.soldOut.check coupon = true := by
  obtain ⟨call, ⟨label, found⟩, rfl, said⟩ := ends
  rw [label] at step
  have concluded : some (event.before.conclude call (.ok .outOfStock)) =
      some (event.after, event.told) := by
    simpa [step?, MemorySale.step?, Sale.step?, Sale.callStep?, found, said] using step
  have after : event.after.soldOut = (event.before.soldOut.mark call.coupon).2 :=
    congrArg (·.1.soldOut) (Option.some.inj concluded).symm
  simp [after, SoldOut.check_mark]

/-- A claim on a flagged coupon is refused and does nothing else. -/
theorem claim_flagged {n : Nat} {user : UserId} {admin : Option UserId} (stage : Call.Stage)
    (step : step? s (.sale (.move (.claim n user coupon admin))) = some (t, told))
    (flagged : s.soldOut.check coupon = true) :
    t = s ∧ told = .soldOutHit user coupon ::
      Sale.answerNotes ⟨n, user, coupon, admin, stage⟩ (.ok .outOfStock) := by
  simp only [step?, MemorySale.step?, Sale.step?, Sale.openCall, flagged] at step
  split at step
  · contradiction
  · cases step
    exact ⟨rfl, rfl⟩

/-- Two users claim the only unit of a coupon at one time, when its counter is seeded at last: the
creation failed to, and the first claim of one of them was turned away. Another coupon is created
as usual. The counter has answered both. -/
def lastUnit : List Label :=
  .map (fun label => .sale (.move label))
      [.create ⟨"Opening", 1, 0, ⟨0, 0⟩, ⟨10, 0⟩⟩ ⟨0, 0⟩,
        .create ⟨"Encore", 5, 0, ⟨0, 0⟩, ⟨10, 0⟩⟩ ⟨0, 0⟩, .seed ⟨2⟩] ++
    [.failSeed ⟨1⟩ (.counterUnavailable "down")] ++
    .map (fun label => .sale (.move label))
      [.claim 0 ⟨7⟩ ⟨1⟩ none, .call 0, .call 0, .reseed ⟨1⟩, .claim 1 ⟨7⟩ ⟨1⟩ none,
        .claim 2 ⟨8⟩ ⟨1⟩ none, .call 1, .call 2, .call 1]

/-- A coupon with one unit is written, and seeded again before its creation has seeded it. The unit
is sold, another user is told so, and then the creation ends. -/
def hastyReseed : List Label :=
  .map (fun label => .sale (.move label))
    [.create ⟨"Opening", 1, 0, ⟨0, 0⟩, ⟨10, 0⟩⟩ ⟨0, 0⟩, .reseed ⟨1⟩, .claim 0 ⟨7⟩ ⟨1⟩ none,
      .claim 1 ⟨8⟩ ⟨1⟩ none, .call 0, .call 1, .call 0, .call 1, .seed ⟨1⟩]

end Reseeding
end CouponSale
