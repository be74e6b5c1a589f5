import CouponSale.Proofs.Sale.Hindsight

/-!
A creation that wrote its coupon and could not seed its counter. Until somebody seeds the counter
again, claims on the coupon are turned away without a trace, and the coupon has its whole stock;
from then on the sale is what it would be had the counter been seeded at once.
-/
namespace CouponSale.Reseeding

/-- Writes a coupon and fails to seed its counter, with nothing in between. -/
def failCreate (e : Failure) (s : Sale Memory) (c : NewCoupon) (now : Moment) :
    Sale.Answered Memory Coupon :=
  @Sale.create Memory (Memory.seedless e) s c now

/-- Ends a claim on a coupon that has been turned away. -/
def Event.Dismisses (coupon : CouponId) (event : Event) : Prop :=
  ∃ call, event.Moves call ∧ call.coupon = coupon ∧ call.stage = .told (.ok .notSeeded)

/-- The same sale but for how often the counter was asked, for claims on a coupon that have been
turned away and are still to be ended, and for a creation of it that is still to end. -/
structure Alike (coupon : CouponId) (s t : Sale Memory) : Prop where
  counter : ∀ other, t.stores.counter.tab? other = s.stores.counter.tab? other
  stores : t.stores = s.stores.recast t.stores.counter t.stores.reserving.calls
  soldOut : t.soldOut = s.soldOut
  pool : t.pool = s.pool
  reserveTimeout : t.reserveTimeout = s.reserveTimeout
  calls : t.calls = s.calls.filter fun call => !(call.coupon = coupon && call.unknown)
  unseeded : t.unseeded = s.unseeded.filter (·.id ≠ coupon)

variable {s t u : Sale Memory} {notes more : List Note} {coupon : CouponId} {total : Int}
  {events later : List Event} {event : Event} {label : Label} {n : Nat} {call : Call}

theorem Mended.alike (mended : Mended coupon total [] s t)
    (known : s.stores.counter.tab? coupon ≠ none) : Alike coupon s t := by
  obtain ⟨counter⟩ := mended
  refine ⟨?_, rfl, rfl, rfl, rfl, ?_, rfl⟩
  · intro other
    apply counter.same
    by_cases about : other = coupon
    · exact .inr (about ▸ known)
    · exact .inl about
  · apply List.filter_congr
    intro call _
    unfold turnedAway Call.unknown
    cases call.stage <;> rfl

/-- What is known of the sales of a run in which a coupon was written. -/
def Written (coupon : CouponId) (total : Int) (s : Sale Memory) : Prop :=
  (∃ notes, Sale.Orderly s notes) ∧ s.stores.ledger.Sells coupon total

theorem Written.step (written : Written coupon total s) (step : step? s label = some (t, more)) :
    Written coupon total t := by
  obtain ⟨⟨notes, orderly⟩, sells⟩ := written
  have move := step?_move step
  exact ⟨⟨_, move.orderly orderly⟩, move.sells sells⟩

theorem Written.run (written : Written coupon total s) (moves : Trace step? s events t) :
    Written coupon total t := by
  induction moves with
  | start => exact written
  | move sofar step ih => exact ih.step step

/-- A coupon that the ledger has was numbered by it. -/
theorem Written.listed (written : Written coupon total s) :
    coupon.number ≤ s.stores.ledger.coupons.length := by
  obtain ⟨⟨notes, orderly⟩, row, member, rfl, _⟩ := written
  exact orderly.numbered.sound.numbered row member

theorem Written.unserved (written : Written coupon total s)
    (unknown : s.stores.counter.tab? coupon = none) : Unserved coupon total s := by
  obtain ⟨⟨notes, orderly⟩, sells⟩ := written
  exact unserved_of_orderly orderly unknown sells

/-- Hindsight follows a whole run. -/
theorem Mended.run (mended : Mended coupon total events s u) (written : Written coupon total s)
    (moves : Trace step? s events t)
    (unseeded : ∀ event ∈ events, event.label ≠ .sale (.move (.seed coupon))) :
    ∃ others v, Trace step? u others v ∧
      others.map Transition.label = (kept coupon events).map Transition.label ∧
      others.map Transition.told = (kept coupon events).map Transition.told ∧
      Mended coupon total [] t v := by
  induction events generalizing s u with
  | nil =>
    obtain rfl := moves.of_nil
    exact ⟨[], u, .start, rfl, rfl, mended⟩
  | cons event later ih =>
    obtain ⟨rfl, step, rest⟩ := moves.uncons
    obtain ⟨notes, orderly⟩ := written.1
    have whole : event.before.stores.counter.tab? coupon = none →
        ∃ row, event.before.stores.ledger.find? coupon = some row ∧ row.stock = total := by
      intro unknown
      obtain ⟨row, found, stock, _⟩ := (written.unserved unknown).row
      exact ⟨row, found, stock⟩
    have follows := mended.follow step orderly.granted.numbered written.listed whole
      (unseeded event List.mem_cons_self)
    have others (v : Sale Memory) (mended : Mended coupon total later event.after v) :=
      ih mended (written.step step) rest fun next member =>
        unseeded next (List.mem_cons_of_mem event member)
    unfold Follows at follows
    unfold kept
    split at follows
    · rename_i leaves
      rw [if_pos leaves]
      exact others u follows
    · rename_i keeps
      rw [if_neg keeps]
      obtain ⟨v, moved, mended⟩ := follows
      obtain ⟨others, w, trace, labels, told, ends⟩ := others v mended
      refine ⟨⟨u, event.label, v, event.told⟩ :: others, w, .cons moved trace, ?_, ?_, ends⟩
      · rw [List.map_cons, List.map_cons, labels]
      · rw [List.map_cons, List.map_cons, told]

/-- A claim stays as it is until it moves on. -/
theorem Move.call?_kept (move : Move s label t more) (found : s.call? n = some call)
    (other : label.called? ≠ some n) : t.call? n = some call := by
  cases move with
  | set | failSeed | failReseed => exact found
  | @sale label _ _ move =>
    cases own : (MemorySale.Label.move label).isOf n with
    | false => exact (move.aside own).1.trans found
    | true =>
      cases move with
      | refuse => exact found
      | @ask opened due expiry asks new =>
        obtain rfl : opened.number = n := by simpa [MemorySale.Label.isOf] using own
        simp [new] at found
      | hear | expire | fail | decide =>
        exact absurd (by simpa [MemorySale.Label.isOf, Label.called?] using own) other
      | manage same => cases label <;> simp_all [MemorySale.Label.isOf, Sale.Label.pool?]
      | _ => simp [MemorySale.Label.isOf] at own

theorem Label.of_called? (calls : label.called? = some n) : label = .sale (.move (.call n)) := by
  unfold Label.called? at calls
  split at calls
  · cases calls
    rfl
  · cases calls

theorem told_known {due expiry : Nat} (move : Sale.Move s (.call n) t more)
    (found : s.call? n = some call) (asks : call.stage = .asking due expiry)
    (known : (s.stores.counter.tab? call.coupon).isSome) :
    (t.call? n).any Call.unknown = false := by
  cases move with
  | @hear heard _ _ here _ ripe =>
    obtain rfl := Option.some.inj (here.symm.trans found)
    have told : Call.unknown { heard with
        stage := .told (s.stores.reserve heard.coupon heard.user).1 } = false := by
      apply Bool.eq_false_iff.mpr
      intro unknown
      rcases s.stores.reserve_cases heard.coupon heard.user with
        ⟨failed, _⟩ | ⟨verdict, said, reserves⟩
      · simp [Call.unknown, failed] at unknown
      · rw [said] at unknown
        generalize (s.stores.reserve heard.coupon heard.user).2.counter = l at reserves
        cases reserves with
        | notSeeded none => simp [none] at known
        | _ => simp [Call.unknown] at unknown
    exact (congrArg (Option.any Call.unknown) (Sale.call?_setStage_own here)).trans told
  | @expire heard _ _ here _ late =>
    exact congrArg (Option.any Call.unknown) (Sale.call?_setStage_own here)
  | fail here told | decide here told =>
    obtain rfl := Option.some.inj (here.symm.trans found)
    rw [asks] at told
    cases told
  | manage same => simp [Sale.Label.pool?] at same

/-- The counter never tells a claim that it does not know the coupon once it knows it. -/
theorem willBeUnknown_known {due expiry : Nat} (written : Written coupon total s)
    (moves : Trace step? s later t) (found : s.call? n = some call) (same : call.coupon = coupon)
    (asks : call.stage = .asking due expiry) (known : (s.stores.counter.tab? coupon).isSome) :
    willBeUnknown n later = false := by
  induction later generalizing s with
  | nil => rfl
  | cons event later ih =>
    obtain ⟨rfl, step, rest⟩ := moves.uncons
    obtain ⟨notes, orderly⟩ := written.1
    have move := step?_move step
    rw [willBeUnknown]
    split
    · rename_i calls
      rw [Label.of_called? calls] at step
      exact told_known (Sale.callStep?_move step) found asks (same ▸ known)
    · rename_i other
      exact ih (written.step step) rest (move.call?_kept found other) (move.known orderly known)

/-- A claim that was just opened waits for the counter. -/
theorem claim_asks {user : UserId} {about : CouponId} {admin : Option UserId}
    (step : step? s (.sale (.move (.claim n user about admin))) = some (t, more))
    (found : t.call? n = some call) : ∃ due expiry, call.stage = .asking due expiry := by
  obtain ⟨fresh, ⟨rfl, _⟩ | ⟨_, due, expiry, rfl⟩⟩ := claim_cases step
  · rw [fresh] at found
    cases found
  · have fresh : s.calls.find? (·.number = n) = none := fresh
    simp only [Sale.call?, List.find?_append, fresh, Option.none_or] at found
    obtain rfl : _ = call := by simpa using found
    exact ⟨due, expiry, rfl⟩

/-- From when on the counter knows the coupon, hindsight leaves out the ends of claims that have
been turned away before, and of the creation. -/
theorem dismisses_of_leftOut (written : Written coupon total s)
    (moves : Trace step? s (event :: later) t)
    (known : (event.before.stores.counter.tab? coupon).isSome)
    (leaves : leftOut coupon event later = true) :
    event.Dismisses coupon ∨ ∃ e, event.label = .failSeed coupon e := by
  obtain ⟨rfl, step, rest⟩ := moves.uncons
  obtain ⟨notes, orderly⟩ := written.1
  have move := step?_move step
  unfold leftOut at leaves
  split at leaves
  · rename_i n user about admin label
    obtain ⟨call, found, turned⟩ := (Option.any_eq_true _ _).mp leaves
    have opened := step
    rw [label] at opened
    obtain ⟨due, expiry, asks⟩ := claim_asks opened found
    simp only [turnedAway, asks, Bool.and_eq_true, decide_eq_true_eq] at turned
    rw [Sale.call?_number found, willBeUnknown_known (written.step step) rest found turned.1 asks
      (move.known orderly known)] at turned
    cases turned.2
  · rename_i n label
    obtain ⟨call, found, turned⟩ := (Option.any_eq_true _ _).mp leaves
    obtain rfl := Sale.call?_number found
    cases stage : call.stage with
    | told verdict =>
      obtain ⟨same, rfl⟩ := (turnedAway_told stage).mp turned
      exact .inl ⟨call, ⟨label, found⟩, same, stage⟩
    | asking due expiry =>
      simp only [turnedAway, stage, Bool.and_eq_true, decide_eq_true_eq] at turned
      rw [willBeUnknown_known written moves found turned.1 stage known] at turned
      cases turned.2
  · rename_i other label
    simp only [Bool.and_eq_true, decide_eq_true_eq, Option.isNone_iff_eq_none] at leaves
    rw [leaves.2] at known
    cases known
  · rename_i other e label
    simp only [decide_eq_true_eq] at leaves
    exact .inr ⟨e, leaves ▸ label⟩
  · cases leaves

/-- A sale without the claims on a coupon that are turned away. -/
def spare (coupon : CouponId) (events : List Event) (s : Sale Memory) : Sale Memory :=
  { s with calls := served coupon events s.calls }

section Creation

variable {c : NewCoupon} {now : Moment} (valid : c.validate now = .ok ())

include valid

theorem openCoupon_eq (s : Sale Memory) : s.openCoupon c now =
    ({ s with
      stores := { s.stores with ledger := (s.stores.ledger.create c).2 }
      unseeded := s.unseeded ++ [(s.stores.ledger.create c).1] }, []) := by
  unfold Sale.openCoupon Sale.writeCoupon
  rw [valid]
  rfl

theorem create_eq (s : Sale Memory) : s.create c now =
    (.ok (s.stores.ledger.create c).1,
      { s with stores := { s.stores with
        ledger := (s.stores.ledger.create c).2
        counter := s.stores.counter.seed s.stores.ledger.nextId c.total } },
      [.couponCreated (s.stores.ledger.create c).1]) := by
  unfold Sale.create Sale.writeCoupon
  rw [valid]
  rfl

theorem failCreate_eq (e : Failure) (s : Sale Memory) : failCreate e s c now =
    (.error e, { s with stores := { s.stores with ledger := (s.stores.ledger.create c).2 } },
      [.seedingFailed (s.stores.ledger.create c).1 e]) := by
  unfold failCreate Sale.create Sale.writeCoupon
  rw [valid]
  rfl

variable (orderly : Sale.Orderly s notes)

include orderly

omit valid in
/-- No creation in progress is of the next coupon. -/
theorem unseeded_fresh : ∀ d ∈ s.unseeded, d.id ≠ s.stores.ledger.nextId := by
  intro d member same
  have bound := orderly.numbered.waits d member
  rw [same] at bound
  simp only [Ledger.nextId] at bound
  omega

omit valid in
theorem next_unknown : s.stores.counter.tab? s.stores.ledger.nextId = none := by
  apply Option.not_isSome_iff_eq_none.mp
  intro known
  have bound := orderly.numbered.seeded _ known
  simp only [Ledger.nextId] at bound
  omega

/-- To fail to seed the counter ends the creation that was begun. -/
theorem failSeed_step (e : Failure) :
    step? (s.openCoupon c now).1 (.failSeed s.stores.ledger.nextId e) =
      some (failCreate e s c now).2 := by
  have fresh := unseeded_fresh orderly
  have own : (s.stores.ledger.create c).1.id = s.stores.ledger.nextId := rfl
  have none : s.unseeded.find? (·.id = s.stores.ledger.nextId) = none :=
    List.find?_eq_none.mpr fun d member => by simpa using fresh d member
  have found : (s.unseeded ++ [(s.stores.ledger.create c).1]).find?
      (·.id = s.stores.ledger.nextId) = some (s.stores.ledger.create c).1 := by
    rw [List.find?_append, none]
    simp [own]
  have gone : (s.unseeded ++ [(s.stores.ledger.create c).1]).erase (s.stores.ledger.create c).1 =
      s.unseeded := by
    rw [List.erase_append_right]
    · simp
    · intro member
      exact fresh _ member own
  rw [openCoupon_eq valid, failCreate_eq valid]
  show (List.find? _ _).map _ = _
  rw [found, Option.map_some, gone]
  rfl

theorem written_openCoupon : Written s.stores.ledger.nextId c.total (s.openCoupon c now).1 := by
  have step : step? s (.sale (.move (.create c now))) = some (s.openCoupon c now) := rfl
  rw [openCoupon_eq valid] at step ⊢
  exact ⟨⟨_, (step?_move step).orderly orderly⟩, _, List.mem_append_right _ List.mem_cons_self, rfl,
    rfl⟩

/-- The two runs start alike but for the counter. -/
theorem mended_create (events : List Event) :
    Mended s.stores.ledger.nextId c.total events (s.openCoupon c now).1
      ((spare s.stores.ledger.nextId events s).create c now).2.1 := by
  have unknown := next_unknown orderly
  have counter : s.stores.counter.Mended s.stores.ledger.nextId c.total
      (s.stores.counter.seed s.stores.ledger.nextId c.total) := by
    intro other
    rw [Counter.seed, Counter.tab?_put, unknown]
    by_cases same : other = s.stores.ledger.nextId
    · simp [same, unknown]
    · simp [same]
  have waits : (s.unseeded ++ [(s.stores.ledger.create c).1]).filter
      (·.id ≠ s.stores.ledger.nextId) = s.unseeded := by
    rw [List.filter_append, List.filter_eq_self.mpr]
    · simp [Ledger.create, Ledger.nextId]
    · intro d member
      exact decide_eq_true (unseeded_fresh orderly d member)
  rw [openCoupon_eq valid, create_eq valid]
  have same : hindsight s.stores.ledger.nextId events
      (s.stores.counter.seed s.stores.ledger.nextId c.total) s.stores.reserving.calls
      { s with
        stores := { s.stores with ledger := (s.stores.ledger.create c).2 }
        unseeded := s.unseeded ++ [(s.stores.ledger.create c).1] } =
      { spare s.stores.ledger.nextId events s with stores := { s.stores with
        ledger := (s.stores.ledger.create c).2
        counter := s.stores.counter.seed s.stores.ledger.nextId c.total } } := by
    rw [hindsight, waits]
    rfl
  exact same ▸ .intro counter

end Creation

variable {config : Pool.Config} {reserveTimeout : Span} {sink : Sink} {c : NewCoupon}
  {now : Moment}

/-- What a creation comes to that writes its coupon and fails to seed its counter. It returns the
failure, and leaves the coupon with its whole stock and without a counter, at whatever time of the
run that happens. As long as the counter is not seeded, claims on the coupon that the counter
answers are turned away as out of stock, and change neither the counter nor the ledger, the pool or
the flags. To seed the counter again returns the total. The run makes the same moves, and reports
the same at each of them, as one without the claims turned away in which the creation has seeded the
counter at once, but for the moves of those claims and that seeding; and once the counter is seeded
the two are in the same state, and only claims that have been turned away are still to be ended in
the one. -/
theorem failed_seeding_recovers (run : Reachable config reserveTimeout sink notes s)
    (valid : c.validate now = .ok ()) (moves : Trace step? (s.openCoupon c now).1 events t)
    (unseeded : ∀ event ∈ events,
      event.label ≠ .sale (.move (.seed s.stores.ledger.nextId))) :
    (∀ e, (failCreate e s c now).1 = .error e ∧
      Unserved s.stores.ledger.nextId c.total (failCreate e s c now).2.1 ∧
      step? (s.openCoupon c now).1 (.failSeed s.stores.ledger.nextId e) =
        some (failCreate e s c now).2) ∧
    TurnedAway s.stores.ledger.nextId events ∧
    (t.stores.counter.tab? s.stores.ledger.nextId = none →
      Unserved s.stores.ledger.nextId c.total t ∧
        (t.reseed s.stores.ledger.nextId).1 = .ok c.total) ∧
    (∃ others u,
      Trace step? ((spare s.stores.ledger.nextId events s).create c now).2.1 others u ∧
      others.map Transition.label =
        (kept s.stores.ledger.nextId events).map Transition.label ∧
      others.map Transition.told = (kept s.stores.ledger.nextId events).map Transition.told ∧
      (t.stores.counter.tab? s.stores.ledger.nextId ≠ none →
        Alike s.stores.ledger.nextId t u)) ∧
    ∀ (earlier later : List Event) (event : Event), events = earlier ++ event :: later →
      ¬ event.Early s.stores.ledger.nextId →
      leftOut s.stores.ledger.nextId event later = true →
      event.Dismisses s.stores.ledger.nextId ∨
        ∃ e, event.label = .failSeed s.stores.ledger.nextId e := by
  have orderly := run.orderly
  have written := written_openCoupon valid orderly
  refine ⟨?_, ?_, ?_, ?_, ?_⟩
  · intro e
    have ends := failSeed_step valid orderly e
    rw [failCreate_eq valid] at ends ⊢
    exact ⟨rfl, (written.step ends).unserved (next_unknown orderly), ends⟩
  · apply turnedAway_of_orderly
    · intro event member
      obtain ⟨earlier, later, rfl⟩ := List.append_of_mem member
      exact (written.run moves.at_move.1).1
    · intro event member
      obtain ⟨earlier, later, rfl⟩ := List.append_of_mem member
      exact moves.at_move.2.1
  · intro unknown
    have unserved := (written.run moves).unserved unknown
    exact ⟨unserved, unserved.reseed.1⟩
  · obtain ⟨others, u, trace, labels, told, mended⟩ :=
      (mended_create valid orderly events).run written moves unseeded
    exact ⟨others, u, trace, labels, told, mended.alike⟩
  · rintro earlier later event rfl late leaves
    obtain ⟨u, first, rest⟩ := moves.split
    refine dismisses_of_leftOut (written.run first) rest ?_ leaves
    exact Option.isSome_iff_ne_none.mpr late

/-- A coupon of one unit. -/
def single : NewCoupon := ⟨"Opening", 1, 0, ⟨0, 0⟩, ⟨10, 0⟩⟩

/-- The counter of a coupon is seeded late. Of two claims that come too early, one is told so, and
the other is heard only when the counter is seeded. -/
def lateSeeding : List Label :=
  [.failSeed ⟨1⟩ (.counterUnavailable "down"), .sale (.move (.claim 0 ⟨7⟩ ⟨1⟩ none)),
    .sale (.move (.call 0)), .sale (.move (.claim 1 ⟨8⟩ ⟨1⟩ none)),
    .sale (.move (.reseed ⟨1⟩)), .sale (.move (.call 0)), .sale (.move (.call 1)),
    .sale (.move (.call 1))]

/-- Does not end a creation with its counter seeded. -/
def Label.unseeding : Label → Bool
  | .sale (.move (.seed _)) => false
  | _ => true

/-- In hindsight only the second claim happens. -/
theorem failed_seeding_recovers_lateSeeding : ∃ events t others u,
    Trace step? ((Sale.new .standard Sale.standardTimeout (.new .recording)).openCoupon single
      ⟨0, 0⟩).1 events t ∧ events.length = 8 ∧ t.stores.counter.remaining? ⟨1⟩ = some 0 ∧
    TurnedAway ⟨1⟩ events ∧
    Trace step? ((spare ⟨1⟩ events (Sale.new .standard Sale.standardTimeout
      (.new .recording))).create single ⟨0, 0⟩).2.1 others u ∧ others.length = 3 ∧
    Alike ⟨1⟩ t u := by
  have valid : single.validate ⟨0, 0⟩ = .ok () := by decide +kernel
  have ends : (trace? step? ((Sale.new .standard Sale.standardTimeout
      (.new .recording)).openCoupon single ⟨0, 0⟩).1 lateSeeding).any (fun (events, t) =>
        events.length = 8 && t.stores.counter.remaining? ⟨1⟩ = some 0 &&
          events.all (·.label.unseeding) && (kept ⟨1⟩ events).length = 3) = true := by
    rw [openCoupon_eq valid]
    decide +kernel
  obtain ⟨⟨events, t⟩, traced, ends⟩ := (Option.any_eq_true _ _).mp ends
  simp only [Bool.and_eq_true, decide_eq_true_eq, List.all_eq_true] at ends
  obtain ⟨⟨⟨eight, none⟩, unseeding⟩, three⟩ := ends
  have moves := Trace.of_trace? traced
  have recovers := failed_seeding_recovers (.refl _) valid moves (by
    intro event member label
    have kept := unseeding event member
    rw [label] at kept
    cases kept)
  have first : (Sale.new .standard Sale.standardTimeout
      (Memory.new .recording)).stores.ledger.nextId = ⟨1⟩ := rfl
  rw [first] at recovers
  obtain ⟨_, turned, _, ⟨others, u, trace, labels, _, alike⟩, _⟩ := recovers
  refine ⟨events, t, others, u, moves, eight, none, turned, trace, ?_, ?_⟩
  · have lengths := congrArg List.length labels
    rw [List.length_map, List.length_map] at lengths
    exact lengths.trans three
  · apply alike
    intro unknown
    simp [Counter.remaining?, unknown] at none

end CouponSale.Reseeding
