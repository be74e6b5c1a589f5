import CouponSale.Proofs.Sale.Balance
import CouponSale.Proofs.Sale.Reseeding
import CouponSale.Proofs.Sale.Whereabouts

/-!
What it costs to seed the counter of a coupon again. The counter then sells again what is reserved
without a row: at most so many claims more than the total succeed, as long as it is not seeded once
more. Other coupons may be seeded again all the time; the account of one coupon is kept apart from
theirs.
-/
namespace CouponSale

/-- To write what is there changes nothing. -/
theorem Keyed.put_same {α β : Type} [DecidableEq α] {key : α} {value : β} {l : List (α × β)}
    (there : l.lookup key = some value) : put key value l = l := by
  induction l with
  | nil => cases there
  | cons entry rest ih =>
    obtain ⟨k, v⟩ := entry
    by_cases same : key = k
    · subst same
      simp_all [put]
    · have differs : (key == k) = false := by simp [same]
      simp only [List.lookup_cons, differs] at there
      rw [put, if_neg same, ih there]

theorem Counter.seed_same {k : Counter} {coupon : CouponId} {tab : Tab}
    (seeded : k.tab? coupon = some tab) : k.seed coupon tab.stock = k := by
  rw [Counter.seed, seeded]
  exact congrArg Counter.mk (Keyed.put_same seeded)

theorem Counter.Reserves.nodup {k l : Counter} {coupon other : CouponId} {user : UserId}
    {verdict : Reservation} (reserves : k.Reserves coupon user verdict l)
    (once : (k.holders other).Nodup) : (l.holders other).Nodup := by
  cases reserves with
  | @claimed tab seeded free more =>
    rw [holders_put]
    split
    · rename_i same
      subst same
      rw [holders, seeded] at once
      exact List.nodup_cons.mpr ⟨free, once⟩
    · exact once
  | _ => exact once

namespace Sale

/-- What holds of every sale: coupons are numbered apart, those that wait for their counters are in
the ledger with their totals, as are those that were created, and nobody has two reservations for
one coupon. -/
structure Booked (s : Sale Memory) (notes : List Note) : Prop where
  numbered : s.stores.Numbered s.unseeded
  apart : (s.unseeded.map Coupon.id).Nodup
  waits : ∀ c ∈ s.unseeded, 0 ≤ c.total ∧ s.stores.ledger.Sells c.id c.total
  once : ∀ coupon, (s.stores.counter.holders coupon).Nodup
  created : ∀ c, .couponCreated c ∈ notes →
    (s.stores.counter.tab? c.id).isSome ∧ s.stores.ledger.Sells c.id c.total

/-- The counter of a coupon has been seeded, and what it has left and has reserved come to a sum. -/
structure Level (coupon : CouponId) (sum : Int) (s : Sale Memory) : Prop where
  counted : ∃ tab, s.stores.counter.tab? coupon = some tab ∧ 0 ≤ tab.stock ∧
    tab.stock + tab.claimed.length = sum
  settled : ∀ c ∈ s.unseeded, c.id ≠ coupon

variable {s t : Sale Memory} {notes more : List Note} {label : Label} {coupon : CouponId}

/-- What a move does to the counter, and to the creations that wait for it. -/
inductive Change (s : Sale Memory) (label : Label) (t : Sale Memory) (notes : List Note) : Prop where
  | aside (counter : t.stores.counter = s.stores.counter) (unseeded : t.unseeded = s.unseeded)
      (silent : ∀ c, .couponCreated c ∉ notes)
  | reserve {coupon : CouponId} {user : UserId} {verdict : Reservation}
      (reserves : s.stores.counter.Reserves coupon user verdict t.stores.counter)
      (unseeded : t.unseeded = s.unseeded) (silent : ∀ c, .couponCreated c ∉ notes)
  | create {c : NewCoupon} (positive : 0 < c.total)
      (counter : t.stores.counter = s.stores.counter)
      (ledger : t.stores.ledger = (s.stores.ledger.create c).2)
      (unseeded : t.unseeded = s.unseeded ++ [(s.stores.ledger.create c).1])
      (silent : ∀ c, .couponCreated c ∉ notes)
  | seed {c : Coupon} (waits : c ∈ s.unseeded) (ends : label = .seed c.id)
      (counter : t.stores.counter = s.stores.counter.seed c.id c.total)
      (unseeded : t.unseeded = s.unseeded.erase c) (told : notes = [.couponCreated c])
  | reseed {coupon : CouponId} (again : label = .reseed coupon) (total : Int)
      (counter : t.stores.counter = s.stores.counter.seed coupon total)
      (unseeded : t.unseeded = s.unseeded) (silent : ∀ c, .couponCreated c ∉ notes)

theorem uncreated_absorb {part : Pool.Label} {moved : Pool.Moved} (s : Sale Memory)
    (step : s.pool.step? part = some moved) (c : Coupon) :
    .couponCreated c ∉ (s.absorb moved).2 := by
  intro member
  rcases mem_absorb s step _ member with ⟨pools, _⟩ | letter
  · cases pools
  · cases letter

theorem uncreated_answerNotes (call : Call) (answer : Answer Outcome) (c : Coupon) :
    .couponCreated c ∉ answerNotes call answer := by
  unfold answerNotes
  split <;> simp

theorem uncreated_reserveNotes (call : Call) (answer : Answer Reservation) (c : Coupon) :
    .couponCreated c ∉ reserveNotes call answer := by
  cases answer <;> simp [reserveNotes]

theorem uncreated_follow (call : Call) (verdict : Reservation) (c : Coupon) :
    .couponCreated c ∉ (s.follow call verdict).2 := by
  cases verdict with
  | claimed =>
    have submits : s.pool.step? (.submit (.fresh call.user call.coupon)) =
      some (s.pool.submit (.fresh call.user call.coupon)).2 := rfl
    exact uncreated_absorb s submits c
  | outOfStock =>
    simp only [follow, flag]
    split <;> simp
  | _ => simp [follow]

theorem Move.change (move : Move s label t notes) : Change s label t notes := by
  cases move with
  | refuse known => exact .aside rfl rfl (by simp [uncreated_answerNotes])
  | ask asks new => exact .aside rfl rfl (by simp)
  | @hear call due expiry found asks ripe =>
    have silent := uncreated_reserveNotes call (Backend.reserve s.stores call.coupon call.user).1
    rcases s.stores.reserve_cases call.coupon call.user with ⟨_, same⟩ | ⟨verdict, _, reserves⟩
    · exact .aside same rfl silent
    · exact .reserve reserves rfl silent
  | expire found asks late => exact .aside rfl rfl (uncreated_reserveNotes _ _)
  | fail found told => exact .aside rfl rfl (uncreated_answerNotes _ _)
  | decide found told =>
    refine .aside (follow_counter _ _) (follow_unseeded _ _) ?_
    simp [uncreated_follow, uncreated_answerNotes]
  | beginWrite holds step =>
    exact .aside (absorb_counter _ _) rfl
      (uncreated_absorb { s with stores := Backend.beginWrite s.stores } step)
  | @endWrite w draw job due moved writes step =>
    have counter := (s.stores.write_frame job.task.user job.task.coupon).1
    exact .aside ((absorb_counter _ _).trans counter) rfl (uncreated_absorb { s with
      stores := (Backend.write s.stores job.task.user job.task.coupon).2 } step)
  | work apart step => exact .aside (absorb_counter _ _) rfl (uncreated_absorb s step)
  | manage same step => exact .aside (absorb_counter _ _) rfl (uncreated_absorb s step)
  | @create c now =>
    unfold openCoupon writeCoupon
    cases valid : c.validate now with
    | error e => exact .aside rfl rfl (by simp)
    | ok => exact .create (NewCoupon.validate_iff.mp valid).stocked rfl rfl rfl (by simp [Backend.create])
  | @seed coupon c found =>
    obtain rfl : c.id = coupon := by simpa using List.find?_some found
    exact .seed (List.mem_of_find?_eq_some found) rfl rfl rfl rfl
  | @reseed coupon =>
    simp only [Sale.reseed, Backend.find, Ledger.get]
    cases found : s.stores.ledger.find? coupon with
    | none => exact .aside rfl rfl (by simp)
    | some c => exact .reseed rfl c.stock rfl rfl (by simp [Backend.seed])
  | wait => exact .aside rfl rfl (by simp)

/-- Of the creations that wait for their counters, no other has the coupon of the one that ends. -/
theorem ne_of_mem_erase {waiting : List Coupon} (apart : (waiting.map Coupon.id).Nodup)
    {c d : Coupon} (waits : c ∈ waiting) (member : d ∈ waiting.erase c) : d.id ≠ c.id := by
  intro same
  have equal := List.inj_on_of_nodup_map apart (List.mem_of_mem_erase member) waits same
  rw [equal] at member
  exact (List.Nodup.of_map _ apart).not_mem_erase member

/-- A coupon that is created is none of those whose counters are still to be seeded. -/
theorem Change.apart (change : Change s label t more) (numbered : s.stores.Numbered s.unseeded)
    (apart : (s.unseeded.map Coupon.id).Nodup) : (t.unseeded.map Coupon.id).Nodup := by
  cases change with
  | aside _ unseeded | reserve _ unseeded | reseed _ _ _ unseeded => exact unseeded ▸ apart
  | @create c _ _ _ unseeded =>
    rw [unseeded, List.map_append, List.nodup_append]
    refine ⟨apart, by simp, ?_⟩
    intro a member b single same
    obtain ⟨d, here, rfl⟩ := List.mem_map.mp member
    rw [List.map_singleton, List.mem_singleton] at single
    have bound := numbered.waits d here
    rw [same.trans single] at bound
    simp only [Ledger.create] at bound
    omega
  | seed _ _ _ unseeded =>
    rw [unseeded]
    exact apart.sublist (List.erase_sublist.map _)

theorem Booked.move (booked : Booked s notes) (move : Move s label t more) :
    Booked t (notes ++ more) := by
  obtain ⟨numbered, apart, waits, once, created⟩ := booked
  obtain ⟨after, known⟩ := move.numbered numbered
  have distinct := move.change.apart numbered apart
  have sells : ∀ {c : Coupon}, s.stores.ledger.Sells c.id c.total →
      t.stores.ledger.Sells c.id c.total := move.sells
  have earlier : ∀ c, .couponCreated c ∈ notes →
      (t.stores.counter.tab? c.id).isSome ∧ t.stores.ledger.Sells c.id c.total := by
    intro c told
    obtain ⟨seeded, sold⟩ := created c told
    exact ⟨known c.id seeded, sells sold⟩
  have silent : (∀ c, .couponCreated c ∉ more) → ∀ c, .couponCreated c ∈ notes ++ more →
      (t.stores.counter.tab? c.id).isSome ∧ t.stores.ledger.Sells c.id c.total := by
    intro silent c told
    rcases List.mem_append.mp told with old | new
    · exact earlier c old
    · exact absurd new (silent c)
  have waiting : ∀ c ∈ s.unseeded, 0 ≤ c.total ∧ t.stores.ledger.Sells c.id c.total := by
    intro c member
    obtain ⟨enough, sold⟩ := waits c member
    exact ⟨enough, sells sold⟩
  cases move.change with
  | aside counter unseeded quiet =>
    exact ⟨after, distinct, unseeded ▸ waiting, counter ▸ once, silent quiet⟩
  | reserve reserves unseeded quiet =>
    exact ⟨after, distinct, unseeded ▸ waiting, fun coupon => reserves.nodup (once coupon),
      silent quiet⟩
  | @create c positive counter ledger unseeded quiet =>
    refine ⟨after, distinct, ?_, counter ▸ once, silent quiet⟩
    rw [unseeded]
    intro d member
    rcases List.mem_append.mp member with old | new
    · exact waiting d old
    · rw [List.mem_singleton.mp new, ledger]
      exact ⟨Int.le_of_lt positive, _, List.mem_append_right _ (List.mem_singleton_self _), rfl, rfl⟩
  | @seed c here _ counter unseeded told =>
    refine ⟨after, distinct, ?_, ?_, ?_⟩
    · rw [unseeded]
      exact fun d member => waiting d (List.mem_of_mem_erase member)
    · intro other
      rw [counter, Counter.holders_seed]
      exact once other
    · intro d member
      rcases List.mem_append.mp member with old | new
      · exact earlier d old
      · rw [told, List.mem_singleton] at new
        cases new
        refine ⟨?_, (waiting c here).2⟩
        rw [counter, Counter.seed, Counter.tab?_put, if_pos rfl]
        rfl
  | @reseed coupon _ total counter unseeded quiet =>
    refine ⟨after, distinct, unseeded ▸ waiting, ?_, silent quiet⟩
    intro other
    rw [counter, Counter.holders_seed]
    exact once other

/-- The account of a coupon stays level as long as its counter is not seeded again. -/
theorem Level.move {sum : Int} (level : Level coupon sum s) (numbered : s.stores.Numbered s.unseeded)
    (move : Move s label t more) (once : label ≠ .reseed coupon) : Level coupon sum t := by
  obtain ⟨⟨tab, seeded, enough, sums⟩, settled⟩ := level
  have apart : ∀ {other : CouponId} {total : Int}, other ≠ coupon →
      (s.stores.counter.seed other total).tab? coupon = some tab := by
    intro other total differs
    rw [Counter.tab?_seed_other differs.symm]
    exact seeded
  cases move.change with
  | aside counter unseeded => exact ⟨⟨tab, counter ▸ seeded, enough, sums⟩, unseeded ▸ settled⟩
  | @reserve other user verdict reserves unseeded =>
    refine ⟨?_, unseeded ▸ settled⟩
    generalize granted : t.stores.counter = k at reserves
    cases reserves with
    | @claimed held here free more =>
      by_cases same : coupon = other
      · subst same
        obtain rfl := Option.some.inj (seeded.symm.trans here)
        refine ⟨_, by rw [Counter.tab?_put, if_pos rfl], by simp only; omega, ?_⟩
        simp only [List.length_cons]
        omega
      · exact ⟨tab, by rw [Counter.tab?_put, if_neg same, seeded], enough, sums⟩
    | _ => exact ⟨tab, seeded, enough, sums⟩
  | @create c _ counter _ unseeded =>
    refine ⟨⟨tab, counter ▸ seeded, enough, sums⟩, ?_⟩
    rw [unseeded]
    intro d member
    rcases List.mem_append.mp member with old | new
    · exact settled d old
    · -- The new number is one that the counter cannot know.
      rintro rfl
      have bound := numbered.seeded d.id (by rw [seeded]; rfl)
      rw [List.mem_singleton.mp new] at bound
      simp only [Ledger.create] at bound
      omega
  | @seed c waits _ counter unseeded =>
    refine ⟨⟨tab, ?_, enough, sums⟩, ?_⟩
    · rw [counter]
      exact apart (settled c waits)
    · rw [unseeded]
      exact fun d member => settled d (List.mem_of_mem_erase member)
  | @reseed other again total counter unseeded =>
    refine ⟨⟨tab, ?_, enough, sums⟩, unseeded ▸ settled⟩
    rw [counter]
    refine apart ?_
    rintro rfl
    exact once again

/-- The account of a coupon is not opened yet, or has been level since. -/
def Opens (coupon : CouponId) (s : Sale Memory) : Prop :=
  s.stores.counter.tab? coupon = none ∨
    ∃ total, s.stores.ledger.Sells coupon total ∧ Level coupon total s

theorem Opens.move (opens : Opens coupon s) (booked : Booked s notes) (move : Move s label t more)
    (once : label ≠ .reseed coupon) : Opens coupon t := by
  rcases opens with unknown | ⟨total, sells, level⟩
  · have apart : ∀ {other : CouponId} {total : Int}, other ≠ coupon →
        (s.stores.counter.seed other total).tab? coupon = none := by
      intro other total differs
      rw [Counter.tab?_seed_other differs.symm]
      exact unknown
    cases move.change with
    | aside counter | create _ counter => exact .inl (counter ▸ unknown)
    | reserve reserves => exact .inl (reserves.unseeded unknown)
    | @seed c waits _ counter unseeded =>
      rw [Opens, counter]
      by_cases same : c.id = coupon
      · subst same
        obtain ⟨enough, sells⟩ := booked.waits c waits
        refine .inr ⟨c.total, move.sells sells, ⟨⟨c.total, []⟩, ?_, enough, by simp⟩, ?_⟩
        · rw [counter, Counter.seed, Counter.tab?_put, if_pos rfl, unknown]
          rfl
        · rw [unseeded]
          exact fun d member => ne_of_mem_erase booked.apart waits member
      · exact .inl (apart same)
    | @reseed other again total counter =>
      rw [Opens, counter]
      refine .inl (apart ?_)
      rintro rfl
      exact once again
  · exact .inr ⟨total, move.sells sells, level.move booked.numbered move once⟩

/-- To seed a counter again sets it to the durable stock, and does nothing else. -/
theorem reseed_eq {c : Coupon} (found : s.stores.ledger.find? coupon = some c) :
    s.reseed coupon = (.ok c.stock, { s with stores :=
      { s.stores with counter := s.stores.counter.seed coupon c.stock } },
      [.reseeded coupon c.stock]) := by
  simp only [Sale.reseed, Backend.find, Ledger.get, found, Backend.seed, List.nil_append]

theorem hasClaim_claimers (m : Memory) (user : UserId) (coupon : CouponId) :
    m.ledger.hasClaim user coupon = true ↔ user ∈ m.claimers coupon := by
  rw [← List.count_pos_iff, Memory.count_claimers, List.count_pos_iff, Memory.hasClaim_rows]

/-- The users with a reservation are those with a row and those without, if no row goes without a
reservation. -/
theorem length_unwritten (once : (s.stores.counter.holders coupon).Nodup)
    (backed : ∀ user, s.stores.rows.count (user, coupon) ≤
      (s.stores.counter.holders coupon).count user) :
    s.stores.ledger.claimCount coupon + (s.unwritten coupon).length =
      (s.stores.counter.holders coupon).length := by
  have rows : (s.stores.claimers coupon).Nodup := by
    apply List.nodup_iff_count_le_one.mpr
    intro user
    rw [Memory.count_claimers]
    exact Nat.le_trans (backed user) (List.nodup_iff_count_le_one.mp once user)
  have same : (s.stores.claimers coupon).Perm ((s.stores.counter.holders coupon).filter
      fun user => s.stores.ledger.hasClaim user coupon) := by
    apply (List.perm_ext_iff_of_nodup rows (once.filter _)).mpr
    intro user
    rw [List.mem_filter, hasClaim_claimers]
    refine ⟨fun member => ⟨?_, member⟩, fun both => both.2⟩
    have row := List.count_pos_iff.mpr member
    rw [Memory.count_claimers] at row
    exact List.count_pos_iff.mp (Nat.lt_of_lt_of_le row (backed user))
  rw [← Memory.length_claimers, same.length_eq, unwritten]
  exact (List.length_eq_length_filter_add _).symm

end Sale

namespace MemorySale

open Pool (acceptedJobs acceptedJobs_append)

/-- A move of a sale in which one coupon is not seeded again. -/
def unrestocked? (coupon : CouponId) (s : Sale Memory) : Label → Option (Sale.Moved Memory)
  | .move (.reseed other) => if other = coupon then none else step? s (.move (.reseed other))
  | label => step? s label

/-- A move of a sale in which one coupon is not seeded again, and tasks come from claims alone. -/
def unaided? (coupon : CouponId) (s : Sale Memory) : Label → Option (Sale.Moved Memory)
  | .move (.submit _) => none
  | label => unrestocked? coupon s label

variable {config : Pool.Config} {reserveTimeout : Span} {sink : Sink} {s t : Sale Memory}
  {notes more : List Note} {label : Label} {coupon : CouponId}

theorem unrestocked?_step (step : unrestocked? coupon s label = some (t, more)) :
    step? s label = some (t, more) ∧ label ≠ .move (.reseed coupon) := by
  unfold unrestocked? at step
  split at step
  · split at step
    · contradiction
    · rename_i other
      refine ⟨step, ?_⟩
      rintro ⟨⟩
      exact other rfl
  · rename_i apart
    exact ⟨step, apart coupon⟩

theorem unaided?_step (step : unaided? coupon s label = some (t, more)) :
    unrestocked? coupon s label = some (t, more) ∧ ∀ task, label ≠ .move (.submit task) := by
  unfold unaided? at step
  split at step
  · contradiction
  · rename_i apart
    exact ⟨step, apart⟩

theorem Reachable.booked (run : Reachable config reserveTimeout sink notes s) :
    Sale.Booked s notes := by
  refine run.keeps (P := Sale.Booked) ?_ ?_
  · exact ⟨(Sale.new_orderly config reserveTimeout sink).numbered, List.nodup_nil,
      fun _ member => absurd member List.not_mem_nil, fun _ => List.nodup_nil,
      fun _ member => absurd member List.not_mem_nil⟩
  · intro s notes label t more booked step
    cases label with
    | move label => exact booked.move (Sale.step?_move step)
    | set setting =>
      cases step
      obtain ⟨numbered, apart, waits, once, created⟩ := booked
      rw [List.append_nil]
      cases setting <;> exact ⟨numbered.same (fun _ known => known) rfl, apart, waits, once, created⟩

/-- A sale in which the coupon is not seeded again goes on to be one. -/
theorem unrestocked_reaches (run : Leads (unrestocked? coupon) s more t) : Leads step? s more t :=
  run.keeps (P := fun t more => Leads step? s more t) (.refl s) fun sofar step =>
    sofar.trans (.next (unrestocked?_step step).1)

theorem level_lasts {sum : Int} (run : Leads (unrestocked? coupon) s more t)
    (reached : Reachable config reserveTimeout sink notes s) (level : s.Level coupon sum) :
    t.Level coupon sum := by
  refine (run.keeps (P := fun t more => Reachable config reserveTimeout sink (notes ++ more) t ∧
    t.Level coupon sum) ⟨by rwa [List.append_nil], level⟩ ?_).2
  intro t sofar label u told ⟨reached, level⟩ step
  obtain ⟨step, once⟩ := unrestocked?_step step
  refine ⟨by rw [← List.append_assoc]; exact reached.trans (.next step), ?_⟩
  cases label with
  | move label =>
    exact level.move reached.booked.numbered (Sale.step?_move step) fun same => once (same ▸ rfl)
  | set setting =>
    cases step
    obtain ⟨counted, settled⟩ := level
    cases setting <;> exact ⟨counted, settled⟩

/-- A sale that a run leads to from one over empty stores in which one coupon is not seeded again,
and tasks come from claims alone. -/
def Unaided (config : Pool.Config) (reserveTimeout : Span) (sink : Sink) (coupon : CouponId)
    (notes : List Note) (s : Sale Memory) : Prop :=
  Leads (unaided? coupon) (.new config reserveTimeout (.new sink)) notes s

theorem Unaided.reached (run : Unaided config reserveTimeout sink coupon notes s) :
    Reachable config reserveTimeout sink notes s :=
  run.keeps (P := fun s notes => Reachable config reserveTimeout sink notes s) (.refl _)
    fun sofar step => sofar.trans (.next (unrestocked?_step (unaided?_step step).1).1)

theorem Unaided.opens (run : Unaided config reserveTimeout sink coupon notes s) :
    s.Opens coupon := by
  refine (run.keeps (P := fun s notes => Reachable config reserveTimeout sink notes s ∧
    s.Opens coupon) ⟨.refl _, .inl rfl⟩ ?_).2
  intro s notes label t more ⟨reached, opens⟩ step
  obtain ⟨step, once⟩ := unrestocked?_step (unaided?_step step).1
  refine ⟨reached.trans (.next step), ?_⟩
  cases label with
  | move label =>
    exact opens.move reached.booked (Sale.step?_move step) fun same => once (same ▸ rfl)
  | set setting =>
    cases step
    rcases opens with unknown | ⟨total, sells, counted, settled⟩
    · cases setting <;> exact .inl unknown
    · cases setting <;> exact .inr ⟨total, sells, counted, settled⟩

theorem Unaided.accepted_le (run : Unaided config reserveTimeout sink coupon notes s)
    (user : UserId) (other : CouponId) : (acceptedJobs notes).countP (·.isFor user other) ≤
      notes.countP (·.success user other) := by
  refine run.keeps (P := fun _ notes => (acceptedJobs notes).countP (·.isFor user other) ≤
    notes.countP (·.success user other)) (Nat.le_refl _) ?_
  intro s notes label t more sofar step
  obtain ⟨step, byClaims⟩ := unaided?_step step
  obtain ⟨step, _⟩ := unrestocked?_step step
  rw [acceptedJobs_append, List.countP_append, List.countP_append]
  refine Nat.add_le_add sofar ?_
  cases label with
  | move label =>
    exact (Sale.step?_move step).accepted_le (fun task same => byClaims task (same ▸ rfl)) user other
  | set setting =>
    cases step
    exact Nat.zero_le _

/-- The account of a coupon that was created and not seeded again. -/
structure Account (c : Coupon) (s : Sale Memory) : Prop where
  level : s.Level c.id c.total
  durable : ∃ d, s.stores.ledger.find? c.id = some d ∧ 0 ≤ d.stock ∧
    d.stock + s.stores.ledger.claimCount c.id = c.total
  once : (s.stores.counter.holders c.id).Nodup
  split : s.stores.ledger.claimCount c.id + (s.unwritten c.id).length =
    (s.stores.counter.holders c.id).length

theorem Unaided.account {c : Coupon} (run : Unaided config reserveTimeout sink c.id notes s)
    (created : .couponCreated c ∈ notes) : Account c s := by
  obtain ⟨numbered, _, _, once, known⟩ := run.reached.booked
  obtain ⟨seeded, d, member, named, total⟩ := known c created
  have found := numbered.sound.find? member
  rw [named] at found
  refine ⟨?_, ⟨d, found, ?_⟩, once c.id, ?_⟩
  · rcases run.opens with unknown | ⟨sum, ⟨e, here, same, sold⟩, level⟩
    · rw [unknown] at seeded
      cases seeded
    · have equal : e = d :=
        List.inj_on_of_nodup_map numbered.sound.distinct here member (same.trans named.symm)
      rwa [← sold, equal, total] at level
  · rw [← named, ← total]
    exact numbered.sound.stocked d member
  · refine Sale.length_unwritten (once c.id) fun user => ?_
    have backed := Sale.backed_of_accepted run.reached (run.accepted_le user c.id)
    omega

namespace Account

variable {c : Coupon} (account : Account c s)

include account

theorem reseed_eq : s.reseed c.id = (.ok (c.total - s.stores.ledger.claimCount c.id),
    { s with stores := { s.stores with
      counter := s.stores.counter.seed c.id (c.total - s.stores.ledger.claimCount c.id) } },
    [.reseeded c.id (c.total - s.stores.ledger.claimCount c.id)]) := by
  obtain ⟨d, found, _, rows⟩ := account.durable
  have stock : c.total - s.stores.ledger.claimCount c.id = d.stock := by omega
  rw [Sale.reseed_eq found, stock]

/-- What the counter gets is what it has left and what is reserved without a row. -/
theorem gets : ∃ tab, s.stores.counter.tab? c.id = some tab ∧
    c.total - s.stores.ledger.claimCount c.id = tab.stock + (s.unwritten c.id).length := by
  obtain ⟨tab, seeded, _, sum⟩ := account.level.counted
  have split := account.split
  rw [Sale.holders_eq seeded] at split
  exact ⟨tab, seeded, by omega⟩

theorem level_after : (s.reseed c.id).2.1.Level c.id (c.total + (s.unwritten c.id).length) := by
  obtain ⟨tab, seeded, gets⟩ := account.gets
  obtain ⟨d, _, enough, rows⟩ := account.durable
  have split := account.split
  rw [Sale.holders_eq seeded] at split
  rw [account.reseed_eq]
  refine ⟨⟨⟨c.total - s.stores.ledger.claimCount c.id, tab.claimed⟩, ?_, ?_, ?_⟩,
    account.level.settled⟩
  · rw [Counter.seed, Counter.tab?_put, if_pos rfl, seeded]
    rfl
  · simp only
    omega
  · simp only
    omega

/-- To seed the counter again does nothing just when each reservation has its row. -/
theorem reseed_idle_iff : (s.reseed c.id).2.1 = s ↔
    ∀ user ∈ s.stores.counter.holders c.id, s.stores.ledger.hasClaim user c.id = true := by
  have none : (∀ user ∈ s.stores.counter.holders c.id,
      s.stores.ledger.hasClaim user c.id = true) ↔ s.unwritten c.id = [] := by
    simp [Sale.unwritten, List.filter_eq_nil_iff]
  obtain ⟨tab, seeded, gets⟩ := account.gets
  rw [none, account.reseed_eq]
  constructor
  · intro same
    have stocks := congrArg (fun u : Sale Memory => u.stores.counter.remaining? c.id) same
    simp only [Counter.remaining?, Counter.seed, Counter.tab?_put, if_true, seeded, Option.map_some,
      Option.some.injEq] at stocks
    exact List.eq_nil_of_length_eq_zero (by omega)
  · intro empty
    rw [gets, empty, List.length_nil, Int.natCast_zero, Int.add_zero, Counter.seed_same seeded]

end Account

/-- What it costs to seed the counter of a coupon again, at any time of a sale in which that was not
done before and tasks come from claims alone. The counter gets the total less the rows, so as many
units more as there are reservations without a row, whose claims are still to be answered or whose
tasks were dropped, are in the pool, are lost with a worker or a scheduler that was cut off, or
became dead letters. Nothing else changes: not the
reservations, not the ledger, the flags or the pool; and nothing at all just when each reservation
has its row. From then on, as long as it is not done again, no more claims succeed for the coupon
than its total and those units. -/
theorem Unaided.reseed_cost {c : Coupon}
    (run : Unaided config reserveTimeout sink c.id notes s) (created : .couponCreated c ∈ notes) :
    let after := (s.reseed c.id).2.1
    (s.reseed c.id).1 = .ok (c.total - s.stores.ledger.claimCount c.id) ∧
    (s.stores.counter.holders c.id).Nodup ∧
    (∃ remaining, s.stores.counter.remaining? c.id = some remaining ∧
      after.stores.counter.remaining? c.id = some (remaining + (s.unwritten c.id).length)) ∧
    (∀ user ∈ s.unwritten c.id, Whereabouts s notes user c.id) ∧
    (∀ coupon, after.stores.counter.holders coupon = s.stores.counter.holders coupon) ∧
    (∀ coupon, coupon ≠ c.id →
      after.stores.counter.tab? coupon = s.stores.counter.tab? coupon) ∧
    after = { s with stores := { s.stores with counter := after.stores.counter } } ∧
    (after = s ↔ ∀ user ∈ s.stores.counter.holders c.id,
      s.stores.ledger.hasClaim user c.id = true) ∧
    ∀ more t, Leads (unrestocked? c.id) after more t →
      ((winners c.id (notes ++ (s.reseed c.id).2.2 ++ more)).length : Int) ≤
        c.total + (s.unwritten c.id).length := by
  have account := run.account created
  obtain ⟨tab, seeded, gets⟩ := account.gets
  have idle := account.reseed_idle_iff
  have level := account.level_after
  have reseeds : step? s (.move (.reseed c.id)) = some (s.reseed c.id).2 := rfl
  have reached : Reachable config reserveTimeout sink (notes ++ (s.reseed c.id).2.2)
      (s.reseed c.id).2.1 := run.reached.trans (.next reseeds)
  have sells : ∀ more t, Leads (unrestocked? c.id) (s.reseed c.id).2.1 more t →
      ((winners c.id (notes ++ (s.reseed c.id).2.2 ++ more)).length : Int) ≤
        c.total + (s.unwritten c.id).length := by
    intro more t onward
    obtain ⟨tab, seeded, enough, sum⟩ := (level_lasts onward reached level).counted
    have granted := Reachable.granted (reached.trans (unrestocked_reaches onward))
    have fewer := winners_le granted c.id
    rw [Sale.holders_eq seeded] at fewer
    omega
  refine ⟨?_, account.once, ⟨tab.stock, ?_, ?_⟩, fun user => run.reached.whereabouts, ?_, ?_, ?_,
    idle, sells⟩
  · rw [account.reseed_eq]
  · rw [Counter.remaining?, seeded]
    rfl
  · rw [account.reseed_eq, gets]
    simp [Counter.remaining?, Counter.seed]
  · intro coupon
    rw [account.reseed_eq]
    exact Counter.holders_seed _ _ _ _
  · intro coupon other
    rw [account.reseed_eq]
    exact Counter.tab?_seed_other other
  · rw [account.reseed_eq]

/-- A claim of a user for the first coupon, from its opening to its answer. -/
def claimOf (user : Nat) : List Label :=
  .map .move [.claim user ⟨user⟩ ⟨1⟩ none, .call user, .call user]

/-- A coupon of two units is created, and one user claims it; nobody writes the claim. -/
def unwrittenRun : List Label :=
  .map .move [.create ⟨"Opening", 2, 0, ⟨0, 0⟩, ⟨10, 0⟩⟩ ⟨0, 0⟩, .seed ⟨1⟩] ++ claimOf 7

/-- Seeded again, the counter sells both units once more: three claims succeed. -/
theorem reseed_cost_unwrittenRun : ∃ notes s c,
    Unaided .standard Sale.standardTimeout .recording c.id notes s ∧ .couponCreated c ∈ notes ∧
      c.total = 2 ∧ (s.reseed c.id).1 = .ok (c.total - s.stores.ledger.claimCount c.id) ∧
      (s.unwritten c.id).length = 1 ∧
      ∃ more t, Leads (unrestocked? c.id) (s.reseed c.id).2.1 more t ∧
        (winners c.id (notes ++ (s.reseed c.id).2.2 ++ more)).length = 3 ∧
        ((winners c.id (notes ++ (s.reseed c.id).2.2 ++ more)).length : Int) ≤
          c.total + (s.unwritten c.id).length := by
  have ends : (run? (unaided? ⟨1⟩) (.new .standard Sale.standardTimeout (.new .recording))
      unwrittenRun).any (fun (s, notes) => notes.any fun
        | .couponCreated c => c.id = ⟨1⟩ && c.total = 2 && (s.unwritten c.id).length = 1 &&
          (run? (unrestocked? c.id) (s.reseed c.id).2.1 (claimOf 8 ++ claimOf 9)).any
            fun (_, more) => (winners c.id (notes ++ (s.reseed c.id).2.2 ++ more)).length = 3
        | _ => false) = true := by decide +kernel
  obtain ⟨⟨s, notes⟩, run, told⟩ := (Option.any_eq_true _ _).mp ends
  obtain ⟨note, member, sold⟩ := List.any_eq_true.mp told
  cases note with
  | couponCreated c =>
    simp only [Bool.and_eq_true, decide_eq_true_eq] at sold
    obtain ⟨⟨⟨first, total⟩, unwritten⟩, later⟩ := sold
    obtain ⟨⟨t, more⟩, onward, three⟩ := (Option.any_eq_true _ _).mp later
    have onward : Leads (unrestocked? c.id) (s.reseed c.id).2.1 more t := ⟨_, onward⟩
    have run : Unaided .standard Sale.standardTimeout .recording c.id notes s :=
      ⟨unwrittenRun, first ▸ run⟩
    obtain ⟨stock, _, _, _, _, _, _, _, bound⟩ := run.reseed_cost member
    exact ⟨notes, s, c, run, member, total, stock, unwritten, more, t, onward, by simpa using three,
      bound more t onward⟩
  | _ => simp at sold

end MemorySale
end CouponSale
