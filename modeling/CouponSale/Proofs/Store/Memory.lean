import CouponSale.Proofs.Store.Counter
import CouponSale.Proofs.Store.Ledger
import CouponSale.Store.Memory

/-!
Stores in memory that belong together. A reservation touches the counter alone and a write the
ledger alone, unless they fail. The stores are even when the counter and the ledger give every
coupon the same total, those being set aside whose counter is still to be seeded; each of the four
changes that a sale makes to them keeps this.
-/
namespace CouponSale.Memory

theorem reserve_cases (m : Memory) (coupon : CouponId) (user : UserId) :
    ((m.reserve coupon user).1 = .error reserveFault ∧
        (m.reserve coupon user).2.counter = m.counter) ∨
      ∃ verdict, (m.reserve coupon user).1 = .ok verdict ∧
        m.counter.Reserves coupon user verdict (m.reserve coupon user).2.counter := by
  unfold reserve
  cases m.reserving.failing with
  | succ n => exact .inl ⟨rfl, rfl⟩
  | zero => exact .inr ⟨_, rfl, m.counter.reserve_reserves coupon user⟩

theorem reserve_frame (m : Memory) (coupon : CouponId) (user : UserId) :
    (m.reserve coupon user).2.ledger = m.ledger ∧ (m.reserve coupon user).2.letters = m.letters ∧
      (m.reserve coupon user).2.sink = m.sink := by
  unfold reserve
  cases m.reserving.failing <;> exact ⟨rfl, rfl, rfl⟩

theorem write_cases (m : Memory) (user : UserId) (coupon : CouponId) :
    ((m.write user coupon).1 = .error writeFault ∧
        (m.write user coupon).2.ledger = m.ledger) ∨
      m.ledger.Persists user coupon (m.write user coupon).1 (m.write user coupon).2.ledger := by
  unfold write
  cases m.writing.failing with
  | succ n => exact .inl ⟨rfl, rfl⟩
  | zero => exact .inr (m.ledger.persist_persists user coupon)

theorem write_frame (m : Memory) (user : UserId) (coupon : CouponId) :
    (m.write user coupon).2.counter = m.counter ∧ (m.write user coupon).2.letters = m.letters ∧
      (m.write user coupon).2.sink = m.sink := by
  unfold write
  cases m.writing.failing <;> exact ⟨rfl, rfl, rfl⟩

theorem adjust_frame (m : Memory) (setting : Setting) :
    (m.adjust setting).counter = m.counter ∧ (m.adjust setting).ledger = m.ledger := by
  cases setting <;> exact ⟨rfl, rfl⟩

/-- Whom and what the rows are about, the latest first. -/
def rows (m : Memory) : List (UserId × CouponId) :=
  m.ledger.claims.map fun r => (r.user, r.coupon)

theorem hasClaim_rows (m : Memory) (user : UserId) (coupon : CouponId) :
    m.ledger.hasClaim user coupon = true ↔ (user, coupon) ∈ m.rows := by
  simp [Ledger.hasClaim, rows]

/-- The users with a claim row for a coupon. -/
def claimers (m : Memory) (coupon : CouponId) : List UserId :=
  (m.rows.filter (·.2 = coupon)).map (·.1)

theorem length_claimers (m : Memory) (coupon : CouponId) :
    (m.claimers coupon).length = m.ledger.claimCount coupon := by
  rw [claimers, List.length_map, ← List.countP_eq_length_filter, rows, List.countP_map]
  rfl

theorem count_claimers (m : Memory) (user : UserId) (coupon : CouponId) :
    (m.claimers coupon).count user = m.rows.count (user, coupon) := by
  unfold claimers
  induction m.rows with
  | nil => rfl
  | cons row rows ih =>
    obtain ⟨u, c⟩ := row
    by_cases same : c = coupon
    · simp [List.count_cons, same, ih]
    · simp [same, ih]

/-- The balance of the stores, some coupons being still without a counter. -/
structure Even (m : Memory) (waiting : List Coupon) : Prop where
  ledger : m.ledger.Sound
  counter : ∀ coupon tab, m.counter.tab? coupon = some tab →
    0 ≤ tab.stock ∧ tab.claimed.Nodup ∧ m.ledger.Sells coupon (tab.stock + tab.claimed.length)
  unseeded : ∀ c ∈ waiting, m.counter.tab? c.id = none ∧ 0 ≤ c.total ∧ m.ledger.Sells c.id c.total
  apart : (waiting.map Coupon.id).Nodup

/-- Counters and coupons stay. -/
structure Grows (m n : Memory) : Prop where
  seeded : ∀ coupon, (m.counter.tab? coupon).isSome → (n.counter.tab? coupon).isSome
  sells : ∀ coupon total, m.ledger.Sells coupon total → n.ledger.Sells coupon total

variable {m n : Memory} {waiting : List Coupon} {user : UserId} {coupon : CouponId}

theorem new_even (sink : Sink) : (new sink).Even [] where
  ledger := Ledger.empty_sound
  counter _ _ found := by simp [new, Counter.tab?, Counter.empty] at found
  unseeded _ member := absurd member List.not_mem_nil
  apart := List.nodup_nil

theorem Even.same (even : Even m waiting) (counter : n.counter = m.counter)
    (ledger : n.ledger = m.ledger) : Even n waiting := by
  obtain ⟨sound, tabs, unseeded, apart⟩ := even
  constructor
  · rw [ledger]
    exact sound
  · rw [counter, ledger]
    exact tabs
  · rw [counter, ledger]
    exact unseeded
  · exact apart

theorem Grows.same (counter : n.counter = m.counter) (ledger : n.ledger = m.ledger) :
    Grows m n := by
  constructor
  · rw [counter]
    exact fun _ seeded => seeded
  · rw [ledger]
    exact fun _ _ sells => sells

/-- A reservation moves a unit from the stock to a new holder. -/
theorem Even.reserve {verdict : Reservation} (even : Even m waiting)
    (reserves : m.counter.Reserves coupon user verdict n.counter) (ledger : n.ledger = m.ledger) :
    Even n waiting ∧ Grows m n := by
  obtain ⟨sound, tabs, unseeded, apart⟩ := even
  rw [← ledger] at sound tabs unseeded
  generalize granted : n.counter = k at reserves
  cases reserves with
  | @claimed tab seeded free more =>
    obtain ⟨_, once, sells⟩ := tabs coupon tab seeded
    refine ⟨⟨sound, ?_, ?_, apart⟩, ?_, ?_⟩
    · intro other tab' found
      rw [granted, Counter.tab?_put] at found
      split at found
      · rename_i same
        cases found
        refine ⟨by simp only; omega, List.nodup_cons.mpr ⟨free, once⟩, ?_⟩
        have total : tab.stock - 1 + ((user :: tab.claimed).length : Int) =
            tab.stock + tab.claimed.length := by
          rw [List.length_cons]
          omega
        rw [same, total]
        exact sells
      · exact tabs other tab' found
    · intro c member
      obtain ⟨none, rest⟩ := unseeded c member
      refine ⟨?_, rest⟩
      have other : c.id ≠ coupon := by
        intro same
        rw [same, seeded] at none
        contradiction
      rw [granted, Counter.tab?_put, if_neg other]
      exact none
    · intro other known
      rw [granted, Counter.tab?_put]
      split
      · rfl
      · exact known
    · rw [ledger]
      exact fun _ _ sells => sells
  | _ =>
    refine ⟨⟨sound, granted ▸ tabs, granted ▸ unseeded, apart⟩, ?_⟩
    exact .same granted ledger

/-- A new coupon waits for its counter. -/
theorem Even.create {c : NewCoupon} (even : Even m waiting) (positive : 0 < c.total) :
    Even { m with ledger := (m.ledger.create c).2 } (waiting ++ [(m.ledger.create c).1]) ∧
      Grows m { m with ledger := (m.ledger.create c).2 } := by
  obtain ⟨sound, tabs, unseeded, apart⟩ := even
  have fresh : ∀ coupon total, m.ledger.Sells coupon total → coupon ≠ (m.ledger.create c).1.id := by
    rintro coupon total ⟨d, member, rfl, _⟩
    exact sound.fresh c d member
  refine ⟨⟨sound.create c (by omega), ?_, ?_, ?_⟩, fun _ known => known, fun _ _ sells => sells.create c⟩
  · intro coupon tab found
    obtain ⟨enough, once, sells⟩ := tabs coupon tab found
    exact ⟨enough, once, sells.create c⟩
  · intro d member
    rcases List.mem_append.mp member with old | new
    · obtain ⟨none, enough, sells⟩ := unseeded d old
      exact ⟨none, enough, sells.create c⟩
    · rw [List.mem_singleton.mp new]
      refine ⟨?_, by simp only [Ledger.create]; omega, ?_⟩
      · cases seeded : m.counter.tab? (m.ledger.create c).1.id with
        | none => rfl
        | some tab => exact absurd rfl (fresh _ _ (tabs _ tab seeded).2.2)
      · exact ⟨(m.ledger.create c).1, List.mem_append_right _ (List.mem_singleton_self _), rfl, rfl⟩
  · rw [List.map_append, List.nodup_append]
    refine ⟨apart, by simp, ?_⟩
    intro a member b single same
    obtain ⟨d, here, rfl⟩ := List.mem_map.mp member
    rw [List.map_singleton, List.mem_singleton] at single
    exact fresh d.id d.total (unseeded d here).2.2 (same.trans single)

theorem Even.seed {c : Coupon} (even : Even m waiting) (waits : c ∈ waiting) :
    Even { m with counter := m.counter.seed c.id c.total } (waiting.erase c) ∧
      Grows m { m with counter := m.counter.seed c.id c.total } := by
  obtain ⟨sound, tabs, unseeded, apart⟩ := even
  obtain ⟨none, enough, sells⟩ := unseeded c waits
  have seeded : ∀ coupon, (m.counter.seed c.id c.total).tab? coupon =
      if coupon = c.id then some ⟨c.total, []⟩ else m.counter.tab? coupon := by
    intro coupon
    rw [Counter.seed, Counter.tab?_put, none]
    rfl
  refine ⟨⟨sound, ?_, ?_, apart.sublist (List.erase_sublist.map _)⟩, ?_, fun _ _ sells => sells⟩
  · intro coupon tab found
    simp only [seeded] at found
    split at found
    · rename_i same
      cases found
      rw [same]
      exact ⟨enough, List.nodup_nil, by simpa using sells⟩
    · exact tabs coupon tab found
  · intro d member
    have waits' := List.mem_of_mem_erase member
    obtain ⟨none', rest⟩ := unseeded d waits'
    refine ⟨?_, rest⟩
    have other : d.id ≠ c.id := by
      intro same
      have equal := List.inj_on_of_nodup_map apart waits' waits same
      rw [equal] at member
      exact (List.Nodup.of_map _ apart).not_mem_erase member
    simp only [seeded, if_neg other]
    exact none'
  · intro coupon known
    simp only [seeded]
    split
    · rfl
    · exact known

theorem Even.write {c : Coupon} (even : Even m waiting) (counter : n.counter = m.counter)
    (ledger : n.ledger = (m.ledger.takeUnit coupon).addClaim user coupon)
    (found : m.ledger.find? coupon = some c) (more : 0 < c.stock) :
    Even n waiting ∧ Grows m n := by
  obtain ⟨sound, tabs, unseeded, apart⟩ := even
  have sells : ∀ other total, m.ledger.Sells other total → n.ledger.Sells other total := by
    intro other total sells
    rw [ledger]
    exact sells.written
  refine ⟨⟨?_, ?_, ?_, apart⟩, ?_, sells⟩
  · rw [ledger]
    exact sound.written found more
  · intro other tab seeded
    rw [counter] at seeded
    obtain ⟨enough, once, sold⟩ := tabs other tab seeded
    exact ⟨enough, once, sells other _ sold⟩
  · intro d member
    obtain ⟨none, enough, sold⟩ := unseeded d member
    exact ⟨counter ▸ none, enough, sells d.id _ sold⟩
  · rw [counter]
    exact fun _ seeded => seeded

end CouponSale.Memory
