import CouponSale.Store.Ledger
import Mathlib.Data.List.Nodup

/-!
What the ledger does with a claim, and what holds of a ledger that began empty: its coupons are
numbered, each row has its coupon, and of each coupon the stock and the rows make up the total.
-/
namespace CouponSale.Ledger

/-- What the ledger does with a claim. -/
inductive Persists (l : Ledger) (user : UserId) (coupon : CouponId) :
    Answer Persisted → Ledger → Prop where
  | alreadyThere (held : l.hasClaim user coupon = true) :
      Persists l user coupon (.ok .alreadyThere) l
  | missing (free : l.hasClaim user coupon = false) (unknown : l.find? coupon = none) :
      Persists l user coupon (.error (missing coupon)) l
  | written {c : Coupon} (free : l.hasClaim user coupon = false) (found : l.find? coupon = some c)
      (more : 0 < c.stock) :
      Persists l user coupon (.ok .written) ((l.takeUnit coupon).addClaim user coupon)
  | drifted {c : Coupon} (free : l.hasClaim user coupon = false) (found : l.find? coupon = some c)
      (none : c.stock ≤ 0) : Persists l user coupon (.error (.stockDrift coupon)) l

theorem persist_persists (l : Ledger) (user : UserId) (coupon : CouponId) :
    l.Persists user coupon (l.persist user coupon).1 (l.persist user coupon).2 := by
  unfold persist
  split
  · rename_i held
    exact .alreadyThere held
  · rename_i free
    have free : l.hasClaim user coupon = false := by simpa using free
    split
    · rename_i unknown
      exact .missing free unknown
    · rename_i c found
      split
      · rename_i more
        exact .written free found more
      · rename_i none
        exact .drifted free found (by omega)

/-- A ledger whose coupons are numbered and whose stocks and rows make up the totals. -/
structure Sound (l : Ledger) : Prop where
  distinct : (l.coupons.map Coupon.id).Nodup
  numbered : ∀ c ∈ l.coupons, c.id.number ≤ l.coupons.length
  known : ∀ r ∈ l.claims, ∃ c ∈ l.coupons, c.id = r.coupon
  stocked : ∀ c ∈ l.coupons, 0 ≤ c.stock ∧ c.stock + l.claimCount c.id = c.total

/-- The ledger has a coupon of this number and total. -/
def Sells (l : Ledger) (coupon : CouponId) (total : Int) : Prop :=
  ∃ c ∈ l.coupons, c.id = coupon ∧ c.total = total

variable {l : Ledger} {user : UserId} {coupon : CouponId}

theorem empty_sound : empty.Sound := by
  constructor <;> simp [empty]

theorem find?_some {c : Coupon} (found : l.find? coupon = some c) :
    c ∈ l.coupons ∧ c.id = coupon :=
  ⟨List.mem_of_find?_eq_some found, by simpa using List.find?_some found⟩

theorem Sound.find? (sound : l.Sound) {c : Coupon} (member : c ∈ l.coupons) :
    l.find? c.id = some c := by
  cases found : l.find? c.id with
  | none => simpa using List.find?_eq_none.mp found c member
  | some d =>
    obtain ⟨here, same⟩ := find?_some found
    rw [List.inj_on_of_nodup_map sound.distinct here member same]

theorem Sells.create {total : Int} (sells : l.Sells coupon total) (c : NewCoupon) :
    (l.create c).2.Sells coupon total := by
  obtain ⟨d, member, same⟩ := sells
  exact ⟨d, List.mem_append_left _ member, same⟩

theorem Sound.fresh (sound : l.Sound) (c : NewCoupon) :
    ∀ d ∈ l.coupons, d.id ≠ (l.create c).1.id := by
  intro d member same
  have bound := sound.numbered d member
  rw [same] at bound
  simp only [create] at bound
  omega

theorem Sound.create (sound : l.Sound) (c : NewCoupon) (positive : 0 ≤ c.total) :
    (l.create c).2.Sound := by
  have fresh := sound.fresh c
  constructor
  · simp only [Ledger.create, List.map_append, List.map_cons, List.map_nil, List.nodup_append]
    refine ⟨sound.distinct, by simp, ?_⟩
    intro a member b single same
    obtain ⟨d, here, rfl⟩ := List.mem_map.mp member
    exact fresh d here (same.trans (List.mem_singleton.mp single))
  · intro d member
    rcases List.mem_append.mp member with old | new
    · have bound := sound.numbered d old
      simp only [Ledger.create, List.length_append, List.length_singleton]
      omega
    · rw [List.mem_singleton.mp new]
      simp [Ledger.create]
  · intro r member
    obtain ⟨d, here, same⟩ := sound.known r member
    exact ⟨d, List.mem_append_left _ here, same⟩
  · intro d member
    rcases List.mem_append.mp member with old | new
    · exact sound.stocked d old
    · -- Nobody can have claimed the new coupon.
      have none : l.claimCount (l.create c).1.id = 0 := by
        apply List.countP_eq_zero.mpr
        intro r row about
        obtain ⟨e, here, same⟩ := sound.known r row
        exact fresh e here (same.trans (by simpa using about))
      rw [List.mem_singleton.mp new]
      refine ⟨positive, ?_⟩
      show (l.create c).1.stock + (l.claimCount (l.create c).1.id : Int) = _
      rw [none]
      simp [Ledger.create]

/-- To take a unit changes the stock of one coupon, and nothing else of any coupon. -/
theorem mem_takeUnit {d : Coupon} (member : d ∈ (l.takeUnit coupon).coupons) :
    ∃ c ∈ l.coupons, d.id = c.id ∧ d.total = c.total ∧
      d.stock = if c.id = coupon then c.stock - 1 else c.stock := by
  obtain ⟨c, here, rfl⟩ := List.mem_map.mp member
  refine ⟨c, here, ?_⟩
  split <;> simp

theorem takeUnit_mem {c : Coupon} (member : c ∈ l.coupons) :
    ∃ d ∈ (l.takeUnit coupon).coupons, d.id = c.id ∧ d.total = c.total := by
  refine ⟨_, List.mem_map_of_mem member, ?_⟩
  split <;> simp

theorem ids_takeUnit (l : Ledger) (coupon : CouponId) :
    (l.takeUnit coupon).coupons.map Coupon.id = l.coupons.map Coupon.id := by
  rw [takeUnit, List.map_map]
  apply List.map_congr_left
  intro c _
  simp only [Function.comp_apply]
  split <;> rfl

theorem Sells.written {total : Int} {other : CouponId} (sells : l.Sells other total) :
    ((l.takeUnit coupon).addClaim user coupon).Sells other total := by
  obtain ⟨c, member, same, whole⟩ := sells
  obtain ⟨d, here, id, totals⟩ := takeUnit_mem member
  exact ⟨d, here, id.trans same, totals.trans whole⟩

theorem Sound.written {c : Coupon} (sound : l.Sound) (found : l.find? coupon = some c)
    (more : 0 < c.stock) : ((l.takeUnit coupon).addClaim user coupon).Sound := by
  obtain ⟨here, named⟩ := find?_some found
  constructor
  · exact (ids_takeUnit l coupon).symm ▸ sound.distinct
  · intro d member
    obtain ⟨e, there, same, _, _⟩ := mem_takeUnit member
    have bound := sound.numbered e there
    simpa [same, addClaim, takeUnit] using bound
  · intro r member
    have known : ∃ e ∈ l.coupons, e.id = r.coupon := by
      rcases List.mem_cons.mp member with rfl | old
      · exact ⟨c, here, named⟩
      · exact sound.known r old
    obtain ⟨e, there, same⟩ := known
    obtain ⟨d, after, id, _⟩ := takeUnit_mem there
    exact ⟨d, after, id.trans same⟩
  · intro d member
    obtain ⟨e, there, same, totals, stock⟩ := mem_takeUnit member
    obtain ⟨enough, sum⟩ := sound.stocked e there
    have rows : ((l.takeUnit coupon).addClaim user coupon).claimCount d.id =
        l.claimCount e.id + if e.id = coupon then 1 else 0 := by
      simp [claimCount, addClaim, takeUnit, List.countP_cons, same, eq_comm]
    rw [rows, stock, totals]
    by_cases taken : e.id = coupon
    · have sameCoupon : e = c := List.inj_on_of_nodup_map sound.distinct there here
        (taken.trans named.symm)
      rw [if_pos taken, if_pos taken]
      rw [← sameCoupon] at more
      omega
    · rw [if_neg taken, if_neg taken]
      omega

/-- The coupons of a ledger are numbered from one, and every claim has its coupon. -/
structure Linked (l : Ledger) : Prop where
  numbered : l.coupons.map Coupon.id = (List.range l.coupons.length).map fun n => ⟨n + 1⟩
  known : ∀ r ∈ l.claims, r.coupon ∈ l.coupons.map Coupon.id

variable {c : Coupon}

theorem mem_ids (found : l.find? coupon = some c) : coupon ∈ l.coupons.map Coupon.id := by
  obtain ⟨member, rfl⟩ := find?_some found
  exact List.mem_map_of_mem member

namespace Linked

variable (linked : l.Linked)

theorem empty : Ledger.empty.Linked := by
  constructor <;> simp [Ledger.empty]

include linked

theorem distinct : (l.coupons.map Coupon.id).Nodup := by
  rw [linked.numbered]
  refine List.nodup_range.map ?_
  intro a b same
  exact Int.ofNat_inj.mp (by simpa using same)

/-- No claim is made on a coupon that does not exist. -/
theorem unclaimed (user : UserId) (unknown : l.find? coupon = none) :
    l.hasClaim user coupon = false := by
  apply List.any_eq_false.mpr
  intro r member about
  obtain ⟨_, rfl⟩ : r.user = user ∧ r.coupon = coupon := by simpa using about
  obtain ⟨d, here, same⟩ := List.mem_map.mp (linked.known r member)
  simpa [same] using List.find?_eq_none.mp unknown d here

/-- The next number is not given yet. -/
theorem fresh (new : NewCoupon) : (l.create new).1.id ∉ l.coupons.map Coupon.id := by
  rw [linked.numbered]
  intro member
  obtain ⟨n, below, same⟩ := List.mem_map.mp member
  rw [List.mem_range] at below
  simp only [Ledger.create, CouponId.mk.injEq] at same
  omega

theorem create (new : NewCoupon) : (l.create new).2.Linked := by
  constructor
  · simp only [Ledger.create, List.map_append, linked.numbered, List.length_append,
      List.length_singleton, List.range_succ]
    simp
  · intro r member
    simp only [Ledger.create, List.map_append]
    exact List.mem_append_left _ (linked.known r member)

theorem takeUnit (coupon : CouponId) : (l.takeUnit coupon).Linked := by
  constructor
  · rw [ids_takeUnit, linked.numbered]
    simp [Ledger.takeUnit]
  · rw [ids_takeUnit]
    exact linked.known

theorem addClaim (found : l.find? coupon = some c) : (l.addClaim user coupon).Linked := by
  constructor
  · exact linked.numbered
  · intro r member
    rcases List.mem_cons.mp member with rfl | old
    · exact mem_ids found
    · exact linked.known r old

end Linked
end CouponSale.Ledger
