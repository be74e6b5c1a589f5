import CouponSale.Keyspace.Script
import CouponSale.Proofs.Keyspace.Numeral
import CouponSale.Proofs.Store.Counter

/-!
A keyspace that keeps a counter, and the reservation script on it. The keys of two coupons differ,
and so do the two keys of one; so the script finds what the counter knows of a coupon, replies with
the counter's verdict and leaves a keyspace that keeps the counter which this verdict leaves.
-/
namespace CouponSale

namespace Script

theorem stockKey_inj {a b : CouponId} : stockKey a = stockKey b ↔ a = b := by
  refine ⟨fun same => ?_, fun same => same ▸ rfl⟩
  have text : a.text = b.text := (String.append_right_inj _).mp ((String.append_left_inj _).mp same)
  cases a
  cases b
  exact congrArg CouponId.mk (Decimal.text_injective text)

theorem claimedKey_inj {a b : CouponId} : claimedKey a = claimedKey b ↔ a = b := by
  refine ⟨fun same => ?_, fun same => same ▸ rfl⟩
  have text : a.text = b.text := (String.append_right_inj _).mp ((String.append_left_inj _).mp same)
  cases a
  cases b
  exact congrArg CouponId.mk (Decimal.text_injective text)

/-- The two keys of coupons end in different letters. -/
theorem stockKey_ne_claimedKey (a b : CouponId) : stockKey a ≠ claimedKey b := by
  intro same
  have last : (stockKey a).toList.reverse.head? = (claimedKey b).toList.reverse.head? := by
    rw [same]
  simp [stockKey, claimedKey, String.toList_append] at last

end Script

namespace Keyspace

open Script

theorem membersOf_put_of_ne {a b : String} (other : b ≠ a) (k : Keyspace) (cell : Cell) :
    (k.put a cell).membersOf b = k.membersOf b := by
  rw [membersOf, cell?_put, if_neg other, ← membersOf]

theorem membersOf_put_members (k : Keyspace) (key : String) (ms : List String) :
    (k.put key (.members ms)).membersOf key = .ok ms := by
  rw [membersOf, cell?_put, if_pos rfl]

/-- A keyspace keeps a counter: under the stock key of a coupon stands the written form of its
units left, if it was seeded, and under the other key the written forms of the users who hold one. -/
structure Keeps (k : Keyspace) (counter : Counter) : Prop where
  fits : ∀ coupon tab, counter.tab? coupon = some tab → InInt64 tab.stock
  stock : ∀ coupon, k.cell? (stockKey coupon) =
    (counter.tab? coupon).map fun tab => .text (Decimal.text tab.stock)
  holders : ∀ coupon, k.membersOf (claimedKey coupon) =
    .ok ((counter.holders coupon).map UserId.text)

theorem Keeps.empty : Keyspace.empty.Keeps .empty where
  fits _ _ seeded := by simp [Counter.tab?, Counter.empty] at seeded
  stock _ := rfl
  holders _ := rfl

/-- The written forms of users are found like the users. -/
theorem contains_text (users : List UserId) (user : UserId) :
    (users.map UserId.text).contains user.text = users.contains user := by
  have same : ∀ a b : UserId, a.text = b.text ↔ a = b := by
    intro a b
    refine ⟨fun same => ?_, fun same => same ▸ rfl⟩
    cases a
    cases b
    exact congrArg UserId.mk (Decimal.text_injective same)
  induction users with
  | nil => rfl
  | cons other users ih =>
    simp only [List.map_cons, List.contains_cons, ih]
    congr 1
    simp [same]

section
variable {k : Keyspace} {counter : Counter} (keeps : k.Keeps counter)
include keeps

theorem Keeps.isMember (coupon : CouponId) (user : UserId) :
    k.isMember (claimedKey coupon) user.text = .ok ((counter.holders coupon).contains user) := by
  rw [Keyspace.isMember, keeps.holders]
  exact congrArg Except.ok (contains_text _ _)

theorem Keeps.memberCount (coupon : CouponId) :
    k.memberCount (claimedKey coupon) = .ok (counter.holders coupon).length := by
  rw [Keyspace.memberCount, keeps.holders]
  exact congrArg Except.ok (List.length_map _)

theorem Keeps.get (coupon : CouponId) :
    k.get (stockKey coupon) =
      .ok ((counter.tab? coupon).map fun tab => Decimal.text tab.stock) := by
  rw [Keyspace.get, keeps.stock]
  cases counter.tab? coupon <;> rfl

theorem Keeps.set (coupon : CouponId) {units : Int} (fits : InInt64 units) :
    (k.set (stockKey coupon) (Decimal.text units)).Keeps
      (counter.put coupon ⟨units, counter.holders coupon⟩) where
  fits other tab seeded := by
    rw [Counter.tab?_put] at seeded
    split at seeded
    · exact Option.some.inj seeded ▸ fits
    · exact keeps.fits other tab seeded
  stock other := by
    rw [Keyspace.set, cell?_put, Counter.tab?_put]
    by_cases same : other = coupon
    · simp [same]
    · rw [if_neg (mt stockKey_inj.mp same), if_neg same, keeps.stock]
  holders other := by
    rw [Keyspace.set, membersOf_put_of_ne (stockKey_ne_claimedKey coupon other).symm,
      keeps.holders, Counter.holders_put]
    split
    · rename_i same
      rw [same]
    · rfl

theorem Keeps.add {coupon : CouponId} {tab : Tab} (seeded : counter.tab? coupon = some tab)
    (user : UserId) :
    (k.put (claimedKey coupon) (.members (user.text :: tab.claimed.map UserId.text))).Keeps
      (counter.put coupon ⟨tab.stock, user :: tab.claimed⟩) where
  fits other after known := by
    rw [Counter.tab?_put] at known
    split at known
    · exact Option.some.inj known ▸ keeps.fits coupon tab seeded
    · exact keeps.fits other after known
  stock other := by
    rw [cell?_put, if_neg (stockKey_ne_claimedKey other coupon), keeps.stock, Counter.tab?_put]
    split
    · rename_i same
      rw [same, seeded]
      rfl
    · rfl
  holders other := by
    by_cases same : other = coupon
    · subst same
      rw [membersOf_put_members, Counter.holders_put, if_pos rfl]
      rfl
    · rw [membersOf_put_of_ne (mt claimedKey_inj.mp same), keeps.holders, Counter.holders_put,
        if_neg same]

theorem Keeps.decrement {coupon : CouponId} {tab : Tab} (seeded : counter.tab? coupon = some tab)
    (more : 0 < tab.stock) :
    k.decrement (stockKey coupon) =
      (.ok (tab.stock - 1), k.set (stockKey coupon) (Decimal.text (tab.stock - 1))) := by
  have least : tab.stock ≠ minInt64 := by
    unfold minInt64
    omega
  simp only [Keyspace.decrement, keeps.get, seeded, Option.map_some, Decimal.toList_text,
    Decimal.readCanonical?_ofInt (keeps.fits coupon tab seeded), Option.getD_some, if_neg least]

/-- The grant takes a unit off and adds the user, as the counter does. -/
theorem Keeps.grant {coupon : CouponId} {tab : Tab} {user : UserId}
    (seeded : counter.tab? coupon = some tab) (free : user ∉ tab.claimed) (more : 0 < tab.stock) :
    ∃ after, Script.grant k coupon user = (.ok 1, after) ∧
      after.Keeps (counter.put coupon ⟨tab.stock - 1, user :: tab.claimed⟩) := by
  have held : counter.holders coupon = tab.claimed := by simp [Counter.holders, seeded]
  have fits : InInt64 (tab.stock - 1) := by
    have before := keeps.fits coupon tab seeded
    unfold InInt64 minInt64 maxInt64 at before ⊢
    omega
  have taken := keeps.set coupon fits
  rw [held] at taken
  have members := taken.holders coupon
  rw [Counter.holders_put, if_pos rfl] at members
  have absent : (tab.claimed.map UserId.text).contains user.text = false := by
    rw [contains_text]
    simpa using free
  refine ⟨(k.set (stockKey coupon) (Decimal.text (tab.stock - 1))).put (claimedKey coupon)
    (.members (user.text :: tab.claimed.map UserId.text)), ?_, ?_⟩
  · simp only [Script.grant, keeps.decrement seeded more, addMember, members, absent,
      Bool.false_eq_true, if_false]
  · have added := taken.add (by rw [Counter.tab?_put, if_pos rfl]) user
    rwa [Counter.put_put] at added

/-- The script replies with the verdict of the counter and leaves what the counter leaves. -/
theorem Keeps.reserve {coupon : CouponId} {user : UserId} {verdict : Reservation} {left : Counter}
    (reserves : counter.Reserves coupon user verdict left) :
    ∃ reply after, Script.reserve k coupon user = (.ok reply, after) ∧
      verdict? reply = some verdict ∧ after.Keeps left := by
  unfold Script.reserve
  rw [keeps.isMember, keeps.get]
  cases reserves with
  | notSeeded unknown =>
    simp only [Counter.holders, unknown, Option.map_none, Option.getD_none, List.contains_nil,
      Option.bind_none]
    exact ⟨_, _, rfl, rfl, keeps⟩
  | alreadyClaimed seeded held =>
    have found := List.contains_iff_mem.mpr held
    simp only [Counter.holders, seeded, Option.map_some, Option.getD_some, found]
    exact ⟨_, _, rfl, rfl, keeps⟩
  | @outOfStock tab seeded free none =>
    have absent : tab.claimed.contains user = false := by simpa using free
    obtain ⟨stock, read, compared⟩ := Numeral.read?_ofInt tab.stock
    rw [decide_eq_true none] at compared
    simp only [Counter.holders, seeded, Option.map_some, Option.getD_some, absent,
      Option.bind_some, Decimal.toList_text, read, zero, compared, if_true]
    exact ⟨_, _, rfl, rfl, keeps⟩
  | @claimed tab seeded free more =>
    have absent : tab.claimed.contains user = false := by simpa using free
    obtain ⟨stock, read, compared⟩ := Numeral.read?_ofInt tab.stock
    rw [decide_eq_false (by omega)] at compared
    obtain ⟨after, granted, kept⟩ := keeps.grant seeded free more
    simp only [Counter.holders, seeded, Option.map_some, Option.getD_some, absent,
      Option.bind_some, Decimal.toList_text, read, zero, compared, Bool.false_eq_true, if_false,
      granted]
    exact ⟨_, _, rfl, rfl, kept⟩

end

end Keyspace
end CouponSale
