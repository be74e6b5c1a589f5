import CouponSale.Store.Counter

/-!
What a counter does with a reservation, and who holds one. Only a grant changes the counter, and it
adds one holder.
-/
namespace CouponSale

theorem Keyed.put_put {α β : Type} [DecidableEq α] (key : α) (earlier later : β)
    (l : List (α × β)) : put key later (put key earlier l) = put key later l := by
  induction l with
  | nil => simp [put]
  | cons entry rest ih =>
    by_cases same : key = entry.1
    · simp [put, same]
    · simp [put, same, ih]

namespace Counter

/-- The users who hold a reservation for a coupon. -/
def holders (k : Counter) (coupon : CouponId) : List UserId :=
  ((k.tab? coupon).map Tab.claimed).getD []

/-- What a counter does with a reservation. -/
inductive Reserves (k : Counter) (coupon : CouponId) (user : UserId) :
    Reservation → Counter → Prop where
  | notSeeded (unknown : k.tab? coupon = none) : Reserves k coupon user .notSeeded k
  | alreadyClaimed {tab : Tab} (seeded : k.tab? coupon = some tab) (held : user ∈ tab.claimed) :
      Reserves k coupon user .alreadyClaimed k
  | outOfStock {tab : Tab} (seeded : k.tab? coupon = some tab) (free : user ∉ tab.claimed)
      (none : tab.stock ≤ 0) : Reserves k coupon user .outOfStock k
  | claimed {tab : Tab} (seeded : k.tab? coupon = some tab) (free : user ∉ tab.claimed)
      (more : 0 < tab.stock) :
      Reserves k coupon user .claimed (k.put coupon ⟨tab.stock - 1, user :: tab.claimed⟩)

theorem reserve_reserves (k : Counter) (coupon : CouponId) (user : UserId) :
    k.Reserves coupon user (k.reserve coupon user).1 (k.reserve coupon user).2 := by
  unfold reserve
  split
  · rename_i unknown
    exact .notSeeded unknown
  · rename_i tab seeded
    split
    · rename_i held
      exact .alreadyClaimed seeded (by simpa using held)
    · rename_i free
      have free : user ∉ tab.claimed := by simpa using free
      split
      · rename_i none
        exact .outOfStock seeded free none
      · rename_i more
        exact .claimed seeded free (by omega)

theorem put_put (k : Counter) (coupon : CouponId) (earlier later : Tab) :
    (k.put coupon earlier).put coupon later = k.put coupon later := by
  unfold put
  rw [Keyed.put_put]

theorem holders_put (k : Counter) (coupon other : CouponId) (tab : Tab) :
    (k.put coupon tab).holders other = if other = coupon then tab.claimed else k.holders other := by
  unfold holders
  rw [tab?_put]
  split <;> rfl

theorem holders_seed (k : Counter) (coupon other : CouponId) (total : Int) :
    (k.seed coupon total).holders other = k.holders other := by
  rw [seed, holders_put]
  split
  · rename_i same
    rw [same]
    rfl
  · rfl

/-- To seed a coupon leaves the others as they are. -/
theorem tab?_seed_other {k : Counter} {coupon other : CouponId} {total : Int}
    (differs : other ≠ coupon) : (k.seed coupon total).tab? other = k.tab? other := by
  rw [seed, tab?_put, if_neg differs]

/-- A user holds one reservation more just when the counter grants it. -/
theorem Reserves.count_holders {k l : Counter} {coupon : CouponId} {user : UserId}
    {verdict : Reservation} (reserves : k.Reserves coupon user verdict l) (holder : UserId)
    (other : CouponId) :
    (l.holders other).count holder = (k.holders other).count holder +
      if verdict = .claimed ∧ user = holder ∧ coupon = other then 1 else 0 := by
  cases reserves with
  | @claimed tab seeded free more =>
    rw [holders_put]
    by_cases same : other = coupon
    · subst same
      simp [holders, seeded, List.count_cons]
    · simp [same, Ne.symm same]
  | _ => simp

/-- To reserve makes no coupon known to the counter, nor unknown. -/
theorem Reserves.isSome_tab? {k l : Counter} {coupon : CouponId} {user : UserId}
    {verdict : Reservation} (reserves : k.Reserves coupon user verdict l) (other : CouponId) :
    (l.tab? other).isSome = (k.tab? other).isSome := by
  cases reserves with
  | claimed seeded free more =>
    rw [tab?_put]
    split
    · rename_i same
      simp [same, seeded]
    · rfl
  | _ => rfl

/-- A coupon is known to the counter unless the verdict says otherwise. -/
theorem Reserves.seeded {k l : Counter} {coupon : CouponId} {user : UserId}
    {verdict : Reservation} (reserves : k.Reserves coupon user verdict l)
    (known : verdict ≠ .notSeeded) : (k.tab? coupon).isSome := by
  cases reserves with
  | notSeeded => exact absurd rfl known
  | alreadyClaimed seeded | outOfStock seeded | claimed seeded => simp [seeded]

/-- A coupon that was seeded and has nothing left. -/
def Exhausted (k : Counter) (coupon : CouponId) : Prop :=
  ∃ tab, k.tab? coupon = some tab ∧ tab.stock ≤ 0

section Exhausted

variable {k l : Counter} {coupon other : CouponId} {user : UserId} {verdict : Reservation}

/-- Nobody gets an exhausted coupon, and to ask for it changes nothing. -/
theorem Exhausted.refuses (exhausted : k.Exhausted coupon)
    (reserves : k.Reserves coupon user verdict l) :
    l = k ∧ (verdict = .alreadyClaimed ∨ verdict = .outOfStock) := by
  obtain ⟨tab, seeded, none⟩ := exhausted
  cases reserves with
  | notSeeded unknown => simp [unknown] at seeded
  | alreadyClaimed => exact ⟨rfl, .inl rfl⟩
  | outOfStock => exact ⟨rfl, .inr rfl⟩
  | claimed seeded' free more =>
    obtain rfl := Option.some.inj (seeded.symm.trans seeded')
    omega

/-- Only an exhausted coupon is answered as such. -/
theorem Reserves.outOfStock_exhausted (reserves : k.Reserves coupon user .outOfStock l) :
    l.Exhausted coupon := by
  cases reserves with
  | outOfStock seeded _ none => exact ⟨_, seeded, none⟩

/-- A coupon stays exhausted whatever is reserved. -/
theorem Reserves.exhausted (reserves : k.Reserves other user verdict l)
    (exhausted : k.Exhausted coupon) : l.Exhausted coupon := by
  by_cases same : coupon = other
  · subst same
    exact (exhausted.refuses reserves).1 ▸ exhausted
  · cases reserves with
    | claimed =>
      obtain ⟨tab, seeded, none⟩ := exhausted
      exact ⟨tab, by rw [tab?_put, if_neg same, seeded], none⟩
    | _ => exact exhausted

/-- To reserve seeds nothing. -/
theorem Reserves.unseeded (reserves : k.Reserves other user verdict l)
    (unseeded : k.tab? coupon = none) : l.tab? coupon = none := by
  cases reserves with
  | @claimed tab seeded =>
    rw [tab?_put, if_neg, unseeded]
    rintro rfl
    simp [unseeded] at seeded
  | _ => exact unseeded

/-- A coupon stays exhausted while only others are seeded. -/
theorem Exhausted.seed (exhausted : k.Exhausted coupon) (unseeded : k.tab? other = none)
    (total : Int) : (k.seed other total).Exhausted coupon := by
  obtain ⟨tab, seeded, none⟩ := exhausted
  refine ⟨tab, ?_, none⟩
  rw [tab?_seed_other, seeded]
  rintro rfl
  simp [unseeded] at seeded

end Exhausted
end Counter
end CouponSale
