import CouponSale.Proofs.Store.Counter
import CouponSale.Proofs.Store.CounterCall
import CouponSale.Proofs.Trace

/-!
How many units a counter grants. A coupon is seeded once, and any calls follow, on it and on other
coupons. The counter then keeps just the users it granted a unit. While units are left nobody new is
refused, so the grants are as many as the units or the users, whichever are fewer.
-/
namespace CouponSale

/-- The counter in memory as a machine on which every call is possible. -/
def Memory.step? (m : Memory) (c : CounterCall) : Option (Memory × List CounterAnswer) :=
  some ((m.call c).2, [(m.call c).1])

abbrev CounterMove := Transition Memory CounterCall CounterAnswer

/-- For whom a call wants a unit of a coupon. -/
def CounterCall.user? (coupon : CouponId) : CounterCall → Option UserId
  | .reserve c user => if c = coupon then some user else none
  | _ => none

/-- Who was granted a unit of a coupon by a move. -/
def CounterMove.winner? (coupon : CouponId) (move : CounterMove) : Option UserId :=
  if move.told = [.verdict (.ok .claimed)] then move.label.user? coupon else none

/-- The users who wanted a unit, once for each request. -/
def askers (coupon : CouponId) (moves : List CounterMove) : List UserId :=
  moves.filterMap (·.label.user? coupon)

/-- The users who were granted a unit, in the order of the grants. -/
def granted (coupon : CouponId) (moves : List CounterMove) : List UserId :=
  moves.filterMap (·.winner? coupon)

/-- A request was decided on the units left: one that is refused for want of units found none. -/
def CounterMove.Fair (coupon : CouponId) (move : CounterMove) : Prop :=
  ∀ user, move.label.user? coupon = some user → ∃ verdict stock,
    move.told = [.verdict (.ok verdict)] ∧ move.before.counter.remaining? coupon = some stock ∧
      verdict ≠ .notSeeded ∧ (verdict = .outOfStock → stock ≤ 0) ∧ (verdict = .claimed → 0 < stock)

/-- After a grant every request of the same user is told of it. -/
def Reminds (coupon : CouponId) (earlier later : CounterMove) : Prop :=
  ∀ user, earlier.winner? coupon = some user → later.label.user? coupon = some user →
    later.told = [.verdict (.ok .alreadyClaimed)]

/-- The account of a coupon that was seeded once, after some moves. -/
structure Sold (coupon : CouponId) (total : Int) (moves : List CounterMove) (m : Memory) :
    Prop where
  sound : m.reserving.failing = 0
  tab : m.counter.tab? coupon =
    some ⟨total - (granted coupon moves).length, (granted coupon moves).reverse⟩
  once : (granted coupon moves).Nodup
  asked : granted coupon moves ⊆ askers coupon moves
  served : ((granted coupon moves).length : Int) < total →
    askers coupon moves ⊆ granted coupon moves
  within : granted coupon moves = [] ∨ ((granted coupon moves).length : Int) ≤ total
  fair : ∀ move ∈ moves, move.Fair coupon
  reminds : moves.Pairwise (Reminds coupon)

variable {coupon : CouponId} {total : Int} {moves : List CounterMove} {m n : Memory}

theorem askers_append (move : CounterMove) :
    askers coupon (moves ++ [move]) = askers coupon moves ++ (move.label.user? coupon).toList := by
  rw [askers, List.filterMap_append]
  cases wants : move.label.user? coupon <;> simp [askers, wants]

theorem granted_append (move : CounterMove) :
    granted coupon (moves ++ [move]) = granted coupon moves ++ (move.winner? coupon).toList := by
  rw [granted, List.filterMap_append]
  cases wins : move.winner? coupon <;> simp [granted, wins]

theorem winner_granted {move : CounterMove} {user : UserId} (member : move ∈ moves)
    (wins : move.winner? coupon = some user) : user ∈ granted coupon moves :=
  List.mem_filterMap.mpr ⟨move, member, wins⟩

/-- A call that neither seeds a coupon nor wants a unit of it leaves its counter alone. -/
theorem Memory.call_aside {c : CounterCall} (sound : m.reserving.failing = 0)
    (apart : c.user? coupon = none) (unseeded : ∀ total fits, c ≠ .seed coupon total fits) :
    (m.call c).2.reserving.failing = 0 ∧
      (m.call c).2.counter.tab? coupon = m.counter.tab? coupon := by
  cases c with
  | seed other units fits =>
    have distinct : coupon ≠ other := by
      rintro rfl
      exact unseeded units fits rfl
    exact ⟨sound, by simp [Memory.call, Backend.seed, Counter.seed, distinct]⟩
  | reserve other user =>
    have distinct : coupon ≠ other := by
      rintro rfl
      simp [CounterCall.user?] at apart
    rw [m.call_reserve sound]
    refine ⟨sound, ?_⟩
    have reserves := m.counter.reserve_reserves other user
    generalize (m.counter.reserve other user).1 = verdict,
      (m.counter.reserve other user).2 = k at reserves ⊢
    cases reserves with
    | claimed => simp [distinct]
    | _ => rfl
  | _ => exact ⟨sound, rfl⟩

theorem Sold.aside {c : CounterCall} (sold : Sold coupon total moves m)
    (apart : c.user? coupon = none) (unseeded : ∀ total fits, c ≠ .seed coupon total fits) :
    Sold coupon total (moves ++ [⟨m, c, (m.call c).2, [(m.call c).1]⟩]) (m.call c).2 := by
  obtain ⟨sound, same⟩ := m.call_aside sold.sound apart unseeded
  have grants : granted coupon (moves ++ [⟨m, c, (m.call c).2, [(m.call c).1]⟩]) =
      granted coupon moves := by
    rw [granted_append]
    simp [CounterMove.winner?, apart]
  have asks : askers coupon (moves ++ [⟨m, c, (m.call c).2, [(m.call c).1]⟩]) =
      askers coupon moves := by
    rw [askers_append]
    simp [apart]
  constructor
  · exact sound
  · rw [same, grants]
    exact sold.tab
  · rw [grants]
    exact sold.once
  · rw [grants, asks]
    exact sold.asked
  · rw [grants, asks]
    exact sold.served
  · rw [grants]
    exact sold.within
  · intro move member
    rcases List.mem_append.mp member with earlier | last
    · exact sold.fair move earlier
    · intro user wants
      simp [List.mem_singleton.mp last, apart] at wants
  · refine List.pairwise_append.mpr ⟨sold.reminds, List.pairwise_singleton _ _, ?_⟩
    intro earlier _ later last user _ wants
    simp [List.mem_singleton.mp last, apart] at wants

/-- A request of a user for a unit, with the verdict and the counter after it. -/
def request (m : Memory) (coupon : CouponId) (user : UserId) (verdict : Reservation)
    (k : Counter) : CounterMove :=
  ⟨m, .reserve coupon user, { Backend.beginReserve m with counter := k }, [.verdict (.ok verdict)]⟩

theorem request_user (m : Memory) (coupon : CouponId) (user : UserId) (verdict : Reservation)
    (k : Counter) : (request m coupon user verdict k).label.user? coupon = some user := by
  simp [request, CounterCall.user?]

theorem request_winner (m : Memory) (coupon : CouponId) (user : UserId) (verdict : Reservation)
    (k : Counter) : (request m coupon user verdict k).winner? coupon =
      if verdict = .claimed then some user else none := by
  unfold CounterMove.winner?
  rw [request_user]
  simp [request]

/-- A user who has a unit, or who finds none left, is refused, and the account stays. -/
theorem Sold.refuse {user : UserId} {verdict : Reservation} (sold : Sold coupon total moves m)
    (why : verdict = .alreadyClaimed ∧ user ∈ granted coupon moves ∨
      verdict = .outOfStock ∧ user ∉ granted coupon moves ∧
        total ≤ (granted coupon moves).length) :
    Sold coupon total (moves ++ [request m coupon user verdict m.counter])
      (request m coupon user verdict m.counter).after := by
  have refused : verdict ≠ .claimed := by
    rcases why with ⟨rfl, _⟩ | ⟨rfl, _⟩ <;> simp
  have grants : granted coupon (moves ++ [request m coupon user verdict m.counter]) =
      granted coupon moves := by
    rw [granted_append, request_winner, if_neg refused]
    simp
  have asks : askers coupon (moves ++ [request m coupon user verdict m.counter]) =
      askers coupon moves ++ [user] := by
    rw [askers_append, request_user, Option.toList_some]
  constructor
  · exact sold.sound
  · rw [grants]
    exact sold.tab
  · rw [grants]
    exact sold.once
  · rw [grants, asks]
    exact List.subset_append_of_subset_left _ sold.asked
  · rw [grants, asks]
    intro left
    have new : user ∈ granted coupon moves := by
      rcases why with ⟨_, holds⟩ | ⟨_, _, none⟩
      · exact holds
      · omega
    exact List.append_subset.mpr ⟨sold.served left, by simpa using new⟩
  · rw [grants]
    exact sold.within
  · intro move member
    rcases List.mem_append.mp member with earlier | last
    · exact sold.fair move earlier
    · rw [List.mem_singleton.mp last]
      intro _ _
      refine ⟨verdict, total - (granted coupon moves).length, rfl, ?_, ?_, ?_, ?_⟩
      · simp [request, Counter.remaining?, sold.tab]
      · rcases why with ⟨rfl, _⟩ | ⟨rfl, _⟩ <;> simp
      · rcases why with ⟨rfl, _⟩ | ⟨rfl, _, none⟩
        · simp
        · intro _
          omega
      · exact fun granted => absurd granted refused
  · refine List.pairwise_append.mpr ⟨sold.reminds, List.pairwise_singleton _ _, ?_⟩
    intro earlier member later last winner wins wants
    rw [List.mem_singleton.mp last] at wants ⊢
    rw [request_user] at wants
    cases wants
    rcases why with ⟨rfl, _⟩ | ⟨_, new, _⟩
    · rfl
    · exact absurd (winner_granted member wins) new

/-- A new user gets a unit while one is left. -/
theorem Sold.grant {user : UserId} (sold : Sold coupon total moves m)
    (new : user ∉ granted coupon moves) (left : ((granted coupon moves).length : Int) < total) :
    Sold coupon total
      (moves ++ [request m coupon user .claimed (m.counter.put coupon
        ⟨total - (granted coupon moves).length - 1, user :: (granted coupon moves).reverse⟩)])
      (request m coupon user .claimed (m.counter.put coupon
        ⟨total - (granted coupon moves).length - 1,
          user :: (granted coupon moves).reverse⟩)).after := by
  set move := request m coupon user .claimed (m.counter.put coupon
    ⟨total - (granted coupon moves).length - 1, user :: (granted coupon moves).reverse⟩) with made
  have wants : move.label.user? coupon = some user := request_user _ _ _ _ _
  have wins : move.winner? coupon = some user := by
    rw [made, request_winner, if_pos rfl]
  have grants : granted coupon (moves ++ [move]) = granted coupon moves ++ [user] := by
    rw [granted_append, wins, Option.toList_some]
  have asks : askers coupon (moves ++ [move]) = askers coupon moves ++ [user] := by
    rw [askers_append, wants, Option.toList_some]
  constructor
  · exact sold.sound
  · rw [grants]
    simp [made, request, Int.sub_sub]
  · rw [grants, List.nodup_append]
    refine ⟨sold.once, List.nodup_singleton user, ?_⟩
    rintro earlier member _ last rfl
    rw [List.mem_singleton.mp last] at member
    exact new member
  · rw [grants, asks]
    exact List.append_subset.mpr ⟨List.subset_append_of_subset_left _ sold.asked, by simp⟩
  · rw [grants, asks]
    intro _
    exact List.append_subset.mpr ⟨List.subset_append_of_subset_left _ (sold.served left), by simp⟩
  · rw [grants]
    right
    simp only [List.length_append, List.length_singleton]
    omega
  · intro other member
    rcases List.mem_append.mp member with earlier | last
    · exact sold.fair other earlier
    · rw [List.mem_singleton.mp last]
      intro _ _
      refine ⟨.claimed, total - (granted coupon moves).length, rfl, ?_, by simp, by simp, ?_⟩
      · simp [made, request, Counter.remaining?, sold.tab]
      · intro _
        omega
  · refine List.pairwise_append.mpr ⟨sold.reminds, List.pairwise_singleton _ _, ?_⟩
    intro earlier member later last winner won asked
    rw [List.mem_singleton.mp last, wants] at asked
    cases asked
    exact absurd (winner_granted member won) new

theorem Sold.reserve (sold : Sold coupon total moves m) (user : UserId) :
    Sold coupon total
      (moves ++ [⟨m, .reserve coupon user, (m.call (.reserve coupon user)).2,
        [(m.call (.reserve coupon user)).1]⟩])
      (m.call (.reserve coupon user)).2 := by
  have reserves := m.counter.reserve_reserves coupon user
  rw [m.call_reserve sold.sound]
  generalize (m.counter.reserve coupon user).1 = verdict,
    (m.counter.reserve coupon user).2 = k at reserves
  show Sold coupon total (moves ++ [request m coupon user verdict k])
    (request m coupon user verdict k).after
  cases reserves with
  | notSeeded unknown => simp [sold.tab] at unknown
  | alreadyClaimed seeded held =>
    rw [sold.tab] at seeded
    cases seeded
    exact sold.refuse (.inl ⟨rfl, by simpa using held⟩)
  | outOfStock seeded free none =>
    rw [sold.tab] at seeded
    cases seeded
    exact sold.refuse (.inr ⟨rfl, by simpa using free, by simp only at none; omega⟩)
  | claimed seeded free more =>
    rw [sold.tab] at seeded
    cases seeded
    exact sold.grant (by simpa using free) (by simp only at more; omega)

theorem Sold.start {fits : InInt64 total} (sound : m.reserving.failing = 0)
    (fresh : m.counter.tab? coupon = none) :
    Sold coupon total [] (m.call (.seed coupon total fits)).2 where
  sound := sound
  tab := by simp [Memory.call, Backend.seed, Counter.seed, fresh, granted]
  once := List.nodup_nil
  asked := List.nil_subset _
  served _ := List.nil_subset _
  within := .inl rfl
  fair _ member := absurd member List.not_mem_nil
  reminds := .nil

theorem Sold.run (sold : Sold coupon total [] m) (run : Trace Memory.step? m moves n)
    (once : ∀ move ∈ moves, ∀ units fits, move.label ≠ .seed coupon units fits) :
    Sold coupon total moves n := by
  induction run with
  | start => exact sold
  | @move moves t u call told sofar step ih =>
    cases step
    have sold := ih fun move member => once move (List.mem_append_left _ member)
    have unseeded := once _ (List.mem_append_right _ (List.mem_singleton_self _))
    cases wants : call.user? coupon with
    | none => exact sold.aside wants unseeded
    | some user =>
      cases call with
      | reserve other asker =>
        obtain ⟨rfl, rfl⟩ : other = coupon ∧ asker = user := by
          simpa [CounterCall.user?] using wants
        exact sold.reserve asker
      | _ => simp [CounterCall.user?] at wants

/-- As many units are granted as there are, or as there are users who want one. -/
theorem Sold.length_granted (sold : Sold coupon total moves m) :
    ((granted coupon moves).length : Int) =
      min (max total 0) (askers coupon moves).dedup.length := by
  have fewer : (granted coupon moves).length ≤ (askers coupon moves).dedup.length := by
    apply sold.once.length_le_of_subset
    intro user member
    exact List.mem_dedup.mpr (sold.asked member)
  by_cases left : ((granted coupon moves).length : Int) < total
  · have all : (askers coupon moves).dedup.length ≤ (granted coupon moves).length := by
      apply (List.nodup_dedup _).length_le_of_subset
      intro user member
      exact sold.served left (List.mem_dedup.mp member)
    omega
  · rcases sold.within with none | within
    · simp only [none, List.length_nil] at left ⊢
      omega
    · omega

/-- Of a coupon that is seeded once, as many units are granted as there are, or as there are users
who want one, whichever is less; nobody gets a second one, and nobody is told that there are none
left while there are. -/
theorem Memory.grants_exactly {fits : InInt64 total} (sound : m.reserving.failing = 0)
    (fresh : m.counter.tab? coupon = none)
    (run : Trace Memory.step? (m.call (.seed coupon total fits)).2 moves n)
    (once : ∀ move ∈ moves, ∀ units fits, move.label ≠ .seed coupon units fits) :
    ((granted coupon moves).length : Int) =
        min (max total 0) (askers coupon moves).dedup.length ∧
      (granted coupon moves).Nodup ∧ moves.Pairwise (Reminds coupon) ∧
      (∀ move ∈ moves, move.Fair coupon) ∧
      n.counter.remaining? coupon = some (total - (granted coupon moves).length) := by
  have sold := Sold.run (.start sound fresh) run once
  refine ⟨sold.length_granted, sold.once, sold.reminds, sold.fair, ?_⟩
  simp [Counter.remaining?, sold.tab]

/-- Three users want a coupon, one of them twice, and another coupon is seeded and sold meanwhile. -/
def smallRush : List CounterCall :=
  [.reserve ⟨1⟩ ⟨7⟩, .seed ⟨2⟩ 5 ⟨by decide, by decide⟩, .reserve ⟨1⟩ ⟨7⟩, .reserve ⟨2⟩ ⟨8⟩,
    .reserve ⟨1⟩ ⟨8⟩, .remaining ⟨1⟩, .reserve ⟨1⟩ ⟨9⟩]

/-- Of two units, both are granted in that rush. -/
theorem Memory.grants_smallRush :
    ∃ moves n, moves.map Transition.label = smallRush ∧
      Trace Memory.step? ((Memory.new .recording).call (.seed ⟨1⟩ 2 ⟨by decide, by decide⟩)).2
        moves n ∧
      (askers ⟨1⟩ moves).dedup.length = 3 ∧ ((granted ⟨1⟩ moves).length : Int) = 2 ∧
      n.counter.remaining? ⟨1⟩ = some 0 := by
  have ended : run? Memory.step?
      ((Memory.new .recording).call (.seed ⟨1⟩ 2 ⟨by decide, by decide⟩)).2 smallRush =
        some (_, _) := rfl
  obtain ⟨moves, run, labels, _⟩ := Trace.of_run? ended
  have asked : askers ⟨1⟩ moves = smallRush.filterMap (CounterCall.user? ⟨1⟩) := by
    rw [← labels, List.filterMap_map]
    rfl
  have three : (askers ⟨1⟩ moves).dedup.length = 3 := by
    rw [asked]
    decide
  have unseeded : ∀ move ∈ moves, ∀ units fits, move.label ≠ .seed ⟨1⟩ units fits := by
    intro move member units fits seeds
    have listed := List.mem_map_of_mem (f := Transition.label) member
    rw [labels, seeds] at listed
    simp [smallRush] at listed
    cases listed
  obtain ⟨count, _, _, _, left⟩ := Memory.grants_exactly rfl rfl run unseeded
  rw [three] at count
  have two : ((granted ⟨1⟩ moves).length : Int) = 2 := count
  refine ⟨moves, _, labels, run, three, two, ?_⟩
  rw [left, two]
  rfl

end CouponSale
