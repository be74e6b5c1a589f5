import CouponSale.Proofs.Sale.Overselling
import CouponSale.Proofs.Sale.Rush

/-!
How a burst ends on a coupon that was just created. Whichever way its claims move and however many
of them the flag answers in place of the counter, each user is decided once, so that the units are
sold as far as there are units and users, and everyone else is told that the coupon is sold out.
-/
namespace CouponSale

/-- The coupon of which a note reports that a unit is sold. -/
def Note.sale? : Note → Option CouponId
  | .decided _ coupon .success => some coupon
  | _ => none

/-- The coupons of the units that are sold according to some notes. -/
def sales (notes : List Note) : List CouponId := notes.filterMap Note.sale?

theorem sales_append (earlier later : List Note) :
    sales (earlier ++ later) = sales earlier ++ sales later := List.filterMap_append

theorem sales_eq_nil {notes : List Note}
    (none : ∀ user coupon, notes.countP (·.success user coupon) = 0) : sales notes = [] := by
  apply List.filterMap_eq_nil_iff.mpr
  intro note member
  cases note with
  | decided user coupon outcome =>
    cases outcome with
    | success => exact absurd member (Sale.not_success_of_count (none user coupon))
    | _ => rfl
  | _ => rfl

/-- Each answer is recorded once. -/
theorem Tally.total_ofAnswers (answers : List (Answer Outcome)) :
    (ofAnswers answers).total = answers.length := by
  have records : ∀ (t : Tally) (answer : Answer Outcome),
      (t.record answer).total = t.total + 1 := by
    intro t answer
    unfold record total
    split <;> simp only <;> omega
  have all : ∀ t : Tally, (answers.foldl record t).total = t.total + answers.length := by
    induction answers with
    | nil => exact fun _ => rfl
    | cons answer rest ih =>
      intro t
      rw [List.foldl_cons, ih, records, List.length_cons]
      omega
  exact (all empty).trans (Nat.zero_add _)

/-- The tally of answers of which each either is a success or tells that the coupon is sold out. -/
theorem Tally.ofAnswers_plain {answers : List (Answer Outcome)}
    (plain : ∀ answer ∈ answers, answer = .ok .success ∨ answer = .ok .outOfStock) :
    ofAnswers answers =
      ⟨answers.count (.ok .success), 0, answers.count (.ok .outOfStock), 0, 0⟩ := by
  have all : ∀ t : Tally, answers.foldl record t = { t with
      success := t.success + answers.count (.ok .success)
      outOfStock := t.outOfStock + answers.count (.ok .outOfStock) } := by
    induction answers with
    | nil => exact fun _ => rfl
    | cons answer rest ih =>
      intro t
      obtain ⟨first, others⟩ := List.forall_mem_cons.mp plain
      rw [List.foldl_cons, ih others]
      rcases first with rfl | rfl <;>
        simp [record, ResponseCode.ofAnswer] <;> omega
  rw [ofAnswers, all]
  simp [empty]

namespace Sale

variable {s t : Sale Memory} {notes : List Note} {label : Label} {coupon : CouponId}

/-- A task is handed to the pool just when a unit is sold, which is at the end of a claim. -/
theorem Move.sold (move : Move s label t notes) (unasked : ∀ task, label ≠ .submit task) :
    (sales notes = [] ∧ t.pool.handed = s.pool.handed) ∨
      ∃ call, label = .call call.number ∧ s.call? call.number = some call ∧
        sales notes = [call.coupon] ∧ t.pool.handed = s.pool.handed + 1 := by
  have answers : ∀ (call : Call) (answer : Answer Outcome),
      sales (answerNotes call answer) = [] :=
    fun call answer => sales_eq_nil (success_answerNotes call answer)
  have absorbed : ∀ {part : Pool.Label} {moved : Pool.Moved} (u : Sale Memory),
      u.pool = s.pool → (∀ task, part ≠ .submit task) → u.pool.step? part = some moved →
      sales (u.absorb moved).2 = [] ∧ (u.absorb moved).1.pool.handed = s.pool.handed := by
    intro part moved u pool idle step
    have move : u.pool.Move part moved.1 moved.2 := Pool.step?_move step
    exact ⟨sales_eq_nil (success_absorb u step), (move.handed idle).trans (by rw [pool])⟩
  cases move with
  | @refuse call known => exact .inl ⟨answers call _, rfl⟩
  | ask | seed | wait => exact .inl ⟨rfl, rfl⟩
  | hear | expire => exact .inl ⟨sales_eq_nil (success_reserveNotes _ _), rfl⟩
  | fail => exact .inl ⟨answers _ _, rfl⟩
  | @decide call verdict found told =>
    cases verdict with
    | claimed =>
      have submits : s.pool.step? (.submit (.fresh call.user call.coupon)) = some _ := rfl
      refine .inr ⟨call, rfl, found, ?_, s.handed_follow call .claimed⟩
      rw [sales_append, follow, sales_eq_nil (success_absorb s submits)]
      exact congrArg (call.coupon :: ·) (answers call _)
    | outOfStock =>
      refine .inl ⟨?_, rfl⟩
      have flags : sales (s.flag call.coupon).2 = [] := by
        simp only [flag]
        split <;> rfl
      rw [sales_append, follow, flags]
      exact answers call _
    | _ => exact .inl ⟨answers call _, rfl⟩
  | beginWrite holds step =>
    exact .inl (absorbed { s with stores := Backend.beginWrite s.stores } rfl (by simp) step)
  | @endWrite _ _ job _ _ writes step =>
    exact .inl (absorbed { s with
      stores := (Backend.write s.stores job.task.user job.task.coupon).2 } rfl (by simp) step)
  | work elsewhere step => exact .inl (absorbed s rfl (by simp) step)
  | @manage label part moved same step =>
    refine .inl (absorbed s rfl ?_ step)
    rintro task rfl
    cases label <;> simp_all [Label.pool?]
  | @create c now =>
    unfold openCoupon writeCoupon
    cases c.validate now <;> exact .inl ⟨rfl, rfl⟩
  | @reseed other =>
    simp only [Sale.reseed, Backend.find, Ledger.get]
    cases s.stores.ledger.find? other <;> exact .inl ⟨rfl, rfl⟩

theorem Level.left {sum : Int} (level : Level coupon sum s) : ∃ stock,
    s.stores.counter.tab? coupon = some ⟨stock, s.stores.counter.holders coupon⟩ ∧ 0 ≤ stock ∧
      stock + (s.stores.counter.holders coupon).length = sum := by
  obtain ⟨tab, seeded, enough, sums⟩ := level.counted
  rw [holders_eq seeded]
  exact ⟨tab.stock, seeded, enough, sums⟩

end Sale

/-- Waits for the counter, on behalf of a user. -/
def Call.waitsFor (user : UserId) (call : Call) : Bool := call.waits && call.user = user

namespace Rush

/-- The users with a reservation for the coupon of the burst. -/
def holders (r : Rush) : List UserId := r.sale.stores.counter.holders r.burst.coupon

/-- How often a user is to be decided yet, or has a unit. -/
def turns (r : Rush) (user : UserId) : Nat :=
  r.started.count user + r.calls.countP (·.waitsFor user) + r.holders.count user

/-- How a burst stands with its coupon. -/
structure Fair (total : Int) (r : Rush) : Prop where
  level : r.sale.Level r.burst.coupon total
  once : ∀ user, r.turns user ≤ if user.number < r.burst.next then 1 else 0
  sold : r.holders.length = r.answers.count (.ok .success) + r.calls.countP Call.holds
  told : ∀ call ∈ r.calls, ∀ verdict, call.stage = .told (.ok verdict) →
    verdict = .claimed ∨ verdict = .outOfStock ∧ total ≤ r.holders.length
  plain : ∀ answer ∈ r.answers, answer = .ok .success ∨ answer = .ok .outOfStock
  flagged : r.sale.soldOut.check r.burst.coupon = true ↔ .ok .outOfStock ∈ r.answers
  exhausted : r.sale.soldOut.check r.burst.coupon = true → total ≤ r.holders.length

variable {r t : Rush} {label : Label} {notes : List Note} {total : Int}

theorem Fair.refuse {call : Call} (fair : Fair total r)
    (flagged : r.sale.soldOut.check r.burst.coupon = true) : Fair total (r.refused call) := by
  obtain ⟨level, once, sold, told, plain, flag, exhausted⟩ := fair
  refine ⟨level, ?_, ?_, told, ?_, ?_, exhausted⟩
  · intro user
    have fewer : (r.started.erase call.user).count user ≤ r.started.count user :=
      List.erase_sublist.count_le user
    have bound := once user
    exact Nat.le_trans (Nat.add_le_add_right (Nat.add_le_add_right fewer _) _) bound
  · exact sold
  · intro answer member
    rcases List.mem_cons.mp member with rfl | old
    · exact .inr rfl
    · exact plain answer old
  · exact ⟨fun _ => List.mem_cons_self, fun _ => flagged⟩

theorem Fair.ask {call : Call} {due expiry : Nat} (fair : Fair total r)
    (waits : call.user ∈ r.started) (about : call.coupon = r.burst.coupon)
    (asks : call.stage = .asking due expiry) : Fair total (r.asked call) := by
  obtain ⟨level, once, sold, told, plain, flag, exhausted⟩ := fair
  have calls := asked_calls about
  refine ⟨⟨level.counted, level.settled⟩, ?_, ?_, ?_, plain, flag, exhausted⟩
  · intro user
    have bound := once user
    have fewer : (r.started.erase call.user).count user =
        r.started.count user - if call.user = user then 1 else 0 := by
      rw [List.count_erase]
      simp
    have more : (r.asked call).calls.countP (·.waitsFor user) =
        r.calls.countP (·.waitsFor user) + if call.user = user then 1 else 0 := by
      rw [calls, List.countP_append, List.countP_singleton]
      simp [Call.waitsFor, Call.waits, asks]
    have one : call.user = user → 0 < r.started.count user := by
      rintro rfl
      exact List.count_pos_iff.mpr waits
    unfold turns at bound ⊢
    rw [more]
    show (r.started.erase call.user).count user + _ + r.holders.count user ≤
      if user.number < r.burst.next then 1 else 0
    rw [fewer]
    split <;> rename_i same
    · have positive := one same
      omega
    · omega
  · have same : (r.asked call).calls.countP Call.holds = r.calls.countP Call.holds := by
      rw [calls, List.countP_append, List.countP_singleton]
      simp [Call.holds, asks]
    rw [same]
    exact sold
  · rw [calls]
    intro other member verdict said
    rcases List.mem_append.mp member with old | new
    · exact told other old verdict said
    · rw [List.mem_singleton.mp new, asks] at said
      cases said

/-- Who waits for the counter gets a unit, or all of them are sold. -/
theorem Fair.decides {user : UserId} {verdict : Reservation} {counter : Counter}
    (fair : Fair total r) (waits : 0 < r.calls.countP (·.waitsFor user))
    (reserves : r.sale.stores.counter.Reserves r.burst.coupon user verdict counter) :
    (verdict = .claimed ∧ counter.holders r.burst.coupon = user :: r.holders ∧
      ∃ tab, counter.tab? r.burst.coupon = some tab ∧ 0 ≤ tab.stock ∧
        tab.stock + tab.claimed.length = total) ∨
      (verdict = .outOfStock ∧ counter = r.sale.stores.counter ∧ total ≤ r.holders.length) := by
  obtain ⟨stock, seeded, enough, sum⟩ := fair.level.left
  cases reserves with
  | notSeeded unknown =>
    rw [seeded] at unknown
    cases unknown
  | @alreadyClaimed tab here held =>
    -- Nobody who has a unit is to be decided once more.
    obtain rfl := Option.some.inj (seeded.symm.trans here)
    have holds : 0 < r.holders.count user := List.count_pos_iff.mpr held
    have bound := fair.once user
    unfold turns at bound
    split at bound <;> omega
  | @outOfStock tab here free none =>
    obtain rfl := Option.some.inj (seeded.symm.trans here)
    refine .inr ⟨rfl, rfl, ?_⟩
    simp only at none
    simp only [holders]
    omega
  | @claimed tab here free more =>
    obtain rfl := Option.some.inj (seeded.symm.trans here)
    refine .inl ⟨rfl, ?_, _, by rw [Counter.tab?_put, if_pos rfl], ?_, ?_⟩
    · rw [Counter.holders_put, if_pos rfl]
      rfl
    · simp only at more ⊢
      omega
    · simp only [List.length_cons]
      omega

theorem Fair.hear {call : Call} {due expiry : Nat} {verdict : Reservation} {counter : Counter}
    (fair : Fair total r) (numbered : (r.sale.calls.map Call.number).Nodup)
    (found : r.sale.call? call.number = some call) (about : call.coupon = r.burst.coupon)
    (asks : call.stage = .asking due expiry)
    (reserves : r.sale.stores.counter.Reserves call.coupon call.user verdict counter) :
    Fair total (r.told call verdict counter) := by
  obtain ⟨before, after, parts, tell, _⟩ := calls_parts numbered found about
  have calls := tell verdict counter
  have fewer : ∀ user, (r.told call verdict counter).calls.countP (·.waitsFor user) +
      (if call.user = user then 1 else 0) = r.calls.countP (·.waitsFor user) := by
    intro user
    rw [calls, parts]
    simp [List.countP_append, List.countP_cons, Call.waitsFor, Call.waits, asks, Nat.add_assoc]
  have holding : (r.told call verdict counter).calls.countP Call.holds =
      r.calls.countP Call.holds + if verdict = .claimed then 1 else 0 := by
    rw [calls, parts]
    cases verdict <;>
      simp [List.countP_append, List.countP_cons, Call.holds, asks, Nat.add_assoc]
  have waits : 0 < r.calls.countP (·.waitsFor call.user) := by
    rw [← fewer, if_pos rfl]
    omega
  have decides := fair.decides waits (about ▸ reserves)
  obtain ⟨level, once, sold, told, plain, flag, exhausted⟩ := fair
  rcases decides with ⟨rfl, holds, counted⟩ | ⟨rfl, rfl, none⟩
  · have holds : (r.told call .claimed counter).holders = call.user :: r.holders := holds
    refine ⟨⟨counted, level.settled⟩, ?_, ?_, ?_, plain, flag, ?_⟩
    · intro user
      have bound := once user
      have less := fewer user
      unfold turns at bound ⊢
      rw [holds, List.count_cons]
      simp only [beq_iff_eq]
      show r.started.count user + _ + _ ≤ if user.number < r.burst.next then 1 else 0
      omega
    · rw [holds, holding, if_pos rfl, List.length_cons, sold]
      rfl
    · intro other member verdict said
      rcases mem_told numbered found about member with old | new
      · refine (told other old verdict said).imp_right (And.imp_right fun all => ?_)
        rw [holds, List.length_cons]
        omega
      · rw [new] at said
        cases said
        exact .inl rfl
    · intro flagged
      have all := exhausted flagged
      rw [holds, List.length_cons]
      omega
  · refine ⟨⟨level.counted, level.settled⟩, ?_, ?_, ?_, plain, flag, exhausted⟩
    · intro user
      have bound := once user
      have less := fewer user
      unfold turns at bound ⊢
      show r.started.count user + _ + r.holders.count user ≤
        if user.number < r.burst.next then 1 else 0
      omega
    · rw [holding]
      exact sold
    · intro other member verdict said
      rcases mem_told numbered found about member with old | new
      · exact told other old verdict said
      · rw [new] at said
        cases said
        exact .inr ⟨rfl, none⟩

/-- A claim that has its verdict is answered, and flags the coupon if all units are sold. -/
theorem Fair.conclude {call : Call} {verdict : Reservation} (fair : Fair total r)
    (numbered : (r.sale.calls.map Call.number).Nodup)
    (found : r.sale.call? call.number = some call) (about : call.coupon = r.burst.coupon)
    (told : call.stage = .told (.ok verdict)) (stocked : r.sale.stores.Numbered r.sale.unseeded) :
    Fair total (r.concluded call verdict) := by
  obtain ⟨before, after, parts, _, drop⟩ := calls_parts numbered found about
  have calls := drop verdict
  have member : call ∈ r.calls := mem_calls found about
  have level := fair.level.move stocked (.decide found told) (by simp)
  obtain ⟨_, once, sold, heard, plain, flag, exhausted⟩ := fair
  have holders : (r.concluded call verdict).holders = r.holders :=
    congrArg (·.holders r.burst.coupon) (Sale.follow_counter call verdict)
  have waiting : ∀ user, (r.concluded call verdict).calls.countP (·.waitsFor user) =
      r.calls.countP (·.waitsFor user) := by
    intro user
    rw [calls, parts]
    simp [List.countP_append, Call.waitsFor, Call.waits, told]
  have turns : ∀ user, (r.concluded call verdict).turns user = r.turns user := by
    intro user
    rw [Rush.turns, waiting, holders]
    rfl
  have others : ∀ other ∈ (r.concluded call verdict).calls, ∀ verdict,
      other.stage = .told (.ok verdict) → verdict = .claimed ∨
        verdict = .outOfStock ∧ total ≤ r.holders.length :=
    fun other member => heard other (mem_concluded numbered found about member)
  have holding : r.calls.countP Call.holds = (r.concluded call verdict).calls.countP Call.holds +
      if verdict = .claimed then 1 else 0 := by
    rw [calls, parts]
    cases verdict <;> simp [List.countP_append, Call.holds, told, Nat.add_assoc]
  rcases heard call member verdict told with rfl | ⟨rfl, all⟩
  · refine ⟨level, fun user => turns user ▸ once user, ?_, holders ▸ others, ?_, ?_, ?_⟩
    · rw [if_pos rfl] at holding
      rw [holders, sold, holding]
      show _ = (Except.ok .success :: r.answers).count (.ok .success) + _
      rw [List.count_cons_self]
      omega
    · exact List.forall_mem_cons.mpr ⟨.inl rfl, plain⟩
    · show r.sale.soldOut.check r.burst.coupon = true ↔ _ ∈ Except.ok .success :: r.answers
      simpa using flag
    · rw [holders]
      exact exhausted
  · refine ⟨level, fun user => turns user ▸ once user, ?_, holders ▸ others, ?_, ?_, ?_⟩
    · rw [if_neg (by simp)] at holding
      rw [holders, sold, holding]
      show _ = (Except.ok .outOfStock :: r.answers).count (.ok .success) + _
      rw [List.count_cons_of_ne (by simp)]
      omega
    · exact List.forall_mem_cons.mpr ⟨.inr rfl, plain⟩
    · have flagged : (r.concluded call .outOfStock).sale.soldOut.check r.burst.coupon = true := by
        show (r.sale.soldOut.mark call.coupon).2.check r.burst.coupon = true
        rw [SoldOut.check_mark, about]
        simp
      exact ⟨fun _ => List.mem_cons_self, fun _ => flagged⟩
    · rw [holders]
      exact fun _ => all

theorem Move.fair (fair : Fair total r) (numbered : (r.sale.calls.map Call.number).Nodup)
    (stocked : r.sale.stores.Numbered r.sale.unseeded) (move : Move r label t notes) :
    Fair total t := by
  cases move with
  | start place =>
    obtain ⟨level, once, sold, told, plain, flag, exhausted⟩ := fair
    refine ⟨level, ?_, sold, told, plain, flag, exhausted⟩
    intro user
    have bound := once user
    unfold turns at bound
    show (r.started ++ [(⟨r.burst.next⟩ : UserId)]).count user + r.calls.countP (·.waitsFor user) +
      r.holders.count user ≤ if user.number < ((r.burst.next + 1 : Nat) : Int) then 1 else 0
    rw [List.count_append, List.count_singleton]
    by_cases new : user = ⟨r.burst.next⟩
    · subst new
      have next : (r.burst.next : Int) < ((r.burst.next + 1 : Nat) : Int) := by omega
      simp only [Int.lt_irrefl, if_false] at bound
      simp only [beq_self_eq_true, next, if_true]
      omega
    · have other : ((⟨r.burst.next⟩ : UserId) == user) = false := by simp [Ne.symm new]
      simp only [other, Bool.false_eq_true, if_false, Nat.add_zero]
      split at bound <;> split <;> omega
  | refuse waits about flagged => exact fair.refuse flagged
  | ask waits about asks timely => exact fair.ask waits about asks
  | hear found about asks reserves => exact fair.hear numbered found about asks reserves
  | conclude found about told => exact fair.conclude numbered found about told stocked
  | join ready =>
    obtain ⟨level, once, sold, told, plain, flag, exhausted⟩ := fair
    exact ⟨level, once, sold, told, plain, flag, exhausted⟩
  | @other label sale notes permitted step =>
    obtain ⟨calls, holders, flag⟩ := permits_apart numbered permitted step
    obtain ⟨level, once, sold, told, plain, flagged, exhausted⟩ := fair
    have calls : Rush.calls { r with sale } = r.calls := calls
    have holders : Rush.holders { r with sale } = r.holders := holders
    have flag : sale.soldOut.check r.burst.coupon = r.sale.soldOut.check r.burst.coupon := flag
    refine ⟨?_, ?_, ?_, ?_, plain, ?_, ?_⟩
    · cases label with
      | set setting =>
        cases step
        cases setting <;> exact ⟨level.counted, level.settled⟩
      | move label =>
        refine level.move stocked (Sale.step?_move step) ?_
        rintro rfl
        simp [permits] at permitted
    · intro user
      rw [turns, calls, holders]
      exact once user
    · rw [calls, holders]
      exact sold
    · rw [calls, holders]
      exact told
    · rw [flag]
      exact flagged
    · rw [flag, holders]
      exact exhausted

/-- Beside what is sold for other coupons, a task is handed to the pool for each success. -/
theorem Move.handed (move : Move r label t notes) :
    t.sale.pool.handed + r.answers.count (.ok .success) =
      r.sale.pool.handed + t.answers.count (.ok .success) +
        (sales notes).countP (· ≠ r.burst.coupon) := by
  cases move with
  | start | join | ask | hear => rfl
  | @refuse call waits about flagged =>
    have silent : sales (.soldOutHit call.user call.coupon ::
        Sale.answerNotes call (.ok .outOfStock)) = [] :=
      sales_eq_nil (Sale.success_answerNotes call _)
    rw [silent]
    show _ = _ + (Except.ok .outOfStock :: r.answers).count (.ok .success) + _
    rw [List.count_cons_of_ne (by simp)]
    rfl
  | @conclude call verdict found about told =>
    have handed : (r.concluded call verdict).sale.pool.handed =
        r.sale.pool.handed + if verdict = .claimed then 1 else 0 :=
      r.sale.handed_follow call verdict
    have answers : (r.concluded call verdict).answers.count (.ok .success) =
        r.answers.count (.ok .success) + if verdict = .claimed then 1 else 0 := by
      show (Except.ok verdict.outcome :: r.answers).count (.ok .success) = _
      rw [List.count_cons]
      cases verdict <;> rfl
    have mine : (sales (r.sale.conclude call (.ok verdict)).2).countP (· ≠ r.burst.coupon) = 0 := by
      rcases (Sale.Move.decide found told).sold (by simp) with
        ⟨none, _⟩ | ⟨other, same, here, one, _⟩
      · exact congrArg (List.countP _) none
      · rw [← Sale.Label.call.inj same, found] at here
        obtain rfl := Option.some.inj here
        refine (congrArg (List.countP _) one).trans ?_
        simp [about]
    rw [handed, answers, mine]
    omega
  | @other label sale notes permitted step =>
    show sale.pool.handed + _ = r.sale.pool.handed + _ + _
    cases label with
    | set setting =>
      cases step
      rfl
    | move label =>
      have unasked : ∀ task, label ≠ .submit task := by
        rintro task rfl
        simp [permits] at permitted
      rcases (Sale.step?_move step).sold unasked with ⟨none, same⟩ | ⟨call, rfl, found, one, more⟩
      · rw [none, same]
        rfl
      · have differs : call.coupon ≠ r.burst.coupon := by simpa [permits, found] using permitted
        rw [one, more]
        simp [differs]
        omega

/-- When a burst is over all its users are answered. -/
theorem Placed.ended (placed : r.Placed) (ended : r.burst.isOver = true) :
    r.answers.length = r.burst.users ∧ r.calls = [] := by
  obtain ⟨_, next, _, bounded, counted⟩ := placed
  simp only [Burst.isOver, Bool.and_eq_true, decide_eq_true_eq] at ended
  unfold inFlight at next
  exact ⟨by omega, List.eq_nil_of_length_eq_zero (by omega)⟩

/-- How a burst comes out. -/
theorem Fair.outcome (fair : Fair total r) (placed : r.Placed) (ended : r.burst.isOver = true) :
    (r.tally.success : Int) = min total r.burst.users ∧
      (r.tally.outOfStock : Int) = r.burst.users - r.tally.success ∧
      r.tally.alreadyClaimed = 0 ∧ r.tally.transientError = 0 ∧ r.tally.invalidRequest = 0 ∧
      r.tally.total = r.burst.users ∧
      (r.sale.soldOut.check r.burst.coupon = true ↔ total < r.burst.users) := by
  obtain ⟨length, idle⟩ := placed.ended ended
  obtain ⟨level, _, sold, _, plain, flagged, exhausted⟩ := fair
  obtain ⟨stock, _, enough, sum⟩ := level.left
  have sum : stock + r.holders.length = total := sum
  have all := Tally.total_ofAnswers r.answers
  have told := Tally.ofAnswers_plain plain
  have split : r.answers.count (.ok .success) + r.answers.count (.ok .outOfStock) =
      r.burst.users := by
    rw [told] at all
    simpa [Tally.total, length] using all
  rw [idle, List.countP_nil, Nat.add_zero] at sold
  have refused : r.sale.soldOut.check r.burst.coupon = true ↔
      0 < r.answers.count (.ok .outOfStock) := by
    rw [flagged, List.count_pos_iff]
  have shares : (r.answers.count (.ok .success) : Int) = min total r.burst.users ∧
      (0 < r.answers.count (.ok .outOfStock) ↔ total < r.burst.users) := by
    rcases Nat.eq_zero_or_pos (r.answers.count (.ok .outOfStock)) with none | some
    · omega
    · have all := exhausted (refused.mpr some)
      simp only [holders] at *
      omega
  rw [tally, all, told, refused]
  exact ⟨shares.1, by simp only; omega, rfl, rfl, rfl, length, shares.2⟩

variable {config : Pool.Config} {reserveTimeout : Span} {sink : Sink} {earlier : List Note}
  {first : Rush} {moves : List (Transition Rush Label Note)}

/-- What holds all along a burst. -/
structure Steady (config : Pool.Config) (reserveTimeout : Span) (sink : Sink) (earlier : List Note)
    (total : Int) (first : Rush) (moves : List (Transition Rush Label Note)) (r : Rush) : Prop where
  reached : MemorySale.Reachable config reserveTimeout sink (earlier ++ heard moves) r.sale
  timely : r.Timely
  placed : r.Placed
  fair : Fair total r
  terms : r.burst.coupon = first.burst.coupon ∧ r.burst.users = first.burst.users ∧
    r.burst.limit = first.burst.limit
  effort : moves.countP (·.label.own) + r.work ≤ first.work
  handed : r.sale.pool.handed = first.sale.pool.handed + r.answers.count (.ok .success) +
    (sales (heard moves)).countP (· ≠ first.burst.coupon)

theorem Steady.move {told : List Note}
    (steady : Steady config reserveTimeout sink earlier total first moves r)
    (step : step? r label = some (t, told)) :
    Steady config reserveTimeout sink earlier total first (moves ++ [⟨r, label, t, told⟩]) t := by
  obtain ⟨reached, timely, placed, fair, terms, effort, handed⟩ := steady
  have numbered := reached.granted.numbered
  have move := step?_move step timely.prompt timely.served
  obtain ⟨places, less⟩ := move.placed placed numbered
  obtain ⟨coupon, users, limit⟩ := move.terms
  have news : heard [(⟨r, label, t, told⟩ : Transition Rush Label Note)] = told :=
    heard_singleton _
  refine ⟨?_, move.timely timely numbered, places, move.fair fair numbered reached.booked.numbered,
    ?_, ?_, ?_⟩
  · rw [heard_append, news, ← List.append_assoc]
    exact reached.trans (sale_leads step)
  · rw [coupon, users, limit]
    exact terms
  · rw [List.countP_append, List.countP_singleton]
    simp only at less ⊢
    omega
  · have more := move.handed
    rw [terms.1] at more
    rw [heard_append, news, sales_append, List.countP_append]
    omega

theorem Steady.run (steady : Steady config reserveTimeout sink earlier total first [] first)
    (run : Trace step? first moves r) :
    Steady config reserveTimeout sink earlier total first moves r := by
  induction run with
  | start => exact steady
  | move sofar step ih => exact ih.move step

end Rush

namespace Sale

variable {s t : Sale Memory} {told : List Note} {c : NewCoupon} {now : Moment} {coupon : Coupon}

theorem create_eq (made : s.create c now = (.ok coupon, t, told)) :
    0 < c.total ∧ coupon = (s.stores.ledger.create c).1 ∧
      t = { s with stores := { s.stores with
        ledger := (s.stores.ledger.create c).2
        counter := s.stores.counter.seed coupon.id c.total } } := by
  unfold create writeCoupon at made
  cases valid : c.validate now with
  | error e => simp [valid] at made
  | ok =>
    simp only [valid, Backend.create, seedCoupon, Backend.seed, Prod.mk.injEq,
      Except.ok.injEq] at made
    obtain ⟨rfl, rfl, _⟩ := made
    exact ⟨(NewCoupon.validate_iff.mp valid).stocked, rfl, rfl⟩

theorem create_idle (made : s.create c now = (.ok coupon, t, told))
    (alone : ∀ call ∈ s.calls, call.coupon ≠ coupon.id) : t.callsOn coupon.id = [] := by
  obtain ⟨_, _, after⟩ := create_eq made
  rw [after]
  exact List.filter_eq_nil_iff.mpr (by simpa using alone)

end Sale

namespace MemorySale

open Rush (Fair Steady)

variable {config : Pool.Config} {reserveTimeout : Span} {sink : Sink} {s t : Sale Memory}
  {notes told : List Note} {c : NewCoupon} {now : Moment} {coupon : Coupon}

theorem Reachable.known (run : Reachable config reserveTimeout sink notes s) : s.Known := by
  refine (run.keeps (P := fun s notes => Reachable config reserveTimeout sink notes s ∧ s.Known)
    ⟨.refl _, by simp [Sale.new, SoldOut.check, SoldOut.empty], by simp [Sale.new]⟩ ?_).2
  rintro s notes label t more ⟨reached, known⟩ step
  refine ⟨reached.trans (.next step), ?_⟩
  cases label with
  | move label =>
    have move := Sale.step?_move step
    exact known.move move reached.granted.numbered (move.numbered reached.booked.numbered).2
  | set setting =>
    cases step
    obtain ⟨flagged, told⟩ := known
    cases setting <;> exact ⟨flagged, told⟩

/-- A coupon that was just created has all its units, and no flag. -/
theorem Reachable.created (run : Reachable config reserveTimeout sink notes s)
    (made : s.create c now = (.ok coupon, t, told)) :
    Reachable config reserveTimeout sink (notes ++ told) t ∧
      t.Level coupon.id c.total ∧ t.stores.counter.holders coupon.id = [] ∧
      t.soldOut.check coupon.id = false := by
  have numbered := run.booked.numbered
  obtain ⟨positive, same, after⟩ := Sale.create_eq made
  have number : coupon.id.number = s.stores.ledger.coupons.length + 1 := by
    rw [same]
    rfl
  have unknown : s.stores.counter.tab? coupon.id = none := by
    apply Option.not_isSome_iff_eq_none.mp
    intro known
    have bound := numbered.seeded coupon.id known
    omega
  have apart : ∀ d ∈ s.unseeded, d.id ≠ coupon.id := by
    intro d member taken
    have bound := numbered.waits d member
    rw [taken] at bound
    omega
  have seeded : t.stores.counter.tab? coupon.id = some ⟨c.total, []⟩ := by
    rw [after, Counter.seed, Counter.tab?_put, if_pos rfl, unknown]
    rfl
  refine ⟨?_, ⟨⟨_, seeded, Int.le_of_lt positive, by simp⟩, ?_⟩, Sale.holders_eq seeded, ?_⟩
  · have creates : Leads Sale.step? s (s.create c now).2.2 (s.create c now).2.1 := by
      refine Sale.create_leads fun e moved wrote => ?_
      have named : e = (s.stores.ledger.create c).1 := by
        unfold Sale.writeCoupon at wrote
        cases valid : c.validate now <;> simp_all [Backend.create]
      rw [named, ← same]
      exact apart
    rw [made] at creates
    refine run.trans (creates.part id id rfl (fun _ _ => rfl) ?_)
    intro s t label notes step
    have moves : step? s (.move label) = some (t, notes) := step
    exact .next moves
  · rw [after]
    exact apart
  · rw [after]
    apply Bool.eq_false_iff.mpr
    intro flagged
    have known := run.known.flagged coupon.id flagged
    rw [unknown] at known
    cases known

/-- A burst that begins on a coupon that was just created and that nobody has turned to. -/
theorem Reachable.begins (run : Reachable config reserveTimeout sink notes s)
    (made : s.create c now = (.ok coupon, t, told))
    (alone : ∀ call ∈ s.calls, call.coupon ≠ coupon.id) (prompt : s.prompt = true)
    (users : Int) (concurrency : Nat) :
    Steady config reserveTimeout sink (notes ++ told) c.total
      (.new t coupon.id users concurrency) [] (.new t coupon.id users concurrency) := by
  obtain ⟨reached, level, free, unflagged⟩ := run.created made
  obtain ⟨_, _, after⟩ := Sale.create_eq made
  have idle := Sale.create_idle made alone
  have calls : (Rush.new t coupon.id users concurrency).calls = [] := idle
  have holders : (Rush.new t coupon.id users concurrency).holders = [] := free
  have fair : Fair c.total (.new t coupon.id users concurrency) := by
    refine ⟨level, ?_, ?_, ?_, by simp [Rush.new], ?_, ?_⟩
    · intro user
      rw [Rush.turns, calls, holders]
      exact Nat.zero_le _
    · rw [calls, holders]
      rfl
    · simp [calls]
    · show t.soldOut.check coupon.id = true ↔ _ ∈ []
      simp [unflagged]
    · show t.soldOut.check coupon.id = true → _
      simp [unflagged]
  refine ⟨?_, ⟨?_, by simp [calls]⟩, Rush.new_placed t coupon.id users concurrency idle, fair,
    ⟨rfl, rfl, rfl⟩, Nat.le_of_eq (Nat.zero_add _), rfl⟩
  · rw [heard, List.flatMap_nil, List.append_nil]
    exact reached
  · show t.prompt = true
    rw [after]
    exact prompt

/-- How a burst goes on a coupon that was just created and that nobody else turns to, while the
counter answers in time; others may do what they like on other coupons, and the claims of the burst
move in every order. At no time are more of them under way than it has places. It ends: its moves
are bounded, and as long as it is not over it can make one, at once or after some time. Then as many
users have a success as there are units, or all of them if they are fewer, and to the others the
coupon is sold out; nothing else is told. For each success a task was handed to the pool, beside
those for other coupons, and the coupon is flagged just when there were more users than units. -/
theorem Reachable.burst_outcome (run : Reachable config reserveTimeout sink notes s)
    (made : s.create c now = (.ok coupon, t, told))
    (alone : ∀ call ∈ s.calls, call.coupon ≠ coupon.id) (prompt : s.prompt = true)
    (users : Int) (concurrency : Nat) {moves : List (Transition Rush Rush.Label Note)} {r : Rush}
    (burst : Trace Rush.step? (.new t coupon.id users concurrency) moves r) :
    r.inFlight ≤ max concurrency 1 ∧
    moves.countP (·.label.own) ≤ 5 * users.toNat ∧
    (r.burst.isOver = false → ∃ ms label, label.own = true ∧
      (run? Rush.step? r [.other (.move (.wait ms)), label]).isSome) ∧
    (r.burst.isOver = true →
      (r.tally.success : Int) = min c.total (max users 0) ∧
      (r.tally.outOfStock : Int) = max users 0 - r.tally.success ∧
      r.tally.alreadyClaimed = 0 ∧ r.tally.transientError = 0 ∧ r.tally.invalidRequest = 0 ∧
      (r.tally.total : Int) = max users 0 ∧
      r.sale.pool.stats.submitted + r.sale.pool.stats.dropped =
        t.pool.stats.submitted + t.pool.stats.dropped + r.tally.success +
          (sales (heard moves)).countP (· ≠ coupon.id) ∧
      (r.sale.soldOut.check coupon.id = true ↔ c.total < users)) := by
  have steady := (run.begins made alone prompt users concurrency).run burst
  obtain ⟨reached, _, placed, fair, ⟨named, all, places⟩, effort, handed⟩ := steady
  obtain ⟨positive, _, _⟩ := Sale.create_eq made
  have named : r.burst.coupon = coupon.id := named
  have all : r.burst.users = users.toNat := all
  refine ⟨?_, ?_, placed.goes_on reached.granted.numbered, ?_⟩
  · have within := placed.within
    rwa [places] at within
  · have work := Rush.new_work t coupon.id users concurrency (Sale.create_idle made alone)
    omega
  · intro ended
    obtain ⟨success, outOfStock, none₁, none₂, none₃, total, flagged⟩ := fair.outcome placed ended
    rw [named] at flagged
    have many : (r.burst.users : Int) = max users 0 := by omega
    have counted : r.tally.success = r.answers.count (.ok .success) := by
      rw [Rush.tally, Tally.ofAnswers_plain fair.plain]
    refine ⟨many ▸ success, many ▸ outOfStock, none₁, none₂, none₃, by omega, ?_, ?_⟩
    · rw [counted]
      exact handed
    · rw [flagged]
      omega

/-- A coupon of one unit is created in a sale over empty stores. -/
def onlyUnit : Sale.Answered Memory Coupon :=
  (Sale.new .standard Sale.standardTimeout (.new .recording)).create
    ⟨"Opening", 1, 0, ⟨0, 0⟩, ⟨10, 0⟩⟩ ⟨0, 0⟩

/-- Three users want it, with two places: the second user gets it, and the third is answered by the
flag. -/
def threeUsers : List Rush.Label :=
  [.start, .start, .claim 0 ⟨1⟩, .claim 1 ⟨2⟩, .call 1, .call 0, .call 0, .start, .claim 2 ⟨3⟩,
    .call 1, .join, .join, .join]

theorem burst_outcome_threeUsers : ∃ coupon t told moves r, onlyUnit = (.ok coupon, t, told) ∧
    Trace Rush.step? (.new t coupon.id 3 2) moves r ∧ moves.map Transition.label = threeUsers ∧
    r.inFlight ≤ 2 ∧ r.tally.success = 1 ∧ r.tally.outOfStock = 2 ∧ r.tally.total = 3 ∧
    r.sale.soldOut.check coupon.id = true := by
  have ends : (onlyUnit.1.toOption.any fun coupon =>
      (run? Rush.step? (.new onlyUnit.2.1 coupon.id 3 2) threeUsers).any
        (·.1.burst.isOver)) = true := by decide +kernel
  obtain ⟨⟨answer, t, told⟩, made⟩ : ∃ moved, onlyUnit = moved := ⟨_, rfl⟩
  rw [made] at ends
  cases answer with
  | error e => cases ends
  | ok coupon =>
    have ends : (run? Rush.step? (.new t coupon.id 3 2) threeUsers).any
      (·.1.burst.isOver) = true := ends
    obtain ⟨⟨r, notes⟩, runs, ended⟩ := (Option.any_eq_true _ _).mp ends
    obtain ⟨moves, burst, labels, _⟩ := Trace.of_run? runs
    have run : Reachable .standard Sale.standardTimeout .recording []
      (.new .standard Sale.standardTimeout (.new .recording)) := .refl _
    obtain ⟨within, _, _, outcome⟩ :=
      run.burst_outcome made (by simp [Sale.new]) (by decide) 3 2 burst
    obtain ⟨success, outOfStock, _, _, _, total, _, flagged⟩ := outcome ended
    have one : (r.tally.success : Int) = 1 := success
    have three : (r.tally.total : Int) = 3 := total
    have two : (r.tally.outOfStock : Int) = 3 - r.tally.success := outOfStock
    exact ⟨coupon, t, told, moves, r, made, burst, labels, within, by omega, by omega, by omega,
      flagged.mpr (by decide)⟩

end MemorySale
end CouponSale
