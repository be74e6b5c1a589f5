import CouponSale.Proofs.Sale.Grants
import CouponSale.Proofs.Trace

/-!
What one claim does in the middle of everything else. Its doing is what its own moves do: the
opening, the verdict of the counter or the end of the wait for it, and the answer. A claim that was
granted a unit takes it in one of them and submits one task in another; any other claim leaves the
counters as they are and submits nothing, however long the run goes on.
-/
namespace CouponSale

/-- The task that a note reports as submitted, whether or not it found a place. -/
def Note.submitted? : Note → Option Task
  | .accepted job => some job.task
  | .dropped task _ => some task
  | _ => none

/-- The tasks that some notes report as submitted. -/
def submitted (notes : List Note) : List Task := notes.filterMap Note.submitted?

theorem submitted_append (earlier later : List Note) :
    submitted (earlier ++ later) = submitted earlier ++ submitted later :=
  List.filterMap_append

/-- A failure of the counter, or of the wait for it. -/
def Failure.OfCounter (e : Failure) : Prop :=
  (∃ reason, e = .counterUnavailable reason) ∨ ∃ limit, e = .counterTimeout limit

namespace MemorySale

/-- Opens a claim of this number. -/
def Label.opens (n : Nat) : Label → Bool
  | .move (.claim number _ _ _) => number = n
  | _ => false

/-- Moves a claim of this number. -/
def Label.isOf (n : Nat) : Label → Bool
  | .move (.claim number _ _ _) | .move (.call number) => number = n
  | _ => false

abbrev SaleMove := Transition (Sale Memory) Label Note

/-- The moves of the claim of a number. -/
def own (n : Nat) (moves : List SaleMove) : List SaleMove := moves.filter (·.label.isOf n)

/-- Leaves every counter and every reservation as it was. -/
def SaleMove.Keeps (move : SaleMove) : Prop :=
  move.after.stores.counter = move.before.stores.counter

/-- Takes a unit of a coupon for a user who had none, and does nothing else to any counter. -/
def SaleMove.Grants (user : UserId) (coupon : CouponId) (move : SaleMove) : Prop :=
  ∃ tab, move.before.stores.counter.tab? coupon = some tab ∧ user ∉ tab.claimed ∧
    0 < tab.stock ∧ move.after.stores.counter =
      move.before.stores.counter.put coupon ⟨tab.stock - 1, user :: tab.claimed⟩

/-- One of some moves takes a unit of a coupon for a user, and the others change no counter. -/
def GrantOnce (user : UserId) (coupon : CouponId) (moves : List SaleMove) : Prop :=
  ∃ before grant after, moves = before ++ grant :: after ∧ grant.Grants user coupon ∧
    ∀ move ∈ before ++ after, move.Keeps

/-- Moves that change no counter and no flag. -/
structure Untouched (moves : List SaleMove) : Prop where
  counter : ∀ move ∈ moves, move.Keeps
  soldOut : ∀ move ∈ moves, move.after.soldOut = move.before.soldOut

/-- What the moves of a claim have done that is answered in some way. -/
def Isolated (user : UserId) (coupon : CouponId) (moves : List SaleMove) : Answer Outcome → Prop
  | .ok .success => GrantOnce user coupon moves ∧ submitted (heard moves) = [.fresh user coupon]
  | .ok _ => (∀ move ∈ moves, move.Keeps) ∧ submitted (heard moves) = []
  | .error e => Untouched moves ∧ submitted (heard moves) = [] ∧ e.OfCounter ∧
      ResponseCode.ofAnswer (.error e) = .transientError

end MemorySale

namespace Sale

variable {s t : Sale Memory} {notes : List Note} {n : Nat}

theorem mem_answerNotes {call : Call} {answer told : Answer Outcome}
    (member : .answered n told ∈ answerNotes call answer) : call.number = n ∧ told = answer := by
  unfold answerNotes at member
  split at member <;> simp_all

theorem not_mem_reserveNotes {call : Call} {answer : Answer Reservation} {told : Answer Outcome} :
    .answered n told ∉ reserveNotes call answer := by
  cases answer <;> simp [reserveNotes]

theorem not_mem_absorb {label : Pool.Label} {moved : Pool.Moved} {told : Answer Outcome}
    (s : Sale Memory) (step : s.pool.step? label = some moved) :
    .answered n told ∉ (s.absorb moved).2 := by
  intro member
  rcases mem_absorb s step _ member with ⟨pools, _⟩ | letter
  · simp [Note.ofPool] at pools
  · simp [Note.ofLetter] at letter

theorem not_mem_follow {call : Call} {verdict : Reservation} {told : Answer Outcome} :
    .answered n told ∉ (s.follow call verdict).2 := by
  cases verdict with
  | claimed =>
    have submits : s.pool.step? (.submit (.fresh call.user call.coupon)) =
      some (s.pool.submit (.fresh call.user call.coupon)).2 := rfl
    exact not_mem_absorb s submits
  | outOfStock =>
    simp only [follow, flag]
    split <;> simp
  | _ => simp [follow]

theorem call?_setStage (m : Nat) (stage : Call.Stage) :
    (s.setStage m stage).call? n =
      (s.call? n).map fun c => if c.number = m then { c with stage } else c := by
  unfold setStage call?
  rw [List.find?_map]
  congr 2
  funext c
  simp only [Function.comp_apply]
  split <;> rfl

theorem call?_setStage_other {m : Nat} {stage : Call.Stage} (other : m ≠ n) :
    (s.setStage m stage).call? n = s.call? n := by
  rw [call?_setStage]
  cases found : s.call? n with
  | none => rfl
  | some call =>
    have named := call?_number found
    rw [Option.map_some, if_neg (named ▸ Ne.symm other)]

theorem call?_setStage_own {call : Call} {stage : Call.Stage}
    (found : s.call? call.number = some call) :
    (s.setStage call.number stage).call? call.number = some { call with stage } := by
  rw [call?_setStage, found, Option.map_some, if_pos rfl]

theorem call?_dropCall (m : Nat) :
    (s.dropCall m).call? n = if n = m then none else s.call? n := by
  unfold dropCall call?
  rw [List.find?_filter]
  split
  · rename_i same
    subst same
    apply List.find?_eq_none.mpr
    simp
  · rename_i other
    congr 1
    funext c
    by_cases here : c.number = n <;> simp [here, other]

theorem calls_follow (call : Call) (verdict : Reservation) :
    (s.follow call verdict).1.calls = s.calls := by
  cases verdict <;> rfl

/-- What is not a move of a claim leaves it where it is, and does not answer it. -/
theorem Move.aside {label : Label} (move : Move s label t notes)
    (apart : (MemorySale.Label.move label).isOf n = false) :
    t.call? n = s.call? n ∧ ∀ told, .answered n told ∉ notes := by
  have absorbed : ∀ {part : Pool.Label} {moved : Pool.Moved} (u : Sale Memory),
      u.calls = s.calls → u.pool.step? part = some moved →
      (u.absorb moved).1.call? n = s.call? n ∧ ∀ told, .answered n told ∉ (u.absorb moved).2 := by
    intro part moved u same step
    exact ⟨congrArg (List.find? _) same, fun told => not_mem_absorb u step⟩
  cases move with
  | @refuse call known =>
    have other : call.number ≠ n := by
      simpa [MemorySale.Label.isOf] using apart
    refine ⟨rfl, ?_⟩
    intro told member
    rcases List.mem_cons.mp member with first | answer
    · cases first
    · exact other (mem_answerNotes answer).1
  | @ask call due expiry asks new =>
    have other : call.number ≠ n := by
      simpa [MemorySale.Label.isOf] using apart
    refine ⟨?_, by simp⟩
    show (s.calls ++ [call]).find? (·.number = n) = s.calls.find? (·.number = n)
    rw [List.find?_append]
    simp [other]
  | @hear call due expiry found asks ripe =>
    have other : call.number ≠ n := by
      simpa [MemorySale.Label.isOf] using apart
    exact ⟨call?_setStage_other other, fun told => not_mem_reserveNotes⟩
  | @expire call due expiry found asks late =>
    have other : call.number ≠ n := by
      simpa [MemorySale.Label.isOf] using apart
    exact ⟨call?_setStage_other other, fun told => not_mem_reserveNotes⟩
  | @fail call e found told =>
    have other : call.number ≠ n := by
      simpa [MemorySale.Label.isOf] using apart
    refine ⟨?_, fun told member => other (mem_answerNotes member).1⟩
    rw [call?_dropCall, if_neg (Ne.symm other)]
  | @decide call verdict found told =>
    have other : call.number ≠ n := by
      simpa [MemorySale.Label.isOf] using apart
    constructor
    · rw [call?_dropCall, if_neg (Ne.symm other)]
      exact congrArg (List.find? _) (calls_follow call verdict)
    · intro told member
      rcases List.mem_append.mp member with follows | decided
      · exact not_mem_follow follows
      · rcases List.mem_cons.mp decided with first | answer
        · cases first
        · exact other (mem_answerNotes answer).1
  | beginWrite holds step => exact absorbed { s with stores := Backend.beginWrite s.stores } rfl step
  | @endWrite w draw job due moved writes step =>
    exact absorbed { s with
      stores := (Backend.write s.stores job.task.user job.task.coupon).2 } rfl step
  | work elsewhere step => exact absorbed s rfl step
  | manage same step => exact absorbed s rfl step
  | @create c now =>
    unfold openCoupon writeCoupon
    cases c.validate now <;> exact ⟨rfl, by simp [Backend.create]⟩
  | seed found => exact ⟨rfl, by simp [seedCoupon, Backend.seed]⟩
  | @reseed coupon =>
    simp only [Sale.reseed, Backend.find, Ledger.get]
    cases s.stores.ledger.find? coupon <;> exact ⟨rfl, by simp [Backend.seed]⟩
  | wait => exact ⟨rfl, by simp⟩

theorem submitted_poolNotes (notes : List Note) : submitted (poolNotes notes) = submitted notes := by
  apply filterMap_poolNotes
  intro note aside
  cases note <;> simp_all [Note.ofPool, Note.submitted?]

theorem submitted_answerNotes (call : Call) (answer : Answer Outcome) :
    submitted (answerNotes call answer) = [] := by
  rw [← submitted_poolNotes, poolNotes_answerNotes]
  rfl

theorem submitted_reserveNotes (call : Call) (answer : Answer Reservation) :
    submitted (reserveNotes call answer) = [] := by
  rw [← submitted_poolNotes, poolNotes_reserveNotes]
  rfl

theorem submitted_follow (call : Call) (verdict : Reservation) :
    submitted (s.follow call verdict).2 =
      if verdict = .claimed then [.fresh call.user call.coupon] else [] := by
  cases verdict with
  | claimed =>
    have submits : s.pool.step? (.submit (.fresh call.user call.coupon)) =
      some (s.pool.submit (.fresh call.user call.coupon)).2 := rfl
    rw [follow, ← submitted_poolNotes, poolNotes_absorb s submits]
    unfold Pool.submit
    split
    · rfl
    · split <;> rfl
  | outOfStock =>
    simp only [follow, flag]
    split <;> rfl
  | _ => rfl

theorem follow_counter (call : Call) (verdict : Reservation) :
    (s.follow call verdict).1.stores.counter = s.stores.counter := by
  cases verdict with
  | claimed => exact absorb_counter s _
  | _ => rfl

theorem follow_ledger (call : Call) (verdict : Reservation) :
    (s.follow call verdict).1.stores.ledger = s.stores.ledger := by
  cases verdict with
  | claimed => exact absorb_ledger s _
  | _ => rfl

theorem follow_unseeded (call : Call) (verdict : Reservation) :
    (s.follow call verdict).1.unseeded = s.unseeded := by
  cases verdict <;> rfl

/-- The flags change only at the end of a claim to which the counter has said out of stock. -/
theorem Move.soldOut {label : Label} (move : Move s label t notes) :
    t.soldOut = s.soldOut ∨ ∃ call, label = .call call.number ∧ s.call? call.number = some call ∧
      call.stage = .told (.ok .outOfStock) ∧ t.soldOut = (s.soldOut.mark call.coupon).2 := by
  cases move with
  | @decide call verdict found told =>
    cases verdict with
    | outOfStock => exact .inr ⟨call, rfl, found, told, rfl⟩
    | _ => exact .inl rfl
  | @create c now =>
    unfold openCoupon writeCoupon
    cases c.validate now <;> exact .inl rfl
  | @reseed coupon =>
    simp only [Sale.reseed, Backend.find, Ledger.get]
    cases s.stores.ledger.find? coupon <;> exact .inl rfl
  | _ => exact .inl rfl

end Sale

namespace MemorySale

variable {s t : Sale Memory} {n : Nat} {user : UserId} {coupon : CouponId}
  {moves : List SaleMove} {move : SaleMove}

/-- A claim that is not answered yet. -/
structure Pending (n : Nat) (user : UserId) (coupon : CouponId) (moves : List SaleMove)
    (s : Sale Memory) (call : Call) : Prop where
  found : s.call? n = some call
  whose : call.user = user ∧ call.coupon = coupon
  idle : submitted (heard moves) = []
  silent : ∀ told, .answered n told ∉ heard moves

/-- How far a claim has come with its moves. -/
inductive Course (n : Nat) (user : UserId) (coupon : CouponId) (moves : List SaleMove)
    (s : Sale Memory) : Prop where
  | asking {call : Call} {due expiry : Nat} (pending : Pending n user coupon moves s call)
      (asks : call.stage = .asking due expiry) (untouched : Untouched moves)
  | granted {call : Call} (pending : Pending n user coupon moves s call)
      (told : call.stage = .told (.ok .claimed)) (once : GrantOnce user coupon moves)
  | refused {call : Call} {verdict : Answer Reservation}
      (pending : Pending n user coupon moves s call) (told : call.stage = .told verdict)
      (other : verdict ≠ .ok .claimed) (why : ∀ e, verdict = .error e → e.OfCounter)
      (untouched : Untouched moves)
  | ended (answer : Answer Outcome) (gone : s.call? n = none)
      (isolated : Isolated user coupon moves answer)
      (only : ∀ told, .answered n told ∈ heard moves → told = answer)

theorem submitted_heard_append :
    submitted (heard (moves ++ [move])) = submitted (heard moves) ++ submitted move.told := by
  rw [heard_append, heard_singleton, submitted_append]

theorem Untouched.extend (untouched : Untouched moves) (keeps : move.Keeps)
    (flags : move.after.soldOut = move.before.soldOut) : Untouched (moves ++ [move]) := by
  constructor
  · intro other member
    rcases List.mem_append.mp member with old | new
    · exact untouched.counter other old
    · rwa [List.mem_singleton.mp new]
  · intro other member
    rcases List.mem_append.mp member with old | new
    · exact untouched.soldOut other old
    · rwa [List.mem_singleton.mp new]

theorem Untouched.grant (untouched : Untouched moves) (grants : move.Grants user coupon) :
    GrantOnce user coupon (moves ++ [move]) :=
  ⟨moves, move, [], rfl, grants, by simpa using untouched.counter⟩

theorem GrantOnce.extend (once : GrantOnce user coupon moves) (keeps : move.Keeps) :
    GrantOnce user coupon (moves ++ [move]) := by
  obtain ⟨before, grant, after, rfl, grants, others⟩ := once
  refine ⟨before, grant, after ++ [move], by simp, grants, ?_⟩
  intro other member
  rw [← List.append_assoc] at member
  rcases List.mem_append.mp member with old | new
  · exact others other old
  · rwa [List.mem_singleton.mp new]

variable {call : Call}

/-- A claim is told a verdict, which submits nothing yet. -/
theorem Pending.tell (pending : Pending n user coupon moves s call) {verdict : Answer Reservation}
    (after : move.after.calls = (s.setStage n (.told verdict)).calls)
    (heard : move.told = Sale.reserveNotes call verdict) :
    Pending n user coupon (moves ++ [move]) move.after { call with stage := .told verdict } where
  found := by
    obtain rfl := Sale.call?_number pending.found
    unfold Sale.call?
    rw [after]
    exact Sale.call?_setStage_own pending.found
  whose := pending.whose
  idle := by
    rw [submitted_heard_append, pending.idle, heard, Sale.submitted_reserveNotes]
    rfl
  silent := by
    intro told member
    rcases mem_heard_append.mp member with old | new
    · exact pending.silent told old
    · rw [heard] at new
      exact Sale.not_mem_reserveNotes new

theorem Pending.answer (pending : Pending n user coupon moves s call) (answer : Answer Outcome)
    (gone : move.after.call? n = none)
    (isolated : Isolated user coupon (moves ++ [move]) answer)
    (only : ∀ told, .answered n told ∈ move.told → told = answer) :
    Course n user coupon (moves ++ [move]) move.after := by
  refine .ended answer gone isolated ?_
  intro told member
  rcases mem_heard_append.mp member with old | new
  · exact absurd old (pending.silent told)
  · exact only told new

/-- The counter gives its verdict: it grants a unit or changes nothing. -/
theorem Pending.hear (pending : Pending n user coupon moves s call) (untouched : Untouched moves)
    (before : move.before = s)
    (after : move.after =
      { s with stores := (s.stores.reserve call.coupon call.user).2 }.setStage n
        (.told (s.stores.reserve call.coupon call.user).1))
    (heard : move.told = Sale.reserveNotes call (s.stores.reserve call.coupon call.user).1) :
    Course n user coupon (moves ++ [move]) move.after := by
  have counter : move.after.stores.counter =
      (s.stores.reserve call.coupon call.user).2.counter := by rw [after]; rfl
  have flags : move.after.soldOut = move.before.soldOut := by rw [after, before]; rfl
  have told := pending.tell (by rw [after]; rfl) heard
  obtain ⟨rfl, rfl⟩ := pending.whose
  rcases s.stores.reserve_cases call.coupon call.user with ⟨failed, same⟩ | ⟨verdict, said, reserves⟩
  · have keeps : move.Keeps := by rw [SaleMove.Keeps, counter, before, same]
    refine .refused told rfl ?_ ?_ (untouched.extend keeps flags)
    · simp [failed]
    · intro e error
      rw [failed] at error
      cases error
      exact .inl ⟨_, rfl⟩
  · rw [← counter] at reserves
    generalize granted : move.after.stores.counter = k at reserves
    cases reserves with
    | @claimed tab seeded free more =>
      refine .granted told (by rw [said]) (untouched.grant ⟨tab, ?_, free, more, ?_⟩)
      · rw [before, seeded]
      · rw [granted, before]
    | _ =>
      have keeps : move.Keeps := by rw [SaleMove.Keeps, granted, before]
      refine .refused told rfl ?_ ?_ (untouched.extend keeps flags)
      · simp [said]
      · simp [said]

theorem Pending.expire (pending : Pending n user coupon moves s call) (untouched : Untouched moves)
    {limit : Span} (before : move.before = s)
    (after : move.after = s.setStage n (.told (.error (.counterTimeout limit))))
    (heard : move.told = Sale.reserveNotes call (.error (.counterTimeout limit))) :
    Course n user coupon (moves ++ [move]) move.after := by
  have told := pending.tell (by rw [after]) heard
  refine .refused told rfl (by simp) ?_ (untouched.extend ?_ ?_)
  · rintro e ⟨⟩
    exact .inr ⟨limit, rfl⟩
  · rw [SaleMove.Keeps, after, before]
    rfl
  · rw [after, before]
    rfl

theorem transient_of_counter {e : Failure} (why : e.OfCounter) :
    ResponseCode.ofAnswer (.error e) = .transientError := by
  rcases why with ⟨reason, rfl⟩ | ⟨limit, rfl⟩ <;> rfl

theorem Pending.fail (pending : Pending n user coupon moves s call) {e : Failure}
    (why : e.OfCounter) (untouched : Untouched moves) (before : move.before = s)
    (after : move.after = s.dropCall n) (heard : move.told = Sale.answerNotes call (.error e)) :
    Course n user coupon (moves ++ [move]) move.after := by
  refine pending.answer (.error e) ?_ ⟨untouched.extend ?_ ?_, ?_, why, transient_of_counter why⟩ ?_
  · rw [after, Sale.call?_dropCall, if_pos rfl]
  · rw [SaleMove.Keeps, after, before]
    rfl
  · rw [after, before]
    rfl
  · rw [submitted_heard_append, pending.idle, heard, Sale.submitted_answerNotes]
    rfl
  · rw [heard]
    exact fun told member => (Sale.mem_answerNotes member).2

theorem Pending.decide (pending : Pending n user coupon moves s call) {verdict : Reservation}
    (once : verdict = .claimed → GrantOnce user coupon moves)
    (keeps : verdict ≠ .claimed → Untouched moves) (before : move.before = s)
    (after : move.after = (s.follow call verdict).1.dropCall n)
    (heard : move.told = (s.follow call verdict).2 ++
      .decided call.user call.coupon verdict.outcome
        :: Sale.answerNotes call (.ok verdict.outcome)) :
    Course n user coupon (moves ++ [move]) move.after := by
  have counter : move.Keeps := by
    rw [SaleMove.Keeps, after, before]
    exact Sale.follow_counter call verdict
  have tasks : submitted (CouponSale.heard (moves ++ [move])) =
      if verdict = .claimed then [.fresh user coupon] else [] := by
    obtain ⟨rfl, rfl⟩ := pending.whose
    have answers : submitted (.decided call.user call.coupon verdict.outcome
        :: Sale.answerNotes call (.ok verdict.outcome)) = [] :=
      Sale.submitted_answerNotes call _
    rw [submitted_heard_append, pending.idle, heard, submitted_append, answers,
      Sale.submitted_follow, List.nil_append, List.append_nil]
  have keptAll : verdict ≠ .claimed → ∀ other ∈ moves ++ [move], other.Keeps := by
    intro refused other member
    rcases List.mem_append.mp member with old | new
    · exact (keeps refused).counter other old
    · rwa [List.mem_singleton.mp new]
  refine pending.answer (.ok verdict.outcome) ?_ ?_ ?_
  · rw [after, Sale.call?_dropCall, if_pos rfl]
  · cases verdict with
    | claimed => exact ⟨(once rfl).extend counter, tasks⟩
    | _ => exact ⟨keptAll (by simp), tasks⟩
  · intro told member
    rw [heard] at member
    rcases List.mem_append.mp member with follows | decided
    · exact absurd follows Sale.not_mem_follow
    · rcases List.mem_cons.mp decided with first | answer
      · cases first
      · exact (Sale.mem_answerNotes answer).2

/-- A claim that asks the counter has touched nothing. -/
theorem Course.asks (course : Course n user coupon moves s) (found : s.call? n = some call)
    {due expiry : Nat} (asks : call.stage = .asking due expiry) :
    Pending n user coupon moves s call ∧ Untouched moves := by
  cases course with
  | asking pending _ untouched =>
    obtain rfl := Option.some.inj (found.symm.trans pending.found)
    exact ⟨pending, untouched⟩
  | granted pending told _ | refused pending told _ _ _ =>
    obtain rfl := Option.some.inj (found.symm.trans pending.found)
    rw [asks] at told
    cases told
  | ended _ gone _ _ =>
    rw [gone] at found
    cases found

/-- A claim that was told a verdict has its unit, or has touched nothing. -/
theorem Course.told (course : Course n user coupon moves s) (found : s.call? n = some call)
    {verdict : Answer Reservation} (told : call.stage = .told verdict) :
    Pending n user coupon moves s call ∧ (verdict = .ok .claimed → GrantOnce user coupon moves) ∧
      (verdict ≠ .ok .claimed → Untouched moves) ∧ ∀ e, verdict = .error e → e.OfCounter := by
  cases course with
  | asking pending asks _ =>
    obtain rfl := Option.some.inj (found.symm.trans pending.found)
    rw [told] at asks
    cases asks
  | granted pending granted once =>
    obtain rfl := Option.some.inj (found.symm.trans pending.found)
    rw [told] at granted
    cases granted
    exact ⟨pending, fun _ => once, fun refused => absurd rfl refused, by simp⟩
  | refused pending refused other why untouched =>
    obtain rfl := Option.some.inj (found.symm.trans pending.found)
    rw [told] at refused
    cases refused
    exact ⟨pending, fun granted => absurd granted other, fun _ => untouched, why⟩
  | ended _ gone _ _ =>
    rw [gone] at found
    cases found

theorem Course.proceed {notes : List Note} (course : Course n user coupon moves s)
    (step : Sale.Move s (.call n) t notes) :
    Course n user coupon (moves ++ [⟨s, .move (.call n), t, notes⟩]) t := by
  cases step with
  | hear found asks ripe =>
    obtain ⟨pending, untouched⟩ := course.asks found asks
    exact pending.hear untouched rfl rfl rfl
  | expire found asks late =>
    obtain ⟨pending, untouched⟩ := course.asks found asks
    exact pending.expire untouched rfl rfl rfl
  | @fail call e found told =>
    obtain ⟨pending, _, untouched, why⟩ := course.told found told
    exact pending.fail (why e rfl) (untouched (by simp)) rfl rfl rfl
  | @decide call verdict found told =>
    obtain ⟨pending, once, untouched, _⟩ := course.told found told
    refine pending.decide ?_ ?_ rfl rfl rfl
    · rintro rfl
      exact once rfl
    · intro refused
      exact untouched fun same => refused (Except.ok.inj same)
  | manage part _ => cases part

/-- What others do leaves the course of a claim as it is. -/
theorem Course.aside (course : Course n user coupon moves s) (same : t.call? n = s.call? n) :
    Course n user coupon moves t := by
  have still : ∀ {call : Call}, Pending n user coupon moves s call →
      Pending n user coupon moves t call := by
    rintro call ⟨found, whose, idle, silent⟩
    exact ⟨same.trans found, whose, idle, silent⟩
  cases course with
  | asking pending asks untouched => exact .asking (still pending) asks untouched
  | granted pending told once => exact .granted (still pending) told once
  | refused pending told other why untouched =>
    exact .refused (still pending) told other why untouched
  | ended answer gone isolated only => exact .ended answer (same.trans gone) isolated only

/-- A claim that is opened is answered at once, or asks the counter. -/
theorem Course.opening {admin : Option UserId} {notes : List Note}
    (step : Sale.Move s (.claim n user coupon admin) t notes) (new : s.call? n = none) :
    Course n user coupon [⟨s, .move (.claim n user coupon admin), t, notes⟩] t := by
  cases step with
  | @refuse call known =>
    refine .ended (.ok .outOfStock) new ⟨?_, ?_⟩ ?_
    · simp [SaleMove.Keeps]
    · rw [heard_singleton]
      exact Sale.submitted_answerNotes call _
    · rw [heard_singleton]
      intro told member
      rcases List.mem_cons.mp member with first | answer
      · cases first
      · exact (Sale.mem_answerNotes answer).2
  | @ask call due expiry asks fresh =>
    have found : (s.calls ++ [call]).find? (·.number = call.number) = some call := by
      rw [List.find?_append]
      have none : s.calls.find? (·.number = call.number) = none := fresh
      rw [none]
      simp
    refine .asking ⟨found, ⟨rfl, rfl⟩, rfl, ?_⟩ asks ⟨?_, ?_⟩
    · simp [heard_singleton]
    · simp [SaleMove.Keeps, Backend.beginReserve]
    · simp
  | manage part _ => cases part

theorem own_append : own n (moves ++ [move]) =
    own n moves ++ if move.label.isOf n then [move] else [] := by
  rw [own, own, List.filter_append, List.filter_singleton]
  cases move.label.isOf n <;> rfl

/-- A claim runs its course through whatever follows its opening. -/
theorem Course.run {opened : List SaleMove} (course : Course n user coupon opened s)
    (run : Trace step? s moves t) (only : ∀ move ∈ moves, move.label.opens n = false) :
    Course n user coupon (opened ++ own n moves) t := by
  induction run with
  | start => simpa [own] using course
  | @move moves t u label told sofar step ih =>
    have course := ih fun move member => only move (List.mem_append_left _ member)
    have anew : label.opens n = false :=
      only _ (List.mem_append_right _ (List.mem_singleton_self _))
    rw [own_append, ← List.append_assoc]
    cases mine : label.isOf n with
    | false =>
      simp only [Bool.false_eq_true, if_false, List.append_nil]
      apply course.aside
      cases label with
      | move label => exact ((Sale.step?_move step).aside mine).1
      | set setting =>
        cases step
        rfl
    | true =>
      cases label with
      | set setting => simp [Label.isOf] at mine
      | move label =>
        have step := Sale.step?_move step
        cases label with
        | call number =>
          obtain rfl : number = n := by simpa [Label.isOf] using mine
          exact course.proceed step
        | claim number user coupon admin =>
          simp only [Label.isOf, Label.opens] at mine anew
          rw [mine] at anew
          cases anew
        | _ => simp [Label.isOf] at mine

/-- Only its own moves answer a claim. -/
theorem answered_own {told : Answer Outcome} (run : Trace step? s moves t)
    (member : .answered n told ∈ heard moves) : .answered n told ∈ heard (own n moves) := by
  induction run with
  | start => simp [heard] at member
  | @move moves t u label notes sofar step ih =>
    rw [own_append, heard_append]
    rcases mem_heard_append.mp member with old | new
    · exact List.mem_append_left _ (ih old)
    · apply List.mem_append_right
      cases mine : label.isOf n with
      | true => simpa [heard_singleton] using new
      | false =>
        cases label with
        | move label => exact absurd new (((Sale.step?_move step).aside mine).2 told)
        | set setting =>
          cases step
          cases new

/-- What a claim has done by the time it is answered, and whatever happens later, is told by its
answer. -/
theorem isolated {earlier later : List SaleMove} {admin : Option UserId}
    {answer : Answer Outcome} (run : Trace step? s (earlier ++ move :: later) t)
    (opens : move.label = .move (.claim n user coupon admin))
    (only : ∀ other ∈ later, other.label.opens n = false)
    (answered : .answered n answer ∈ heard (move :: later)) :
    Isolated user coupon (own n (move :: later)) answer := by
  obtain ⟨u, _, run⟩ := run.split
  have member := answered_own run answered
  have mine : own n (move :: later) = [move] ++ own n later := by
    simp [own, opens, Label.isOf]
  obtain ⟨v, first, rest⟩ : ∃ v, Trace step? u ([] ++ [move]) v ∧ Trace step? v later t :=
    Trace.split run
  obtain ⟨_, step, rfl⟩ := first.last
  obtain ⟨before, label, after, told⟩ := move
  subst opens
  have new : before.call? n = none := by
    simp only [step?, Sale.step?] at step
    split at step
    · contradiction
    · rename_i new
      simpa using new
  have course := (Course.opening (Sale.step?_move step) new).run rest only
  rw [← mine] at course
  cases course with
  | ended told _ isolated only =>
    rw [only answer member]
    exact isolated
  | asking pending _ _ | granted pending _ _ | refused pending _ _ _ _ =>
    exact absurd member (pending.silent answer)

end MemorySale
end CouponSale
