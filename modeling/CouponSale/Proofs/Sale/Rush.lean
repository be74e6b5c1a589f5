import CouponSale.Demo
import CouponSale.Proofs.Sale.Serving
import CouponSale.Proofs.Sale.Tally
import CouponSale.Simulation.Round
import Mathlib.Data.Fintype.EquivFin

/-!
A burst in the middle of a sale. Its claims move in every order among themselves and with whatever
else goes on, while the counter answers in time and nobody else turns to the coupon. At no time are
more of them under way than there are places. They never get stuck, and the moves of a burst are
bounded, so that it comes to its end.
-/
namespace CouponSale

theorem Counter.Reserves.holders_apart {k l : Counter} {coupon other : CouponId} {user : UserId}
    {verdict : Reservation} (reserves : k.Reserves coupon user verdict l)
    (differs : coupon ≠ other) : l.holders other = k.holders other := by
  cases reserves with
  | claimed => rw [holders_put, if_neg differs.symm]
  | _ => rfl

namespace Sale

/-- The claims in progress on a coupon. -/
def callsOn (coupon : CouponId) (s : Sale Memory) : List Call := s.calls.filter (·.coupon = coupon)

/-- A reservation that begins now is decided by the counter before the wait for it ends. -/
def prompt (s : Sale Memory) : Bool := s.stores.reserving.failing = 0 && s.front.answers

/-- What leaves a coupon alone: the claims on it, its reservations and its flag. -/
structure Apart (coupon : CouponId) (s t : Sale Memory) : Prop where
  calls : t.callsOn coupon = s.callsOn coupon
  holders : t.stores.counter.holders coupon = s.stores.counter.holders coupon
  flag : t.soldOut.check coupon = s.soldOut.check coupon

variable {s t : Sale Memory} {label : Label} {notes : List Note} {coupon : CouponId}

theorem prompt_iff : s.prompt = true ↔
    s.stores.reserving.failing = 0 ∧ s.front.answers = true := by
  simp [prompt]

theorem prompt_of_front (same : t.front = s.front) (prompt : s.prompt = true) :
    t.prompt = true := by
  obtain ⟨sound, answers⟩ := prompt_iff.mp prompt
  have reserving : t.stores.reserving = s.stores.reserving := congrArg Front.reserving same
  exact prompt_iff.mpr ⟨reserving ▸ sound, same ▸ answers⟩

/-- A counter that answers at once and without a failure. -/
theorem reserve_prompt (sound : s.stores.reserving.failing = 0) (coupon : CouponId)
    (user : UserId) : s.stores.reserve coupon user = (.ok (s.stores.counter.reserve coupon user).1,
      { s.stores with counter := (s.stores.counter.reserve coupon user).2 }) := by
  simp [Memory.reserve, sound]

theorem pool_behind {part : Pool.Label} (same : label.pool? = some part) :
    label.behind = true := by
  cases label <;> simp_all [Label.pool?, Label.behind]

/-- Nothing but a setting makes the counter less prompt. -/
theorem Move.prompt (move : Move s label t notes) (prompt : s.prompt = true) :
    t.prompt = true := by
  cases behind : label.behind with
  | true => exact prompt_of_front (move.behind behind).front prompt
  | false =>
    cases move with
    | refuse | ask | expire | fail | seed | wait => exact prompt
    | @hear call due expiry found asks ripe =>
      have decided := reserve_prompt (prompt_iff.mp prompt).1 call.coupon call.user
      simp only [Backend.reserve, decided]
      exact prompt
    | @decide call verdict found told =>
      cases verdict with
      | claimed => exact prompt_of_front (front_absorb s _) prompt
      | _ => exact prompt
    | @reseed other =>
      simp only [Sale.reseed, Backend.find, Ledger.get]
      cases s.stores.ledger.find? other <;> exact prompt
    | manage same => simp [pool_behind same] at behind
    | _ => simp [Label.behind] at behind

theorem call?_of_mem {call : Call} (numbered : (s.calls.map Call.number).Nodup)
    (member : call ∈ s.calls) : s.call? call.number = some call := by
  obtain ⟨before, after, parts⟩ := List.append_of_mem member
  rw [parts, List.map_append, List.map_cons, List.nodup_append] at numbered
  refine List.find?_eq_some_iff_append.mpr ⟨by simp, before, after, parts, ?_⟩
  intro other earlier
  have apart := numbered.2.2 _ (List.mem_map_of_mem earlier) _ List.mem_cons_self
  simpa using apart

theorem callsOn_parts {number : Nat} {call : Call} (numbered : (s.calls.map Call.number).Nodup)
    (found : s.call? number = some call) (about : call.coupon = coupon) :
    ∃ before after, s.callsOn coupon = before ++ call :: after ∧
      (∀ stage, (s.setStage number stage).callsOn coupon =
        before ++ { call with stage } :: after) ∧
      (s.dropCall number).callsOn coupon = before ++ after := by
  obtain ⟨before, after, parts, same, earlier, later⟩ := call_parts numbered found
  refine ⟨before.filter (·.coupon = coupon), after.filter (·.coupon = coupon), ?_, ?_, ?_⟩
  · simp [callsOn, parts, about]
  · intro stage
    simp [callsOn, calls_setStage parts same earlier later, about]
  · simp [callsOn, calls_dropCall parts same earlier later]

theorem callsOn_conclude (s : Sale Memory) (coupon : CouponId) (call : Call)
    (verdict : Answer Reservation) : (s.conclude call verdict).1.callsOn coupon =
      (s.dropCall call.number).callsOn coupon := by
  rw [callsOn, (s.conclude_front call verdict).2.1]
  rfl

theorem callsOn_apart {number : Nat} {call : Call} (numbered : (s.calls.map Call.number).Nodup)
    (found : s.call? number = some call) (differs : call.coupon ≠ coupon) :
    (∀ stage, (s.setStage number stage).callsOn coupon = s.callsOn coupon) ∧
      (s.dropCall number).callsOn coupon = s.callsOn coupon := by
  obtain ⟨before, after, parts, same, earlier, later⟩ := call_parts numbered found
  constructor
  · intro stage
    simp [callsOn, calls_setStage parts same earlier later, parts, differs]
  · simp [callsOn, calls_dropCall parts same earlier later, parts, differs]

end Sale

/-- Has its verdict, or gets it before the wait for it ends. -/
def Call.served (call : Call) : Bool :=
  match call.stage with
  | .asking due expiry => due ≤ expiry
  | .told (.ok _) => true
  | .told (.error _) => false

/-- Waits for the counter. -/
def Call.waits (call : Call) : Bool :=
  match call.stage with
  | .asking _ _ => true
  | .told _ => false

/-- A burst at work. -/
structure Rush where
  sale : Sale Memory
  burst : Burst
  /-- The users that were started and whose claims have not moved yet. -/
  started : List UserId
  /-- The answers to the claims, the latest first. -/
  answers : List (Answer Outcome)

namespace Rush

inductive Label where
  /-- Starts the next user. -/
  | start
  /-- The first move of the claim of a user that was started. -/
  | claim (number : Nat) (user : UserId)
  /-- A later move of a claim of the burst. -/
  | call (number : Nat)
  /-- Counts an answer. -/
  | join
  /-- What others do in the sale. -/
  | other (label : MemorySale.Label)

/-- A move of the burst itself. -/
def Label.own : Label → Bool
  | .other _ => false
  | _ => true

def new (sale : Sale Memory) (coupon : CouponId) (users : Int) (concurrency : Nat) : Rush where
  sale := sale
  burst := .new coupon users concurrency
  started := []
  answers := []

/-- The claims of the burst that have asked the counter. -/
def calls (r : Rush) : List Call := r.sale.callsOn r.burst.coupon

/-- The claims that are under way, moved or not. -/
def inFlight (r : Rush) : Nat := r.started.length + r.calls.length

def tally (r : Rush) : Tally := .ofAnswers r.answers

/-- Takes up what a claim of the burst has done. -/
def take (r : Rush) (moved : Sale.Moved Memory) : Rush × List Note :=
  ({ r with sale := moved.1, answers := answersIn moved.2 ++ r.answers }, moved.2)

/-- Others leave the coupon and its counter to the burst, and the counter prompt. Tasks come from
claims alone. -/
def permits (r : Rush) : MemorySale.Label → Bool
  | .move (.claim _ _ coupon _) | .move (.reseed coupon) => coupon ≠ r.burst.coupon
  | .move (.call number) => (r.sale.call? number).all (·.coupon ≠ r.burst.coupon)
  | .move (.submit _) => false
  | .move _ => true
  | .set setting => ({ r.sale with stores := r.sale.stores.adjust setting } : Sale Memory).prompt

/-- The move a label stands for; `none` where it is not possible. -/
def step? (r : Rush) : Label → Option (Rush × List Note)
  | .start =>
    if 0 < r.burst.startable r.answers.length then
      some ({ r with burst := r.burst.start 1, started := r.started ++ [⟨r.burst.next⟩] }, [])
    else none
  | .claim number user =>
    if user ∈ r.started then
      (r.sale.step? (.claim number user r.burst.coupon none)).map
        ({ r with started := r.started.erase user }.take ·)
    else none
  | .call number =>
    if (r.sale.call? number).any (·.coupon = r.burst.coupon) then
      (r.sale.step? (.call number)).map r.take
    else none
  | .join =>
    if 0 < r.burst.joinable r.answers.length then some ({ r with burst := r.burst.join 1 }, [])
    else none
  | .other label =>
    if r.permits label then
      (MemorySale.step? r.sale label).map fun (sale, notes) => ({ r with sale }, notes)
    else none

/-! What the moves of its claims leave of a rush -/

def refused (r : Rush) (call : Call) : Rush :=
  { r with started := r.started.erase call.user, answers := .ok .outOfStock :: r.answers }

def asked (r : Rush) (call : Call) : Rush where
  sale := { r.sale with
    stores := Backend.beginReserve r.sale.stores, calls := r.sale.calls ++ [call] }
  burst := r.burst
  started := r.started.erase call.user
  answers := r.answers

def told (r : Rush) (call : Call) (verdict : Reservation) (counter : Counter) : Rush :=
  { r with
    sale := { r.sale with stores := { r.sale.stores with counter := counter } }.setStage
      call.number (.told (.ok verdict)) }

def concluded (r : Rush) (call : Call) (verdict : Reservation) : Rush where
  sale := (r.sale.conclude call (.ok verdict)).1
  burst := r.burst
  started := r.started
  answers := .ok verdict.outcome :: r.answers

/-- A move of a rush. The counter gives its verdict in time, and it is no failure. -/
inductive Move (r : Rush) : Label → Rush → List Note → Prop where
  | start (place : 0 < r.burst.startable r.answers.length) :
      Move r .start
        { r with burst := r.burst.start 1, started := r.started ++ [⟨r.burst.next⟩] } []
  | refuse {call : Call} (waits : call.user ∈ r.started) (about : call.coupon = r.burst.coupon)
      (flagged : r.sale.soldOut.check r.burst.coupon = true) :
      Move r (.claim call.number call.user) (r.refused call)
        (.soldOutHit call.user call.coupon :: Sale.answerNotes call (.ok .outOfStock))
  | ask {call : Call} {due expiry : Nat} (waits : call.user ∈ r.started)
      (about : call.coupon = r.burst.coupon) (asks : call.stage = .asking due expiry)
      (timely : due ≤ expiry) : Move r (.claim call.number call.user) (r.asked call) []
  | hear {call : Call} {due expiry : Nat} {verdict : Reservation} {counter : Counter}
      (found : r.sale.call? call.number = some call) (about : call.coupon = r.burst.coupon)
      (asks : call.stage = .asking due expiry)
      (reserves : r.sale.stores.counter.Reserves call.coupon call.user verdict counter) :
      Move r (.call call.number) (r.told call verdict counter) [.reserveEnded]
  | conclude {call : Call} {verdict : Reservation} (found : r.sale.call? call.number = some call)
      (about : call.coupon = r.burst.coupon) (told : call.stage = .told (.ok verdict)) :
      Move r (.call call.number) (r.concluded call verdict)
        (r.sale.conclude call (.ok verdict)).2
  | join (ready : 0 < r.burst.joinable r.answers.length) :
      Move r .join { r with burst := r.burst.join 1 } []
  | other {label : MemorySale.Label} {sale : Sale Memory} {notes : List Note}
      (permitted : r.permits label = true)
      (step : MemorySale.step? r.sale label = some (sale, notes)) :
      Move r (.other label) { r with sale } notes

variable {r t : Rush} {label : Label} {notes : List Note}

theorem mem_calls {call : Call} {number : Nat} (found : r.sale.call? number = some call)
    (about : call.coupon = r.burst.coupon) : call ∈ r.calls :=
  List.mem_filter.mpr ⟨List.mem_of_find?_eq_some found, decide_eq_true about⟩

theorem step?_move (step : step? r label = some (t, notes)) (prompt : r.sale.prompt = true)
    (served : ∀ call ∈ r.calls, call.served = true) : Move r label t notes := by
  obtain ⟨sound, answers⟩ : r.sale.stores.reserving.failing = 0 ∧ r.sale.front.answers = true := by
    simpa [Sale.prompt] using prompt
  cases label with
  | start =>
    simp only [step?] at step
    split at step
    · rename_i place
      cases step
      exact .start place
    · contradiction
  | claim number user =>
    simp only [step?] at step
    split at step
    · rename_i waits
      obtain ⟨moved, opens, same⟩ := Option.map_eq_some_iff.mp step
      simp only [Sale.step?] at opens
      split at opens
      · contradiction
      · rw [Sale.openCall_eq _ _ _ _ _ (.asking 0 0)] at opens
        split at opens
        · rename_i flagged
          cases opens
          cases same
          exact @Move.refuse r ⟨number, user, r.burst.coupon, none, .asking 0 0⟩ waits rfl flagged
        · cases opens
          cases same
          exact @Move.ask r ⟨number, user, r.burst.coupon, none, _⟩ _ _ waits rfl rfl
            (Nat.add_le_add_left (Front.answers_iff.mp answers) _)
    · contradiction
  | call number =>
    simp only [step?] at step
    split at step
    · rename_i own
      obtain ⟨moved, moves, same⟩ := Option.map_eq_some_iff.mp step
      obtain ⟨call, found, about⟩ := (Option.any_eq_true _ _).mp own
      have about : call.coupon = r.burst.coupon := by simpa using about
      have timely := served call (mem_calls found about)
      obtain rfl := Sale.call?_number found
      simp only [Sale.step?, Sale.callStep?, found] at moves
      cases stage : call.stage with
      | asking due expiry =>
        simp only [Call.served, stage, decide_eq_true_eq] at timely
        simp only [stage, Sale.hear] at moves
        split at moves
        · cases moves
          cases same
          have decided : r.sale.stores.reserve call.coupon call.user =
              (.ok (r.sale.stores.counter.reserve call.coupon call.user).1,
                { r.sale.stores with
                  counter := (r.sale.stores.counter.reserve call.coupon call.user).2 }) := by
            simp [Memory.reserve, sound]
          have move := @Move.hear r call due expiry _ _ found about stage
            (r.sale.stores.counter.reserve_reserves call.coupon call.user)
          simp only [Backend.reserve, decided, Sale.answersIn_reserveNotes, List.nil_append]
          exact move
        · split at moves
          · omega
          · contradiction
      | told verdict =>
        cases verdict with
        | error e => simp [Call.served, stage] at timely
        | ok verdict =>
          simp only [stage] at moves
          cases moves
          cases same
          have told := (r.sale.conclude_front call (.ok verdict)).2.2
          rw [told]
          exact .conclude found about stage
    · contradiction
  | join =>
    simp only [step?] at step
    split at step
    · rename_i ready
      cases step
      exact .join ready
    · contradiction
  | other label =>
    simp only [step?] at step
    split at step
    · rename_i permitted
      obtain ⟨moved, moves, same⟩ := Option.map_eq_some_iff.mp step
      cases same
      exact .other permitted moves
    · contradiction

/-- What others do leaves the coupon alone. -/
theorem permits_apart {label : MemorySale.Label} {sale : Sale Memory}
    (numbered : (r.sale.calls.map Call.number).Nodup) (permitted : r.permits label = true)
    (step : MemorySale.step? r.sale label = some (sale, notes)) :
    Sale.Apart r.burst.coupon r.sale sale := by
  cases label with
  | set setting =>
    cases step
    cases setting <;> exact ⟨rfl, rfl, rfl⟩
  | move label =>
    have move := Sale.step?_move step
    cases behind : label.behind with
    | true =>
      obtain ⟨front, calls, _, _⟩ := move.behind behind
      refine ⟨?_, ?_, ?_⟩
      · rw [Sale.callsOn, calls]
        rfl
      · exact congrArg (·.counter.holders r.burst.coupon) front
      · exact congrArg (·.soldOut.check r.burst.coupon) front
    | false =>
      cases move with
      | refuse => exact ⟨rfl, rfl, rfl⟩
      | @ask call due expiry asks new =>
        have differs : call.coupon ≠ r.burst.coupon := by simpa [permits] using permitted
        exact ⟨by simp [Sale.callsOn, differs], rfl, rfl⟩
      | @hear call due expiry found asks ripe =>
        have differs : call.coupon ≠ r.burst.coupon := by simpa [permits, found] using permitted
        refine ⟨(Sale.callsOn_apart numbered found differs).1 _, ?_, rfl⟩
        rcases r.sale.stores.reserve_cases call.coupon call.user with ⟨_, same⟩ | ⟨_, _, reserves⟩
        · exact congrArg (·.holders r.burst.coupon) same
        · exact reserves.holders_apart differs
      | @expire call due expiry found asks late =>
        have differs : call.coupon ≠ r.burst.coupon := by simpa [permits, found] using permitted
        exact ⟨(Sale.callsOn_apart numbered found differs).1 _, rfl, rfl⟩
      | @fail call e found told =>
        have differs : call.coupon ≠ r.burst.coupon := by simpa [permits, found] using permitted
        exact ⟨(Sale.callsOn_apart numbered found differs).2, rfl, rfl⟩
      | @decide call verdict found told =>
        have differs : call.coupon ≠ r.burst.coupon := by simpa [permits, found] using permitted
        refine ⟨?_, ?_, ?_⟩
        · rw [← (Sale.callsOn_apart numbered found differs).2]
          simp only [Sale.callsOn, Sale.dropCall, Sale.calls_follow]
        · exact congrArg (·.holders r.burst.coupon) (Sale.follow_counter call verdict)
        · cases verdict with
          | outOfStock =>
            show (r.sale.soldOut.mark call.coupon).2.check r.burst.coupon = _
            rw [SoldOut.check_mark, decide_eq_false (Ne.symm differs), Bool.false_or]
          | _ => rfl
      | @seed coupon c found => exact ⟨rfl, Counter.holders_seed _ _ _ _, rfl⟩
      | @reseed coupon =>
        simp only [Sale.reseed, Backend.find, Ledger.get]
        cases r.sale.stores.ledger.find? coupon with
        | none => exact ⟨rfl, rfl, rfl⟩
        | some c => exact ⟨rfl, Counter.holders_seed _ _ _ _, rfl⟩
      | wait => exact ⟨rfl, rfl, rfl⟩
      | manage same => simp [Sale.pool_behind same] at behind
      | _ => simp [Sale.Label.behind] at behind

theorem asked_calls {call : Call} (about : call.coupon = r.burst.coupon) :
    (r.asked call).calls = r.calls ++ [call] := by
  show (r.sale.calls ++ [call]).filter (·.coupon = r.burst.coupon) = _
  rw [List.filter_append, List.filter_singleton, decide_eq_true about]
  rfl

/-- A claim of the burst among the others, and what becomes of them when it moves. -/
theorem calls_parts {call : Call} (numbered : (r.sale.calls.map Call.number).Nodup)
    (found : r.sale.call? call.number = some call) (about : call.coupon = r.burst.coupon) :
    ∃ before after, r.calls = before ++ call :: after ∧
      (∀ verdict counter, (r.told call verdict counter).calls =
        before ++ { call with stage := .told (.ok verdict) } :: after) ∧
      ∀ verdict, (r.concluded call verdict).calls = before ++ after := by
  obtain ⟨before, after, parts, tell, drop⟩ := Sale.callsOn_parts numbered found about
  refine ⟨before, after, parts, fun verdict _ => tell (.told (.ok verdict)), ?_⟩
  intro verdict
  exact (Sale.callsOn_conclude r.sale r.burst.coupon call _).trans drop

theorem mem_told {call other : Call} {verdict : Reservation} {counter : Counter}
    (numbered : (r.sale.calls.map Call.number).Nodup)
    (found : r.sale.call? call.number = some call) (about : call.coupon = r.burst.coupon)
    (member : other ∈ (r.told call verdict counter).calls) :
    other ∈ r.calls ∨ other.stage = .told (.ok verdict) := by
  obtain ⟨before, after, parts, tell, _⟩ := calls_parts numbered found about
  rw [tell] at member
  rw [parts]
  rcases List.mem_append.mp member with old | rest
  · exact .inl (List.mem_append_left _ old)
  · rcases List.mem_cons.mp rest with rfl | old
    · exact .inr rfl
    · exact .inl (List.mem_append_right _ (List.mem_cons_of_mem _ old))

theorem mem_concluded {call other : Call} {verdict : Reservation}
    (numbered : (r.sale.calls.map Call.number).Nodup)
    (found : r.sale.call? call.number = some call) (about : call.coupon = r.burst.coupon)
    (member : other ∈ (r.concluded call verdict).calls) : other ∈ r.calls := by
  obtain ⟨before, after, parts, _, drop⟩ := calls_parts numbered found about
  rw [drop] at member
  have fewer : (before ++ after).Sublist r.calls :=
    parts ▸ (List.sublist_cons_self call after).append_left before
  exact fewer.subset member

/-- The counter is prompt, and no claim of the burst will have to wait too long. -/
structure Timely (r : Rush) : Prop where
  prompt : r.sale.prompt = true
  served : ∀ call ∈ r.calls, call.served = true

theorem Move.timely (timely : r.Timely) (numbered : (r.sale.calls.map Call.number).Nodup)
    (move : Move r label t notes) : t.Timely := by
  obtain ⟨prompt, served⟩ := timely
  cases move with
  | start | refuse | join => exact ⟨prompt, served⟩
  | @ask call due expiry waits about asks timely =>
    refine ⟨prompt, ?_⟩
    rw [asked_calls about]
    intro other member
    rcases List.mem_append.mp member with old | new
    · exact served other old
    · rw [List.mem_singleton.mp new]
      simp [Call.served, asks, timely]
  | @hear call due expiry verdict counter found about asks reserves =>
    refine ⟨prompt, ?_⟩
    intro other member
    rcases mem_told numbered found about member with old | new
    · exact served other old
    · simp [Call.served, new]
  | @conclude call verdict found about told =>
    refine ⟨(Sale.Move.decide found told).prompt prompt, ?_⟩
    intro other member
    exact served other (mem_concluded numbered found about member)
  | @other label sale notes permitted step =>
    have same : Rush.calls { r with sale } = r.calls :=
      (permits_apart numbered permitted step).calls
    refine ⟨?_, same ▸ served⟩
    cases label with
    | set setting =>
      cases step
      exact permitted
    | move label => exact (Sale.step?_move step).prompt prompt

/-- How the places of a burst are taken: whoever was started and is not answered has one. -/
structure Placed (r : Rush) : Prop where
  room : 0 < r.burst.limit
  next : r.burst.next = r.inFlight + r.answers.length + 1
  within : r.inFlight ≤ r.burst.limit
  bounded : r.burst.next ≤ r.burst.users + 1
  counted : r.burst.joined ≤ r.answers.length

/-- The moves that are left to a burst at most. -/
def work (r : Rush) : Nat :=
  5 * (r.burst.users + 1 - r.burst.next) + 4 * r.started.length +
    (2 * r.calls.length + r.calls.countP Call.waits) + (r.answers.length - r.burst.joined)

/-- A move keeps the places in order, and one of the burst itself leaves it less to do. -/
theorem Move.placed (placed : r.Placed) (numbered : (r.sale.calls.map Call.number).Nodup)
    (move : Move r label t notes) :
    t.Placed ∧ t.work + (if label.own then 1 else 0) ≤ r.work := by
  obtain ⟨room, next, within, bounded, counted⟩ := placed
  unfold work
  unfold inFlight at next within
  cases move with
  | start place =>
    simp only [Burst.startable] at place
    refine ⟨⟨room, ?_, ?_, ?_, counted⟩, ?_⟩ <;>
      simp only [inFlight, calls, Burst.start, Label.own, List.length_append,
        List.length_singleton, if_true] at * <;>
      omega
  | @refuse call waits about flagged =>
    have fewer := List.length_erase_of_mem waits
    have one := List.length_pos_of_mem waits
    refine ⟨⟨room, ?_, ?_, bounded, ?_⟩, ?_⟩ <;>
      simp only [refused, inFlight, calls, Label.own, List.length_cons, if_true] at * <;>
      omega
  | @ask call due expiry waits about asks timely =>
    have fewer := List.length_erase_of_mem waits
    have one := List.length_pos_of_mem waits
    have more : (r.asked call).calls.length = r.calls.length + 1 := by
      rw [asked_calls about, List.length_append, List.length_singleton]
    have waiting : (r.asked call).calls.countP Call.waits = r.calls.countP Call.waits + 1 := by
      rw [asked_calls about, List.countP_append, List.countP_singleton, if_pos]
      simp [Call.waits, asks]
    refine ⟨⟨room, ?_, ?_, bounded, counted⟩, ?_⟩ <;>
      simp only [inFlight, more, waiting, Label.own, if_true] <;>
      simp only [asked] <;>
      omega
  | @hear call due expiry verdict counter found about asks reserves =>
    obtain ⟨before, after, parts, tell, _⟩ := calls_parts numbered found about
    have same : (r.told call verdict counter).calls.length = r.calls.length := by
      rw [tell, parts, List.length_append, List.length_append]
      rfl
    have fewer : (r.told call verdict counter).calls.countP Call.waits + 1 =
        r.calls.countP Call.waits := by
      rw [tell, parts]
      simp [List.countP_append, Call.waits, asks, Nat.add_assoc]
    refine ⟨⟨room, ?_, ?_, bounded, counted⟩, ?_⟩ <;>
      simp only [inFlight, same, Label.own, if_true] <;>
      simp only [told] at fewer ⊢ <;>
      omega
  | @conclude call verdict found about told =>
    obtain ⟨before, after, parts, _, drop⟩ := calls_parts numbered found about
    have fewer : r.calls.length = (r.concluded call verdict).calls.length + 1 := by
      rw [drop, parts, List.length_append, List.length_append, List.length_cons, Nat.add_assoc]
    have same : (r.concluded call verdict).calls.countP Call.waits =
        r.calls.countP Call.waits := by
      rw [drop, parts]
      simp [List.countP_append, Call.waits, told]
    refine ⟨⟨room, ?_, ?_, bounded, Nat.le_succ_of_le counted⟩, ?_⟩ <;>
      simp only [inFlight, same, Label.own, if_true] <;>
      simp only [concluded, List.length_cons] at fewer ⊢ <;>
      omega
  | join ready =>
    simp only [Burst.joinable] at ready
    split at ready
    · contradiction
    · refine ⟨⟨room, next, within, bounded, ?_⟩, ?_⟩ <;>
        simp only [calls, Burst.join, Label.own, if_true] at * <;>
        omega
  | @other label sale notes permitted step =>
    have same : Rush.calls { r with sale } = r.calls :=
      (permits_apart numbered permitted step).calls
    refine ⟨⟨room, ?_, ?_, bounded, counted⟩, ?_⟩ <;>
      simp only [inFlight, same, Label.own, Bool.false_eq_true, if_false] <;>
      omega

theorem step?_wait (r : Rush) (ms : Nat) :
    step? r (.other (.move (.wait ms))) = some ({ r with sale := r.sale.wait ms }, []) := rfl

/-- What can be done after a wait. -/
theorem after_wait {label : Label} {ms : Nat}
    (goes : (step? { r with sale := r.sale.wait ms } label).isSome) :
    (run? step? r [.other (.move (.wait ms)), label]).isSome := by
  obtain ⟨moved, step⟩ := Option.isSome_iff_exists.mp goes
  simp [run?, step?_wait, step]

/-- A claim of the burst moves, at once or after some time. -/
theorem call_goes_on {call : Call} (found : r.sale.call? call.number = some call)
    (about : call.coupon = r.burst.coupon) :
    ∃ ms, (run? step? r [.other (.move (.wait ms)), .call call.number]).isSome := by
  have own : ∀ ms, ((r.sale.wait ms).call? call.number).any (·.coupon = r.burst.coupon) = true := by
    intro ms
    show (r.sale.call? call.number).any _ = true
    simp [found, about]
  have steps : ∀ ms, ((r.sale.wait ms).step? (.call call.number)).isSome →
      (step? { r with sale := r.sale.wait ms } (.call call.number)).isSome := by
    intro ms moves
    rw [step?, if_pos (own ms), Option.isSome_map]
    exact moves
  have here : ∀ ms, (r.sale.wait ms).call? call.number = some call := fun _ => found
  cases stage : call.stage with
  | asking due expiry =>
    refine ⟨due - r.sale.now, after_wait (steps _ ?_)⟩
    have ripe : due ≤ (r.sale.wait (due - r.sale.now)).now := by
      simp only [Sale.wait, Sale.now]
      omega
    simp only [Sale.step?, Sale.callStep?, here, stage, Sale.hear, if_pos ripe]
    rfl
  | told verdict =>
    refine ⟨0, after_wait (steps 0 ?_)⟩
    simp only [Sale.step?, Sale.callStep?, here, stage]
    rfl

/-- While a burst is not over it can move, at once or after some time. -/
theorem Placed.goes_on (placed : r.Placed) (numbered : (r.sale.calls.map Call.number).Nodup)
    (running : r.burst.isOver = false) :
    ∃ ms label, label.own = true ∧
      (run? step? r [.other (.move (.wait ms)), label]).isSome := by
  cases calls : r.calls with
  | cons call rest =>
    have member : call ∈ r.calls := calls ▸ List.mem_cons_self
    obtain ⟨here, about⟩ := List.mem_filter.mp member
    obtain ⟨ms, goes⟩ := call_goes_on (Sale.call?_of_mem numbered here) (by simpa using about)
    exact ⟨ms, .call call.number, rfl, goes⟩
  | nil =>
    cases started : r.started with
    | cons user rest =>
      obtain ⟨number, new⟩ :=
        Infinite.exists_notMem_finset (r.sale.calls.map Call.number).toFinset
      refine ⟨0, .claim number user, rfl, after_wait ?_⟩
      have free : ((r.sale.wait 0).call? number).isSome = false := by
        simpa [Sale.call?, Sale.wait] using new
      have waits : user ∈ r.started := started ▸ List.mem_cons_self
      simp [step?, waits, Sale.step?, free]
    | nil =>
      obtain ⟨room, next, _, bounded, counted⟩ := placed
      simp only [inFlight, calls, started, List.length_nil] at next
      by_cases more : r.burst.next ≤ r.burst.users
      · refine ⟨0, .start, rfl, after_wait ?_⟩
        have place : 0 < r.burst.startable r.answers.length := by
          simp only [Burst.startable]
          omega
        simp [step?, place]
      · refine ⟨0, .join, rfl, after_wait ?_⟩
        have ready : 0 < r.burst.joinable r.answers.length := by
          have left : r.burst.joined ≠ r.burst.users := by
            simp only [Burst.isOver, Bool.and_eq_false_iff, decide_eq_false_iff_not] at running
            omega
          rw [Burst.joinable, if_neg more]
          omega
        simp [step?, ready]

/-- The sale of a rush goes on as a sale. -/
theorem sale_leads (step : step? r label = some (t, notes)) :
    Leads MemorySale.step? r.sale notes t.sale := by
  have taken : ∀ {part : Sale.Label} {u : Rush}, u.sale = r.sale →
      (r.sale.step? part).map u.take = some (t, notes) →
      Leads MemorySale.step? r.sale notes t.sale := by
    intro part u same step
    obtain ⟨moved, moves, ends⟩ := Option.map_eq_some_iff.mp step
    have moves : MemorySale.step? r.sale (.move part) = some moved := moves
    cases ends
    exact .next moves
  cases label with
  | start | join =>
    simp only [step?] at step
    split at step
    · cases step
      exact .refl _
    · contradiction
  | claim number user =>
    simp only [step?] at step
    split at step
    · exact taken (u := { r with started := r.started.erase user }) rfl step
    · contradiction
  | call number =>
    simp only [step?] at step
    split at step
    · exact taken rfl step
    · contradiction
  | other label =>
    simp only [step?] at step
    split at step
    · obtain ⟨moved, moves, ends⟩ := Option.map_eq_some_iff.mp step
      cases ends
      exact .next moves
    · contradiction

theorem Move.terms (move : Move r label t notes) : t.burst.coupon = r.burst.coupon ∧
    t.burst.users = r.burst.users ∧ t.burst.limit = r.burst.limit := by
  cases move <;> exact ⟨rfl, rfl, rfl⟩

theorem new_placed (sale : Sale Memory) (coupon : CouponId) (users : Int) (concurrency : Nat)
    (alone : sale.callsOn coupon = []) : (new sale coupon users concurrency).Placed := by
  have calls : (new sale coupon users concurrency).calls = [] := alone
  have idle : (new sale coupon users concurrency).inFlight = 0 := by
    rw [inFlight, calls]
    rfl
  refine ⟨?_, ?_, ?_, ?_, Nat.le_refl 0⟩
  · exact Nat.lt_of_lt_of_le Nat.one_pos (Nat.le_max_right concurrency 1)
  · rw [idle]
    rfl
  · rw [idle]
    exact Nat.zero_le _
  · exact Nat.le_add_left 1 users.toNat

theorem new_work (sale : Sale Memory) (coupon : CouponId) (users : Int) (concurrency : Nat)
    (alone : sale.callsOn coupon = []) :
    (new sale coupon users concurrency).work = 5 * users.toNat := by
  have calls : (new sale coupon users concurrency).calls = [] := alone
  rw [work, calls]
  simp [new, Burst.new]

end Rush

namespace Simulation

open Rush (step?)

variable {s : Simulation Memory} {b : Burst}

/-- The burst that a caller runs in virtual time. -/
def rush (s : Simulation Memory) (b : Burst) : Rush where
  sale := s.sale
  burst := b
  started := s.requests.map Request.user
  answers := s.answers.map (·.2)

theorem spawnUsers_leads {count : Nat} (places : count ≤ b.startable s.answers.length) :
    Leads step? (s.rush b) [] ((spawnUsers b.coupon count b.next s).rush (b.start count)) := by
  induction count generalizing s b with
  | zero => exact .refl _
  | succ count ih =>
    have place : 0 < b.startable s.answers.length := by omega
    have first : step? (s.rush b) .start =
        some ((s.spawn ⟨b.next⟩ b.coupon).rush (b.start 1), []) := by
      simp [step?, rush, place, spawn]
    have rest : count ≤ (b.start 1).startable (s.spawn ⟨b.next⟩ b.coupon).answers.length := by
      simp only [Burst.startable, Burst.start, spawn] at places ⊢
      omega
    have later := ih rest
    have same : (b.start 1).start count = b.start (count + 1) := by
      simp only [Burst.start, Nat.add_assoc, Nat.add_comm 1]
    rw [same] at later
    exact (Leads.next first).trans later

theorem join_leads {count : Nat} (answered : count ≤ b.joinable s.answers.length) :
    Leads step? (s.rush b) [] (s.rush (b.join count)) := by
  induction count generalizing b with
  | zero => exact .refl _
  | succ count ih =>
    have ready : 0 < b.joinable s.answers.length := by omega
    have first : step? (s.rush b) .join = some (s.rush (b.join 1), []) := by
      simp [step?, rush, ready]
    have rest : count ≤ (b.join 1).joinable s.answers.length := by
      unfold Burst.joinable at answered ⊢
      by_cases more : b.next ≤ b.users
      · rw [if_pos more] at answered
        contradiction
      · rw [if_neg more] at answered
        rw [if_neg (show ¬ (b.join 1).next ≤ (b.join 1).users from more)]
        simp only [Burst.join]
        omega
    have same : (b.join 1).join count = b.join (count + 1) := by
      simp only [Burst.join, Nat.add_assoc, Nat.add_comm 1]
    have later := ih rest
    rw [same] at later
    exact (Leads.next first).trans later

/-- What a caller does in a turn are starts and joins of the burst, until it is over. -/
theorem burstTurn_leads (s : Simulation Memory) (b : Burst) :
    ∃ after, Leads step? (s.rush b) [] ((s.burstTurn b).rush after) ∧
      (s.burstTurn b).errand = if after.isOver then .free else .burst after := by
  generalize starts : min (b.startable s.answers.length) fullStrength = count
  have spawns : Leads step? (s.rush b) []
      ((spawnUsers b.coupon count b.next s).rush (b.start count)) :=
    spawnUsers_leads (starts ▸ Nat.min_le_left _ _)
  generalize begun : spawnUsers b.coupon count b.next s = u at spawns
  generalize joins : min ((b.start count).joinable u.answers.length) (fullStrength - count) = more
  have counts : Leads step? (u.rush (b.start count)) [] (u.rush ((b.start count).join more)) :=
    join_leads (joins ▸ Nat.min_le_left _ _)
  refine ⟨(b.start count).join more, ?_, ?_⟩
  · have same : (s.burstTurn b).rush ((b.start count).join more) =
        u.rush ((b.start count).join more) := by
      simp only [burstTurn, starts, begun, joins]
      split <;> rfl
    rw [same]
    exact spawns.trans counts
  · simp only [burstTurn, starts, begun, joins]
    split <;> rfl

end Simulation
end CouponSale
