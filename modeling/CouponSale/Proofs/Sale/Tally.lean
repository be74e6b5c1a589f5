import CouponSale.Proofs.Sale.Calls
import Mathlib.Algebra.GroupWithZero.Nat

/-!
The numbers of a sale whose tasks all come from claims. As many claims are answered as successes as
tasks are handed to the pool, those it drops included; and as many reservations are kept as claims
are successes or are about to be.
-/
namespace CouponSale

/-- Answers a claim as a success. -/
def Note.succeeds : Note → Bool
  | .answered _ (.ok .success) => true
  | _ => false

/-- Was granted a unit and is still to be answered. -/
def Call.holds (call : Call) : Bool :=
  match call.stage with
  | .told (.ok .claimed) => true
  | _ => false

/-- The tasks that were handed to a pool, those it dropped included. -/
def Pool.handed (p : Pool) : Nat := p.stats.submitted + p.stats.dropped

/-- What the entries of a list come to after one is written. -/
theorem Keyed.sum_put {α β : Type} [DecidableEq α] (g : β → Nat) (key : α) (value : β)
    (l : List (α × β)) :
    ((put key value l).map (g ·.2)).sum + ((l.lookup key).map g).getD 0 =
      (l.map (g ·.2)).sum + g value := by
  induction l with
  | nil => simp [put]
  | cons entry rest ih =>
    obtain ⟨k, v⟩ := entry
    by_cases same : key = k
    · subst same
      simp [put]
      omega
    · have differs : (key == k) = false := by simp [same]
      simp only [put, if_neg same, List.map_cons, List.sum_cons, List.lookup_cons, differs]
      omega

namespace Counter

/-- The reservations of all coupons. -/
def reserved (k : Counter) : Nat := (k.tabs.map (·.2.claimed.length)).sum

theorem reserved_put (k : Counter) (coupon : CouponId) (tab : Tab) :
    (k.put coupon tab).reserved + (k.holders coupon).length =
      k.reserved + tab.claimed.length := by
  have sum := Keyed.sum_put (fun tab : Tab => tab.claimed.length) coupon tab k.tabs
  have held : (k.holders coupon).length =
      ((k.tabs.lookup coupon).map fun tab => tab.claimed.length).getD 0 := by
    unfold holders tab?
    cases k.tabs.lookup coupon <;> rfl
  rw [held]
  exact sum

theorem reserved_seed (k : Counter) (coupon : CouponId) (total : Int) :
    (k.seed coupon total).reserved = k.reserved := by
  have sum := k.reserved_put coupon ⟨total, k.holders coupon⟩
  exact Nat.add_right_cancel sum

theorem Reserves.reserved {k l : Counter} {coupon : CouponId} {user : UserId}
    {verdict : Reservation} (reserves : k.Reserves coupon user verdict l) :
    l.reserved = k.reserved + if verdict = .claimed then 1 else 0 := by
  cases reserves with
  | @claimed tab seeded free more =>
    have sum := k.reserved_put coupon ⟨tab.stock - 1, user :: tab.claimed⟩
    have held : k.holders coupon = tab.claimed := by
      rw [holders, seeded]
      rfl
    rw [held, List.length_cons] at sum
    rw [if_pos rfl]
    omega
  | _ => simp

end Counter

theorem Pool.Move.handed {p q : Pool} {label : Pool.Label} {notes : List Note}
    (move : p.Move label q notes) (unasked : ∀ task, label ≠ .submit task) :
    q.handed = p.handed := by
  cases move with
  | accept | drop => exact absurd rfl (unasked _)
  | worker crew place move => cases move <;> rfl
  | scheduler keeps move => cases move <;> rfl
  | stopper phase move => cases move <;> rfl
  | _ => rfl

theorem Pool.handed_submit (p : Pool) (task : Task) :
    (p.submit task).2.1.handed = p.handed + 1 := by
  unfold submit Pool.handed
  split
  · rfl
  · split
    · simp only
      omega
    · rfl

namespace Sale

variable {s t : Sale Memory} {notes more : List Note}

/-- The tally of a sale. -/
structure Tallied (s : Sale Memory) (notes : List Note) : Prop where
  handed : notes.countP Note.succeeds = s.pool.handed
  reserved : s.stores.counter.reserved = notes.countP Note.succeeds + s.calls.countP Call.holds

/-- What leaves the claims, the reservations and the submissions alone. -/
theorem Tallied.aside (tallied : Tallied s notes) (calls : t.calls = s.calls)
    (reserved : t.stores.counter.reserved = s.stores.counter.reserved)
    (handed : t.pool.handed = s.pool.handed) (silent : more.countP Note.succeeds = 0) :
    Tallied t (notes ++ more) := by
  constructor
  · rw [List.countP_append, silent, handed]
    exact tallied.handed
  · rw [List.countP_append, silent, calls, reserved]
    exact tallied.reserved

theorem Tallied.tell {call : Call} {due expiry : Nat} {verdict : Answer Reservation}
    (tallied : Tallied s notes) (numbered : (s.calls.map Call.number).Nodup)
    (found : s.call? call.number = some call) (asks : call.stage = .asking due expiry)
    (calls : t.calls = (s.setStage call.number (.told verdict)).calls)
    (reserved : t.stores.counter.reserved = s.stores.counter.reserved +
      if ({ call with stage := .told verdict } : Call).holds then 1 else 0)
    (handed : t.pool.handed = s.pool.handed) (silent : more.countP Note.succeeds = 0) :
    Tallied t (notes ++ more) := by
  obtain ⟨before, after, parts, same, earlier, later⟩ := call_parts numbered found
  rw [calls_setStage parts same earlier later] at calls
  constructor
  · rw [List.countP_append, silent, handed]
    exact tallied.handed
  · have sum := tallied.reserved
    have waits : call.holds = false := by simp [Call.holds, asks]
    rw [List.countP_append, silent, calls, reserved]
    simp only [parts, List.countP_append, List.countP_cons, waits, Bool.false_eq_true,
      if_false] at sum ⊢
    omega

theorem Tallied.answer {call : Call} (tallied : Tallied s notes)
    (numbered : (s.calls.map Call.number).Nodup) (found : s.call? call.number = some call)
    (calls : t.calls = (s.dropCall call.number).calls)
    (reserved : t.stores.counter.reserved = s.stores.counter.reserved)
    (handed : t.pool.handed = s.pool.handed + if call.holds then 1 else 0)
    (told : more.countP Note.succeeds = if call.holds then 1 else 0) :
    Tallied t (notes ++ more) := by
  obtain ⟨before, after, parts, same, earlier, later⟩ := call_parts numbered found
  rw [calls_dropCall parts same earlier later] at calls
  constructor
  · rw [List.countP_append, told, handed, tallied.handed]
  · have sum := tallied.reserved
    rw [List.countP_append, told, calls, reserved]
    simp only [parts, List.countP_append, List.countP_cons] at sum ⊢
    omega

theorem succeeds_absorb {label : Pool.Label} {moved : Pool.Moved} (s : Sale Memory)
    (step : s.pool.step? label = some moved) : (s.absorb moved).2.countP Note.succeeds = 0 := by
  apply List.countP_eq_zero.mpr
  intro note member
  rcases mem_absorb s step note member with ⟨pools, _⟩ | letter
  · cases note <;> simp_all [Note.ofPool, Note.succeeds]
  · cases note <;> simp_all [Note.ofLetter, Note.succeeds]

theorem succeeds_reserveNotes (call : Call) (answer : Answer Reservation) :
    (reserveNotes call answer).countP Note.succeeds = 0 := by
  cases answer <;> rfl

theorem succeeds_answerNotes (call : Call) (answer : Answer Outcome) :
    (answerNotes call answer).countP Note.succeeds = if answer = .ok .success then 1 else 0 := by
  unfold answerNotes
  cases answer with
  | error e => cases call.admin <;> simp [Note.succeeds]
  | ok outcome => cases call.admin <;> cases outcome <;> rfl

theorem succeeds_follow (call : Call) (verdict : Reservation) :
    (s.follow call verdict).2.countP Note.succeeds = 0 := by
  cases verdict with
  | claimed =>
    have submits : s.pool.step? (.submit (.fresh call.user call.coupon)) =
      some (s.pool.submit (.fresh call.user call.coupon)).2 := rfl
    exact succeeds_absorb s submits
  | outOfStock =>
    simp only [follow, flag]
    split <;> rfl
  | _ => rfl

theorem handed_follow (call : Call) (verdict : Reservation) :
    (s.follow call verdict).1.pool.handed =
      s.pool.handed + if verdict = .claimed then 1 else 0 := by
  cases verdict with
  | claimed => exact s.pool.handed_submit _
  | _ => rfl

theorem Move.tallied {label : Label} (numbered : (s.calls.map Call.number).Nodup)
    (tallied : Tallied s notes) (unasked : ∀ task, label ≠ .submit task)
    (move : Move s label t more) : Tallied t (notes ++ more) := by
  have absorbed : ∀ {part : Pool.Label} {moved : Pool.Moved} (u : Sale Memory),
      u.calls = s.calls → u.stores.counter = s.stores.counter → u.pool = s.pool →
      (∀ task, part ≠ .submit task) → u.pool.step? part = some moved →
      Tallied (u.absorb moved).1 (notes ++ (u.absorb moved).2) := by
    intro part moved u calls counter pool idle step
    refine tallied.aside calls ?_ ?_ (succeeds_absorb u step)
    · rw [absorb_counter, counter]
    · have move : u.pool.Move part moved.1 moved.2 := Pool.step?_move step
      exact (move.handed idle).trans (by rw [pool])
  cases move with
  | refuse known =>
    refine tallied.aside rfl rfl rfl ?_
    rw [List.countP_cons, succeeds_answerNotes]
    rfl
  | @ask call due expiry asks new =>
    have waits : call.holds = false := by simp [Call.holds, asks]
    constructor
    · simpa using tallied.handed
    · simpa [waits, Backend.beginReserve] using tallied.reserved
  | @hear call due expiry found asks ripe =>
    refine tallied.tell numbered found asks rfl ?_ rfl (succeeds_reserveNotes call _)
    rcases s.stores.reserve_cases call.coupon call.user with ⟨failed, same⟩ | ⟨verdict, said, reserves⟩
    · simp only [Backend.reserve, setStage, failed, same, Call.holds]
      rfl
    · simp only [Backend.reserve, setStage, said, reserves.reserved, Call.holds]
      cases verdict <;> simp
  | expire found asks late =>
    exact tallied.tell numbered found asks rfl (by simp [Call.holds, setStage]) rfl
      (succeeds_reserveNotes _ _)
  | @fail call e found told =>
    have refused : call.holds = false := by simp [Call.holds, told]
    refine tallied.answer numbered found rfl rfl ?_ ?_
    · rw [refused]
      rfl
    · rw [succeeds_answerNotes, refused]
      rfl
  | @decide call verdict found told =>
    have holds : call.holds = Decidable.decide (verdict = .claimed) := by
      cases verdict <;> simp [Call.holds, told]
    have calls : ((s.follow call verdict).1.dropCall call.number).calls =
        (s.dropCall call.number).calls := by
      simp only [dropCall, calls_follow]
    refine tallied.answer numbered found calls ?_ ?_ ?_
    · exact congrArg Counter.reserved (follow_counter call verdict)
    · simp only [holds, decide_eq_true_eq]
      exact handed_follow call verdict
    · rw [List.countP_append, succeeds_follow, List.countP_cons, succeeds_answerNotes, holds]
      cases verdict <;> rfl
  | beginWrite stage step =>
    exact absorbed { s with stores := Backend.beginWrite s.stores } rfl rfl rfl (by simp) step
  | @endWrite w draw job due moved writes step =>
    exact absorbed { s with
      stores := (Backend.write s.stores job.task.user job.task.coupon).2 } rfl
        (s.stores.write_frame _ _).1 rfl (by simp) step
  | work apart step => exact absorbed s rfl rfl rfl (by simp) step
  | @manage label part moved same step =>
    refine absorbed s rfl rfl rfl ?_ step
    rintro task rfl
    cases label <;> simp_all [Label.pool?]
  | @create c now =>
    unfold openCoupon writeCoupon
    cases c.validate now <;> exact tallied.aside rfl rfl rfl rfl
  | seed found => exact tallied.aside rfl (Counter.reserved_seed _ _ _) rfl rfl
  | @reseed coupon =>
    simp only [Sale.reseed, Backend.find, Ledger.get]
    cases s.stores.ledger.find? coupon with
    | none => exact tallied.aside rfl rfl rfl rfl
    | some c => exact tallied.aside rfl (Counter.reserved_seed _ _ _) rfl rfl
  | wait => exact tallied.aside rfl rfl rfl rfl

end Sale

namespace MemorySale

variable {config : Pool.Config} {reserveTimeout : Span} {sink : Sink} {s : Sale Memory}
  {moves : List SaleMove}

theorem tallied (run : Trace step? (.new config reserveTimeout (.new sink)) moves s)
    (unasked : ∀ move ∈ moves, ∀ task, move.label ≠ .move (.submit task)) :
    Sale.Tallied s (heard moves) := by
  induction run with
  | start => exact ⟨rfl, rfl⟩
  | @move moves t u label told sofar step ih =>
    have tallied := ih fun move member => unasked move (List.mem_append_left _ member)
    have idle := unasked _ (List.mem_append_right _ (List.mem_singleton_self _))
    have reached : Reachable config reserveTimeout sink (heard moves) t := sofar.leads
    rw [heard_append, heard_singleton]
    cases label with
    | set setting =>
      cases step
      cases setting <;> exact tallied.aside rfl rfl rfl rfl
    | move label =>
      exact (Sale.step?_move step).tallied reached.granted.numbered tallied
        fun task same => idle task (congrArg Label.move same)

/-- Each claim does just what its answer says, whatever runs beside it and however long: a success
took one unit for its user and submitted one task, anything else took nothing and submitted nothing,
and a failure is one of the counter, worth another try, and sets no flag. So where all tasks come
from claims, there are as many successes as tasks handed to the pool, and as many reservations, but
for those of claims that are still to be answered. -/
theorem claims_isolated (run : Trace step? (.new config reserveTimeout (.new sink)) moves s) :
    (∀ earlier opening later n user coupon admin answer, moves = earlier ++ opening :: later →
      opening.label = .move (.claim n user coupon admin) →
      (∀ other ∈ later, other.label.opens n = false) →
      .answered n answer ∈ heard (opening :: later) →
      Isolated user coupon (own n (opening :: later)) answer) ∧
    ((∀ move ∈ moves, ∀ task, move.label ≠ .move (.submit task)) →
      (heard moves).countP Note.succeeds = s.pool.stats.submitted + s.pool.stats.dropped ∧
        s.stores.counter.reserved =
          (heard moves).countP Note.succeeds + s.calls.countP Call.holds ∧
        (s.calls = [] → s.stores.counter.reserved = (heard moves).countP Note.succeeds)) := by
  constructor
  · intro earlier opening later n user coupon admin answer parts opens only answered
    rw [parts] at run
    exact isolated run opens only answered
  · intro unasked
    obtain ⟨handed, reserved⟩ := tallied run unasked
    refine ⟨handed, reserved, ?_⟩
    intro quiet
    rw [reserved, quiet]
    rfl

/-- A coupon of one unit is created, and the next reservation is made to fail. -/
def opened : List Label :=
  [.move (.create ⟨"Opening", 1, 0, ⟨0, 0⟩, ⟨10, 0⟩⟩ ⟨0, 0⟩), .move (.seed ⟨1⟩), .set (.failReserves 1)]

/-- Answers the claim of a number as a success. -/
def succeedsFor (n : Nat) : Note → Bool
  | .answered number (.ok .success) => number = n
  | _ => false

/-- Of two claims that run at one time, the second meets the failure and the first gets the unit. -/
def contest : List Label :=
  .map .move [.claim 0 ⟨7⟩ ⟨1⟩ none, .claim 1 ⟨8⟩ ⟨1⟩ none, .call 1, .call 0, .call 1, .call 0]

theorem claims_isolated_contest : ∃ moves s opening later,
    Trace step? (.new .standard Sale.standardTimeout (.new .recording))
      (moves ++ opening :: later) s ∧
    (opening :: later).map Transition.label = contest ∧
    Isolated ⟨7⟩ ⟨1⟩ (own 0 (opening :: later)) (.ok .success) ∧
    s.calls = [] ∧ s.pool.stats.submitted + s.pool.stats.dropped = 1 ∧
    s.stores.counter.reserved = 1 := by
  have ends : (run? step? (.new .standard Sale.standardTimeout (.new .recording)) opened).any
      (fun (u, _) => (run? step? u contest).any fun (s, told) =>
        s.calls.isEmpty && s.pool.stats.submitted + s.pool.stats.dropped == 1 &&
          told.any (succeedsFor 0)) = true := by decide +kernel
  obtain ⟨⟨u, told₁⟩, opens, ends⟩ := (Option.any_eq_true _ _).mp ends
  obtain ⟨⟨s, told⟩, goes, ends⟩ := (Option.any_eq_true _ _).mp ends
  simp only [Bool.and_eq_true, List.isEmpty_iff, beq_iff_eq] at ends
  obtain ⟨⟨quiet, handed⟩, succeeds⟩ := ends
  obtain ⟨moves, first, labels₁, _⟩ := Trace.of_run? opens
  obtain ⟨moves₂, second, labels₂, rfl⟩ := Trace.of_run? goes
  obtain ⟨opening, later, rfl, claims, rest⟩ := List.map_eq_cons_iff.mp labels₂
  have run := first.trans second
  obtain ⟨isolated, counts⟩ := claims_isolated run
  refine ⟨moves, s, opening, later, run, labels₂, ?_, quiet, handed, ?_⟩
  · obtain ⟨note, member, success⟩ := List.any_eq_true.mp succeeds
    obtain rfl : note = .answered 0 (.ok .success) := by
      unfold succeedsFor at success
      split at success <;> simp_all
    refine isolated moves opening later 0 ⟨7⟩ ⟨1⟩ none _ rfl claims ?_ member
    have others : ∀ label ∈ later.map Transition.label, label.opens 0 = false := by
      rw [rest]
      decide
    intro other member
    exact others _ (List.mem_map_of_mem member)
  · have labels : ∀ label ∈ (moves ++ opening :: later).map Transition.label,
        ∀ task, label ≠ .move (.submit task) := by
      rw [List.map_append, labels₁, labels₂]
      simp [opened, contest]
    have unasked : ∀ move ∈ moves ++ opening :: later, ∀ task,
        move.label ≠ .move (.submit task) :=
      fun move member => labels _ (List.mem_map_of_mem member)
    obtain ⟨submitted, _, taken⟩ := counts unasked
    rw [taken quiet, submitted, handed]

end MemorySale
end CouponSale
