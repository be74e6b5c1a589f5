import CouponSale.Proofs.Store.Ledger
import CouponSale.Proofs.Store.SalesCall
import CouponSale.Proofs.Trace

/-!
A ledger tells its history. Calls of any kind come in any order, and some are made to fail. What a
call answers says whether it wrote: one that answers otherwise has changed nothing. So the coupons
are those that calls created, each with a unit less for every claim that was persisted on it and for
every unit that was taken without a claim, and the rows are those that calls wrote.
-/
namespace CouponSale

/-- What is done to a store in memory: a call of it, or a setting of its faults. -/
inductive Memory.Act where
  | call (c : SalesCall)
  | set (s : Memory.Setting)

/-- The store in memory as a machine on which everything can be done at any time. -/
def Memory.act? (m : Memory) : Memory.Act → Option (Memory × List SalesAnswer)
  | .call c => some ((m.sales c).2, [(m.sales c).1])
  | .set s => some (m.adjust s, [])

abbrev SalesMove := Transition Memory Memory.Act SalesAnswer

/-- The answer says that something was written. -/
def SalesAnswer.wrote : SalesAnswer → Bool
  | .created (.ok _) | .inserted (.ok true) | .taken (.ok _) | .persisted (.ok .written) => true
  | _ => false

namespace SalesMove

/-- The coupon that a move created. -/
def created? (move : SalesMove) : Option Coupon :=
  match move.told with
  | [.created (.ok c)] => some c
  | _ => none

/-- The move persisted a claim on a coupon. -/
def persisted (coupon : CouponId) (move : SalesMove) : Bool :=
  match move.label, move.told with
  | .call (.persist _ c), [.persisted (.ok .written)] => c = coupon
  | _, _ => false

/-- The move took a unit of a coupon without a claim. -/
def decremented (coupon : CouponId) (move : SalesMove) : Bool :=
  match move.label, move.told with
  | .call (.decrement c), [.taken (.ok ())] => c = coupon
  | _, _ => false

end SalesMove

/-- The coupons that some moves created, in their order. -/
def createdBy (moves : List SalesMove) : List Coupon := moves.filterMap SalesMove.created?

/-- How many units of a coupon some moves took. -/
def takenBy (moves : List SalesMove) (coupon : CouponId) : Nat :=
  moves.countP (SalesMove.persisted coupon) + moves.countP (SalesMove.decremented coupon)

/-- A coupon with the units that some moves left of its total. -/
def Coupon.leftBy (moves : List SalesMove) (c : Coupon) : Coupon :=
  { c with stock := c.total - takenBy moves c.id }

namespace Ledger

/-- What anything that is done to a store does to its ledger. -/
inductive Acts (l : Ledger) : Memory.Act → List SalesAnswer → Ledger → Prop
  | idle {act : Memory.Act} {told : List SalesAnswer} (silent : ∀ a ∈ told, a.wrote = false) :
      Acts l act told l
  | created (new : NewCoupon) :
      Acts l (.call (.create new)) [.created (.ok (l.create new).1)] (l.create new).2
  | inserted {user : UserId} {coupon : CouponId} {c : Coupon}
      (free : l.hasClaim user coupon = false) (found : l.find? coupon = some c) :
      Acts l (.call (.insertClaim user coupon)) [.inserted (.ok true)] (l.addClaim user coupon)
  | decremented {coupon : CouponId} {c : Coupon} (found : l.find? coupon = some c)
      (more : 0 < c.stock) :
      Acts l (.call (.decrement coupon)) [.taken (.ok ())] (l.takeUnit coupon)
  | persisted {user : UserId} {coupon : CouponId} {c : Coupon}
      (free : l.hasClaim user coupon = false) (found : l.find? coupon = some c)
      (more : 0 < c.stock) :
      Acts l (.call (.persist user coupon)) [.persisted (.ok .written)]
        ((l.takeUnit coupon).addClaim user coupon)

end Ledger

variable {m n : Memory} {act : Memory.Act} {told : List SalesAnswer} {moves : List SalesMove}
  {l k : Ledger}

theorem Memory.act_acts (step : m.act? act = some (n, told)) : m.ledger.Acts act told n.ledger := by
  cases act with
  | set s =>
    cases step
    cases s <;> exact .idle (by simp)
  | call c =>
    cases step
    cases c with
    | create new => exact .created new
    | get coupon =>
      refine .idle ?_
      simp [sales, SalesAnswer.wrote]
    | claimsOf user =>
      refine .idle ?_
      simp [sales, SalesAnswer.wrote]
    | insertClaim user coupon =>
      simp only [sales, Ledger.insertClaim]
      split
      · exact .idle (by simp [SalesAnswer.wrote])
      · rename_i c found
        split_ifs with held
        · exact .idle (by simp [SalesAnswer.wrote])
        · exact .inserted (by simpa using held) found
    | decrement coupon =>
      simp only [sales, Ledger.decrement]
      split
      · rename_i c found
        split_ifs with more
        · exact .decremented found more
        · exact .idle (by simp [SalesAnswer.wrote])
      · exact .idle (by simp [SalesAnswer.wrote])
    | persist user coupon =>
      simp only [sales, Backend.write, Backend.beginWrite, Memory.write, Service.begin]
      split
      · exact .idle (by simp [SalesAnswer.wrote])
      · have persists := m.ledger.persist_persists user coupon
        generalize (m.ledger.persist user coupon).1 = answer,
          (m.ledger.persist user coupon).2 = k at persists
        cases persists with
        | written free found more => exact .persisted free found more
        | _ => exact .idle (by simp [SalesAnswer.wrote])

theorem createdBy_append (move : SalesMove) :
    createdBy (moves ++ [move]) = createdBy moves ++ move.created?.toList := by
  rw [createdBy, List.filterMap_append]
  cases made : move.created? <;> simp [createdBy, made]

theorem takenBy_append (move : SalesMove) (coupon : CouponId) :
    takenBy (moves ++ [move]) coupon = takenBy moves coupon +
      ((move.persisted coupon).toNat + (move.decremented coupon).toNat) := by
  simp only [takenBy, List.countP_append, List.countP_singleton]
  cases move.persisted coupon <;> cases move.decremented coupon <;> simp <;> omega

/-- A move that takes no unit of any coupon leaves to each what was left. -/
theorem leftBy_append (moves : List SalesMove) {move : SalesMove}
    (took : ∀ coupon, move.persisted coupon = false ∧ move.decremented coupon = false) :
    takenBy (moves ++ [move]) = takenBy moves ∧
      Coupon.leftBy (moves ++ [move]) = Coupon.leftBy moves := by
  have taken : takenBy (moves ++ [move]) = takenBy moves := by
    funext coupon
    rw [takenBy_append, (took coupon).1, (took coupon).2]
    rfl
  refine ⟨taken, ?_⟩
  funext c
  rw [Coupon.leftBy, taken, Coupon.leftBy]

/-- A move that wrote nothing created no coupon and took no unit. -/
theorem SalesMove.silent {move : SalesMove} (silent : ∀ a ∈ move.told, a.wrote = false) :
    move.created? = none ∧
      ∀ coupon, move.persisted coupon = false ∧ move.decremented coupon = false := by
  unfold created? persisted decremented
  refine ⟨?_, fun coupon => ⟨?_, ?_⟩⟩
  · split
    · rename_i c told
      rw [told] at silent
      simp [SalesAnswer.wrote] at silent
    · rfl
  · split
    · rename_i told
      rw [told] at silent
      simp [SalesAnswer.wrote] at silent
    · rfl
  · split
    · rename_i told
      rw [told] at silent
      simp [SalesAnswer.wrote] at silent
    · rfl

namespace Ledger

/-- What a ledger tells of the moves that made it. -/
structure Tells (moves : List SalesMove) (l : Ledger) : Prop where
  linked : l.Linked
  coupons : l.coupons = (createdBy moves).map (Coupon.leftBy moves)
  once : (l.claims.map fun r => (r.user, r.coupon)).Nodup
  stocked : ∀ c ∈ l.coupons, 0 ≤ c.stock
  /-- No unit was taken of a coupon before it was created. -/
  untaken : ∀ coupon ∉ l.coupons.map Coupon.id, takenBy moves coupon = 0

namespace Tells

variable {user : UserId} {coupon : CouponId} {c : Coupon} {move : SalesMove}

theorem empty : Tells [] .empty where
  linked := .empty
  coupons := rfl
  once := .nil
  stocked _ member := absurd member List.not_mem_nil
  untaken _ _ := rfl

variable (tells : l.Tells moves)

include tells

/-- A move that creates no coupon and takes no unit leaves the account as it is. -/
theorem aside (made : move.created? = none)
    (took : ∀ coupon, move.persisted coupon = false ∧ move.decremented coupon = false) :
    l.Tells (moves ++ [move]) := by
  have created : createdBy (moves ++ [move]) = createdBy moves := by
    rw [createdBy_append, made, Option.toList_none, List.append_nil]
  obtain ⟨taken, left⟩ := leftBy_append moves took
  refine ⟨tells.linked, ?_, tells.once, tells.stocked, ?_⟩
  · rw [created, left]
    exact tells.coupons
  · rw [taken]
    exact tells.untaken

theorem addClaim (free : l.hasClaim user coupon = false) (found : l.find? coupon = some c) :
    (l.addClaim user coupon).Tells moves := by
  refine ⟨tells.linked.addClaim found, tells.coupons, ?_, tells.stocked, tells.untaken⟩
  refine List.nodup_cons.mpr ⟨?_, tells.once⟩
  intro member
  obtain ⟨r, here, same⟩ := List.mem_map.mp member
  have held : l.hasClaim user coupon = true :=
    List.any_eq_true.mpr ⟨r, here, by simpa using same⟩
  rw [free] at held
  cases held

/-- A move that takes a unit of a coupon that has one takes it off the stock. -/
theorem takeUnit (found : l.find? coupon = some c) (more : 0 < c.stock)
    (made : move.created? = none)
    (took : ∀ other, (move.persisted other).toNat + (move.decremented other).toNat =
      if other = coupon then 1 else 0) :
    (l.takeUnit coupon).Tells (moves ++ [move]) := by
  obtain ⟨here, named⟩ := find?_some found
  refine ⟨tells.linked.takeUnit coupon, ?_, tells.once, ?_, ?_⟩
  · rw [createdBy_append, made, Option.toList_none, List.append_nil, Ledger.takeUnit,
      tells.coupons, List.map_map]
    apply List.map_congr_left
    intro d _
    simp only [Function.comp_apply]
    split_ifs with taken
    · have one := took d.id
      rw [if_pos (show d.id = coupon from taken)] at one
      simp only [Coupon.leftBy, takenBy_append, one, Coupon.mk.injEq, and_true, true_and]
      omega
    · have none := took d.id
      rw [if_neg (show ¬ d.id = coupon from taken)] at none
      simp only [Coupon.leftBy, takenBy_append, none, Nat.add_zero]
  · intro d member
    obtain ⟨e, there, same, -, stock⟩ := mem_takeUnit member
    rw [stock]
    split_ifs with taken
    · rw [List.inj_on_of_nodup_map tells.linked.distinct there here (taken.trans named.symm)]
      omega
    · exact tells.stocked e there
  · intro other missing
    rw [ids_takeUnit] at missing
    have apart : other ≠ coupon := by
      rintro rfl
      exact missing (mem_ids found)
    rw [takenBy_append, took, if_neg apart, tells.untaken other missing]

theorem create (new : NewCoupon) (enough : 0 ≤ new.total)
    (made : move.created? = some (l.create new).1)
    (took : ∀ coupon, move.persisted coupon = false ∧ move.decremented coupon = false) :
    (l.create new).2.Tells (moves ++ [move]) := by
  obtain ⟨taken, left⟩ := leftBy_append moves took
  have fresh := tells.linked.fresh new
  refine ⟨tells.linked.create new, ?_, tells.once, ?_, ?_⟩
  · have whole : (l.create new).1.leftBy moves = (l.create new).1 := by
      rw [Coupon.leftBy, tells.untaken _ fresh]
      simp [Ledger.create]
    rw [createdBy_append, made, Option.toList_some, List.map_append, left, List.map_singleton,
      whole, ← tells.coupons]
    rfl
  · intro d member
    rcases List.mem_append.mp member with old | new
    · exact tells.stocked d old
    · rw [List.mem_singleton.mp new]
      exact enough
  · intro coupon missing
    rw [taken]
    refine tells.untaken coupon fun member => missing ?_
    simp only [Ledger.create, List.map_append]
    exact List.mem_append_left _ member

/-- Whatever is done to a store, its ledger tells it. -/
theorem acted (acts : l.Acts move.label move.told k)
    (enough : ∀ new, move.label = .call (.create new) → 0 ≤ new.total) :
    k.Tells (moves ++ [move]) := by
  obtain ⟨before, label, after, told⟩ := move
  cases acts with
  | idle silent => exact tells.aside (SalesMove.silent silent).1 (SalesMove.silent silent).2
  | created new => exact tells.create new (enough new rfl) rfl fun _ => ⟨rfl, rfl⟩
  | inserted free found => exact (tells.addClaim free found).aside rfl fun _ => ⟨rfl, rfl⟩
  | @decremented coupon _ found more =>
    refine tells.takeUnit found more rfl fun other => ?_
    by_cases same : coupon = other <;>
      simp [SalesMove.persisted, SalesMove.decremented, same, eq_comm]
  | @persisted _ coupon _ free found more =>
    refine (tells.addClaim free found).takeUnit found more rfl fun other => ?_
    by_cases same : coupon = other <;>
      simp [SalesMove.persisted, SalesMove.decremented, same, eq_comm]

end Tells

/-- No claim is changed or removed by anything that is done to a store. -/
theorem Acts.claims_suffix (acts : l.Acts act told k) : l.claims <:+ k.claims := by
  cases acts with
  | idle | created | decremented => exact List.suffix_rfl
  | inserted | persisted => exact List.suffix_cons _ _

/-- Nothing is changed by what answers that it wrote nothing. -/
theorem Acts.unchanged (acts : l.Acts act told k) (silent : ∀ a ∈ told, a.wrote = false) :
    k = l := by
  cases acts with
  | idle => rfl
  | _ => simp [SalesAnswer.wrote] at silent

end Ledger

namespace Memory

theorem tells_run {sink : Sink} (run : Trace act? (.new sink) moves m)
    (enough : ∀ move ∈ moves, ∀ new, move.label = .call (.create new) → 0 ≤ new.total) :
    m.ledger.Tells moves := by
  induction run with
  | start => exact .empty
  | move sofar step ih =>
    have tells := ih fun move member => enough move (List.mem_append_left _ member)
    exact tells.acted (act_acts step) (enough _ (List.mem_append_right _ List.mem_cons_self))

theorem claims_suffix (run : Trace act? m moves n) : m.ledger.claims <:+ n.ledger.claims := by
  induction run with
  | start => exact List.suffix_rfl
  | move sofar step ih => exact ih.trans (act_acts step).claims_suffix

/-- In every state that calls and faults lead to from an empty store, the coupons are the created
ones, numbered from one, each with the units left that were neither persisted nor taken; every row
has its coupon, nobody has two rows for one coupon, and no row was ever changed. What answered that
it wrote nothing changed nothing. -/
theorem ledger_tells_history {sink : Sink} (run : Trace act? (.new sink) moves m)
    (enough : ∀ move ∈ moves, ∀ new, move.label = .call (.create new) → 0 ≤ new.total) :
    m.ledger.coupons = (createdBy moves).map (Coupon.leftBy moves) ∧
      m.ledger.coupons.map Coupon.id = (List.range (createdBy moves).length).map (⟨· + 1⟩) ∧
      (∀ c ∈ m.ledger.coupons, 0 ≤ c.stock ∧ c.stock ≤ c.total ∧
        c.stock = c.total - moves.countP (SalesMove.persisted c.id) -
          moves.countP (SalesMove.decremented c.id)) ∧
      (∀ r ∈ m.ledger.claims, r.coupon ∈ m.ledger.coupons.map Coupon.id) ∧
      (m.ledger.claims.map fun r => (r.user, r.coupon)).Nodup ∧
      (∀ move ∈ moves, move.before.ledger.claims <:+ m.ledger.claims) ∧
      ∀ move ∈ moves, (∀ a ∈ move.told, a.wrote = false) →
        move.after.ledger = move.before.ledger := by
  have tells := tells_run run enough
  refine ⟨tells.coupons, ?_, ?_, tells.linked.known, tells.once, ?_, ?_⟩
  · rw [tells.linked.numbered, tells.coupons, List.length_map]
  · intro c member
    have left : c.stock = c.total - takenBy moves c.id := by
      have made := member
      rw [tells.coupons] at made
      obtain ⟨d, -, rfl⟩ := List.mem_map.mp made
      rfl
    have some := tells.stocked c member
    unfold takenBy at left
    omega
  · intro move member
    obtain ⟨earlier, later, rfl⟩ := List.append_of_mem member
    obtain ⟨-, step, rest⟩ := run.at_move
    exact (act_acts step).claims_suffix.trans (claims_suffix rest)
  · intro move member silent
    obtain ⟨earlier, later, rfl⟩ := List.append_of_mem member
    obtain ⟨-, step, -⟩ := run.at_move
    exact (act_acts step).unchanged silent

/-- A coupon of three units: one claim fails and is made again, one user gets a row without a unit
and then wants one, and a unit goes without a row. -/
def mixedSale : List Act :=
  [.call (.create ⟨"Spring", 3, 500, ⟨0, 0⟩, ⟨3600, 0⟩⟩), .set (.failWrites 1),
    .call (.persist ⟨7⟩ ⟨1⟩), .call (.persist ⟨7⟩ ⟨1⟩), .call (.insertClaim ⟨8⟩ ⟨1⟩),
    .call (.persist ⟨8⟩ ⟨1⟩), .call (.decrement ⟨1⟩), .call (.persist ⟨9⟩ ⟨2⟩),
    .call (.persist ⟨9⟩ ⟨1⟩), .call (.decrement ⟨1⟩)]

/-- At the end of that sale two claims were persisted and one unit went alone. -/
theorem ledger_tells_mixedSale :
    ∃ moves m, moves.map Transition.label = mixedSale ∧ Trace act? (.new .recording) moves m ∧
      (∀ move ∈ moves, ∀ new, move.label = .call (.create new) → 0 ≤ new.total) ∧
      moves.countP (SalesMove.persisted ⟨1⟩) = 2 ∧
      moves.countP (SalesMove.decremented ⟨1⟩) = 1 ∧
      m.ledger.coupons = (createdBy moves).map (Coupon.leftBy moves) ∧
      m.ledger.coupons.map Coupon.stock = [0] ∧ m.ledger.claims.length = 3 := by
  have traced : trace? act? (.new .recording) mixedSale = some (_, _) := rfl
  have run := Trace.of_trace? traced
  have enough : ∀ act ∈ mixedSale, ∀ new, act = .call (.create new) → 0 ≤ new.total := by
    simp [mixedSale]
  have tells := ledger_tells_history run fun move member =>
    enough move.label (List.mem_map_of_mem member)
  exact ⟨_, _, rfl, run, fun move member => enough move.label (List.mem_map_of_mem member), rfl,
    rfl, tells.1, rfl, rfl⟩

end Memory
end CouponSale
