import CouponSale.Proofs.Coupon
import CouponSale.Proofs.Sale.Calls
import CouponSale.Proofs.Sale.Lifecycle

/-!
Sales over stores in memory in which the seeding of a counter may fail without effect, at the end of
a creation or when a coupon is seeded again. In every such sale the counter knows only coupons of
the ledger and never forgets one. Of a coupon that it does not know nothing is sold or about to be,
the coupon is not flagged, and no claim was told anything else than that.
-/
namespace CouponSale

/-- Stores in memory that fail to seed a counter, without effect. -/
@[reducible] def Memory.seedless (e : Failure) : Backend Memory :=
  { (inferInstance : Backend Memory) with seed := fun m _ _ => (.error e, m, []) }

namespace Reseeding

inductive Label where
  | sale (label : MemorySale.Label)
  /-- Fails to seed the counter of a coupon that was written. -/
  | failSeed (coupon : CouponId) (e : Failure)
  /-- Fails to seed a counter again. -/
  | failReseed (coupon : CouponId) (e : Failure)

/-- The move a label stands for; `none` where it is not possible. Tasks come from claims alone. -/
def step? (s : Sale Memory) : Label → Option (Sale.Moved Memory)
  | .sale (.move (.submit _)) => none
  | .sale label => MemorySale.step? s label
  | .failSeed coupon e => @Sale.finishCoupon? Memory (Memory.seedless e) s coupon
  | .failReseed coupon e => some (@Sale.reseed Memory (Memory.seedless e) s coupon).2

/-- A sale that a run leads to from one over empty stores. -/
def Reachable (config : Pool.Config) (reserveTimeout : Span) (sink : Sink) (notes : List Note)
    (s : Sale Memory) : Prop :=
  Leads step? (.new config reserveTimeout (.new sink)) notes s

/-- A move of such a sale. -/
inductive Move (s : Sale Memory) : Label → Sale Memory → List Note → Prop where
  | sale {label : Sale.Label} {t : Sale Memory} {notes : List Note}
      (move : Sale.Move s label t notes) (byClaims : ∀ task, label ≠ .submit task) :
      Move s (.sale (.move label)) t notes
  | set {setting : Memory.Setting} :
      Move s (.sale (.set setting)) { s with stores := s.stores.adjust setting } []
  | failSeed {coupon : CouponId} {e : Failure} {c : Coupon}
      (found : s.unseeded.find? (·.id = coupon) = some c) :
      Move s (.failSeed coupon e) { s with unseeded := s.unseeded.erase c } [.seedingFailed c e]
  | failReseed {coupon : CouponId} {e : Failure} : Move s (.failReseed coupon e) s []

variable {s t : Sale Memory} {notes more : List Note}

theorem failReseed_step (s : Sale Memory) (coupon : CouponId) (e : Failure) :
    step? s (.failReseed coupon e) = some (s, []) := by
  simp only [step?, Sale.reseed, Backend.find, Ledger.get]
  cases s.stores.ledger.find? coupon <;> rfl

theorem step?_move {label : Label} (step : step? s label = some (t, notes)) :
    Move s label t notes := by
  cases label with
  | sale label =>
    cases label with
    | move label =>
      have byClaims : ∀ task, label ≠ .submit task := by
        rintro task rfl
        cases step
      have moved : s.step? label = some (t, notes) := by
        cases label with
        | submit task => exact absurd rfl (byClaims task)
        | _ => exact step
      exact .sale (Sale.step?_move moved) byClaims
    | set setting =>
      cases step
      exact .set
  | failSeed coupon e =>
    obtain ⟨c, found, ends⟩ := Option.map_eq_some_iff.mp step
    cases ends
    exact .failSeed found
  | failReseed coupon e =>
    rw [failReseed_step] at step
    cases step
    exact .failReseed

end Reseeding

/-- The ledger is sound, and the counter and the creations know only coupons that it numbered. -/
structure Memory.Numbered (m : Memory) (waiting : List Coupon) : Prop where
  sound : m.ledger.Sound
  waits : ∀ c ∈ waiting, c.id.number ≤ m.ledger.coupons.length
  seeded : ∀ coupon, (m.counter.tab? coupon).isSome → coupon.number ≤ m.ledger.coupons.length

namespace Memory.Numbered

variable {m n : Memory} {waiting : List Coupon}

theorem fewer {rest : List Coupon} (numbered : Numbered m waiting) (fewer : rest ⊆ waiting) :
    Numbered m rest :=
  ⟨numbered.sound, fun c member => numbered.waits c (fewer member), numbered.seeded⟩

theorem same (numbered : Numbered m waiting)
    (counter : ∀ coupon, (n.counter.tab? coupon).isSome → (m.counter.tab? coupon).isSome)
    (ledger : n.ledger = m.ledger) : Numbered n waiting := by
  obtain ⟨sound, waits, seeded⟩ := numbered
  rw [← ledger] at sound waits seeded
  exact ⟨sound, waits, fun coupon known => seeded coupon (counter coupon known)⟩

theorem seed {coupon : CouponId} {total : Int} (numbered : Numbered m waiting)
    (known : coupon.number ≤ m.ledger.coupons.length) :
    Numbered { m with counter := m.counter.seed coupon total } waiting := by
  refine ⟨numbered.sound, numbered.waits, ?_⟩
  intro other found
  simp only [Counter.seed, Counter.tab?_put] at found
  split at found
  · rename_i same
    exact same ▸ known
  · exact numbered.seeded other found

theorem write (numbered : Numbered m waiting) (user : UserId) (coupon : CouponId) :
    Numbered (m.write user coupon).2 waiting := by
  have counter := (m.write_frame user coupon).1
  rcases m.write_cases user coupon with ⟨_, ledger⟩ | persists
  · exact numbered.same (fun _ known => counter ▸ known) ledger
  · generalize (m.write user coupon).1 = answer,
      same : (m.write user coupon).2.ledger = l at persists
    cases persists with
    | written _ found more =>
      obtain ⟨sound, waits, seeded⟩ := numbered
      have longer : ((m.ledger.takeUnit coupon).addClaim user coupon).coupons.length =
          m.ledger.coupons.length := List.length_map _
      constructor
      · rw [same]
        exact sound.written found more
      · rw [same, longer]
        exact waits
      · rw [same, longer, counter]
        exact seeded
    | _ => exact numbered.same (fun _ known => counter ▸ known) same

theorem create {c : NewCoupon} (numbered : Numbered m waiting) (positive : 0 < c.total)
    (counter : n.counter = m.counter) (ledger : n.ledger = (m.ledger.create c).2) :
    Numbered n (waiting ++ [(m.ledger.create c).1]) := by
  obtain ⟨sound, waits, seeded⟩ := numbered
  have longer : n.ledger.coupons.length = m.ledger.coupons.length + 1 := by
    rw [ledger]
    simp [Ledger.create]
  constructor
  · rw [ledger]
    exact sound.create c (by omega)
  · intro d member
    rcases List.mem_append.mp member with old | added
    · have bound := waits d old
      omega
    · rw [List.mem_singleton.mp added, longer]
      exact Int.le_refl _
  · intro coupon known
    have bound := seeded coupon (counter ▸ known)
    omega

end Memory.Numbered

/-- Is about a coupon. -/
def Pool.Job.isAbout (coupon : CouponId) (job : Pool.Job) : Bool := job.task.coupon = coupon

theorem Memory.claimCount_rows (m : Memory) (coupon : CouponId) :
    m.ledger.claimCount coupon = m.rows.countP (·.2 = coupon) := by
  rw [rows, List.countP_map]
  rfl

/-- Nothing of a coupon is sold, or is about to be. -/
structure Sale.Unsold (s : Sale Memory) (coupon : CouponId) : Prop where
  idle : s.pool.openJobs.countP (·.isAbout coupon) = 0
  unclaimed : s.stores.ledger.claimCount coupon = 0

namespace Sale

variable {s t : Sale Memory} {notes : List Note} {label : Label}

/-- Numbers stay in order, and the counter forgets no coupon. -/
theorem Move.numbered (move : Move s label t notes) (numbered : s.stores.Numbered s.unseeded) :
    t.stores.Numbered t.unseeded ∧ ∀ coupon, (s.stores.counter.tab? coupon).isSome →
      (t.stores.counter.tab? coupon).isSome := by
  have aside : ∀ {u : Sale Memory}, u.stores.counter = s.stores.counter →
      u.stores.ledger = s.stores.ledger → u.unseeded = s.unseeded →
      u.stores.Numbered u.unseeded ∧ ∀ coupon, (s.stores.counter.tab? coupon).isSome →
        (u.stores.counter.tab? coupon).isSome := by
    intro u counter ledger unseeded
    rw [counter, unseeded]
    exact ⟨numbered.same (fun _ known => counter ▸ known) ledger, fun _ known => known⟩
  have seeded : ∀ (coupon other : CouponId) (total : Int),
      (s.stores.counter.tab? other).isSome →
      ((s.stores.counter.seed coupon total).tab? other).isSome := by
    intro coupon other total known
    rw [Counter.seed, Counter.tab?_put]
    split
    · rfl
    · exact known
  cases move with
  | refuse | ask | expire | fail | wait => exact aside rfl rfl rfl
  | @hear call due expiry found asks ripe =>
    have ledger := (s.stores.reserve_frame call.coupon call.user).1
    rcases s.stores.reserve_cases call.coupon call.user with ⟨_, same⟩ | ⟨verdict, _, reserves⟩
    · exact aside same ledger rfl
    · have alike := reserves.isSome_tab?
      exact ⟨numbered.same (fun coupon known => (alike coupon).symm.trans known) ledger,
        fun coupon known => (alike coupon).trans known⟩
  | decide found told =>
    exact aside (follow_counter _ _) (follow_ledger _ _) (follow_unseeded _ _)
  | beginWrite | work | manage => exact aside (absorb_counter _ _) (absorb_ledger _ _) rfl
  | @endWrite w draw job due moved writes step =>
    have wrote := numbered.write job.task.user job.task.coupon
    have counter := (s.stores.write_frame job.task.user job.task.coupon).1
    refine ⟨wrote.same (fun _ known => by rwa [absorb_counter] at known) (absorb_ledger _ _), ?_⟩
    rw [absorb_counter, show (Backend.write s.stores job.task.user job.task.coupon).2.counter =
      s.stores.counter from counter]
    exact fun _ known => known
  | @create c now =>
    unfold openCoupon writeCoupon
    cases valid : c.validate now with
    | error e => exact aside rfl rfl rfl
    | ok =>
      have positive := (NewCoupon.validate_iff.mp valid).stocked
      exact ⟨numbered.create positive rfl rfl, fun _ known => known⟩
  | @seed coupon c found =>
    have known := numbered.waits c (List.mem_of_find?_eq_some found)
    exact ⟨(numbered.seed known).fewer List.erase_subset, fun other => seeded c.id other c.total⟩
  | @reseed coupon =>
    simp only [Sale.reseed, Backend.find, Ledger.get]
    cases found : s.stores.ledger.find? coupon with
    | none => exact aside rfl rfl rfl
    | some c =>
      obtain ⟨member, same⟩ := Ledger.find?_some found
      have known := numbered.sound.numbered c member
      rw [same] at known
      exact ⟨numbered.seed known, fun other => seeded coupon other c.stock⟩

/-- The ledger keeps its coupons and their totals. -/
theorem Move.sells {coupon : CouponId} {total : Int} (move : Move s label t notes)
    (sells : s.stores.ledger.Sells coupon total) : t.stores.ledger.Sells coupon total := by
  cases move with
  | refuse | ask | expire | fail | wait | seed => exact sells
  | @hear call due expiry found asks ripe =>
    have same : (Backend.reserve s.stores call.coupon call.user).2.ledger = s.stores.ledger :=
      (s.stores.reserve_frame call.coupon call.user).1
    exact same ▸ sells
  | @decide call verdict found told =>
    have same : (s.follow call verdict).1.stores.ledger = s.stores.ledger := follow_ledger _ _
    exact same ▸ sells
  | beginWrite | work | manage => rwa [absorb_ledger]
  | @endWrite w draw job due moved writes step =>
    rw [absorb_ledger]
    rcases s.stores.write_cases job.task.user job.task.coupon with ⟨_, same⟩ | persists
    · exact same ▸ sells
    · generalize (s.stores.write job.task.user job.task.coupon).1 = answer,
        same : (s.stores.write job.task.user job.task.coupon).2.ledger = l at persists
      have same : (Backend.write s.stores job.task.user job.task.coupon).2.ledger = l := same
      cases persists with
      | written => exact same ▸ sells.written
      | _ => exact same ▸ sells
  | @create c now =>
    unfold openCoupon writeCoupon
    cases c.validate now with
    | error e => exact sells
    | ok => exact sells.create c
  | @reseed other =>
    simp only [Sale.reseed, Backend.find, Ledger.get]
    cases s.stores.ledger.find? other <;> exact sells

/-- A claim in progress was in progress before, or asks, or was just told the verdict of a counter
that knows its coupon, or was told that there is no counter, or was told a failure. -/
theorem Move.told_seeded (move : Move s label t notes) (numbered : (s.calls.map Call.number).Nodup)
    {call : Call} (member : call ∈ t.calls) {verdict : Reservation}
    (told : call.stage = .told (.ok verdict)) (known : verdict ≠ .notSeeded) :
    call ∈ s.calls ∨ (s.stores.counter.tab? call.coupon).isSome := by
  cases move with
  | @ask opened due expiry asks new =>
    rcases List.mem_append.mp member with old | added
    · exact .inl old
    · rw [List.mem_singleton.mp added, asks] at told
      cases told
  | @hear heard due expiry found asks ripe =>
    obtain ⟨before, after, parts, same, earlier, later⟩ := call_parts numbered found
    have calls := @calls_setStage s heard.number heard
      (.told (s.stores.reserve heard.coupon heard.user).1) before after parts same earlier later
    have member : call ∈ before ++
        { heard with stage := .told (s.stores.reserve heard.coupon heard.user).1 } :: after :=
      calls ▸ member
    rcases List.mem_append.mp member with old | rest
    · exact .inl (parts ▸ List.mem_append_left _ old)
    · rcases List.mem_cons.mp rest with rfl | old
      · have said : (s.stores.reserve heard.coupon heard.user).1 = .ok verdict :=
          Call.Stage.told.inj told
        rcases s.stores.reserve_cases heard.coupon heard.user with
          ⟨failed, _⟩ | ⟨_, answer, reserves⟩
        · rw [failed] at said
          cases said
        · rw [said] at answer
          cases answer
          exact .inr (reserves.seeded known)
      · exact .inl (parts ▸ List.mem_append_right _ (List.mem_cons_of_mem _ old))
  | @expire heard due expiry found asks late =>
    obtain ⟨before, after, parts, same, earlier, later⟩ := call_parts numbered found
    rw [calls_setStage parts same earlier later] at member
    rcases List.mem_append.mp member with old | rest
    · exact .inl (parts ▸ List.mem_append_left _ old)
    · rcases List.mem_cons.mp rest with rfl | old
      · cases told
      · exact .inl (parts ▸ List.mem_append_right _ (List.mem_cons_of_mem _ old))
  | fail found told => exact .inl (List.mem_of_mem_filter member)
  | decide found told =>
    rw [← calls_follow (s := s)]
    exact .inl (List.mem_of_mem_filter member)
  | @create c now =>
    unfold openCoupon writeCoupon at member
    cases valid : c.validate now <;> rw [valid] at member <;> exact .inl member
  | @reseed coupon =>
    simp only [Sale.reseed, Backend.find, Ledger.get] at member
    cases found : s.stores.ledger.find? coupon <;> rw [found] at member <;> exact .inl member
  | _ => exact .inl member

/-- What was not sold stays so in a move that accepts no job for it. -/
theorem Move.unsold {coupon : CouponId} (phased : s.pool.Phased) (move : Move s label t notes)
    (unasked : ∀ job ∈ Pool.acceptedJobs notes, job.task.coupon ≠ coupon)
    (unsold : s.Unsold coupon) : t.Unsold coupon := by
  obtain ⟨idle, unclaimed⟩ := unsold
  have accepted : (Pool.acceptedJobs notes).countP (·.isAbout coupon) = 0 := by
    apply List.countP_eq_zero.mpr
    intro job member
    simpa [Pool.Job.isAbout] using unasked job member
  have pool := Pool.leads_open_written (f := (·.isAbout coupon)) (fun _ => rfl) phased move.pool
  rw [acceptedJobs_poolNotes, writtenJobs_poolNotes, idle, accepted] at pool
  have persisted := countP_persisted (·.isAbout coupon) notes
  constructor
  · omega
  · rw [Memory.claimCount_rows, move.rows, List.countP_append, ← Memory.claimCount_rows, unclaimed,
      List.countP_reverse, List.countP_map]
    exact Nat.le_zero.mp (Nat.le_trans persisted (by omega))

/-- The counter knows the coupons that are flagged, and those of which it gave a verdict. -/
structure Known (s : Sale Memory) : Prop where
  flagged : ∀ coupon, s.soldOut.check coupon = true → (s.stores.counter.tab? coupon).isSome
  told : ∀ call ∈ s.calls, ∀ verdict, call.stage = .told (.ok verdict) → verdict ≠ .notSeeded →
    (s.stores.counter.tab? call.coupon).isSome

theorem Known.move (known : Known s) (move : Move s label t notes)
    (numbered : (s.calls.map Call.number).Nodup)
    (kept : ∀ coupon, (s.stores.counter.tab? coupon).isSome →
      (t.stores.counter.tab? coupon).isSome) : Known t := by
  constructor
  · intro coupon flagged
    apply kept
    rcases move.soldOut with same | ⟨call, _, found, told, marked⟩
    · exact known.flagged coupon (same ▸ flagged)
    · rw [marked, SoldOut.check_mark, Bool.or_eq_true, decide_eq_true_eq] at flagged
      rcases flagged with rfl | flagged
      · exact known.told call (List.mem_of_find?_eq_some found) _ told (by simp)
      · exact known.flagged coupon flagged
  · intro call member verdict told answered
    apply kept
    rcases move.told_seeded numbered member told answered with old | seeded
    · exact known.told call old verdict told answered
    · exact seeded

/-- What holds of every sale whose counter may fail to seed. -/
structure Orderly (s : Sale Memory) (notes : List Note) : Prop where
  phased : s.pool.Phased
  granted : Granted s notes
  numbered : s.stores.Numbered s.unseeded
  unsold : ∀ coupon, s.stores.counter.tab? coupon = none → s.Unsold coupon
  flagged : ∀ coupon, s.soldOut.check coupon = true → (s.stores.counter.tab? coupon).isSome
  told : ∀ call ∈ s.calls, ∀ verdict, call.stage = .told (.ok verdict) → verdict ≠ .notSeeded →
    (s.stores.counter.tab? call.coupon).isSome

theorem new_orderly (config : Pool.Config) (reserveTimeout : Span) (sink : Sink) :
    Orderly (.new config reserveTimeout (.new sink)) [] where
  phased := Pool.new_phased config
  granted := ⟨List.nodup_nil, fun _ _ => rfl⟩
  numbered := ⟨Ledger.empty_sound, by simp [new], by
    simp [new, Memory.new, Counter.tab?, Counter.empty]⟩
  unsold _ _ := ⟨by simp [new, Pool.new, Pool.openJobs, Pool.retrySide, Pool.inHands,
    Pool.Watch.due], rfl⟩
  flagged := by simp [new, SoldOut.check, SoldOut.empty]
  told := by simp [new]

theorem Orderly.move {more : List Note} (orderly : Orderly s notes) (move : Move s label t more)
    (byClaims : ∀ task, label ≠ .submit task) : Orderly t (notes ++ more) := by
  obtain ⟨numbered, kept⟩ := move.numbered orderly.numbered
  obtain ⟨flagged, told⟩ :=
    Known.move ⟨orderly.flagged, orderly.told⟩ move orderly.granted.numbered kept
  refine ⟨?_, move.granted orderly.granted, numbered, ?_, flagged, told⟩
  · rcases move.pool_move with same | ⟨part, later, moves⟩
    · exact same ▸ orderly.phased
    · exact orderly.phased.move (Pool.step?_move moves)
  · intro coupon unknown
    have unknown : s.stores.counter.tab? coupon = none := by
      apply Option.not_isSome_iff_eq_none.mp
      intro known
      simpa [unknown] using kept coupon known
    refine move.unsold orderly.phased ?_ (orderly.unsold coupon unknown)
    -- A job for the coupon would come from a claim that the counter has granted.
    rintro job member rfl
    obtain ⟨call, here, claimed, same⟩ := move.accepts byClaims job member
    have known := orderly.told call here .claimed claimed (by simp)
    rw [← same, unknown] at known
    cases known
end Sale

namespace Reseeding

open Sale (Orderly)

variable {s t : Sale Memory} {notes more : List Note} {label : Label}

theorem Move.orderly (orderly : Orderly s notes) (move : Move s label t more) :
    Orderly t (notes ++ more) := by
  cases move with
  | sale move byClaims => exact orderly.move move byClaims
  | @set setting =>
    obtain ⟨phased, granted, numbered, unsold, flagged, told⟩ := orderly
    obtain ⟨counter, ledger⟩ := s.stores.adjust_frame setting
    refine ⟨phased, granted.aside rfl (fun _ => by rw [counter]) (fun _ _ => rfl),
      numbered.same (fun _ known => counter ▸ known) ledger, ?_, ?_, ?_⟩
    · rw [counter]
      intro coupon unknown
      obtain ⟨idle, unclaimed⟩ := unsold coupon unknown
      exact ⟨idle, ledger ▸ unclaimed⟩
    · rw [counter]
      exact flagged
    · rw [counter]
      exact told
  | failSeed found =>
    obtain ⟨phased, granted, numbered, unsold, flagged, told⟩ := orderly
    refine ⟨phased, granted.aside rfl (fun _ => rfl) (fun _ _ => rfl),
      numbered.fewer List.erase_subset, ?_, flagged, told⟩
    intro coupon unknown
    obtain ⟨idle, unclaimed⟩ := unsold coupon unknown
    exact ⟨idle, unclaimed⟩
  | failReseed => rwa [List.append_nil]

theorem Move.sells {coupon : CouponId} {total : Int} (move : Move s label t more)
    (sells : s.stores.ledger.Sells coupon total) : t.stores.ledger.Sells coupon total := by
  cases move with
  | sale move => exact move.sells sells
  | @set setting => exact (s.stores.adjust_frame setting).2 ▸ sells
  | failSeed | failReseed => exact sells

/-- The counter forgets no coupon. -/
theorem Move.known {coupon : CouponId} (orderly : Orderly s notes) (move : Move s label t more)
    (known : (s.stores.counter.tab? coupon).isSome) : (t.stores.counter.tab? coupon).isSome := by
  cases move with
  | sale move => exact (move.numbered orderly.numbered).2 coupon known
  | @set setting => exact (s.stores.adjust_frame setting).1 ▸ known
  | failSeed | failReseed => exact known

theorem Reachable.orderly {config : Pool.Config} {reserveTimeout : Span} {sink : Sink}
    (run : Reachable config reserveTimeout sink notes s) : Orderly s notes :=
  run.keeps (P := Orderly) (Sale.new_orderly config reserveTimeout sink) fun orderly step =>
    (step?_move step).orderly orderly

end Reseeding
end CouponSale
