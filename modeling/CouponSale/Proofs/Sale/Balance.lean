import CouponSale.Proofs.Coupon
import CouponSale.Proofs.Sale.Grants
import Mathlib.Data.List.Perm.Subperm

/-!
The balance of a sale over stores in memory that nobody interferes with. What a counter has left
and what it has reserved make up the total of its coupon, and so do the durable stock and the
claim rows; the users with a row are among those with a reservation. So no coupon is oversold, and
no write of a claim finds its row there already or the stock used up.
-/
namespace CouponSale

open Pool (acceptedJobs acceptedJobs_append persistedJobs writtenJobs)

/-- Tells of a coupon that was created, of an acceptance, or of a write against the rules of the
ledger. -/
def Note.telling : Note → Bool
  | .accepted _ | .alreadyPersisted _ _ | .attemptFailed _ _ (.stockDrift _) | .couponCreated _ =>
    true
  | _ => false

/-- Tells of a write that found its row there already, or the stock used up. -/
def Note.faulty : Note → Bool
  | .alreadyPersisted _ _ | .attemptFailed _ _ (.stockDrift _) => true
  | _ => false

namespace Sale

/-- The balance of a sale. -/
structure Stocked (s : Sale Memory) (notes : List Note) : Prop where
  even : Memory.Even s.stores s.unseeded
  created : ∀ c, .couponCreated c ∈ notes →
    (s.stores.counter.tab? c.id).isSome ∧ s.stores.ledger.Sells c.id c.total
  accepted : ∀ user coupon, (acceptedJobs notes).countP (·.isFor user coupon) ≤
    notes.countP (·.success user coupon)
  faultless : ∀ note ∈ notes, note.faulty = false

variable {config : Pool.Config} {reserveTimeout : Span} {sink : Sink} {s t : Sale Memory}
  {notes more : List Note}

theorem Stocked.holders_nodup (stocked : Stocked s notes) (coupon : CouponId) :
    (s.stores.counter.holders coupon).Nodup := by
  unfold Counter.holders
  cases seeded : s.stores.counter.tab? coupon with
  | none => exact List.nodup_nil
  | some tab => exact (stocked.even.counter coupon tab seeded).2.1

theorem count_rows (jobs : List Pool.Job) (user : UserId) (coupon : CouponId) :
    ((jobs.map Pool.Job.claim).reverse).count (user, coupon) =
      jobs.countP (·.isFor user coupon) := by
  rw [List.count_reverse, List.count, List.countP_map]
  apply List.countP_congr
  intro job _
  simp [Pool.Job.claim, Pool.Job.isFor]

/-- Each row, and each task on its way to become one, has a reservation of its own, if no more tasks
were accepted than claims were successes. -/
theorem backed_of_accepted (run : MemorySale.Reachable config reserveTimeout sink notes s)
    {user : UserId} {coupon : CouponId} (accepted : (acceptedJobs notes).countP (·.isFor user coupon) ≤
      notes.countP (·.success user coupon)) :
    s.pool.openJobs.countP (·.isFor user coupon) + s.stores.rows.count (user, coupon) ≤
      (s.stores.counter.holders coupon).count user := by
  have pool := run.pool.open_written (Pool.isFor_stable user coupon)
  have persisted := countP_persisted (·.isFor user coupon) (poolNotes notes)
  have granted := run.granted.accounted user coupon
  have rows : s.stores.rows = ((persistedJobs notes).map Pool.Job.claim).reverse :=
    (MemorySale.leads_rows run).trans (List.append_nil _)
  rw [persistedJobs_poolNotes] at persisted
  rw [acceptedJobs_poolNotes] at pool
  rw [rows, count_rows]
  omega

theorem Stocked.backed (run : MemorySale.Reachable config reserveTimeout sink notes s)
    (stocked : Stocked s notes) (user : UserId) (coupon : CouponId) :
    s.pool.openJobs.countP (·.isFor user coupon) + s.stores.rows.count (user, coupon) ≤
      (s.stores.counter.holders coupon).count user :=
  backed_of_accepted run (stocked.accepted user coupon)

theorem holders_eq {coupon : CouponId} {tab : Tab}
    (seeded : s.stores.counter.tab? coupon = some tab) :
    s.stores.counter.holders coupon = tab.claimed := by
  rw [Counter.holders, seeded]
  rfl

theorem open_writing {w : Nat} {job : Pool.Job} {due : Option Nat}
    (writes : s.stage? w = some (.writing job due)) :
    0 < s.pool.openJobs.countP (·.isFor job.task.user job.task.coupon) := by
  obtain ⟨worker, here, stage⟩ := Option.map_eq_some_iff.mp writes
  refine List.countP_pos_iff.mpr ⟨job, ?_, by simp [Pool.Job.isFor]⟩
  have held : job ∈ Pool.inHands s.pool.workers :=
    List.mem_filterMap.mpr ⟨worker, List.mem_of_getElem? here, by rw [stage]; rfl⟩
  exact List.mem_append_left _ (List.mem_append_right _ held)

/-- For a task on its way there is no row, and there is a unit in stock. -/
theorem Stocked.room (run : MemorySale.Reachable config reserveTimeout sink notes s)
    (stocked : Stocked s notes) {user : UserId} {coupon : CouponId}
    (held : 0 < s.pool.openJobs.countP (·.isFor user coupon)) :
    s.stores.ledger.hasClaim user coupon = false ∧
      ∃ c, s.stores.ledger.find? coupon = some c ∧ 0 < c.stock := by
  have backed := stocked.backed run user coupon
  have once := List.nodup_iff_count_le_one.mp (stocked.holders_nodup coupon) user
  have free : s.stores.rows.count (user, coupon) = 0 := by omega
  have holds : user ∈ s.stores.counter.holders coupon := List.count_pos_iff.mp (by omega)
  constructor
  · apply Bool.eq_false_iff.mpr
    intro claimed
    exact List.count_eq_zero.mp free ((Memory.hasClaim_rows _ _ _).mp claimed)
  · cases seeded : s.stores.counter.tab? coupon with
    | none => simp [Counter.holders, seeded] at holds
    | some tab =>
      obtain ⟨enough, _, c, member, named, total⟩ := stocked.even.counter coupon tab seeded
      subst named
      refine ⟨c, stocked.even.ledger.find? member, ?_⟩
      -- The users with rows and this one have reservations, one each.
      have fewer : (user :: s.stores.claimers c.id).Subperm (s.stores.counter.holders c.id) := by
        apply List.subperm_ext_iff.mpr
        intro other _
        have theirs := stocked.backed run other c.id
        rw [List.count_cons, Memory.count_claimers]
        by_cases same : user = other
        · subst same
          simp only [beq_self_eq_true, if_true]
          omega
        · simp only [beq_iff_eq, same, if_false]
          omega
      have lengths := fewer.length_le
      rw [List.length_cons, Memory.length_claimers, holders_eq seeded] at lengths
      have sum := (stocked.even.ledger.stocked c member).2
      omega

/-- The balance goes from move to move, given what the move reports. -/
theorem Stocked.extend (stocked : Stocked s notes) (even : Memory.Even t.stores t.unseeded)
    (grows : Memory.Grows s.stores t.stores)
    (created : ∀ c, .couponCreated c ∈ more →
      (t.stores.counter.tab? c.id).isSome ∧ t.stores.ledger.Sells c.id c.total)
    (accepted : ∀ user coupon, (acceptedJobs more).countP (·.isFor user coupon) ≤
      more.countP (·.success user coupon))
    (faultless : ∀ note ∈ more, note.faulty = false) : Stocked t (notes ++ more) := by
  constructor
  · exact even
  · intro c told
    rcases List.mem_append.mp told with old | new
    · obtain ⟨seeded, sells⟩ := stocked.created c old
      exact ⟨grows.seeded c.id seeded, grows.sells c.id c.total sells⟩
    · exact created c new
  · intro user coupon
    have before := stocked.accepted user coupon
    have after := accepted user coupon
    rw [acceptedJobs_append, List.countP_append, List.countP_append]
    omega
  · intro note member
    rcases List.mem_append.mp member with old | new
    · exact stocked.faultless note old
    · exact faultless note new

theorem acceptedJobs_eq_nil (quiet : ∀ note ∈ more, note.telling = false) :
    acceptedJobs more = [] := by
  apply List.filterMap_eq_nil_iff.mpr
  intro note member
  have silent := quiet note member
  cases note <;> simp_all [Note.telling, Note.accepted?]

theorem faultless_of_quiet (quiet : ∀ note ∈ more, note.telling = false) :
    ∀ note ∈ more, note.faulty = false := by
  intro note member
  have silent := quiet note member
  cases note with
  | attemptFailed w job e => cases e <;> simp_all [Note.telling, Note.faulty]
  | _ => simp_all [Note.telling, Note.faulty]

/-- A move that reports nothing of account keeps the balance if it keeps that of the stores. -/
theorem Stocked.quietly (stocked : Stocked s notes) (even : Memory.Even t.stores t.unseeded)
    (grows : Memory.Grows s.stores t.stores) (quiet : ∀ note ∈ more, note.telling = false) :
    Stocked t (notes ++ more) := by
  refine stocked.extend even grows ?_ ?_ (faultless_of_quiet quiet)
  · intro c told
    exact absurd (quiet _ told) (by simp [Note.telling])
  · intro user coupon
    rw [acceptedJobs_eq_nil quiet]
    exact Nat.zero_le _

/-- What leaves the counter, the ledger and the creations alone. -/
theorem Stocked.aside (stocked : Stocked s notes) (counter : t.stores.counter = s.stores.counter)
    (ledger : t.stores.ledger = s.stores.ledger) (unseeded : t.unseeded = s.unseeded)
    (quiet : ∀ note ∈ more, note.telling = false) : Stocked t (notes ++ more) := by
  refine stocked.quietly ?_ (.same counter ledger) quiet
  rw [unseeded]
  exact stocked.even.same counter ledger

theorem telling_absorb {label : Pool.Label} {moved : Pool.Moved} (s : Sale Memory)
    (step : s.pool.step? label = some moved) (unasked : ∀ task, label ≠ .submit task)
    (apart : ∀ w supply, label = .worker w supply →
      ∀ job due, s.stage? w ≠ some (.writing job due)) :
    ∀ note ∈ (s.absorb moved).2, note.telling = false := by
  intro note member
  have move : s.pool.Move label moved.1 moved.2 := Pool.step?_move step
  rcases mem_absorb s step note member with ⟨pools, own⟩ | letter
  · have silent := move.no_attempt apart note own
    have none : acceptedJobs moved.2 = [] := by
      rcases move.accepted with none | ⟨task, same, _⟩
      · exact none
      · exact absurd same (unasked task)
    have refused := List.filterMap_eq_nil_iff.mp none note own
    cases note <;> simp_all [Note.telling, Note.ofPool, Note.attempt, Note.accepted?]
  · cases note <;> simp_all [Note.telling, Note.ofLetter]

theorem telling_answerNotes (call : Call) (answer : Answer Outcome) :
    ∀ note ∈ answerNotes call answer, note.telling = false := by
  unfold answerNotes
  split <;> simp [Note.telling]

theorem telling_reserveNotes (call : Call) (answer : Answer Reservation) :
    ∀ note ∈ reserveNotes call answer, note.telling = false := by
  cases answer <;> simp [reserveNotes, Note.telling]

/-- A grant becomes one success, and at most one task for it. -/
theorem Stocked.grant {call : Call} (stocked : Stocked s notes)
    (found : s.call? call.number = some call) (told : call.stage = .told (.ok .claimed)) :
    Stocked ((s.follow call .claimed).1.dropCall call.number) (notes ++ ((s.follow call .claimed).2 ++
      .decided call.user call.coupon .success :: answerNotes call (.ok .success))) := by
  have submits : s.pool.step? (.submit (.fresh call.user call.coupon)) =
      some (s.pool.submit (.fresh call.user call.coupon)).2 := rfl
  have move := Pool.step?_move submits
  have answers := telling_answerNotes call (.ok .success)
  -- What the pool reports is its own, or about a letter, and no attempt to write.
  have parts : ∀ note ∈ (s.follow call .claimed).2 ++
      .decided call.user call.coupon .success :: answerNotes call (.ok .success),
      note.faulty = false ∧ ∀ c, note ≠ .couponCreated c := by
    intro note member
    rcases List.mem_append.mp member with pools | decided
    · rcases mem_absorb s submits note pools with ⟨own, here⟩ | letter
      · have silent := move.no_attempt (by simp) note here
        cases note <;> simp_all [Note.ofPool, Note.attempt, Note.faulty]
      · cases note <;> simp_all [Note.ofLetter, Note.faulty]
    · rcases List.mem_cons.mp decided with rfl | answer
      · simp [Note.faulty]
      · have silent := answers note answer
        refine ⟨faultless_of_quiet answers note answer, ?_⟩
        rintro c rfl
        simp [Note.telling] at silent
  refine stocked.extend (stocked.even.same (absorb_counter _ _) (absorb_ledger _ _))
    (.same (absorb_counter _ _) (absorb_ledger _ _)) ?_ ?_ (fun note member => (parts note member).1)
  · intro c created
    exact absurd rfl ((parts _ created).2 c)
  · exact (Move.decide found told).accepted_le (by simp)

theorem Move.stocked {label : Label}
    (run : MemorySale.Reachable config reserveTimeout sink notes s) (stocked : Stocked s notes)
    (unasked : ∀ task, label ≠ .submit task) (unseeded : ∀ coupon, label ≠ .reseed coupon)
    (move : Move s label t more) : Stocked t (notes ++ more) := by
  cases move with
  | refuse known =>
    refine stocked.aside rfl rfl rfl ?_
    intro note member
    rcases List.mem_cons.mp member with rfl | answer
    · rfl
    · exact telling_answerNotes _ _ note answer
  | ask asks new => exact stocked.aside rfl rfl rfl (by simp)
  | @hear call due expiry found asks ripe =>
    have kept : Memory.Even (s.stores.reserve call.coupon call.user).2 s.unseeded ∧
        Memory.Grows s.stores (s.stores.reserve call.coupon call.user).2 := by
      have ledger := (s.stores.reserve_frame call.coupon call.user).1
      rcases s.stores.reserve_cases call.coupon call.user with ⟨_, same⟩ | ⟨verdict, _, reserves⟩
      · exact ⟨stocked.even.same same ledger, .same same ledger⟩
      · exact stocked.even.reserve reserves ledger
    exact stocked.quietly kept.1 kept.2 (telling_reserveNotes _ _)
  | expire found asks late => exact stocked.aside rfl rfl rfl (telling_reserveNotes _ _)
  | fail found told => exact stocked.aside rfl rfl rfl (telling_answerNotes _ _)
  | @decide call verdict found told =>
    have answers : ∀ note ∈ Note.decided call.user call.coupon verdict.outcome
        :: answerNotes call (.ok verdict.outcome), note.telling = false := by
      intro note member
      rcases List.mem_cons.mp member with rfl | answer
      · rfl
      · exact telling_answerNotes _ _ note answer
    cases verdict with
    | claimed => exact stocked.grant found told
    | outOfStock =>
      refine stocked.aside rfl rfl rfl ?_
      intro note member
      rcases List.mem_append.mp member with flagged | answer
      · simp only [follow, flag] at flagged
        split at flagged <;> simp_all [Note.telling]
      · exact answers note answer
    | notSeeded =>
      refine stocked.aside rfl rfl rfl ?_
      intro note member
      rcases List.mem_append.mp member with unknown | answer
      · rw [List.mem_singleton.mp unknown]
        rfl
      · exact answers note answer
    | alreadyClaimed => exact stocked.aside rfl rfl rfl answers
  | beginWrite holds step =>
    refine stocked.aside (absorb_counter _ _) (absorb_ledger _ _) rfl
      (telling_absorb { s with stores := Backend.beginWrite s.stores } step (by simp) ?_)
    rintro w supply ⟨⟩ job due writes
    exact absurd (holds.symm.trans writes) (by simp)
  | @endWrite w draw job due moved writes step =>
    obtain ⟨free, c, found, more⟩ := stocked.room run (open_writing writes)
    have counter := (s.stores.write_frame job.task.user job.task.coupon).1
    have told := (Pool.step?_move (q := moved.1) step).attempt writes
    have quiet : ∀ {answer : Answer Persisted},
        (s.stores.write job.task.user job.task.coupon).1 = answer →
        (Pool.attemptNote w job answer).telling = false →
        ∀ note ∈ ({ s with stores := (s.stores.write job.task.user job.task.coupon).2 }.absorb
          moved).2, note.telling = false := by
      rintro answer rfl silent note member
      rcases mem_absorb { s with
        stores := (s.stores.write job.task.user job.task.coupon).2 } step note member with
        ⟨_, own⟩ | letter
      · rw [told] at own
        rw [List.mem_singleton.mp own]
        exact silent
      · cases note <;> simp_all [Note.telling, Note.ofLetter]
    rcases s.stores.write_cases job.task.user job.task.coupon with ⟨failed, ledger⟩ | persists
    · exact stocked.aside ((absorb_counter _ _).trans counter) ((absorb_ledger _ _).trans ledger) rfl
        (quiet failed rfl)
    · generalize said : (s.stores.write job.task.user job.task.coupon).1 = answer,
        ledger : (s.stores.write job.task.user job.task.coupon).2.ledger = l at persists
      cases persists with
      | alreadyThere held => simp [free] at held
      | missing _ unknown => simp [found] at unknown
      | written _ _ _ =>
        have after := absorb_ledger { s with
          stores := (s.stores.write job.task.user job.task.coupon).2 } moved
        obtain ⟨even, grows⟩ := stocked.even.write ((absorb_counter _ _).trans counter)
          (after.trans ledger) found more
        exact stocked.quietly even grows (quiet said rfl)
      | drifted _ known none =>
        rw [found] at known
        cases known
        omega
  | work apart step =>
    refine stocked.aside (absorb_counter _ _) (absorb_ledger _ _) rfl
      (telling_absorb s step (by simp) ?_)
    rintro w supply ⟨⟩
    exact apart
  | @manage label part _ same step =>
    refine stocked.aside (absorb_counter _ _) (absorb_ledger _ _) rfl
      (telling_absorb s step ?_ ?_)
    · rintro task rfl
      cases label <;> simp_all [Label.pool?]
    · rintro w supply rfl
      cases label <;> simp [Label.pool?] at same
  | @create c now =>
    unfold openCoupon writeCoupon
    cases valid : c.validate now with
    | error e => exact stocked.aside rfl rfl rfl (by simp)
    | ok =>
      obtain ⟨even, grows⟩ := stocked.even.create (NewCoupon.validate_iff.mp valid).stocked
      exact stocked.quietly even grows fun _ member => absurd member List.not_mem_nil
  | @seed coupon c found =>
    have waits : c ∈ s.unseeded := List.mem_of_find?_eq_some found
    obtain ⟨even, grows⟩ := stocked.even.seed waits
    refine stocked.extend even grows ?_ (fun _ _ => Nat.zero_le _) ?_
    · intro d created
      cases List.mem_singleton.mp created
      refine ⟨?_, (stocked.even.unseeded c waits).2.2⟩
      simp [seedCoupon, Backend.seed, Counter.seed]
    · intro note created
      rw [List.mem_singleton.mp created]
      rfl
  | reseed => exact absurd rfl (unseeded _)
  | wait => exact stocked.aside rfl rfl rfl (by simp)

end Sale
namespace MemorySale

/-- A move of a sale that nobody interferes with: no counter is seeded again, and no task is
submitted past a claim. -/
def undisturbed? (s : Sale Memory) : Label → Option (Sale.Moved Memory)
  | .move (.reseed _) | .move (.submit _) => none
  | label => step? s label

/-- A sale that a run nobody interferes with leads to from one over empty stores. -/
def Undisturbed (config : Pool.Config) (reserveTimeout : Span) (sink : Sink) (notes : List Note)
    (s : Sale Memory) : Prop :=
  Leads undisturbed? (.new config reserveTimeout (.new sink)) notes s

/-- The users whose claims for a coupon were decided as successes. -/
def winners (coupon : CouponId) (notes : List Note) : List UserId :=
  notes.filterMap fun
    | .decided user c .success => if c = coupon then some user else none
    | _ => none

variable {config : Pool.Config} {reserveTimeout : Span} {sink : Sink} {s t : Sale Memory}
  {notes : List Note}

theorem undisturbed?_step {label : Label} (step : undisturbed? s label = some (t, notes)) :
    step? s label = some (t, notes) ∧
      ∀ inner, label = .move inner →
        (∀ task, inner ≠ .submit task) ∧ ∀ coupon, inner ≠ .reseed coupon := by
  cases label with
  | set setting => exact ⟨step, by simp⟩
  | move inner =>
    cases inner with
    | reseed coupon => simp [undisturbed?] at step
    | submit task => simp [undisturbed?] at step
    | _ =>
      refine ⟨step, ?_⟩
      rintro _ ⟨⟩
      simp

theorem Undisturbed.stocked (run : Undisturbed config reserveTimeout sink notes s) :
    Reachable config reserveTimeout sink notes s ∧ Sale.Stocked s notes := by
  refine run.keeps (P := fun s notes => Reachable config reserveTimeout sink notes s ∧
    Sale.Stocked s notes) ⟨.refl _, ?_⟩ ?_
  · refine ⟨Memory.new_even sink, ?_, fun _ _ => Nat.le_refl _, ?_⟩
    · simp
    · simp
  · intro s notes label t more ⟨run, stocked⟩ moves
    obtain ⟨step, kinds⟩ := undisturbed?_step moves
    refine ⟨run.trans (.next step), ?_⟩
    cases label with
    | move label =>
      obtain ⟨unasked, unseeded⟩ := kinds label rfl
      exact (Sale.step?_move step).stocked run stocked unasked unseeded
    | set setting =>
      cases step
      cases setting <;> exact stocked.aside rfl rfl rfl (by simp)

theorem count_winners (coupon : CouponId) (notes : List Note) (user : UserId) :
    (winners coupon notes).count user = notes.countP (·.success user coupon) := by
  induction notes with
  | nil => rfl
  | cons note notes ih =>
    rw [List.countP_cons, ← ih]
    cases note with
    | decided u c outcome =>
      cases outcome with
      | success =>
        by_cases same : c = coupon <;> simp [winners, Note.success, same, List.count_cons]
      | _ => rfl
    | _ => rfl

/-- Each success has a reservation of its own. -/
theorem winners_le (granted : Sale.Granted s notes) (coupon : CouponId) :
    (winners coupon notes).length ≤ (s.stores.counter.holders coupon).length := by
  have fewer : (winners coupon notes).Subperm (s.stores.counter.holders coupon) := by
    apply List.subperm_ext_iff.mpr
    intro user _
    rw [count_winners]
    have accounted := granted.accounted user coupon
    omega
  exact fewer.length_le

/-- The balance of every coupon that was created, at any time of an undisturbed sale: what the
counter has left and what it has reserved make up the total, and so do the durable stock and the
rows; nobody has a row without a reservation, and no more claims succeed than there are units. No
write finds its row there already, or the stock used up. -/
theorem Undisturbed.balances (run : Undisturbed config reserveTimeout sink notes s) :
    (∀ c, .couponCreated c ∈ notes →
      (∃ remaining, s.stores.counter.remaining? c.id = some remaining ∧ 0 ≤ remaining ∧
        remaining + s.stores.counter.claimedCount c.id = c.total) ∧
      (s.stores.counter.holders c.id).Nodup ∧
      (∃ stock, s.stores.ledger.stock? c.id = some stock ∧ 0 ≤ stock ∧
        stock + s.stores.ledger.claimCount c.id = c.total) ∧
      (∀ user, s.stores.ledger.hasClaim user c.id = true →
        s.stores.counter.hasClaimed c.id user = true) ∧
      ((winners c.id notes).length : Int) ≤ c.total) ∧
    (∀ w job, .alreadyPersisted w job ∉ notes) ∧
    ∀ w job coupon, .attemptFailed w job (.stockDrift coupon) ∉ notes := by
  obtain ⟨reached, stocked⟩ := run.stocked
  refine ⟨?_, ?_, ?_⟩
  · intro c created
    obtain ⟨seeded, d, member, named, total⟩ := stocked.created c created
    obtain ⟨tab, found⟩ := Option.isSome_iff_exists.mp seeded
    obtain ⟨enough, once, e, here, same, sum⟩ := stocked.even.counter c.id tab found
    have equal : e = d := List.inj_on_of_nodup_map stocked.even.ledger.distinct here member
      (same.trans named.symm)
    rw [equal, total] at sum
    have holders := Sale.holders_eq found
    refine ⟨⟨tab.stock, ?_, enough, ?_⟩, stocked.holders_nodup c.id, ⟨d.stock, ?_, ?_⟩, ?_, ?_⟩
    · simp [Counter.remaining?, found]
    · simp [Counter.claimedCount, found, sum]
    · rw [Ledger.stock?, ← named, stocked.even.ledger.find? member]
      rfl
    · rw [← named, ← total]
      exact stocked.even.ledger.stocked d member
    · intro user claimed
      have backed := stocked.backed reached user c.id
      have row := List.count_pos_iff.mpr ((Memory.hasClaim_rows _ _ _).mp claimed)
      have holds : user ∈ tab.claimed := by
        rw [← holders]
        exact List.count_pos_iff.mp (by omega)
      simp [Counter.hasClaimed, found, holds]
    · have lengths := winners_le reached.granted c.id
      rw [holders] at lengths
      omega
  · intro w job member
    exact absurd (stocked.faultless _ member) (by simp [Note.faulty])
  · intro w job coupon member
    exact absurd (stocked.faultless _ member) (by simp [Note.faulty])

/-- A coupon of two units is created, one user claims it, and the claim is written. -/
def shortRun : List Label :=
  .map .move ([.create ⟨"Opening", 2, 0, ⟨0, 0⟩, ⟨10, 0⟩⟩ ⟨0, 0⟩, .seed ⟨1⟩, .start,
    .claim 0 ⟨7⟩ ⟨1⟩ none, .call 0, .call 0] ++ .replicate 6 (.worker 0 .one))

/-- After that run the coupon has one row. -/
theorem balances_shortRun : ∃ notes s c,
    Undisturbed .standard Sale.standardTimeout .recording notes s ∧ .couponCreated c ∈ notes ∧
      s.stores.ledger.claimCount c.id = 1 ∧ ∃ stock,
        s.stores.ledger.stock? c.id = some stock ∧ 0 ≤ stock ∧
          stock + s.stores.ledger.claimCount c.id = c.total := by
  have ends : (run? undisturbed? (.new .standard Sale.standardTimeout (.new .recording))
      shortRun).any (fun (s, notes) => notes.any fun
        | .couponCreated c => s.stores.ledger.claimCount c.id = 1
        | _ => false) = true := by decide +kernel
  obtain ⟨⟨s, notes⟩, run, told⟩ := (Option.any_eq_true _ _).mp ends
  obtain ⟨note, member, rows⟩ := List.any_eq_true.mp told
  have run : Undisturbed .standard Sale.standardTimeout .recording notes s := ⟨shortRun, run⟩
  cases note with
  | couponCreated c =>
    obtain ⟨_, _, stock, _⟩ := (run.balances).1 c member
    exact ⟨notes, s, c, run, member, by simpa using rows, stock⟩
  | _ => simp at rows

end MemorySale
end CouponSale
