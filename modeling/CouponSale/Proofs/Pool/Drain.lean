import CouponSale.Pool.Drain
import CouponSale.Proofs.Pool.Halting
import CouponSale.Proofs.Pool.Lifecycle
import CouponSale.Proofs.Pool.Slots
import CouponSale.Proofs.Pool.Tended
import CouponSale.Proofs.Trace

/-!
Waiting for a drained pool. Two counters that meet say that nothing is left anywhere: every accepted
job is in one place or settled, once, so that as many settlements as acceptances leave no job for a
place. What a stop then finds has come to its end already, but not all of it is struck off the table
of jobs in flight: a worker that is cut off after it has counted its write and before it has struck
the job off has it given up. And a wait that was given up had a job unsettled at each of its looks,
the same one at all of them, for a settled job stays settled.
-/
namespace CouponSale.Pool

/-- A pool, and somebody who waits until it is drained. -/
structure Watched where
  pool : Pool
  vigil : Vigil
  deriving DecidableEq, Repr, Inhabited

inductive Watched.Label where
  | pool (label : Pool.Label)
  /-- It is the turn of the one who waits. -/
  | look

/-- A pool to which nothing is submitted and which nobody stops. -/
def unstopped? (p : Pool) : Label → Option Moved
  | .stop => none
  | label => p.unfed? label

/-- Until the wait is over, the pool goes on and is looked at. -/
def Watched.step? (v : Watched) : Watched.Label → Option (Watched × List Note)
  | label =>
    match v.vigil, label with
    | .ended _, _ => none
    | .waiting _ _, .pool label =>
      (v.pool.unstopped? label).map fun (pool, notes) => ({ v with pool }, notes)
    | .waiting _ _, .look => some ({ v with vigil := v.pool.lookAt v.vigil }, [])

/-- The beginning of a wait. -/
def watched (p : Pool) (patience : Span) : Watched := ⟨p, p.watch patience⟩

/-- Looks at the counters, and does not only find that it is too early to. -/
def Watched.polls (v : Watched) : Watched.Label → Prop
  | .look => ∃ look deadline, v.vigil = .waiting look deadline ∧ look ≤ v.pool.now
  | .pool _ => False

/-- At each look, the job of a ticket was not among those settled so far. -/
def OpenAtLooks (notes : List Note) (moves : List (Transition Watched Watched.Label Note))
    (ticket : Nat) : Prop :=
  ∀ earlier move later, moves = earlier ++ move :: later → move.before.polls move.label →
    ticket ∉ (settledJobs (notes ++ heard earlier)).map Job.ticket

/-- Nothing is left in any place of a pool, and every accepted job is settled, once. A worker has at
most to strike a job that it has written off the table of jobs in flight. -/
structure Emptied (notes : List Note) (p : Pool) : Prop where
  queue : p.queue = []
  hands : inHands p.workers = []
  striking : ∀ worker ∈ p.workers, ∀ job, worker.stage.held? = some job →
    worker.stage = .clearing job none
  channel : p.channel = []
  waiting : p.scheduler.waiting = []
  due : p.scheduler.watch.due = []
  slots : p.slots = 0
  settled : ((settledJobs notes).map Job.origin).Perm ((acceptedJobs notes).map Job.origin)

/-- A stop of the pool begins no attempt. What it gives up, once all workers are gone, are just the
jobs of those that were cut off after they had counted a write and before they had struck the job
off the table of jobs in flight; nothing else is settled, and but for these jobs the counters that
it returns are those of before. The stop can always go on, and comes to its end. -/
structure StopsIdly (p : Pool) : Prop where
  untried : ∀ more q, Leads unfed? p.stop.1 more q → begunJobs more = []
  doubled : ∀ more q, Leads unfed? p.stop.1 more q → ∀ job ∈ settledJobs more,
    ∃ worker ∈ q.workers, worker.cut = true ∧ worker.stage = .clearing job none
  settled : ∀ more q, Leads unfed? p.stop.1 more q →
    (settledJobs more).Perm (if q.schedulerTold = true then q.doubled else [])
  returns : ∀ more q, Leads unfed? p.stop.1 more q → q.life = .stopped →
    (settledJobs more).Perm q.doubled ∧ q.stopReturns? = some (p.bury q.doubled.length).stats
  same : ∀ more q, Leads unfed? p.stop.1 more q → q.doubled = [] →
    settledJobs more = [] ∧ q.stats = p.stats ∧ (q.life = .stopped → q.stopReturns? = some p.stats)
  able : ∀ more q, Leads unfed? p.stop.1 more q → q.life ≠ .stopped →
    ∃ label, (q.halting? label).isSome
  ends : ∀ pools : Nat → Pool, pools 0 = p.stop.1 →
    ∃ n, ∀ label told, (pools n).halting? label ≠ some (pools (n + 1), told)

variable {config : Config} {p q : Pool} {notes : List Note} {u v : Watched}
  {label : Watched.Label} {told : List Note} {patience : Span} {ticket : Nat}
  {moves : List (Transition Watched Watched.Label Note)}

/-! The counters -/

theorem not_isDrained_iff : p.isDrained = false ↔ p.stats.settled < p.stats.submitted := by
  simp [isDrained]

/-- While fewer jobs are settled than were accepted, some accepted job is not settled. -/
theorem Reachable.unsettled (run : Reachable config notes p)
    (undrained : p.stats.settled < p.stats.submitted) :
    ∃ job ∈ acceptedJobs notes, job.ticket ∉ (settledJobs notes).map Job.ticket := by
  by_contra none
  push Not at none
  have within : List.range p.stats.submitted ⊆ (settledJobs notes).map Job.ticket := by
    rw [← run.tickets]
    intro ticket accepted
    obtain ⟨job, member, rfl⟩ := List.mem_map.mp accepted
    exact none job member
  have fewer := (List.subperm_of_subset List.nodup_range within).length_le
  rw [List.length_range, List.length_map, ← run.settled] at fewer
  omega

/-- When as many jobs are settled as were accepted, none is open. -/
theorem Reachable.nothing_open (run : Reachable config notes p)
    (uncut : ∀ worker ∈ p.workers, worker.cut = false) (drained : p.isDrained = true) :
    p.openJobs = [] := by
  have lengths := (run.one_each uncut).length_eq
  have settled := run.settled
  have met : p.stats.submitted ≤ p.stats.settled := by simpa [isDrained] using drained
  simp only [List.length_map, List.length_append, List.length_range] at lengths
  exact List.eq_nil_of_length_eq_zero (by omega)

theorem slotted_eq_nil (workers : List Worker) (free : inHands workers = []) :
    slotted workers = [] := by
  rw [inHands, List.filterMap_eq_nil_iff] at free
  rw [slotted, List.filterMap_eq_nil_iff]
  intro worker member
  have free := free worker member
  cases stage : worker.stage <;> simp_all [Stage.slot?, Stage.open?]

theorem Reachable.emptied (run : Reachable config notes p) (unstopped : p.Unstopped)
    (drained : p.isDrained = true) : Emptied notes p := by
  have tended := run.tended unstopped
  have uncut := fun worker member => (tended.crew worker member).2.1
  have nothing := run.nothing_open uncut drained
  obtain ⟨queue, hands, retry⟩ := openJobs_eq_nil_iff.mp nothing
  obtain ⟨first, due⟩ := List.append_eq_nil_iff.mp retry
  obtain ⟨channel, waiting⟩ := List.append_eq_nil_iff.mp first
  constructor
  · exact queue
  · exact hands
  · intro worker member job holds
    have free := List.filterMap_eq_nil_iff.mp hands worker member
    rcases stage : worker.stage with _ | _ | _ | _ | _ | ⟨other, _ | e⟩ | _ | _ | _ <;>
      simp_all [Stage.held?, Stage.open?]
  · exact channel
  · exact waiting
  · exact due
  · rw [run.slots.counted, retry, slotted_eq_nil p.workers hands]
    rfl
  · have origins := run.origins uncut
    rwa [nothing, List.nil_append] at origins

/-! The stop -/

theorem stop_eq (unstopped : p.Unstopped) :
    p.stop =
      ({ p with workersTold := true, stopping := .awaiting 0 p.patience }, [.poolStopping]) := by
  simp [stop, unstopped.1, unstopped.2]

/-- Without open jobs, what stands in the table of jobs in flight has been written. -/
theorem tabled_eq_doubled (nothing : p.openJobs = []) : tabled p.workers = p.doubled := by
  have hands := (openJobs_eq_nil_iff.mp nothing).2.1
  apply List.filterMap_congr
  intro worker member
  have free : worker.stage.open? = none := List.filterMap_eq_nil_iff.mp hands worker member
  rcases stage : worker.stage with _ | _ | _ | _ | _ | ⟨job, _ | e⟩ | _ | _ | _ <;>
    simp_all [Stage.tabled?, Stage.doubled?, Stage.open?]

/-- What has been written and still stands in the table when all workers are gone belongs to workers
that were cut off. -/
theorem mem_doubled_cut (gone : ∀ worker ∈ p.workers, worker.Gone) {job : Job}
    (member : job ∈ p.doubled) :
    ∃ worker ∈ p.workers, worker.cut = true ∧ worker.stage = .clearing job none := by
  obtain ⟨worker, here, found⟩ := List.mem_filterMap.mp member
  refine ⟨worker, here, ?_, ?_⟩
  · refine (gone worker here).resolve_left fun left => ?_
    simp [left, Stage.doubled?] at found
  · rcases stage : worker.stage with _ | _ | _ | _ | _ | ⟨other, _ | e⟩ | _ | _ | _ <;>
      simp_all [Stage.doubled?]

theorem Reachable.stopping (run : Reachable config notes p) (unstopped : p.Unstopped) :
    Reachable config (notes ++ p.stop.2) p.stop.1 := by
  have step : p.step? .stop = some p.stop := if_pos unstopped.2
  exact run.trans (.next step)

theorem Reachable.nothing_stopping (run : Reachable config notes p) (unstopped : p.Unstopped)
    (drained : p.isDrained = true) : p.stop.1.openJobs = [] := by
  rw [stop_eq unstopped]
  exact run.nothing_open (fun worker member => ((run.tended unstopped).crew worker member).2.1)
    drained

/-- What the stop of a drained pool has come to at any time: what it has given up is what had been
written and still stood in the table of jobs in flight when the scheduler was told. -/
theorem Reachable.stop_drained (run : Reachable config notes p) (unstopped : p.Unstopped)
    (drained : p.isDrained = true) {more : List Note} (later : Leads unfed? p.stop.1 more q) :
    q.Phased ∧ begunJobs more = [] ∧ q.stats = (p.bury (settledJobs more).length).stats ∧
      (settledJobs more).Perm (if q.schedulerTold = true then q.doubled else []) := by
  have stopping := run.stopping unstopped
  have uncut := fun worker member => ((run.tended unstopped).crew worker member).2.1
  obtain ⟨later, phased, idles⟩ :=
    leads_idles stopping.phased (run.nothing_stopping unstopped drained) later
  have whole : Reachable config (notes ++ p.stop.2 ++ more) q := stopping.trans later
  have recovered := whole.recovered.2
  have unrecovered : recoveredJobs (notes ++ p.stop.2) = [] := by
    rw [recoveredJobs_append, run.unrecovered uncut, stop_eq unstopped]
    rfl
  refine ⟨phased, idles.untried, ?_, ?_⟩
  · rw [idles.stats, stop_eq unstopped]
    rfl
  · rwa [recoveredJobs_append, unrecovered, List.nil_append, tabled_eq_doubled idles.nothing,
      ← idles.recovered] at recovered

theorem Reachable.stops_idly (run : Reachable config notes p) (unstopped : p.Unstopped)
    (drained : p.isDrained = true) : p.StopsIdly := by
  have comes : ∀ {more q}, Leads unfed? p.stop.1 more q → q.Phased ∧ begunJobs more = [] ∧
      q.stats = (p.bury (settledJobs more).length).stats ∧
      (settledJobs more).Perm (if q.schedulerTold = true then q.doubled else []) :=
    run.stop_drained unstopped drained
  have returns : ∀ {more q}, Leads unfed? p.stop.1 more q → q.life = .stopped →
      (settledJobs more).Perm q.doubled ∧
        q.stopReturns? = some (p.bury q.doubled.length).stats := by
    intro more q later stopped
    obtain ⟨phased, _, stats, settled⟩ := comes later
    rw [if_pos (phased.told (.inr (.inr stopped)))] at settled
    refine ⟨settled, ?_⟩
    rw [stopReturns?, if_pos stopped, stats, settled.length_eq]
  constructor
  · intro more q later
    exact (comes later).2.1
  · intro more q later job given
    obtain ⟨phased, _, _, settled⟩ := comes later
    have listed := settled.mem_iff.mp given
    split at listed
    · rename_i told
      exact mem_doubled_cut (phased.gone told) listed
    · cases listed
  · intro more q later
    exact (comes later).2.2.2
  · intro more q later stopped
    exact returns later stopped
  · intro more q later single
    obtain ⟨_, _, stats, settled⟩ := comes later
    have unsettled : settledJobs more = [] := by simpa [single] using settled
    refine ⟨unsettled, ?_, ?_⟩
    · rw [stats, unsettled]
      rfl
    · intro stopped
      rw [(returns later stopped).2, single]
      rfl
  · intro more q later going
    have busy : ¬ q.Unstopped := by
      refine later.keeps (P := fun q _ => ¬ q.Unstopped) (by simp [stop_eq unstopped, Unstopped]) ?_
      intro q _ label r told stopped step alive
      exact stopped ((unfed?_move step).2.1.unstopped alive)
    exact halting?_able fun quiet => busy ⟨going, quiet⟩
  · intro pools start
    exact halting?_rests (run.stopping unstopped).phased (run.nothing_stopping unstopped drained)
      pools start

/-! The wait -/

/-- A move during a wait of which the next look and the end are given. -/
inductive WatchedMove (p : Pool) (look deadline : Nat) :
    Watched.Label → Watched → List Note → Prop where
  | goOn {label : Label} {q : Pool} {notes : List Note}
      (step : p.unstopped? label = some (q, notes)) :
      WatchedMove p look deadline (.pool label) ⟨q, .waiting look deadline⟩ notes
  | drained (due : look ≤ p.now) (drained : p.isDrained = true) :
      WatchedMove p look deadline .look ⟨p, .ended true⟩ []
  | giveUp (undrained : look ≤ p.now → p.isDrained = false) (late : deadline ≤ p.now) :
      WatchedMove p look deadline .look ⟨p, .ended false⟩ []
  | again (due : look ≤ p.now) (undrained : p.isDrained = false) :
      WatchedMove p look deadline .look ⟨p, .waiting (p.now + lookEvery) deadline⟩ []
  | early (undue : p.now < look) :
      WatchedMove p look deadline .look ⟨p, .waiting look deadline⟩ []

theorem Watched.step?_move (step : v.step? label = some (u, told)) :
    ∃ look deadline, v.vigil = .waiting look deadline ∧
      WatchedMove v.pool look deadline label u told := by
  obtain ⟨p, vigil⟩ := v
  cases vigil with
  | ended inTime => cases step
  | waiting look deadline =>
    refine ⟨look, deadline, rfl, ?_⟩
    cases label with
    | pool label =>
      obtain ⟨⟨q, notes⟩, step, same⟩ := Option.map_eq_some_iff.mp step
      cases same
      exact .goOn step
    | look =>
      obtain ⟨rfl, rfl⟩ := Prod.mk.inj (Option.some.inj step)
      simp only [lookAt]
      split
      · rename_i met
        exact .drained met.1 met.2
      · rename_i unmet
        have undrained : look ≤ p.now → p.isDrained = false := by
          intro due
          simpa [due] using unmet
        split
        · rename_i late
          exact .giveUp undrained late
        · split
          · rename_i due
            exact .again due (undrained due)
          · rename_i undue
            exact .early (Nat.lt_of_not_le undue)

theorem unstopped?_move {label : Label} (unstopped : p.Unstopped)
    (step : p.unstopped? label = some (q, notes)) :
    p.step? label = some (q, notes) ∧ q.Unstopped ∧ acceptedJobs notes = [] ∧ p.now ≤ q.now := by
  have same : p.step? label = some (q, notes) := by
    cases label with
    | submit | stop => cases step
    | _ => exact step
  have move := step?_move same
  refine ⟨same, ?_⟩
  cases move with
  | accept | drop | stop | stopAgain => cases step
  | start idle quiet => exact ⟨⟨by simp, quiet⟩, rfl, Nat.le_refl _⟩
  | startAgain begun told =>
    exact ⟨unstopped, by rcases told with rfl | rfl <;> rfl, Nat.le_refl _⟩
  | worker crew place move =>
    have frame := move.frame
    refine ⟨⟨frame.life ▸ unstopped.1, frame.stopping ▸ unstopped.2⟩, ?_,
      Nat.le_of_eq frame.now.symm⟩
    cases move <;> rfl
  | scheduler keeps move =>
    have frame := move.frame
    refine ⟨⟨frame.life ▸ unstopped.1, frame.stopping ▸ unstopped.2⟩, ?_,
      Nat.le_of_eq frame.now.symm⟩
    cases move <;> rfl
  | stopper phase move =>
    rw [unstopped.2] at phase
    subst phase
    cases move
  | wait => exact ⟨unstopped, rfl, Nat.le_add_right _ _⟩

/-- A job that was not settled at any look so far is not settled at the next either, if that finds
it unsettled. -/
theorem OpenAtLooks.extend {move : Transition Watched Watched.Label Note}
    (sofar : OpenAtLooks notes moves ticket)
    (last : move.before.polls move.label →
      ticket ∉ (settledJobs (notes ++ heard moves)).map Job.ticket) :
    OpenAtLooks notes (moves ++ [move]) ticket := by
  intro earlier next later same polls
  rcases List.eq_nil_or_concat later with rfl | ⟨later, final, rfl⟩
  · obtain ⟨rfl, single⟩ := List.append_inj' same rfl
    cases single
    exact last polls
  · rw [List.concat_eq_append, ← List.cons_append, ← List.append_assoc] at same
    exact sofar earlier next later (List.append_inj' same rfl).1 polls

/-- A job that is not settled by now was not settled at any look before. -/
theorem openAtLooks_of_unsettled
    (unsettled : ticket ∉ (settledJobs (notes ++ heard moves)).map Job.ticket) :
    OpenAtLooks notes moves ticket := by
  rintro earlier next later rfl _ settled
  refine unsettled ?_
  rw [heard_append, ← List.append_assoc, settledJobs_append, List.map_append]
  exact List.mem_append_left _ settled

/-- Some accepted job was not settled at any look. -/
def Outlasts (notes : List Note) (moves : List (Transition Watched Watched.Label Note)) : Prop :=
  ∃ job ∈ acceptedJobs notes, OpenAtLooks notes moves job.ticket

/-- What is known of a wait that was begun at some time after some notes. -/
structure Waited (config : Config) (notes : List Note) (since deadline : Nat)
    (moves : List (Transition Watched Watched.Label Note)) (v : Watched) : Prop where
  reached : Reachable config (notes ++ heard moves) v.pool
  unstopped : v.pool.Unstopped
  unfed : acceptedJobs (heard moves) = []
  now : since ≤ v.pool.now
  waiting : ∀ look limit, v.vigil = .waiting look limit → limit = deadline ∧
    (look ≤ since ∨ Outlasts notes moves)
  inTime : v.vigil = .ended true → v.pool.isDrained = true
  late : v.vigil = .ended false → deadline ≤ v.pool.now ∧ Outlasts notes moves

variable {since deadline : Nat}

/-- A look that finds too few jobs settled finds some job unsettled, as did all looks before. -/
theorem Waited.looks (waited : Waited config notes since deadline moves v)
    (undrained : v.pool.isDrained = false) :
    Outlasts notes (moves ++ [⟨v, label, u, told⟩]) := by
  obtain ⟨job, accepted, unsettled⟩ := waited.reached.unsettled (not_isDrained_iff.mp undrained)
  rw [acceptedJobs_append, waited.unfed, List.append_nil] at accepted
  exact ⟨job, accepted, (openAtLooks_of_unsettled unsettled).extend fun _ => unsettled⟩

theorem Outlasts.aside (outlasts : Outlasts notes moves)
    {move : Transition Watched Watched.Label Note} (aside : ¬ move.before.polls move.label) :
    Outlasts notes (moves ++ [move]) := by
  obtain ⟨job, accepted, sofar⟩ := outlasts
  exact ⟨job, accepted, sofar.extend fun polls => absurd polls aside⟩

/-- A turn of the one who waits leaves the pool as it is. -/
theorem Waited.look (waited : Waited config notes since deadline moves v) {vigil : Vigil}
    (waiting : ∀ look limit, vigil = .waiting look limit → limit = deadline ∧
      (look ≤ since ∨ Outlasts notes (moves ++ [⟨v, .look, ⟨v.pool, vigil⟩, []⟩])))
    (inTime : vigil = .ended true → v.pool.isDrained = true)
    (late : vigil = .ended false → deadline ≤ v.pool.now ∧
      Outlasts notes (moves ++ [⟨v, .look, ⟨v.pool, vigil⟩, []⟩])) :
    Waited config notes since deadline (moves ++ [⟨v, .look, ⟨v.pool, vigil⟩, []⟩])
      ⟨v.pool, vigil⟩ where
  reached := by
    rw [heard_append, heard_singleton, List.append_nil]
    exact waited.reached
  unstopped := waited.unstopped
  unfed := by
    rw [heard_append, heard_singleton, List.append_nil]
    exact waited.unfed
  now := waited.now
  waiting := waiting
  inTime := inTime
  late := late

theorem Waited.move (waited : Waited config notes since deadline moves v)
    (step : v.step? label = some (u, told)) :
    Waited config notes since deadline (moves ++ [⟨v, label, u, told⟩]) u := by
  obtain ⟨look, limit, waits, move⟩ := Watched.step?_move step
  obtain ⟨rfl, sofar⟩ := waited.waiting look limit waits
  have now := waited.now
  cases move with
  | @goOn label q told step =>
    obtain ⟨step, unstopped, unfed, later⟩ := unstopped?_move waited.unstopped step
    have aside : Outlasts notes moves → Outlasts notes
        (moves ++ [⟨v, .pool label, ⟨q, .waiting look limit⟩, told⟩]) :=
      fun outlasts => outlasts.aside id
    constructor
    · rw [heard_append, heard_singleton, ← List.append_assoc]
      exact waited.reached.trans (.next step)
    · exact unstopped
    · rw [heard_append, heard_singleton, acceptedJobs_append, waited.unfed, unfed]
      rfl
    · exact Nat.le_trans now later
    · intro _ _ same
      cases same
      exact ⟨rfl, sofar.imp_right aside⟩
    · intro ended
      cases ended
    · intro ended
      cases ended
  | drained due drained => exact waited.look (by simp) (fun _ => drained) (by simp)
  | giveUp undrained late =>
    refine waited.look (by simp) (by simp) fun _ => ⟨late, ?_⟩
    by_cases due : look ≤ v.pool.now
    · exact waited.looks (undrained due)
    · -- It is too early for this look, so that there was one before.
      have before := sofar.resolve_left fun first => due (Nat.le_trans first now)
      refine before.aside ?_
      rintro ⟨_, _, same, due'⟩
      cases waits.symm.trans same
      exact due due'
  | again due undrained =>
    refine waited.look (fun _ _ same => ?_) (by simp) (by simp)
    cases same
    exact ⟨rfl, .inr (waited.looks undrained)⟩
  | early undue =>
    refine waited.look (fun _ _ same => ?_) (by simp) (by simp)
    cases same
    refine ⟨rfl, sofar.imp_right fun outlasts => outlasts.aside ?_⟩
    rintro ⟨_, _, same, due⟩
    cases waits.symm.trans same
    exact absurd due (Nat.not_le_of_gt undue)

/-- What is known of a wait holds as long as it is going on, and at its end. -/
theorem Reachable.waited (run : Reachable config notes p) (unstopped : p.Unstopped)
    (trace : Trace Watched.step? (p.watched patience) moves v) :
    Waited config notes p.now (p.now + patience.limit) moves v := by
  induction trace with
  | start =>
    constructor
    · simpa [heard, watched] using run
    · exact unstopped
    · rfl
    · exact Nat.le_refl _
    · intro _ _ same
      cases same
      exact ⟨rfl, .inl (Nat.le_refl _)⟩
    · intro ended
      cases ended
    · intro ended
      cases ended
  | move sofar step ih => exact ih.move step

/-- One worker, and a stop that waits for nobody. -/
def hasty : Config := { Config.standard with workers := 1, shutdownTimeout := .ofMillis 0 }

/-- A task is written, and its worker is about to strike it off the table of jobs in flight. -/
def quickWrite : List Label :=
  [.submit (.fresh ⟨1⟩ ⟨1⟩), .start] ++ .replicate 5 (.worker 0 ⟨none, .ok .written, .one⟩)

/-- A task is being written, which takes five milliseconds. -/
def slowWrite : List Label :=
  [.submit (.fresh ⟨1⟩ ⟨1⟩), .start] ++
    .replicate 4 (.worker 0 ⟨some 5, .ok .written, .one⟩)

/-- A look finds the task unsettled; then it is written, and the next look is the last. -/
def lateLook : List Watched.Label :=
  [.look, .pool (.wait 5)] ++ .replicate 3 (.pool (.worker 0 ⟨none, .ok .written, .one⟩)) ++
    [.pool (.wait 5), .look]

end CouponSale.Pool
