import CouponSale.Proofs.Pool.Stop

/-!
What a stop recovers. When all workers are gone, the stop empties the table of jobs in flight, and
what it finds there it gives up. A worker may have been cut off wherever it waits. The table has
just the jobs that such workers had taken and nobody has settled, unless one waited for the table
itself: before its write, so that its job is not in the table yet and is lost, or after a write that
succeeded, so that its job is still there and is given up although it is durable.
-/
namespace CouponSale.Pool

/-- The open jobs that workers have in their hands outside of the table of jobs in flight. -/
def missed (p : Pool) : List Job := p.workers.filterMap (·.stage.lost?)

variable {config : Config} {p q r : Pool} {notes more rest : List Note} {f : Job → Bool}

/-- At each stage, the table is right about a worker unless its job is lost or doubled there. -/
theorem Stage.tabled_iff (stage : Stage) :
    stage.tabled?.toList = stage.open?.toList ↔ stage.lost? = none ∧ stage.doubled? = none := by
  rcases stage with _ | _ | _ | _ | _ | ⟨_, _ | _⟩ | _ | _ | _ <;>
    simp [tabled?, open?, lost?, doubled?]

/-- What workers have open in their hands is caught by the table or missed by it. -/
theorem countP_inHands (p : Pool) :
    (inHands p.workers).countP f = p.caught.countP f + p.missed.countP f := by
  have parts := countP_parts (f := f) p.workers
  have table := countP_tabled (f := f) p
  simp only [doubled, missed] at table ⊢
  omega

theorem countP_eq_pos_iff {jobs : List Job} {job : Job} :
    0 < jobs.countP (fun other => other = job) ↔ job ∈ jobs := by
  simp [List.countP_pos_iff]

/-- In the table stands what is caught there or doubled. -/
theorem mem_tabled_iff {job : Job} :
    job ∈ tabled p.workers ↔ job ∈ p.doubled ∨ job ∈ p.caught := by
  simp only [← countP_eq_pos_iff, countP_tabled]
  omega

/-- What is doubled was reported as durable. -/
theorem Reachable.doubled_reported (run : Reachable config notes p) {job : Job}
    (member : job ∈ p.doubled) : job ∈ writtenJobs notes := by
  rw [← countP_eq_pos_iff] at member ⊢
  exact Nat.lt_of_lt_of_le member run.doubled_written

/-- No job is both missed by the table and doubled. -/
theorem Reachable.missed_or_doubled (run : Reachable config notes p) (ticket : Nat) :
    p.missed.countP (fun job => job.ticket = ticket) +
      p.doubled.countP (fun job => job.ticket = ticket) ≤ 1 := by
  have opened := run.open_written (ticket_stable ticket)
  have once := run.accepted_once ticket
  have durable := run.doubled_written (f := fun job => job.ticket = ticket)
  have hands := countP_inHands (f := fun job => job.ticket = ticket) p
  simp only [openJobs, List.countP_append] at opened
  omega

theorem eq_nil_of_tickets {jobs : List Job}
    (none : ∀ ticket, jobs.countP (fun job => job.ticket = ticket) = 0) : jobs = [] := by
  apply List.eq_nil_iff_forall_not_mem.mpr
  intro job member
  have found := countP_ticket member
  have absent := none job.ticket
  omega

/-- The table has just the jobs that workers have open in their hands if and only if it misses none
and none is doubled. -/
theorem Reachable.tabled_perm_iff (run : Reachable config notes p) :
    (tabled p.workers).Perm (inHands p.workers) ↔ p.missed = [] ∧ p.doubled = [] := by
  constructor
  · intro same
    have none : ∀ ticket, p.missed.countP (fun job => job.ticket = ticket) = 0 ∧
        p.doubled.countP (fun job => job.ticket = ticket) = 0 := by
      intro ticket
      have equal := same.countP_eq (fun job => job.ticket = ticket)
      have apart := run.missed_or_doubled ticket
      rw [countP_tabled, countP_inHands] at equal
      omega
    exact ⟨eq_nil_of_tickets fun ticket => (none ticket).1,
      eq_nil_of_tickets fun ticket => (none ticket).2⟩
  · rintro ⟨found, single⟩
    rw [List.perm_iff_count]
    intro job
    have table := countP_tabled (f := (· == job)) p
    have hands := countP_inHands (f := (· == job)) p
    rw [single, List.countP_nil, Nat.zero_add] at table
    rw [found, List.countP_nil, Nat.add_zero] at hands
    exact table.trans hands.symm

/-- Once the scheduler is told, no worker changes any more. -/
theorem leads_workers (phased : p.Phased) (told : p.schedulerTold = true)
    (run : Leads step? p more q) : q.workers = p.workers := by
  refine (run.keeps (P := fun q _ => q.Phased ∧ q.schedulerTold = true ∧ q.workers = p.workers)
    ⟨phased, told, rfl⟩ ?_).2.2
  rintro q notes label r more ⟨phased, told, same⟩ step
  have move := step?_move step
  refine ⟨phased.move move, ?_⟩
  rcases move.recovers phased with ⟨still, _, workers⟩ | ⟨untold, _⟩
  · exact ⟨still.trans told, (workers told).trans same⟩
  · rw [told] at untold
    cases untold

/-- What the table missed is settled by nobody, not even when the stop is over. -/
theorem Reachable.missed_unsettled (run : Reachable config notes p) (stopped : p.life = .stopped)
    {job : Job} (member : job ∈ p.missed) :
    ∀ other ∈ settledJobs notes, other.ticket ≠ job.ticket := by
  intro other settled same
  have balanced := run.stop_balanced (ticket_stable job.ticket) stopped
  have apart := run.stop_apart (ticket_stable job.ticket) stopped
  have once := run.accepted_once job.ticket
  have durable := run.doubled_written (f := fun other => other.ticket = job.ticket)
  have gone := countP_ticket member
  have ended := countP_ticket settled
  rw [same] at ended
  rw [lost, List.countP_append] at balanced apart
  rw [missed] at gone
  omega

/-- When a stop empties the table of jobs in flight, all workers are gone, and the table is right
about each of them unless the worker waits for the table itself, before its write or after a write
that succeeded. A job that the table misses is never settled, and one that it still has after its
write is given up although it was reported as durable; any other is given up and is not durable. -/
theorem Reachable.recovery_exact (run : Reachable config notes p)
    (step : p.step? .stopper = some (q, more)) (untold : p.schedulerTold = false)
    (told : q.schedulerTold = true) :
    (∀ worker ∈ p.workers, worker.Gone) ∧ more = p.inFlight.flatMap recovery ∧
      (∀ w worker, p.workers[w]? = some worker →
        rows p.inFlight w = worker.stage.tabled?.toList ∧
        (rows p.inFlight w = worker.stage.open?.toList ↔
          worker.stage.lost? = none ∧ worker.stage.doubled? = none)) ∧
      ((p.inFlight.map (·.2)).Perm (inHands p.workers) ↔ p.missed = [] ∧ p.doubled = []) ∧
      (∀ job ∈ p.doubled, job ∈ writtenJobs notes ∧
        .deadLettered job .shutdown (some cutError) ∈ more) ∧
      ∀ rest r, Leads step? q rest r → r.life = .stopped →
        (∀ job ∈ p.missed, ∀ other ∈ settledJobs (notes ++ more ++ rest),
          other.ticket ≠ job.ticket) ∧
        ∀ job ∈ p.caught, .deadLettered job .shutdown (some cutError) ∈ more ∧
          ∀ other ∈ writtenJobs (notes ++ more ++ rest), other.ticket ≠ job.ticket := by
  have phased := run.phased
  have move := step?_move step
  have table := run.recovered.1.2 untold
  have jobs := perm_tabled p.workers p.inFlight table
  obtain ⟨same, drained⟩ : q.workers = p.workers ∧ more = p.inFlight.flatMap recovery := by
    rcases move.recovers phased with ⟨still, _⟩ | ⟨_, _, same, drained⟩
    · rw [still, untold] at told
      cases told
    · exact ⟨same, drained⟩
  have buried : ∀ job ∈ tabled p.workers, .deadLettered job .shutdown (some cutError) ∈ more := by
    intro job member
    obtain ⟨entry, here, rfl⟩ := List.mem_map.mp (jobs.mem_iff.mpr member)
    rw [drained]
    exact List.mem_flatMap.mpr ⟨entry, here, by simp [recovery]⟩
  refine ⟨?_, drained, ?_, ?_, ?_, ?_⟩
  · rw [← same]
    exact (phased.move move).gone told
  · intro w worker here
    have row : rows p.inFlight w = worker.stage.tabled?.toList := by
      rw [table w, here, Option.bind_some]
    exact ⟨row, row ▸ worker.stage.tabled_iff⟩
  · rw [← run.tabled_perm_iff]
    exact ⟨jobs.symm.trans, jobs.trans⟩
  · intro job member
    exact ⟨run.doubled_reported member, buried job (mem_tabled_iff.mpr (.inl member))⟩
  · intro rest r later stopped
    have whole : Reachable config (notes ++ more ++ rest) r :=
      (run.trans (.next step)).trans later
    have staff : r.workers = p.workers :=
      (leads_workers (phased.move move) told later).trans same
    refine ⟨fun job member => ?_, fun job member => ⟨?_, ?_⟩⟩
    · apply whole.missed_unsettled stopped
      rwa [missed, staff]
    · exact buried job (mem_tabled_iff.mpr (.inr member))
    · apply (whole.caught_buried stopped job ?_).2
      rwa [caught, staff]

/-- A pool whose stop waits 10 ms for each of its workers. -/
def curt (workers : Nat) : Config :=
  { Config.standard with workers, shutdownTimeout := .ofMillis 10 }

/-- A stop that comes when the one worker has made some moves, up to where the worker is gone. -/
def cutAfter (moves : Nat) : List Label :=
  .start :: .submit (.fresh ⟨7⟩ ⟨1⟩) :: .replicate moves (.worker 0 ⟨none, .ok .written, .one⟩) ++
    [.stop, .wait 10, .stopper]

/-- A worker is cut off before its write, and the stop goes on to its end. -/
def lostJob : List Label := cutAfter 3 ++ [.stopper, .scheduler, .scheduler, .scheduler, .stopper,
  .stopper]

/-- A worker cut off while it waits for the table before its write leaves its job nowhere, and one
cut off while it waits for it after the write leaves its job there, to be given up. -/
theorem cut_waiting_for_table :
    (∃ notes p q more job, Reachable (curt 1) notes p ∧ p.step? .stopper = some (q, more) ∧
      p.schedulerTold = false ∧ q.schedulerTold = true ∧ inHands p.workers = [job] ∧
      p.inFlight = []) ∧
    (∃ notes p, Reachable (curt 1) notes p ∧ p.life = .stopped ∧ p.stats.submitted = 1 ∧
      p.stats.settled = 0 ∧ settledJobs notes = []) ∧
    ∃ notes p q more job, Reachable (curt 1) notes p ∧ p.step? .stopper = some (q, more) ∧
      p.schedulerTold = false ∧ q.schedulerTold = true ∧ inHands p.workers = [] ∧
      p.inFlight = [(0, job)] ∧ writtenJobs notes = [job] ∧ buriedJobs more = [job] ∧
      q.stats.submitted = 1 ∧ q.stats.persisted = 1 ∧ q.stats.deadLettered = 1 :=
  ⟨⟨_, _, _, _, _, ⟨cutAfter 3, rfl⟩, rfl, rfl, rfl, rfl, rfl⟩,
    ⟨_, _, ⟨lostJob, rfl⟩, rfl, rfl, rfl, rfl⟩,
    ⟨_, _, _, _, _, ⟨cutAfter 5, rfl⟩, rfl, rfl, rfl, rfl, rfl, rfl, rfl, rfl, rfl, rfl⟩⟩

/-- Of two workers one is cut off while the store keeps it waiting and the other has left: the table
has the job that is being written, which is given up. -/
theorem recovery_exact_slowWrite :
    ∃ notes p q more job, Reachable (curt 2) notes p ∧ p.step? .stopper = some (q, more) ∧
      p.schedulerTold = false ∧ q.schedulerTold = true ∧ p.inFlight = [(0, job)] ∧
      p.missed = [] ∧ p.doubled = [] ∧ (p.inFlight.map (·.2)).Perm (inHands p.workers) ∧
      more = [.cutWhileWriting 0 job, .deadLettered job .shutdown (some cutError)] := by
  have run : ∃ notes p q more job, Reachable (curt 2) notes p ∧
      p.step? .stopper = some (q, more) ∧ p.schedulerTold = false ∧ q.schedulerTold = true ∧
      p.inFlight = [(0, job)] ∧ p.missed = [] ∧ p.doubled = [] :=
    ⟨_, _, _, _, _, ⟨[.start, .submit (.fresh ⟨7⟩ ⟨1⟩)] ++
      .replicate 4 (.worker 0 ⟨some 1000, .ok .written, .one⟩) ++
      .replicate 2 (.worker 1 default) ++ [.stop] ++ .replicate 3 (.worker 1 default) ++
      [.wait 10, .stopper, .stopper], rfl⟩, rfl, rfl, rfl, rfl, rfl, rfl⟩
  obtain ⟨notes, p, q, more, job, run, step, untold, told, table, found, single⟩ := run
  obtain ⟨-, drained, -, exact_iff, -⟩ := run.recovery_exact step untold told
  refine ⟨notes, p, q, more, job, run, step, untold, told, table, found, single,
    exact_iff.mpr ⟨found, single⟩, ?_⟩
  rw [drained, table]
  rfl

end CouponSale.Pool
