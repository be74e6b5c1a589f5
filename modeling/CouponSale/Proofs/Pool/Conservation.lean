import CouponSale.Proofs.Pool.InFlight
import CouponSale.Proofs.Runs

/-!
Every accepted task is in one place. While no worker was cut off, the jobs in the queues, in the
hands of workers and on the retry side, together with those that were settled, are the accepted
jobs, each once. A scheduler that was cut off keeps what it had and changes nothing about this.
-/
namespace CouponSale.Pool

/-- The job as it was accepted, failed attempts aside. -/
def Job.origin (job : Job) : Job := { job with task := { job.task with retries := 0 } }

theorem origin_stable (job : Job) : Stable (·.origin == job) := fun _ => rfl

variable {config : Config} {p q : Pool} {notes : List Note}

/-- The accepted jobs are those in some place and those that were settled. -/
theorem Reachable.origins (run : Reachable config notes p)
    (uncut : ∀ worker ∈ p.workers, worker.cut = false) :
    ((p.openJobs ++ settledJobs notes).map Job.origin).Perm
      ((acceptedJobs notes).map Job.origin) := by
  rw [List.perm_iff_count]
  intro job
  have balanced := run.balanced (origin_stable job)
  rw [run.unrecovered uncut, List.countP_nil, Nat.add_zero] at balanced
  simpa only [List.count, List.countP_map, List.countP_append, Function.comp_def] using balanced

theorem tickets_origin (jobs : List Job) :
    (jobs.map Job.origin).map Job.ticket = jobs.map Job.ticket := by
  rw [List.map_map]
  rfl

/-- Each ticket that was given out is that of one job in some place, or of one settled job. -/
theorem Reachable.one_each (run : Reachable config notes p)
    (uncut : ∀ worker ∈ p.workers, worker.cut = false) :
    ((p.openJobs ++ settledJobs notes).map Job.ticket).Perm (List.range p.stats.submitted) := by
  have same := (run.origins uncut).map Job.ticket
  rwa [tickets_origin, tickets_origin, run.tickets] at same

theorem Reachable.adds_up (run : Reachable config notes p)
    (uncut : ∀ worker ∈ p.workers, worker.cut = false) :
    p.stats.submitted = p.stats.persisted + p.stats.alreadyPersisted + p.stats.deadLettered
      + p.queue.length + (inHands p.workers).length + p.retrySide.length := by
  have lengths := (run.one_each uncut).length_eq
  have settled := run.settled
  simp only [openJobs, List.length_map, List.length_append, List.length_range] at lengths
  rw [Stats.settled] at settled
  omega

/-- No ticket is in two places, or in a place and settled, or settled twice. -/
theorem Reachable.tickets_nodup (run : Reachable config notes p)
    (uncut : ∀ worker ∈ p.workers, worker.cut = false) :
    ((p.openJobs ++ settledJobs notes).map Job.ticket).Nodup :=
  (run.one_each uncut).nodup_iff.mpr List.nodup_range

/-- A settled job is in no place, then or later. -/
theorem Reachable.settled_for_good {more : List Note} (run : Reachable config notes p)
    (later : Leads step? p more q) (uncut : ∀ worker ∈ q.workers, worker.cut = false) :
    ∀ job ∈ settledJobs notes, job.ticket ∉ q.openJobs.map Job.ticket := by
  intro job settled queued
  have run : Reachable config (notes ++ more) q := run.trans later
  have apart := run.tickets_nodup uncut
  rw [List.map_append] at apart
  refine (List.nodup_append.mp apart).2.2 job.ticket queued job.ticket ?_ rfl
  rw [settledJobs_append]
  exact List.mem_map_of_mem (List.mem_append_left _ settled)

/-- Conservation of tasks: while no worker was cut off, the jobs in the primary queue, in the
hands of workers, in the retry queue, waiting at the scheduler and in its batch, with those
persisted, found persisted and dead-lettered, are the accepted jobs, each once; so the numbers
add up, and no job that was settled is ever in a place again. -/
theorem Reachable.conserves (run : Reachable config notes p)
    (uncut : ∀ worker ∈ p.workers, worker.cut = false) :
    (acceptedJobs notes).map Job.ticket = List.range p.stats.submitted ∧
      ((p.queue ++ inHands p.workers ++ p.channel.map Entry.job ++
          p.scheduler.waiting.map Entry.job ++ p.scheduler.watch.due.map Entry.job ++
          settledJobs notes).map Job.origin).Perm ((acceptedJobs notes).map Job.origin) ∧
      p.stats.submitted = p.stats.persisted + p.stats.alreadyPersisted + p.stats.deadLettered
        + p.queue.length + (inHands p.workers).length
        + (p.channel.length + p.scheduler.waiting.length + p.scheduler.watch.due.length) ∧
      ∀ more q, Leads step? p more q → (∀ worker ∈ q.workers, worker.cut = false) →
        ∀ job ∈ settledJobs notes, job.ticket ∉ q.openJobs.map Job.ticket ∧
          ((settledJobs (notes ++ more)).map Job.ticket).count job.ticket = 1 := by
  refine ⟨run.tickets, ?_, ?_, ?_⟩
  · have origins := run.origins uncut
    simpa only [openJobs, retrySide, List.map_append, List.append_assoc] using origins
  · have sum := run.adds_up uncut
    simpa only [retrySide, List.length_append] using sum
  · intro more q later uncut job settled
    refine ⟨run.settled_for_good later uncut job settled, ?_⟩
    have apart := Reachable.tickets_nodup (run.trans later) uncut
    rw [List.map_append, settledJobs_append] at apart
    rw [settledJobs_append]
    rw [(List.nodup_append.mp apart).2.1.count,
      if_pos (List.mem_map_of_mem (List.mem_append_left _ settled))]

/-- Four submissions and a start, after which one worker persists the first task, fails on the
second and takes the third. -/
def busyRun : List Label :=
  let works (result : Answer Persisted) (moves : Nat) : List Label :=
    .replicate moves (.worker 0 ⟨none, result, .one⟩)
  [1, 2, 3, 4].map (fun user => .submit (.fresh ⟨user⟩ ⟨1⟩)) ++ .start :: works (.ok .written) 6 ++
    works (.error (.database "down")) 7 ++ works (.ok .written) 3

/-- After that run one task is settled, one on the retry side, one in the hands of the worker, and
one in the primary queue. -/
theorem conserves_busyRun :
    ∃ notes p, Reachable .standard notes p ∧ (∀ worker ∈ p.workers, worker.cut = false) ∧
      p.stats.settled = 1 ∧ p.retrySide.length = 1 ∧ (inHands p.workers).length = 1 ∧
      p.queue.length = 1 ∧
      p.stats.submitted = p.stats.persisted + p.stats.alreadyPersisted + p.stats.deadLettered
        + p.queue.length + (inHands p.workers).length
        + (p.channel.length + p.scheduler.waiting.length + p.scheduler.watch.due.length) := by
  have run : ∃ notes p, Reachable .standard notes p ∧ (∀ worker ∈ p.workers, worker.cut = false) ∧
      p.stats.settled = 1 ∧ p.retrySide.length = 1 ∧ (inHands p.workers).length = 1 ∧
      p.queue.length = 1 :=
    ⟨_, _, ⟨busyRun, rfl⟩, by decide, rfl, rfl, rfl, rfl⟩
  obtain ⟨notes, p, run, uncut, settled, retrying, held, queued⟩ := run
  exact ⟨notes, p, run, uncut, settled, retrying, held, queued, (run.conserves uncut).2.2.1⟩

end CouponSale.Pool
