import CouponSale.Proofs.Sale.Rows

/-!
A stop of the pool of a sale over stores in memory. When it is over, the primary queue is empty,
and what was settled and what is lost are what was accepted and what is doubled. Nothing is lost
and nothing doubled when no background task was cut off; a scheduler that was cut off loses every
task that waited for a retry.
-/
namespace CouponSale

open Pool (settledJobs acceptedJobs writtenJobs persistedJobs)

namespace MemorySale

variable {config : Pool.Config} {reserveTimeout : Span} {sink : Sink} {s : Sale Memory}
  {notes : List Note}

/-- What a stop leaves behind, task by task and row by row. -/
theorem Reachable.stop_settles (run : Reachable config reserveTimeout sink notes s)
    (stopped : s.pool.life = .stopped) :
    s.pool.queue = [] ∧
      ((settledJobs notes).map Pool.Job.origin ++ s.pool.lost.map Pool.Job.origin).Perm
        ((acceptedJobs notes).map Pool.Job.origin ++ s.pool.doubled.map Pool.Job.origin) ∧
      s.pool.stats.settled + s.pool.lost.length =
        s.pool.stats.submitted + s.pool.doubled.length ∧
      (((settledJobs notes).map Pool.Job.origin).Perm ((acceptedJobs notes).map Pool.Job.origin) ↔
        s.pool.lost = [] ∧ s.pool.doubled = []) ∧
      ((∀ worker ∈ s.pool.workers, worker.cut = false) → s.pool.scheduler.cut = false →
        s.pool.lost = [] ∧ s.pool.doubled = []) ∧
      (s.pool.scheduler.cut = false → ∀ earlier u later,
        Reachable config reserveTimeout sink earlier u → Leads step? u later s →
        u.pool.schedulerTold = true → ∀ entry ∈ u.pool.retrySide,
          .deadLettered entry.job .shutdown (some entry.lastError) ∈ later) ∧
      (∀ job ∈ s.pool.caught, .deadLettered job .shutdown (some Pool.cutError) ∈ notes ∧
        ∀ other ∈ writtenJobs notes, other.ticket ≠ job.ticket) ∧
      s.stores.rows = ((persistedJobs notes).map Pool.Job.claim).reverse ∧
      (sink = .recording → s.stores.letters = (lettersIn notes).reverse) := by
  have pool := run.pool
  have phased := pool.phased
  refine ⟨(phased.stopped stopped).1, ?_, ?_, ?_, phased.nothing_lost stopped, ?_, ?_, ?_, ?_⟩
  · rw [List.perm_iff_count]
    intro job
    have balanced := pool.stop_balanced (Pool.origin_stable job) stopped
    rw [settledJobs_poolNotes, acceptedJobs_poolNotes] at balanced
    simpa only [List.count, List.countP_append, List.countP_map, Function.comp_def] using balanced
  · have balanced := pool.stop_balanced Pool.all_stable stopped
    have tickets := congrArg List.length pool.tickets
    have settled := pool.settled
    simp only [List.countP_true, List.length_map, List.length_range] at balanced tickets
    omega
  · have once := pool.settled_once_iff stopped
    rwa [settledJobs_poolNotes, acceptedJobs_poolNotes] at once
  · intro kept earlier u later run rest told entry waits
    exact mem_poolNotes
      (Pool.Reachable.waiting_buried run.pool told (leads_pool rest) stopped kept entry waits)
  · intro job caught
    obtain ⟨buried, apart⟩ := pool.caught_buried stopped job caught
    rw [writtenJobs_poolNotes] at apart
    exact ⟨mem_poolNotes buried, apart⟩
  · rw [leads_rows run]
    exact List.append_nil _
  · rintro rfl
    simpa [Memory.lettersAfter, Memory.new, Sale.new] using (leads_letters run).1

/-- A pool of one worker whose stop waits for nobody. -/
def impatient : Pool.Config :=
  { Pool.Config.standard with workers := 1, shutdownTimeout := .ofMillis 0 }

/-- One task fails and waits for its retry; a stop finds the worker gone, and cuts the scheduler
off before it has given the task up. -/
def impatientRun : List Label :=
  let works (moves : Nat) : List Label := .replicate moves (.move (.worker 0 .one))
  [.set (.failWrites 1), .move (.submit (.fresh ⟨1⟩ ⟨1⟩)), .move .start] ++ works 8 ++
    [.move .scheduler, .move .scheduler, .move .stop] ++ works 3 ++
    .replicate 4 (.move .stopper)

/-- That stop settles nothing of what was accepted: the task that waited is nowhere. -/
theorem impatientRun_loses : ∃ notes s, Reachable impatient Sale.standardTimeout .recording notes s ∧
    s.pool.life = .stopped ∧ s.pool.queue = [] ∧ s.pool.stats.submitted = 1 ∧
    s.pool.stats.settled = 0 ∧ (acceptedJobs notes).length = 1 ∧ settledJobs notes = [] ∧
    s.stores.letters = [] ∧ s.pool.lost = [⟨0, ⟨⟨1⟩, ⟨1⟩, 1⟩⟩] :=
  ⟨_, _, ⟨impatientRun, rfl⟩, rfl, rfl, rfl, rfl, rfl, rfl, rfl, rfl⟩

theorem stop_settles_impatientRun : ∃ notes s,
    Reachable impatient Sale.standardTimeout .recording notes s ∧ s.pool.life = .stopped ∧
      s.pool.lost.length = 1 ∧
      s.pool.stats.settled + s.pool.lost.length =
        s.pool.stats.submitted + s.pool.doubled.length := by
  have run : ∃ notes s, Reachable impatient Sale.standardTimeout .recording notes s ∧
      s.pool.life = .stopped ∧ s.pool.lost.length = 1 :=
    ⟨_, _, ⟨impatientRun, rfl⟩, rfl, rfl⟩
  obtain ⟨notes, s, run, stopped, lost⟩ := run
  exact ⟨notes, s, run, stopped, lost, (run.stop_settles stopped).2.2.1⟩

end MemorySale
end CouponSale
