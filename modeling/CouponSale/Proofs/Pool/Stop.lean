import CouponSale.Proofs.Pool.Conservation

/-!
What a stop leaves behind. A stop settles everything that is in the primary queue, in the table of
jobs in flight, or with a scheduler that lives to give it up. What it does not see is lost: the
jobs that workers were cut off with outside of the table, and what waits at a scheduler that was
cut off. And a worker cut off with a job that it wrote, but did not clear from the table, has that
job settled once more.
-/
namespace CouponSale

/-- The job that a note reports as durable. -/
def Note.written? : Note → Option Pool.Job
  | .persisted _ job | .alreadyPersisted _ job => some job
  | _ => none

/-- The job that a note gives up. -/
def Note.buried? : Note → Option Pool.Job
  | .deadLettered job _ _ => some job
  | _ => none

namespace Pool

def writtenJobs (notes : List Note) : List Job := notes.filterMap Note.written?

def buriedJobs (notes : List Note) : List Job := notes.filterMap Note.buried?

/-- The job that nobody knows of any more when a worker is cut off at a stage. -/
def Stage.lost? : Stage → Option Job
  | .holding job | .failed job _ | .slotted job _ => some job
  | _ => none

/-- The job that is given up although it was written, when a worker is cut off at a stage. -/
def Stage.doubled? : Stage → Option Job
  | .clearing job none => some job
  | _ => none

/-- The job whose write comes to nothing when a worker is cut off at a stage. -/
def Stage.caught? : Stage → Option Job
  | .writing job _ | .clearing job (some _) => some job
  | _ => none

/-- What a stop that is over has lost. -/
def lost (p : Pool) : List Job :=
  p.workers.filterMap (·.stage.lost?) ++ p.retrySide.map Entry.job

/-- What a stop that is over has given up although it was written. -/
def doubled (p : Pool) : List Job := p.workers.filterMap (·.stage.doubled?)

/-- What a stop that is over has caught in the middle of a write. -/
def caught (p : Pool) : List Job := p.workers.filterMap (·.stage.caught?)

variable {config : Config} {p q : Pool} {notes : List Note} {f : Job → Bool}

theorem countP_settled (f : Job → Bool) (notes : List Note) :
    (settledJobs notes).countP f = (writtenJobs notes).countP f + (buriedJobs notes).countP f := by
  induction notes with
  | nil => rfl
  | cons note notes ih =>
    simp only [settledJobs, writtenJobs, buriedJobs] at ih ⊢
    cases note <;>
      simp [List.filterMap_cons, Note.settled?, Note.written?, Note.buried?, List.countP_cons, ih] <;>
      omega

theorem buriedJobs_recovery (table : List (Nat × Job)) :
    buriedJobs (table.flatMap recovery) = table.map (·.2) :=
  filterMap_recovery (fun _ => rfl) table

theorem Move.recovered_buried {label : Label} (phased : p.Phased) (move : Move p label q notes) :
    (recoveredJobs notes).countP f ≤ (buriedJobs notes).countP f := by
  rcases move.recovers phased with ⟨_, nothing, _⟩ | ⟨_, _, _, rfl⟩
  · simp [nothing]
  · exact Nat.le_of_eq (by rw [recoveredJobs_recovery, buriedJobs_recovery])

theorem Reachable.recovered_buried (run : Reachable config notes p) :
    (recoveredJobs notes).countP f ≤ (buriedJobs notes).countP f := by
  refine (run.keeps (P := fun _ notes =>
    (recoveredJobs notes).countP f ≤ (buriedJobs notes).countP f) (Nat.le_refl _) ?_).2
  intro p notes label q more phased kept move
  have within := move.recovered_buried phased (f := f)
  simp only [recoveredJobs, buriedJobs, List.filterMap_append, List.countP_append] at kept within ⊢
  omega

/-- What is open after a run, or was written by it, was open before or was accepted by it. -/
theorem leads_open_written (stable : Stable f) (phased : p.Phased)
    (run : Leads step? p notes q) : q.openJobs.countP f + (writtenJobs notes).countP f ≤
      p.openJobs.countP f + (acceptedJobs notes).countP f := by
  refine (run.keeps (P := fun q notes => q.Phased ∧
    q.openJobs.countP f + (writtenJobs notes).countP f ≤
      p.openJobs.countP f + (acceptedJobs notes).countP f) ⟨phased, Nat.le_refl _⟩ ?_).2
  rintro q notes label r more ⟨phased, kept⟩ step
  have move := step?_move step
  refine ⟨phased.move move, ?_⟩
  have balanced := move.balanced stable phased
  have recovered := move.recovered_buried phased (f := f)
  rw [Balanced, countP_settled] at balanced
  rw [writtenJobs, List.filterMap_append, acceptedJobs_append, List.countP_append,
    List.countP_append]
  rw [writtenJobs] at kept balanced
  omega

theorem Reachable.open_written (stable : Stable f) (run : Reachable config notes p) :
    p.openJobs.countP f + (writtenJobs notes).countP f ≤ (acceptedJobs notes).countP f := by
  have opened := leads_open_written stable (new_phased config) run
  simpa [new, openJobs, retrySide, inHands, Watch.due] using opened

theorem WorkerMove.doubled {w : Nat} {s : Supply} {draining : Bool} {stage : Stage}
    {before after : List Worker}
    (crew : p.workers = before ++ ⟨stage, draining, false⟩ :: after) (place : before.length = w)
    (move : WorkerMove p w s draining stage q notes) :
    q.doubled.countP f ≤ p.doubled.countP f + (writtenJobs notes).countP f := by
  subst place
  cases move <;>
    simp_all [Pool.doubled, Pool.place, Pool.hearStop, Pool.leaveLine, Pool.take, Pool.beginWrite,
      Pool.endWrite, Pool.clear, Pool.giveUp, modify_append, Stage.doubled?, writtenJobs,
      Note.written?, List.filterMap_cons, List.countP_cons] <;>
    omega

theorem Move.doubled {label : Label} (move : Move p label q notes) :
    q.doubled.countP f ≤ p.doubled.countP f + (writtenJobs notes).countP f := by
  cases move with
  | start idle quiet => simp [Pool.doubled, Worker.new, Stage.doubled?]
  | worker crew place move => exact move.doubled crew place
  | scheduler keeps move =>
    rw [Pool.doubled, move.frame.workers]
    exact Nat.le_add_right _ _
  | stopper phase move =>
    cases move with
    | @cut w deadline worker here stays late =>
      have same : (p.workers.modify w ({ · with cut := true })).filterMap (·.stage.doubled?) =
          p.workers.filterMap (·.stage.doubled?) := filterMap_cut _ w _
      rw [Pool.doubled, same]
      exact Nat.le_add_right _ _
    | _ => exact Nat.le_add_right _ _
  | _ => exact Nat.le_add_right _ _

/-- A job that a worker has written and not yet cleared was reported as durable. -/
theorem Reachable.doubled_written (run : Reachable config notes p) :
    p.doubled.countP f ≤ (writtenJobs notes).countP f := by
  refine (run.keeps (P := fun p notes => p.doubled.countP f ≤ (writtenJobs notes).countP f)
    (Nat.le_refl _) ?_).2
  intro p notes label q more _ kept move
  have within := move.doubled (f := f)
  simp only [writtenJobs, List.filterMap_append, List.countP_append] at kept within ⊢
  omega

/-- At each stage, what is open or doubled is in the table or lost. -/
theorem Stage.countP_parts (stage : Stage) :
    stage.open?.toList.countP f + stage.doubled?.toList.countP f =
      stage.tabled?.toList.countP f + stage.lost?.toList.countP f := by
  rcases stage with _ | _ | _ | _ | _ | ⟨job, _ | e⟩ | _ | _ | _ <;>
    simp [open?, doubled?, tabled?, lost?]

theorem countP_filterMap_cons {α : Type} (g : α → Option Job) (a : α) (rest : List α) :
    ((a :: rest).filterMap g).countP f = (g a).toList.countP f + (rest.filterMap g).countP f := by
  cases found : g a <;> simp [found, List.countP_cons, Nat.add_comm]

theorem countP_parts (workers : List Worker) :
    (inHands workers).countP f + (workers.filterMap (·.stage.doubled?)).countP f =
      (tabled workers).countP f + (workers.filterMap (·.stage.lost?)).countP f := by
  induction workers with
  | nil => rfl
  | cons worker workers ih =>
    have parts := worker.stage.countP_parts (f := f)
    simp only [inHands, tabled, countP_filterMap_cons] at ih ⊢
    omega

/-- The accounts after a stop: what was settled and what is lost is what was accepted and what is
doubled. -/
theorem Reachable.stop_balanced (stable : Stable f) (run : Reachable config notes p)
    (stopped : p.life = .stopped) :
    (settledJobs notes).countP f + p.lost.countP f =
      (acceptedJobs notes).countP f + p.doubled.countP f := by
  have phased := run.phased
  have balanced := run.balanced stable
  have recovered := run.recovered.2.countP_eq f
  have stages := countP_parts (f := f) p.workers
  rw [if_pos (phased.told (.inr (.inr stopped)))] at recovered
  simp only [openJobs, (phased.stopped stopped).1, List.nil_append, List.countP_append] at balanced
  simp only [lost, doubled, List.countP_append]
  omega

theorem Stage.countP_tabled (stage : Stage) :
    stage.tabled?.toList.countP f =
      stage.doubled?.toList.countP f + stage.caught?.toList.countP f := by
  rcases stage with _ | _ | _ | _ | _ | ⟨job, _ | e⟩ | _ | _ | _ <;>
    simp [doubled?, tabled?, caught?]

theorem Stage.tabled_of_caught {stage : Stage} {job : Job} (caught : stage.caught? = some job) :
    stage.tabled? = some job := by
  rcases stage with _ | _ | _ | _ | _ | ⟨_, _ | _⟩ | _ | _ | _ <;> simp_all [caught?, tabled?]

theorem countP_tabled (p : Pool) :
    (tabled p.workers).countP f = p.doubled.countP f + p.caught.countP f := by
  simp only [tabled, doubled, caught]
  induction p.workers with
  | nil => rfl
  | cons worker workers ih =>
    have parts := worker.stage.countP_tabled (f := f)
    simp only [countP_filterMap_cons] at ih ⊢
    omega

/-- After a stop, a job that was accepted once is written, caught or lost at most once. -/
theorem Reachable.stop_apart (stable : Stable f) (run : Reachable config notes p)
    (stopped : p.life = .stopped) :
    (writtenJobs notes).countP f + p.caught.countP f + p.lost.countP f ≤
      (acceptedJobs notes).countP f := by
  have balanced := run.stop_balanced stable stopped
  have recovered := run.recovered.2.countP_eq f
  have buried := run.recovered_buried (f := f)
  rw [if_pos (run.phased.told (.inr (.inr stopped))), countP_tabled] at recovered
  rw [countP_settled] at balanced
  omega

theorem Reachable.accepted_once (run : Reachable config notes p) (ticket : Nat) :
    (acceptedJobs notes).countP (fun job => job.ticket = ticket) ≤ 1 := by
  have counted : (acceptedJobs notes).countP (fun job => job.ticket = ticket) =
      (List.range p.stats.submitted).count ticket := by
    rw [← run.tickets, List.count, List.countP_map]
    rfl
  rw [counted]
  exact List.nodup_iff_count.mp List.nodup_range ticket

theorem countP_ticket {jobs : List Job} {job : Job} (member : job ∈ jobs) :
    0 < jobs.countP (fun other => other.ticket = job.ticket) :=
  List.countP_pos_iff.mpr ⟨job, member, by simp⟩

/-- After a stop, every accepted job is settled just once if and only if nothing is lost and
nothing is doubled. -/
theorem Reachable.settled_once_iff (run : Reachable config notes p) (stopped : p.life = .stopped) :
    ((settledJobs notes).map Job.origin).Perm ((acceptedJobs notes).map Job.origin) ↔
      p.lost = [] ∧ p.doubled = [] := by
  constructor
  · intro same
    -- A ticket is not lost and doubled, so that one could not make up for the other.
    have tickets := same.map Job.ticket
    rw [tickets_origin, tickets_origin] at tickets
    have apart : ∀ ticket, p.lost.countP (fun job => job.ticket = ticket) = 0 ∧
        p.doubled.countP (fun job => job.ticket = ticket) = 0 := by
      intro ticket
      have equal := tickets.countP_eq (· = ticket)
      have balanced := run.stop_balanced (ticket_stable ticket) stopped
      have within := run.stop_apart (ticket_stable ticket) stopped
      have written := run.doubled_written (f := fun job => job.ticket = ticket)
      have once := run.accepted_once ticket
      simp only [List.countP_map, Function.comp_def] at equal
      omega
    constructor
    · apply List.eq_nil_iff_forall_not_mem.mpr
      intro job member
      have found := countP_ticket member
      have none := (apart job.ticket).1
      omega
    · apply List.eq_nil_iff_forall_not_mem.mpr
      intro job member
      have found := countP_ticket member
      have none := (apart job.ticket).2
      omega
  · rintro ⟨found, single⟩
    rw [List.perm_iff_count]
    intro job
    have balanced := run.stop_balanced (origin_stable job) stopped
    rw [found, single, List.countP_nil, Nat.add_zero, Nat.add_zero] at balanced
    simpa only [List.count, List.countP_map, Function.comp_def] using balanced

theorem Reachable.recovered_told (run : Reachable config notes p) :
    ∀ job ∈ recoveredJobs notes, .deadLettered job .shutdown (some cutError) ∈ notes := by
  refine (run.keeps (P := fun _ notes => ∀ job ∈ recoveredJobs notes,
    .deadLettered job .shutdown (some cutError) ∈ notes) (by simp [recoveredJobs]) ?_).2
  intro p notes label q more phased kept move job recovered
  rw [recoveredJobs_append] at recovered
  rcases List.mem_append.mp recovered with earlier | new
  · exact List.mem_append_left _ (kept job earlier)
  · rcases move.recovers phased with ⟨_, nothing, _⟩ | ⟨_, _, _, rfl⟩
    · simp [nothing] at new
    · rw [recoveredJobs_recovery] at new
      obtain ⟨entry, member, rfl⟩ := List.mem_map.mp new
      exact List.mem_append_right _ (List.mem_flatMap.mpr ⟨entry, member, by simp [recovery]⟩)

/-- A job caught in the middle of its write is given up for the shutdown, and its write is never
reported as durable. -/
theorem Reachable.caught_buried (run : Reachable config notes p) (stopped : p.life = .stopped) :
    ∀ job ∈ p.caught, .deadLettered job .shutdown (some cutError) ∈ notes ∧
      ∀ other ∈ writtenJobs notes, other.ticket ≠ job.ticket := by
  intro job member
  constructor
  · apply run.recovered_told
    have recovered := run.recovered.2
    rw [if_pos (run.phased.told (.inr (.inr stopped)))] at recovered
    obtain ⟨worker, here, caught⟩ := List.mem_filterMap.mp member
    exact recovered.mem_iff.mpr
      (List.mem_filterMap.mpr ⟨worker, here, Stage.tabled_of_caught caught⟩)
  · intro other written same
    have within := run.stop_apart (ticket_stable job.ticket) stopped
    have once := run.accepted_once job.ticket
    have found := countP_ticket member
    have durable := countP_ticket written
    rw [same] at durable
    omega

theorem SchedulerMove.gives_up {watch : Watch} {waiting : List Entry} (phased : p.Phased)
    (keeps : p.scheduler = ⟨watch, waiting, false⟩) (told : p.schedulerTold = true)
    (move : SchedulerMove p watch waiting q notes) :
    ∀ entry ∈ p.retrySide, entry ∈ q.retrySide ∨
      .deadLettered entry.job .shutdown (some entry.lastError) ∈ notes := by
  intro entry member
  simp only [retrySide, keeps, List.mem_append] at member
  cases move with
  | wake => exact .inl (by simpa [retrySide, Watch.due] using member)
  | hear listens _ =>
    left
    simp only [retrySide, schedulerHearStop, keeps, Watch.due, List.mem_append]
    tauto
  | @giveUp first rest =>
    have empty := (phased.shut (.inl (by rw [keeps]))).1
    have waits : entry = first ∨ entry ∈ rest := by simpa [empty, Watch.due] using member
    rcases waits with rfl | behind
    · exact .inr (List.mem_singleton_self _)
    · exact .inl (by simpa [retrySide, Pool.giveUp, empty, Watch.due] using behind)
  | leave => exact .inl (by simpa [retrySide, Watch.due] using member)
  | _ => simp_all

/-- Once the scheduler is told, an entry stays on the retry side until it is given up. -/
theorem Move.gives_up {label : Label} (phased : p.Phased) (told : p.schedulerTold = true)
    (move : Move p label q notes) :
    q.schedulerTold = true ∧ ∀ entry ∈ p.retrySide, entry ∈ q.retrySide ∨
      .deadLettered entry.job .shutdown (some entry.lastError) ∈ notes := by
  cases move with
  | start idle quiet => simp [phased.quiet quiet (by simp [idle])] at told
  | worker crew place move => simp [phased.untold crew move] at told
  | scheduler keeps move =>
    exact ⟨move.frame.schedulerTold.trans told, move.gives_up phased keeps told⟩
  | stopper phase move => cases move <;> exact ⟨by first | rfl | exact told, fun _ member => .inl member⟩
  | _ => exact ⟨told, fun _ member => .inl member⟩

/-- After a stop nothing waits on the retry side, unless the scheduler was cut off. -/
theorem Phased.retrySide_empty (phased : p.Phased) (stopped : p.life = .stopped)
    (kept : p.scheduler.cut = false) : p.retrySide = [] := by
  rcases phased.alone (.inr stopped) with absent | left | cut
  · obtain ⟨_, channel, waiting⟩ := phased.absent absent
    simp [retrySide, channel, waiting, absent, Watch.due]
  · simp [retrySide, (phased.shut (.inr left)).1, phased.left left, left, Watch.due]
  · simp [kept] at cut

/-- What waited for a retry once the scheduler was told is given up for the shutdown by the end of
the stop, unless the scheduler was cut off. -/
theorem Reachable.waiting_buried {more : List Note} (run : Reachable config notes p)
    (told : p.schedulerTold = true) (later : Leads step? p more q) (stopped : q.life = .stopped)
    (kept : q.scheduler.cut = false) :
    ∀ entry ∈ p.retrySide, .deadLettered entry.job .shutdown (some entry.lastError) ∈ more := by
  obtain ⟨phased, _, tended⟩ := later.keeps
    (P := fun q more => q.Phased ∧ q.schedulerTold = true ∧ ∀ entry ∈ p.retrySide,
      entry ∈ q.retrySide ∨ .deadLettered entry.job .shutdown (some entry.lastError) ∈ more)
    ⟨run.phased, told, fun _ member => .inl member⟩ (by
      intro q earlier label r new ⟨phased, told, tended⟩ step
      have move := step?_move step
      obtain ⟨told, gives_up⟩ := move.gives_up phased told
      refine ⟨phased.move move, told, ?_⟩
      intro entry member
      rcases tended entry member with waits | told
      · exact (gives_up entry waits).imp_right (List.mem_append_right _)
      · exact .inr (List.mem_append_left _ told))
  intro entry member
  simpa [phased.retrySide_empty stopped kept] using tended entry member

/-- A stop that cuts nobody off loses nothing and doubles nothing. -/
theorem Phased.nothing_lost (phased : p.Phased) (stopped : p.life = .stopped)
    (uncut : ∀ worker ∈ p.workers, worker.cut = false) (kept : p.scheduler.cut = false) :
    p.lost = [] ∧ p.doubled = [] := by
  have left : ∀ worker ∈ p.workers, worker.stage = .left := by
    intro worker member
    have gone := phased.gone (phased.told (.inr (.inr stopped))) worker member
    simpa [Worker.Gone, uncut worker member] using gone
  constructor
  · rw [lost, phased.retrySide_empty stopped kept, List.map_nil, List.append_nil,
      List.filterMap_eq_nil_iff]
    intro worker member
    rw [left worker member]
    rfl
  · rw [doubled, List.filterMap_eq_nil_iff]
    intro worker member
    rw [left worker member]
    rfl

end Pool
end CouponSale
