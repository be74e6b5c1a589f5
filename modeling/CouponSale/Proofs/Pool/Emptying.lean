import CouponSale.Proofs.Pool.Attempts
import CouponSale.Proofs.Pool.Drain
import CouponSale.Proofs.Pool.Lifecycle
import CouponSale.Proofs.Pool.Release
import CouponSale.Proofs.Pool.Tended

/-!
What a stop does to the jobs that it finds, when it has the patience to wait for everybody. No
worker leaves before it has seen the primary queue empty, so whatever was in it when the stop was
called is taken by somebody, and whoever has taken a job makes an attempt. What fails meanwhile and
what waits for a retry is attempted again or given up.
-/
namespace CouponSale.Pool

/-- The stage of a worker. -/
def stageAt (p : Pool) (w : Nat) : Option Stage := (p.workers[w]?).map Worker.stage

/-- An attempt on a job was begun, and the store has answered it. -/
def Tried (job : Job) (notes : List Note) : Prop :=
  ∃ w answer, .processing w job ∈ notes ∧ attemptNote w job answer ∈ notes

/-- A job was taken from the primary queue. -/
inductive UnderWay (p : Pool) (job : Job) (told : List Note) : Prop where
  | held {w : Nat} (here : p.stageAt w = some (.holding job))
  | begun {w : Nat} {due : Option Nat} (here : p.stageAt w = some (.writing job due))
      (begun : .processing w job ∈ told)
  | tried (tried : Tried job told)

/-- What becomes of a job that waits for an attempt. -/
inductive Fate (p : Pool) (job : Job) (told : List Note) : Prop where
  | waits {entry : Entry} (waits : entry ∈ p.retrySide) (own : entry.job = job)
  | queued (queued : job ∈ p.queue)
  | underWay (underWay : UnderWay p job told)
  | givenUp {lastError : Option String} (letter : .deadLettered job .shutdown lastError ∈ told)

/-- What becomes of a job whose attempt has failed. -/
inductive Aftermath (p : Pool) (job : Job) (e : Failure) (told : List Note) : Prop where
  | inHand {w : Nat} {stage : Stage} (here : p.stageAt w = some stage)
      (failing : stage = .clearing job (some e) ∨ stage = .failed job e)
  | exhausted (spent : p.config.retry.maxRetries ≤ job.task.retries)
      (letter : .deadLettered job .retriesExhausted (some e.message) ∈ told)
  | noSlot (more : job.task.retries < p.config.retry.maxRetries)
      (letter : .deadLettered job .retryQueueFull (some e.message) ∈ told)
  | slotted {w : Nat} (more : job.task.retries < p.config.retry.maxRetries)
      (here : p.stageAt w = some (.slotted job e))
  | retried (more : job.task.retries < p.config.retry.maxRetries) (fate : Fate p job.retried told)

variable {config : Config} {p q : Pool} {notes more told : List Note} {label : Label} {job : Job}
  {e : Failure} {w : Nat} {stage : Stage}

theorem stageAt_place {next : Stage} (here : p.stageAt w = some stage)
    (crew : q.workers = p.workers.modify w ({ · with stage := next })) :
    q.stageAt w = some next := by
  obtain ⟨worker, there, _⟩ := Option.map_eq_some_iff.mp here
  simp [stageAt, crew, there]

/-- A worker stays where it is as long as others move. -/
theorem Move.stageAt (phased : p.Phased) (move : Move p label q more)
    (here : p.stageAt w = some stage) (other : ∀ s, label ≠ .worker w s) :
    q.stageAt w = some stage := by
  cases move with
  | start idle quiet => simp [Pool.stageAt, (phased.idle idle).1] at here
  | @worker n s _ _ _ _ before after crew place move =>
    obtain ⟨stage', draining', crew'⟩ := move.crew crew place
    have apart : w ≠ before.length := by
      rintro rfl
      exact other s (by rw [place])
    rw [Pool.stageAt, crew', getElem?_other apart, ← crew]
    exact here
  | scheduler keeps move =>
    rw [Pool.stageAt, move.frame.workers]
    exact here
  | stopper phase move =>
    cases move with
    | @cut n deadline worker there stays late =>
      obtain ⟨worker, found, same⟩ := Option.map_eq_some_iff.mp here
      by_cases own : n = w <;> simp [Pool.stageAt, found, own, same]
    | _ => exact here
  | _ => exact here

/-- What a worker does that moves. -/
theorem Move.own {s : Supply} (move : Move p (.worker w s) q more)
    (here : p.stageAt w = some stage) : ∃ draining, WorkerMove p w s draining stage q more := by
  obtain ⟨stage', draining, there, move⟩ := move.mover
  rw [show p.stageAt w = some stage' from there] at here
  cases here
  exact ⟨draining, move⟩

theorem Tried.append (tried : Tried job told) (more : List Note) : Tried job (told ++ more) := by
  obtain ⟨w, answer, begun, answered⟩ := tried
  exact ⟨w, answer, List.mem_append_left _ begun, List.mem_append_left _ answered⟩

/-- Who has taken a job goes on to an attempt and its answer. -/
theorem UnderWay.move (underWay : UnderWay p job told) (phased : p.Phased)
    (move : Move p label q more) : UnderWay q job (told ++ more) := by
  cases underWay with
  | @held w here =>
    by_cases own : ∃ s, label = .worker w s
    · obtain ⟨s, rfl⟩ := own
      obtain ⟨draining, move⟩ := move.own here
      cases move
      exact .begun (stageAt_place here rfl) (by simp)
    · exact .held (move.stageAt phased here (by simpa using own))
  | @begun w due here begun =>
    by_cases own : ∃ s, label = .worker w s
    · obtain ⟨s, rfl⟩ := own
      have answered := move.attempt here
      exact .tried ⟨w, s.result, List.mem_append_left _ begun, by simp [answered]⟩
    · exact .begun (move.stageAt phased here (by simpa using own)) (List.mem_append_left _ begun)
  | tried tried => exact .tried (tried.append _)

/-- A job stays in the primary queue until a worker takes it or a stop gives it up. -/
theorem Move.queued_stays (move : Move p label q more) (queued : job ∈ p.queue) :
    job ∈ q.queue ∨ (∃ w, q.stageAt w = some (.holding job)) ∨
      .deadLettered job .shutdown none ∈ more := by
  cases move with
  | accept isOpen room => exact .inl (List.mem_append_left _ queued)
  | @worker w s stage draining _ _ before after crew place move =>
    have here : p.stageAt w = some stage := by simp [Pool.stageAt, crew, ← place]
    cases move with
    | take next first =>
      rw [next] at queued
      rcases List.mem_cons.mp queued with rfl | later
      · exact .inr (.inl ⟨w, stageAt_place here rfl⟩)
      · exact .inl later
    | _ => exact .inl queued
  | scheduler keeps move =>
    cases move with
    | handOver => exact .inl (List.mem_append_left _ queued)
    | _ => exact .inl queued
  | stopper phase move =>
    cases move with
    | close => exact .inr (.inr (by simp [queued]))
    | _ => exact .inl queued
  | _ => exact .inl queued

theorem Fate.move (fate : Fate p job told) (phased : p.Phased) (slots : p.Slots)
    (move : Move p label q more) : Fate q job (told ++ more) := by
  cases fate with
  | @waits entry waits own =>
    cases move.shift phased slots with
    | aside kept => exact .waits ((kept entry).mpr waits) own
    | joins held uncut slot joined => exact .waits ((joined entry).mpr (.inr waits)) own
    | released untold first queue left =>
      rcases (left entry).mp waits with rfl | stays
      · exact .queued (by simp [queue, own])
      · exact .waits stays own
    | givenUp closed left =>
      rcases (left entry).mp waits with rfl | stays
      · rw [own]
        exact .givenUp (List.mem_append_right _ (List.mem_singleton_self _))
      · exact .waits stays own
  | queued queued =>
    rcases move.queued_stays queued with stays | ⟨w, here⟩ | letter
    · exact .queued stays
    · exact .underWay (.held here)
    · exact .givenUp (List.mem_append_right _ letter)
  | underWay underWay => exact .underWay (underWay.move phased move)
  | givenUp letter => exact .givenUp (List.mem_append_left _ letter)

theorem Aftermath.move (aftermath : Aftermath p job e told) (phased : p.Phased) (slots : p.Slots)
    (move : Move p label q more) : Aftermath q job e (told ++ more) := by
  have config := move.config
  cases aftermath with
  | @inHand w stage here failing =>
    by_cases own : ∃ s, label = .worker w s
    · obtain ⟨s, rfl⟩ := own
      obtain ⟨draining, move⟩ := move.own here
      rcases failing with rfl | rfl
      · cases move
        exact .inHand (stageAt_place here rfl) (.inr rfl)
      · cases move with
        | exhausted spent => exact .exhausted (by rwa [config]) (by simp)
        | noSlot more taken => exact .noSlot (by rwa [config]) (by simp)
        | slot more free => exact .slotted (by rwa [config]) (stageAt_place here rfl)
    · exact .inHand (move.stageAt phased here (by simpa using own)) failing
  | exhausted spent letter => exact .exhausted (by rwa [config]) (List.mem_append_left _ letter)
  | noSlot more letter => exact .noSlot (by rwa [config]) (List.mem_append_left _ letter)
  | @slotted w more here =>
    by_cases own : ∃ s, label = .worker w s
    · obtain ⟨s, rfl⟩ := own
      refine .retried (by rwa [config]) ?_
      cases move with
      | @worker _ _ stage draining _ _ before after crew place move =>
        subst place
        obtain rfl : stage = .slotted job e := by simpa [Pool.stageAt, crew] using here
        have room := slots.room (phased.untold crew move) crew
        cases move with
        | refused closed => simp [room.1] at closed
        | scheduled isOpen free =>
          have came : p.entryOf job e s.draw ∈ p.channel ++ [p.entryOf job e s.draw] := by simp
          exact .waits (List.mem_append_left _ (List.mem_append_left _ came)) rfl
        | overflow isOpen full => exact absurd room.2 (Nat.not_lt_of_ge full)
    · exact .slotted (by rwa [config]) (move.stageAt phased here (by simpa using own))
  | retried more fate => exact .retried (by rwa [config]) (fate.move phased slots move)

theorem Move.fails (move : Move p label q more) (failed : .attemptFailed w job e ∈ more) :
    q.stageAt w = some (.clearing job (some e)) := by
  by_cases writes : ∃ n s other due, label = .worker n s ∧ p.stageAt n = some (.writing other due)
  · obtain ⟨n, s, other, due, rfl, here⟩ := writes
    obtain ⟨draining, own⟩ := move.own here
    cases own with
    | attemptFailed =>
      cases List.mem_singleton.mp failed
      exact stageAt_place here rfl
    | _ => simp at failed
  · have silent := move.no_attempt
      (fun n s same other due here => writes ⟨n, s, other, due, same, here⟩) _ failed
    cases silent

theorem WorkerMove.stays_on {s : Supply} {draining : Bool} {before after : List Worker}
    (busy : p.queue ≠ []) (crew : p.workers = before ++ ⟨stage, draining, false⟩ :: after)
    (place : before.length = w) (move : WorkerMove p w s draining stage q more) :
    ∃ stage' draining', q.workers = before ++ ⟨stage', draining', false⟩ :: after ∧
      stage' ≠ .left := by
  subst place
  have placed : ∀ f, p.workers.modify before.length f =
      before ++ f ⟨stage, draining, false⟩ :: after := by
    intro f
    rw [crew, modify_append]
  cases move with
  | leave empty => exact absurd empty busy
  | _ => exact ⟨_, _, placed _, by simp⟩

/-- Nobody leaves as long as the primary queue is not empty. -/
theorem Move.staffed (move : Move p label q more) (busy : p.queue ≠ [])
    (staffed : ∀ worker ∈ p.workers, worker.stage ≠ .left) :
    ∀ worker ∈ q.workers, worker.stage ≠ .left := by
  intro worker member
  cases move with
  | start =>
    rw [List.eq_of_mem_replicate member]
    simp [Worker.new]
  | worker crew place move =>
    obtain ⟨stage', draining', crew', stays⟩ := move.stays_on busy crew place
    rw [crew'] at member
    rw [crew] at staffed
    rcases List.mem_append.mp member with early | late
    · exact staffed worker (List.mem_append_left _ early)
    · rcases List.mem_cons.mp late with rfl | later
      · exact stays
      · exact staffed worker (List.mem_append_right _ (List.mem_cons_of_mem _ later))
  | scheduler keeps move =>
    rw [move.frame.workers] at member
    exact staffed worker member
  | stopper phase move =>
    cases move with
    | @cut n deadline other here stays late =>
      obtain ⟨m, there⟩ := List.mem_iff_getElem?.mp member
      rw [List.getElem?_modify] at there
      obtain ⟨old, found, same⟩ := Option.map_eq_some_iff.mp there
      have stays := staffed old (List.mem_of_getElem? found)
      rw [← same]
      by_cases own : n = m <;> simpa [own] using stays
    | _ => exact staffed worker member
  | _ => exact staffed worker member

/-- Where a job is that was in the primary queue when a stop was called: nobody leaves before it is
taken. -/
inductive Served (p : Pool) (job : Job) (told : List Note) : Prop where
  | queued (queued : job ∈ p.queue) (manned : p.workers ≠ [])
      (staffed : ∀ worker ∈ p.workers, worker.stage ≠ .left)
  | underWay (underWay : UnderWay p job told)

/-- A worker that stays and was not cut off keeps the stop from closing the queue. -/
theorem Phased.not_closing (phased : p.Phased) (manned : p.workers ≠ [])
    (staffed : ∀ worker ∈ p.workers, worker.stage ≠ .left)
    (uncut : ∀ worker ∈ p.workers, worker.cut = false) : p.stopping ≠ .closing := by
  intro closing
  obtain ⟨worker, member⟩ := List.exists_mem_of_ne_nil _ manned
  have gone := phased.gone (phased.told (.inr (.inl closing))) worker member
  simp [Worker.Gone, staffed worker member, uncut worker member] at gone

theorem Served.move (served : Served p job told) (run : Reachable config notes p)
    (uncut : ∀ worker ∈ p.workers, worker.cut = false) (move : Move p label q more) :
    Served q job (told ++ more) := by
  cases served with
  | queued queued manned staffed =>
    rcases move.queued_stays queued with stays | ⟨w, here⟩ | letter
    · refine .queued stays ?_ (move.staffed (List.ne_nil_of_mem queued) staffed)
      rcases move.staff with ⟨idle, _⟩ | same
      · exact absurd (run.phased.idle idle).1 manned
      · rw [← List.length_pos_iff] at manned ⊢
        rwa [same.workers]
    · exact .underWay (.held here)
    · cases move.burial run.phased run.slots run.recovered.1 letter with
      | drained _ closing =>
        exact absurd closing (run.phased.not_closing manned staffed uncut)
  | underWay underWay => exact .underWay (underWay.move run.phased move)

/-- As long as nobody is cut off, what was in the primary queue with everybody at work is served. -/
theorem Reachable.serves (run : Reachable config notes p) (queued : job ∈ p.queue)
    (manned : p.workers ≠ []) (staffed : ∀ worker ∈ p.workers, worker.stage ≠ .left)
    (later : Leads step? p more q) (uncut : ∀ worker ∈ q.workers, worker.cut = false) :
    Served q job more := by
  have served : (∃ worker ∈ q.workers, worker.cut = true) ∨ Served q job more := by
    apply run.onward later (P := fun q more =>
      (∃ worker ∈ q.workers, worker.cut = true) ∨ Served q job more)
    · exact .inr (.queued queued manned staffed)
    · intro q more label r told run served move
      rcases served with ⟨worker, member, cut⟩ | served
      · exact .inl ⟨worker, move.cut_stays run.phased member cut, cut⟩
      · by_cases uncut : ∀ worker ∈ q.workers, worker.cut = false
        · exact .inr (served.move run uncut move)
        · obtain ⟨worker, member, cut⟩ : ∃ worker ∈ q.workers, worker.cut = true := by
            simpa using uncut
          exact .inl ⟨worker, move.cut_stays run.phased member cut, cut⟩
  refine served.resolve_left ?_
  rintro ⟨worker, member, cut⟩
  simp [uncut worker member] at cut

theorem Reachable.fate (run : Reachable config notes p) (fate : Fate p job [])
    (later : Leads step? p more q) : Fate q job more := by
  apply run.onward later (P := fun q more => Fate q job more) fate
  exact fun run fate move => fate.move run.phased run.slots move

/-- Every failed attempt of a run has an aftermath in it. -/
theorem Reachable.aftermath (run : Reachable config notes p) (later : Leads step? p more q) :
    ∀ w job e, .attemptFailed w job e ∈ more → Aftermath q job e more := by
  apply run.onward later (P := fun q more =>
    ∀ w job e, .attemptFailed w job e ∈ more → Aftermath q job e more)
  · simp
  · intro q more label r told run aftermath move w job e failed
    rcases List.mem_append.mp failed with early | now
    · exact (aftermath w job e early).move run.phased run.slots move
    · exact .inHand (move.fails now) (.inl rfl)

/-! The end of a stop -/

section

variable (phased : q.Phased) (stopped : q.life = .stopped)
  (uncut : ∀ worker ∈ q.workers, worker.cut = false)

include phased stopped uncut

/-- After a stop that has cut nobody off, every worker has left. -/
theorem all_left (here : q.stageAt w = some stage) : stage = .left := by
  obtain ⟨worker, found, rfl⟩ := Option.map_eq_some_iff.mp here
  have member := List.mem_of_getElem? found
  have gone := phased.gone (phased.told (.inr (.inr stopped))) worker member
  simpa [Worker.Gone, uncut worker member] using gone

theorem UnderWay.ends (underWay : UnderWay q job told) : Tried job told := by
  cases underWay with
  | held here => cases all_left phased stopped uncut here
  | begun here => cases all_left phased stopped uncut here
  | tried tried => exact tried

theorem Served.ends (served : Served q job told) : Tried job told := by
  cases served with
  | queued queued =>
    rw [(phased.stopped stopped).1] at queued
    cases queued
  | underWay underWay => exact underWay.ends phased stopped uncut

theorem Fate.ends (kept : q.scheduler.cut = false) (fate : Fate q job told) :
    Tried job told ∨ ∃ lastError, .deadLettered job .shutdown lastError ∈ told := by
  cases fate with
  | waits waits =>
    rw [phased.retrySide_empty stopped kept] at waits
    cases waits
  | queued queued =>
    rw [(phased.stopped stopped).1] at queued
    cases queued
  | underWay underWay => exact .inl (underWay.ends phased stopped uncut)
  | givenUp letter => exact .inr ⟨_, letter⟩

theorem Aftermath.ends (kept : q.scheduler.cut = false) (aftermath : Aftermath q job e told) :
    (q.config.retry.maxRetries ≤ job.task.retries →
        .deadLettered job .retriesExhausted (some e.message) ∈ told) ∧
      (job.task.retries < q.config.retry.maxRetries →
        .deadLettered job .retryQueueFull (some e.message) ∈ told ∨ Tried job.retried told ∨
          ∃ lastError, .deadLettered job.retried .shutdown lastError ∈ told) := by
  cases aftermath with
  | inHand here failing =>
    cases all_left phased stopped uncut here
    simp at failing
  | exhausted spent letter =>
    exact ⟨fun _ => letter, fun more => absurd spent (Nat.not_le.mpr more)⟩
  | noSlot more letter =>
    exact ⟨fun spent => absurd spent (Nat.not_le.mpr more), fun _ => .inl letter⟩
  | slotted more here => cases all_left phased stopped uncut here
  | retried more fate =>
    exact ⟨fun spent => absurd spent (Nat.not_le.mpr more),
      fun _ => .inr (fate.ends phased stopped uncut kept)⟩

end

/-- Without a worker cut off, no job is both written and given up. -/
theorem Reachable.written_unburied (run : Reachable config notes p)
    (uncut : ∀ worker ∈ p.workers, worker.cut = false) :
    ∀ job ∈ writtenJobs notes, ∀ other ∈ buriedJobs notes, other.ticket ≠ job.ticket := by
  intro job written other buried same
  have apart := run.tickets_nodup uncut
  rw [List.map_append] at apart
  have once := List.nodup_iff_count.mp (List.nodup_append.mp apart).2.1 job.ticket
  have counted : ((settledJobs notes).map Job.ticket).count job.ticket =
      (settledJobs notes).countP (fun other => other.ticket = job.ticket) := by
    rw [List.count, List.countP_map]
    rfl
  have durable := countP_ticket written
  have letter := countP_ticket buried
  rw [counted, countP_settled] at once
  rw [same] at letter
  omega

/-- A stop that cuts nobody off empties the primary queue: every job that was there when it was
called is tried, by some worker. What waited for a retry is tried or given up for the shutdown; what
fails meanwhile is given up, since it has no retries left or finds no slot, or is tried or given up
in its turn. In the end every accepted job is settled just once, and none that was written is given
up. -/
theorem Reachable.stop_empties (run : Reachable config notes p) (running : p.life = .running)
    (quiet : p.stopping = .no) (later : Leads step? p.stop.1 more q) (stopped : q.life = .stopped)
    (uncut : ∀ worker ∈ q.workers, worker.cut = false) (kept : q.scheduler.cut = false) :
    (∀ job ∈ p.queue, Tried job more) ∧
      (∀ entry ∈ p.retrySide, Tried entry.job more ∨
        ∃ lastError, .deadLettered entry.job .shutdown lastError ∈ more) ∧
      (∀ w job e, .attemptFailed w job e ∈ more →
        (config.retry.maxRetries ≤ job.task.retries →
            .deadLettered job .retriesExhausted (some e.message) ∈ more) ∧
          (job.task.retries < config.retry.maxRetries →
            .deadLettered job .retryQueueFull (some e.message) ∈ more ∨ Tried job.retried more ∨
              ∃ lastError, .deadLettered job.retried .shutdown lastError ∈ more)) ∧
      ((settledJobs (notes ++ p.stop.2 ++ more)).map Job.origin).Perm
        ((acceptedJobs (notes ++ p.stop.2 ++ more)).map Job.origin) ∧
      ∀ job ∈ writtenJobs (notes ++ p.stop.2 ++ more),
        ∀ other ∈ buriedJobs (notes ++ p.stop.2 ++ more), other.ticket ≠ job.ticket := by
  have unstopped : p.Unstopped := ⟨by simp [running], quiet⟩
  have tended := run.tended unstopped
  have call : p.step? .stop = some (p.stop.1, p.stop.2) := by simp [step?, quiet]
  have called : Reachable config (notes ++ p.stop.2) p.stop.1 := run.trans (.next call)
  have ended : Reachable config (notes ++ p.stop.2 ++ more) q := called.trans later
  rw [stop_eq unstopped] at called later
  refine ⟨?_, ?_, ?_, ?_, ended.written_unburied uncut⟩
  · intro job queued
    have served := called.serves queued (tended.manned running).1
      (fun worker member => (tended.crew worker member).2.2) later uncut
    exact served.ends ended.phased stopped uncut
  · intro entry waits
    exact (called.fate (.waits waits rfl) later).ends ended.phased stopped uncut kept
  · intro w job e failed
    have aftermath := called.aftermath later w job e failed
    have ends := aftermath.ends ended.phased stopped uncut kept
    rwa [ended.config] at ends
  · exact (ended.settled_once_iff stopped).mpr (ended.phased.nothing_lost stopped uncut kept)

/-- Two workers, as patient as usual. -/
def twoHands : Config := { Config.standard with workers := 2 }

/-- One task waits for a retry and three are queued. -/
def busyPool : List Label :=
  [.start, .worker 0 default, .worker 1 default, .scheduler, .submit (.fresh ⟨1⟩ ⟨1⟩)] ++
    .replicate 7 (.worker 0 ⟨none, .error (.database "down"), .one⟩) ++
    [.scheduler, .submit (.fresh ⟨2⟩ ⟨1⟩), .submit (.fresh ⟨3⟩ ⟨1⟩), .submit (.fresh ⟨4⟩ ⟨1⟩)]

/-- After the call to stop, one of the three fails, and the one that waited goes back and is written
before the workers leave. -/
def fullDrain : List Label :=
  let writes (w moves : Nat) : List Label := .replicate moves (.worker w ⟨none, .ok .written, .one⟩)
  .replicate 8 (.worker 0 ⟨none, .error (.database "down"), .one⟩) ++ writes 1 6 ++ [.wait 100] ++
    .replicate 4 .scheduler ++ writes 0 12 ++ writes 1 2 ++ .replicate 3 .stopper ++
    .replicate 3 .scheduler ++ .replicate 2 .stopper

theorem stop_empties_fullDrain :
    ∃ notes p more q, Reachable twoHands notes p ∧ p.life = .running ∧ p.stopping = .no ∧
      Leads step? p.stop.1 more q ∧ q.life = .stopped ∧
      (∀ worker ∈ q.workers, worker.cut = false) ∧ q.scheduler.cut = false ∧
      p.queue.length = 3 ∧ p.retrySide.length = 1 ∧ failures more ≠ [] ∧
      (∀ job ∈ p.queue, Tried job more) ∧
      ((settledJobs (notes ++ p.stop.2 ++ more)).map Job.origin).Perm
        ((acceptedJobs (notes ++ p.stop.2 ++ more)).map Job.origin) := by
  have ends : (run? step? (new twoHands) busyPool).any (fun (p, _) =>
      (p.life = .running ∧ p.stopping = .no ∧ p.queue.length = 3 ∧ p.retrySide.length = 1) ∧
        (run? step? p.stop.1 fullDrain).any fun (q, more) =>
          q.life = .stopped ∧ (∀ worker ∈ q.workers, worker.cut = false) ∧
            q.scheduler.cut = false ∧ failures more ≠ []) = true := by
    decide +kernel
  obtain ⟨⟨p, notes⟩, run, ends⟩ := (Option.any_eq_true _ _).mp ends
  obtain ⟨⟨running, quiet, queued, waiting⟩, ends⟩ := of_decide_eq_true ends
  obtain ⟨⟨q, more⟩, later, ends⟩ := (Option.any_eq_true _ _).mp ends
  obtain ⟨stopped, uncut, kept, failed⟩ := of_decide_eq_true ends
  have run : Reachable twoHands notes p := ⟨_, run⟩
  have later : Leads step? p.stop.1 more q := ⟨_, later⟩
  obtain ⟨tried, _, _, once, _⟩ := run.stop_empties running quiet later stopped uncut kept
  exact ⟨notes, p, more, q, run, running, quiet, later, stopped, uncut, kept, queued, waiting,
    failed, tried, once⟩

end CouponSale.Pool
