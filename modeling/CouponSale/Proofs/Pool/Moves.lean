import CouponSale.Pool.Step

/-!
The moves of a pool as relations, one constructor for each thing an actor can do, with what was
so when it was done. Every step of the machine is one of these moves, so what holds of them holds
of every step.
-/
namespace CouponSale.Pool

/-- Counts some jobs as given up. -/
def bury (p : Pool) (count : Nat) : Pool :=
  { p with stats := { p.stats with deadLettered := p.stats.deadLettered + count } }

/-- What the recovery of a job in flight reports. -/
def recovery : Nat × Job → List Note
  | (w, job) => [.cutWhileWriting w job, .deadLettered job .shutdown (some cutError)]

theorem giveUpAll_eq (p : Pool) (jobs : List Job) :
    p.giveUpAll jobs = (p.bury jobs.length, jobs.map (.deadLettered · .shutdown none)) := by
  induction jobs generalizing p with
  | nil => rfl
  | cons job jobs ih =>
    simp only [giveUpAll, ih]
    simp [giveUp, bury, Nat.add_assoc, Nat.add_comm 1]

theorem recoverAll_eq (p : Pool) (table : List (Nat × Job)) :
    p.recoverAll table = (p.bury table.length, table.flatMap recovery) := by
  induction table generalizing p with
  | nil => rfl
  | cons entry table ih =>
    obtain ⟨w, job⟩ := entry
    simp only [recoverAll, ih]
    simp [giveUp, bury, recovery, Nat.add_assoc, Nat.add_comm 1]

/-- A move of worker `w` at a stage. -/
inductive WorkerMove (p : Pool) (w : Nat) (s : Supply) (draining : Bool) :
    Stage → Pool → List Note → Prop where
  | wake : WorkerMove p w s draining .fresh (p.place w .resting) [.workerStarted w]
  | hear (told : p.workersTold = true) (news : draining = false) :
      WorkerMove p w s draining .resting (p.hearStop w) []
  | hearInLine (told : p.workersTold = true) (news : draining = false) :
      WorkerMove p w s draining .lined (p.hearStop w) []
  | lineUp : WorkerMove p w s draining .resting
      { p.place w .lined with line := p.line ++ [w] } []
  | take {job : Job} {rest : List Job} (next : p.queue = job :: rest)
      (first : p.line.head? = some w) :
      WorkerMove p w s draining .lined (p.take w job rest) []
  | leave (empty : p.queue = []) (told : draining = true) (first : p.line.head? = some w) :
      WorkerMove p w s draining .lined ((p.leaveLine w).place w .left) [.workerStopped w]
  | beginWrite {job : Job} :
      WorkerMove p w s draining (.holding job) (p.beginWrite w job s.latency).1
        [.processing w job]
  | written {job : Job} {due : Option Nat} (ripe : due.all (· ≤ p.now) = true)
      (result : s.result = .ok .written) :
      WorkerMove p w s draining (.writing job due) (p.endWrite w job (.ok .written)).1
        [.persisted w job]
  | alreadyThere {job : Job} {due : Option Nat} (ripe : due.all (· ≤ p.now) = true)
      (result : s.result = .ok .alreadyThere) :
      WorkerMove p w s draining (.writing job due) (p.endWrite w job (.ok .alreadyThere)).1
        [.alreadyPersisted w job]
  | attemptFailed {job : Job} {due : Option Nat} {e : Failure}
      (ripe : due.all (· ≤ p.now) = true) (result : s.result = .error e) :
      WorkerMove p w s draining (.writing job due) (p.place w (.clearing job (some e)))
        [.attemptFailed w job e]
  | clearFailed {job : Job} {e : Failure} :
      WorkerMove p w s draining (.clearing job (some e)) (p.clear w (.failed job e)) []
  | clearSettled {job : Job} :
      WorkerMove p w s draining (.clearing job none) (p.clear w .resting) []
  | exhausted {job : Job} {e : Failure} (spent : p.config.retry.maxRetries ≤ job.task.retries) :
      WorkerMove p w s draining (.failed job e)
        ((p.place w .resting).giveUp job .retriesExhausted (some e.message)).1
        [.deadLettered job .retriesExhausted (some e.message)]
  | noSlot {job : Job} {e : Failure} (more : job.task.retries < p.config.retry.maxRetries)
      (taken : p.config.retryRoom ≤ p.slots) :
      WorkerMove p w s draining (.failed job e)
        ((p.place w .resting).giveUp job .retryQueueFull (some e.message)).1
        [.deadLettered job .retryQueueFull (some e.message)]
  | slot {job : Job} {e : Failure} (more : job.task.retries < p.config.retry.maxRetries)
      (free : p.slots < p.config.retryRoom) :
      WorkerMove p w s draining (.failed job e)
        { p.place w (.slotted job e) with slots := p.slots + 1 } []
  | refused {job : Job} {e : Failure} (closed : p.channelOpen = false) :
      WorkerMove p w s draining (.slotted job e)
        ({ p.place w .resting with slots := p.slots - 1 }.giveUp job.retried .shutdown
          (some e.message)).1
        [.deadLettered job.retried .shutdown (some e.message)]
  | scheduled {job : Job} {e : Failure} (isOpen : p.channelOpen = true)
      (room : p.channel.length < p.config.retryRoom) :
      WorkerMove p w s draining (.slotted job e)
        { p.place w .resting with
          channel := p.channel ++ [⟨job.retried,
            p.now + p.config.retry.delayMillis job.task.retries s.draw, e.message⟩]
          stats := { p.stats with retried := p.stats.retried + 1 } }
        [.retryScheduled job e (p.config.retry.delayMillis job.task.retries s.draw)]
  | overflow {job : Job} {e : Failure} (isOpen : p.channelOpen = true)
      (full : p.config.retryRoom ≤ p.channel.length) :
      WorkerMove p w s draining (.slotted job e)
        ({ p.place w .resting with slots := p.slots - 1 }.giveUp job.retried .retryQueueFull
          (some e.message)).1
        [.deadLettered job.retried .retryQueueFull (some e.message)]

/-- A move of the scheduler, which keeps watch with some entries waiting. -/
inductive SchedulerMove (p : Pool) : Watch → List Entry → Pool → List Note → Prop where
  | wake {waiting : List Entry} : SchedulerMove p .fresh waiting
      { p with scheduler := ⟨.idle, waiting, false⟩ } [.schedulerStarted]
  | hear {watch : Watch} {waiting : List Entry}
      (listens : watch = .idle ∨ ∃ entry batch place, watch = .handing entry batch place)
      (told : p.schedulerTold = true) :
      SchedulerMove p watch waiting p.schedulerHearStop []
  | receive {waiting : List Entry} {entry : Entry} {rest : List Entry}
      (untold : p.schedulerTold = false) (next : p.channel = entry :: rest) :
      SchedulerMove p .idle waiting
        { p with channel := rest, scheduler := ⟨.idle, waiting ++ [entry], false⟩ } []
  | collect {waiting : List Entry} {entry : Entry} {batch : List Entry}
      (untold : p.schedulerTold = false) (empty : p.channel = [])
      (ready : waiting.filter (·.readyAt ≤ p.now) = entry :: batch) :
      SchedulerMove p .idle waiting
        { p with scheduler :=
          ⟨.handing entry batch .wanted, waiting.filter (p.now < ·.readyAt), false⟩ } []
  | ask {waiting : List Entry} {entry : Entry} {batch : List Entry}
      (untold : p.schedulerTold = false) :
      SchedulerMove p (.handing entry batch .wanted) waiting (p.ask entry batch) []
  | handOver {waiting : List Entry} {entry : Entry} {batch : List Entry}
      (untold : p.schedulerTold = false) :
      SchedulerMove p (.handing entry batch .granted) waiting (p.handOver entry batch).1
        [.requeued entry.job]
  | giveUp {entry : Entry} {rest : List Entry} :
      SchedulerMove p .closing (entry :: rest)
        ({ p with slots := p.slots - 1, scheduler := ⟨.closing, rest, false⟩ }.giveUp
          entry.job .shutdown (some entry.lastError)).1
        [.deadLettered entry.job .shutdown (some entry.lastError)]
  | leave : SchedulerMove p .closing []
      { p with scheduler := ⟨.left, [], false⟩ } [.schedulerStopped]

/-- A move of a stop in progress. -/
inductive StopperMove (p : Pool) : Stopping → Pool → List Note → Prop where
  | next {w deadline : Nat} {worker : Worker} (here : p.workers[w]? = some worker)
      (left : worker.stage = .left) :
      StopperMove p (.awaiting w deadline)
        { p with stopping := .awaiting (w + 1) p.patience } [.backgroundStopped (.worker w)]
  | cut {w deadline : Nat} {worker : Worker} (here : p.workers[w]? = some worker)
      (stays : worker.stage ≠ .left) (late : deadline ≤ p.now) :
      StopperMove p (.awaiting w deadline)
        { p with
          workers := p.workers.modify w ({ · with cut := true })
          line := p.line.erase w
          stopping := .awaiting (w + 1) p.patience } [.backgroundCut (.worker w)]
  | dismiss {w deadline : Nat} (all : p.workers.length ≤ w) :
      StopperMove p (.awaiting w deadline)
        { p.bury p.inFlight.length with
          inFlight := [], schedulerTold := true, stopping := .dismissing p.patience }
        (p.inFlight.flatMap recovery)
  | noScheduler {deadline : Nat} (absent : p.scheduler.watch = .absent) :
      StopperMove p (.dismissing deadline) { p with stopping := .closing } []
  | schedulerLeft {deadline : Nat} (left : p.scheduler.watch = .left) :
      StopperMove p (.dismissing deadline) { p with stopping := .closing }
        [.backgroundStopped .scheduler]
  | cutScheduler {deadline : Nat} (started : p.scheduler.watch ≠ .absent)
      (stays : p.scheduler.watch ≠ .left) (late : deadline ≤ p.now) :
      StopperMove p (.dismissing deadline)
        { p with
          scheduler := { p.scheduler with cut := true }
          channelOpen := false
          stopping := .closing } [.backgroundCut .scheduler]
  | close :
      StopperMove p .closing
        { p.bury p.queue.length with
          queue := [], closed := true, channelOpen := false, life := .stopped, stopping := .no }
        (p.queue.map (.deadLettered · .shutdown none)
          ++ [.poolStopped (p.bury p.queue.length).stats])

/-- A move of a pool. -/
inductive Move (p : Pool) : Label → Pool → List Note → Prop where
  | accept {task : Task} (isOpen : p.closed = false) (room : p.hasRoom = true) :
      Move p (.submit task)
        { p with
          queue := p.queue ++ [⟨p.stats.submitted, task⟩]
          stats := { p.stats with submitted := p.stats.submitted + 1 } }
        [.accepted ⟨p.stats.submitted, task⟩]
  | drop {task : Task} {stopped : Bool} (closed : p.closed = stopped)
      (full : stopped = false → p.hasRoom = false) :
      Move p (.submit task) (p.drop task stopped).1 [.dropped task stopped]
  | start (idle : p.life = .idle) (quiet : p.stopping = .no) :
      Move p .start
        { p with
          life := .running
          workers := List.replicate p.config.crew .new
          scheduler := { p.scheduler with watch := .fresh } } [.poolStarted p.config]
  | startAgain {notes : List Note} (begun : p.life ≠ .idle)
      (told : notes = [] ∨ notes = [.poolRunning]) :
      Move p .start p notes
  | stop (alive : p.life ≠ .stopped) (quiet : p.stopping = .no) :
      Move p .stop { p with workersTold := true, stopping := .awaiting 0 p.patience }
        [.poolStopping]
  | stopAgain (stopped : p.life = .stopped) : Move p .stop p []
  | worker {w : Nat} {s : Supply} {stage : Stage} {draining : Bool} {q : Pool}
      {notes : List Note} {before after : List Worker}
      (crew : p.workers = before ++ ⟨stage, draining, false⟩ :: after)
      (place : before.length = w) (move : WorkerMove p w s draining stage q notes) :
      Move p (.worker w s) q notes
  | scheduler {watch : Watch} {waiting : List Entry} {q : Pool} {notes : List Note}
      (keeps : p.scheduler = ⟨watch, waiting, false⟩)
      (move : SchedulerMove p watch waiting q notes) :
      Move p .scheduler q notes
  | stopper {stopping : Stopping} {q : Pool} {notes : List Note} (phase : p.stopping = stopping)
      (move : StopperMove p stopping q notes) :
      Move p .stopper q notes
  | wait {ms : Nat} : Move p (.wait ms) { p with now := p.now + ms } []

variable {p q : Pool} {notes : List Note}

theorem hasNews_iff {worker : Worker} :
    p.hasNews worker = true ↔ p.workersTold = true ∧ worker.draining = false := by
  simp [hasNews]

theorem moveWorker?_move {w : Nat} {worker : Worker} {s : Supply}
    (step : p.moveWorker? w worker s = some (q, notes)) :
    WorkerMove p w s worker.draining worker.stage q notes := by
  unfold moveWorker? at step
  cases stage : worker.stage with
  | fresh =>
    simp only [stage] at step
    cases step
    exact .wake
  | resting =>
    simp only [stage] at step
    by_cases news : p.hasNews worker = true
    · obtain ⟨told, fresh⟩ := hasNews_iff.mp news
      rw [if_pos news] at step
      cases step
      exact .hear told fresh
    · rw [if_neg news] at step
      cases step
      exact .lineUp
  | lined =>
    simp only [stage] at step
    by_cases news : p.hasNews worker = true
    · obtain ⟨told, fresh⟩ := hasNews_iff.mp news
      rw [if_pos news] at step
      cases step
      exact .hearInLine told fresh
    · rw [if_neg news] at step
      split at step
      · rename_i first
        cases next : p.queue with
        | cons job rest =>
          simp only [next] at step
          cases step
          exact .take next first
        | nil =>
          simp only [next] at step
          split at step
          · rename_i told
            cases step
            exact .leave next told first
          · contradiction
      · contradiction
  | holding job =>
    simp only [stage] at step
    cases step
    exact .beginWrite
  | writing job due =>
    simp only [stage] at step
    split at step
    · rename_i ripe
      cases result : s.result with
      | ok outcome =>
        cases outcome <;> simp only [result, endWrite] at step <;> cases step
        · exact .written ripe result
        · exact .alreadyThere ripe result
      | error e =>
        simp only [result, endWrite] at step
        cases step
        exact .attemptFailed ripe result
    · contradiction
  | clearing job failure =>
    cases failure <;> simp only [stage] at step <;> cases step
    · exact .clearSettled
    · exact .clearFailed
  | failed job e =>
    simp only [stage, judge] at step
    split at step
    · rename_i spent
      cases step
      exact .exhausted spent
    · rename_i more
      split at step
      · rename_i taken
        cases step
        exact .noSlot (by omega) taken
      · rename_i free
        cases step
        exact .slot (by omega) (by omega)
  | slotted job e =>
    simp only [stage, scheduleRetry] at step
    split at step
    · rename_i closed
      cases step
      exact .refused (by simpa [Pool.place] using closed)
    · rename_i isOpen
      have isOpen : p.channelOpen = true := by simpa [Pool.place] using isOpen
      split at step
      · rename_i room
        cases step
        exact .scheduled isOpen room
      · rename_i full
        cases step
        exact .overflow isOpen (Nat.le_of_not_lt full)
  | left => simp [stage] at step

theorem workerStep?_move {w : Nat} {s : Supply} (step : p.workerStep? w s = some (q, notes)) :
    Move p (.worker w s) q notes := by
  unfold workerStep? at step
  cases here : p.workers[w]? with
  | none => simp [here] at step
  | some worker =>
    obtain ⟨stage, draining, cut⟩ := worker
    cases cut with
    | true => simp [here] at step
    | false =>
      have move : WorkerMove p w s draining stage q notes :=
        @moveWorker?_move p q notes w ⟨stage, draining, false⟩ s (by simpa [here] using step)
      obtain ⟨bound, same⟩ := List.getElem?_eq_some_iff.mp here
      have crew : p.workers =
          p.workers.take w ++ ⟨stage, draining, false⟩ :: p.workers.drop (w + 1) := by
        rw [← same, List.getElem_cons_drop, List.take_append_drop]
      exact .worker crew (by simp; omega) move

theorem moveScheduler?_move {watch : Watch} {waiting : List Entry}
    (keeps : p.scheduler = ⟨watch, waiting, false⟩)
    (step : p.moveScheduler? = some (q, notes)) : SchedulerMove p watch waiting q notes := by
  unfold moveScheduler? at step
  cases watch with
  | absent | left => simp [keeps] at step
  | fresh =>
    simp only [keeps] at step
    cases step
    exact .wake
  | idle =>
    simp only [keeps] at step
    split at step
    · rename_i told
      cases step
      exact .hear (.inl rfl) told
    · rename_i untold
      have untold : p.schedulerTold = false := by simpa using untold
      split at step
      · rename_i entry rest next
        cases step
        exact .receive untold next
      · rename_i empty
        simp only [collect, keeps] at step
        split at step
        · contradiction
        · rename_i entry batch ready
          cases step
          exact .collect untold empty ready
  | handing entry batch place =>
    simp only [keeps] at step
    split at step
    · rename_i told
      cases step
      exact .hear (.inr ⟨_, _, _, rfl⟩) told
    · rename_i untold
      have untold : p.schedulerTold = false := by simpa using untold
      cases place with
      | wanted =>
        cases step
        exact .ask untold
      | awaited => contradiction
      | granted =>
        cases step
        exact .handOver untold
  | closing =>
    simp only [keeps] at step
    cases waiting with
    | cons entry rest =>
      cases step
      exact .giveUp
    | nil =>
      cases step
      exact .leave

theorem schedulerStep?_move (step : p.schedulerStep? = some (q, notes)) :
    Move p .scheduler q notes := by
  unfold schedulerStep? at step
  split at step
  · contradiction
  · rename_i uncut
    have keeps : p.scheduler = ⟨p.scheduler.watch, p.scheduler.waiting, false⟩ := by
      rw [← Bool.not_eq_true _ |>.mp uncut]
    exact .scheduler keeps (moveScheduler?_move keeps step)

theorem stopStep?_move (step : p.stopStep? = some (q, notes)) : Move p .stopper q notes := by
  unfold stopStep? at step
  cases phase : p.stopping with
  | no => simp [phase] at step
  | awaiting w deadline =>
    simp only [phase] at step
    cases here : p.workers[w]? with
    | none =>
      simp only [here] at step
      simp only [dismiss, recoverAll_eq] at step
      cases step
      exact .stopper phase (.dismiss (List.getElem?_eq_none_iff.mp here))
    | some worker =>
      simp only [here] at step
      split at step
      · rename_i left
        cases step
        exact .stopper phase (.next here left)
      · rename_i stays
        split at step
        · rename_i late
          cases step
          exact .stopper phase (.cut here stays late)
        · contradiction
  | dismissing deadline =>
    simp only [phase] at step
    split at step
    · rename_i absent
      cases step
      exact .stopper phase (.noScheduler absent)
    · rename_i left
      cases step
      exact .stopper phase (.schedulerLeft left)
    · rename_i started stays
      split at step
      · rename_i late
        cases step
        exact .stopper phase (.cutScheduler started stays late)
      · contradiction
  | closing =>
    simp only [phase, close, giveUpAll_eq] at step
    cases step
    exact .stopper phase .close

theorem submit_move {task : Task} (step : (p.submit task).2 = (q, notes)) :
    Move p (.submit task) q notes := by
  unfold submit at step
  split at step
  · rename_i closed
    cases step
    exact .drop closed (by simp)
  · rename_i isOpen
    have isOpen : p.closed = false := by simpa using isOpen
    split at step
    · rename_i room
      cases step
      exact .accept isOpen room
    · rename_i full
      cases step
      exact .drop isOpen (fun _ => by simpa using full)

/-- Every step of the machine is a move of the actor that its label names. -/
theorem step?_move {label : Label} (step : p.step? label = some (q, notes)) :
    Move p label q notes := by
  cases label with
  | submit task => exact submit_move (Option.some.inj step)
  | start =>
    simp only [step?] at step
    split at step
    · rename_i quiet
      unfold start at step
      cases life : p.life <;> simp only [life] at step <;> cases step
      · exact .start life quiet
      · exact .startAgain (by simp [life]) (.inr rfl)
      · exact .startAgain (by simp [life]) (.inl rfl)
    · contradiction
  | stop =>
    simp only [step?] at step
    split at step
    · rename_i quiet
      unfold stop at step
      split at step
      · rename_i known
        cases step
        exact .stopAgain (known.resolve_right (by simp [quiet]))
      · rename_i alive
        cases step
        exact .stop (fun stopped => alive (.inl stopped)) quiet
    · contradiction
  | worker w supply => exact workerStep?_move step
  | scheduler => exact schedulerStep?_move step
  | stopper => exact stopStep?_move step
  | wait ms =>
    cases step
    exact .wait

end CouponSale.Pool
