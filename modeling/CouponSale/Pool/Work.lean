import CouponSale.Pool.Submit

/-!
One move of a worker. A worker lines up for the primary queue, takes a job, enters it into the
table of jobs in flight, has the store write it, takes it out of the table and, if the write
failed, looks for a retry slot or gives the job up. Told to stop, it empties the queue first.
Between the listed stages a worker does not wait, and at each of them it may be cut off.
-/
namespace CouponSale.Pool

/-- What a worker is given from outside the pool at a move that needs it. -/
structure Supply where
  /-- How long the store will wait for a write that starts now; `none` when it does not wait. -/
  latency : Option Nat
  /-- The store's answer to a write that ends now. -/
  result : Answer Persisted
  /-- The factor of a jittered delay. -/
  draw : Binary64
  deriving Inhabited

def leaveLine (p : Pool) (w : Nat) : Pool := { p with line := p.line.erase w }

/-- The scheduler gets the place that a taken job frees, if it waits for one. -/
def grantPlace (s : Scheduler) : Scheduler :=
  match s.watch with
  | .handing entry batch .awaited => { s with watch := .handing entry batch .granted }
  | _ => s

/-- The stop is news to a worker. -/
def hasNews (p : Pool) (worker : Worker) : Bool := p.workersTold && !worker.draining

/-- Hears of the stop and goes back to the top of the loop. -/
def hearStop (p : Pool) (w : Nat) : Pool :=
  { p.leaveLine w with
    workers := p.workers.modify w ({ · with stage := .resting, draining := true }) }

def take (p : Pool) (w : Nat) (job : Job) (rest : List Job) : Pool :=
  { (p.leaveLine w).place w (.holding job) with
    queue := rest, scheduler := grantPlace p.scheduler }

/-- Enters a job into the table of jobs in flight and starts writing it. -/
def beginWrite (p : Pool) (w : Nat) (job : Job) (latency : Option Nat) : Moved :=
  ({ p.place w (.writing job (latency.map (p.now + ·))) with
      inFlight := p.inFlight.filter (·.1 ≠ w) ++ [(w, job)] },
    [.processing w job])

def endWrite (p : Pool) (w : Nat) (job : Job) : Answer Persisted → Moved
  | .ok .written =>
    ({ p.place w (.clearing job none) with
        stats := { p.stats with persisted := p.stats.persisted + 1 } },
      [.persisted w job])
  | .ok .alreadyThere =>
    ({ p.place w (.clearing job none) with
        stats := { p.stats with alreadyPersisted := p.stats.alreadyPersisted + 1 } },
      [.alreadyPersisted w job])
  | .error e => (p.place w (.clearing job (some e)), [.attemptFailed w job e])

/-- Takes a job out of the table of jobs in flight. -/
def clear (p : Pool) (w : Nat) (next : Stage) : Pool :=
  { p.place w next with inFlight := p.inFlight.filter (·.1 ≠ w) }

/-- Looks for a retry slot, or gives the job up. -/
def judge (p : Pool) (w : Nat) (job : Job) (e : Failure) : Moved :=
  if p.config.retry.maxRetries ≤ job.task.retries then
    (p.place w .resting).giveUp job .retriesExhausted (some e.message)
  else if p.config.retryRoom ≤ p.slots then
    (p.place w .resting).giveUp job .retryQueueFull (some e.message)
  else ({ p.place w (.slotted job e) with slots := p.slots + 1 }, [])

/-- The job as it goes into the retry queue. -/
def Job.retried (job : Job) : Job :=
  { job with task := { job.task with retries := job.task.retries + 1 } }

/-- Puts a job that holds a slot into the retry queue, which has room for every slot. -/
def scheduleRetry (p : Pool) (w : Nat) (job : Job) (e : Failure) (draw : Binary64) : Moved :=
  let delay := p.config.retry.delayMillis job.task.retries draw
  let entry : Entry := ⟨job.retried, p.now + delay, e.message⟩
  let p := p.place w .resting
  if ¬ p.channelOpen then
    { p with slots := p.slots - 1 }.giveUp entry.job .shutdown (some e.message)
  else if p.channel.length < p.config.retryRoom then
    ({ p with
        channel := p.channel ++ [entry]
        stats := { p.stats with retried := p.stats.retried + 1 } },
      [.retryScheduled job e delay])
  else { p with slots := p.slots - 1 }.giveUp entry.job .retryQueueFull (some e.message)

/-- The move of a worker that has not been cut off. -/
def moveWorker? (p : Pool) (w : Nat) (worker : Worker) (s : Supply) : Option Moved :=
  match worker.stage with
  | .fresh => some (p.place w .resting, [.workerStarted w])
  | .resting =>
    if p.hasNews worker then some (p.hearStop w, [])
    else some ({ p.place w .lined with line := p.line ++ [w] }, [])
  | .lined =>
    if p.hasNews worker then some (p.hearStop w, [])
    else if p.line.head? = some w then
      match p.queue with
      | job :: rest => some (p.take w job rest, [])
      | [] =>
        if worker.draining then some ((p.leaveLine w).place w .left, [.workerStopped w]) else none
    else none
  | .holding job => some (p.beginWrite w job s.latency)
  | .writing job due => if due.all (· ≤ p.now) then some (p.endWrite w job s.result) else none
  | .clearing job (some e) => some (p.clear w (.failed job e), [])
  | .clearing _ none => some (p.clear w .resting, [])
  | .failed job e => some (p.judge w job e)
  | .slotted job e => some (p.scheduleRetry w job e s.draw)
  | .left => none

/-- The move of worker `w`; `none` while it waits, has left or was cut off. -/
def workerStep? (p : Pool) (w : Nat) (s : Supply) : Option Moved :=
  match p.workers[w]? with
  | some worker => if worker.cut then none else p.moveWorker? w worker s
  | none => none

end CouponSale.Pool
