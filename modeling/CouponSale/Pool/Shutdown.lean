import CouponSale.Pool.Submit

/-!
Stopping a pool. A stop tells the workers, waits for each in turn, gives up the jobs of those it
had to cut off while they were writing, tells the scheduler and waits for it, and gives up what
is left in the primary queue. Each wait has the same limit; a task that has ended just then is
not cut off.
-/
namespace CouponSale.Pool

/-- The end of a wait that begins now. -/
def patience (p : Pool) : Nat := p.now + p.config.shutdownTimeout.limit

/-- Calls for a stop. A pool that has stopped, or is being stopped, is left alone. -/
def stop (p : Pool) : Moved :=
  if p.life = .stopped ∨ p.stopping ≠ .no then (p, [])
  else ({ p with workersTold := true, stopping := .awaiting 0 p.patience }, [.poolStopping])

/-- Gives up jobs that no attempt was made on since they were queued last. -/
def giveUpAll (p : Pool) : List Job → Moved
  | [] => (p, [])
  | job :: jobs =>
    let (p, notes) := p.giveUp job .shutdown none
    let (p, more) := p.giveUpAll jobs
    (p, notes ++ more)

/-- The last error of a job whose worker was cut off while writing it. -/
def cutError : String := "worker aborted at shutdown timeout"

/-- Gives up the jobs in flight of workers that were cut off. -/
def recoverAll (p : Pool) : List (Nat × Job) → Moved
  | [] => (p, [])
  | (w, job) :: rest =>
    let (p, notes) := p.giveUp job .shutdown (some cutError)
    let (p, more) := p.recoverAll rest
    (p, .cutWhileWriting w job :: notes ++ more)

/-- All workers are gone: recovers the jobs in flight and tells the scheduler. -/
def dismiss (p : Pool) : Moved :=
  let (p, notes) := p.recoverAll p.inFlight
  ({ p with inFlight := [], schedulerTold := true, stopping := .dismissing p.patience }, notes)

/-- All background tasks are gone: closes the queues and gives up what is left. -/
def close (p : Pool) : Moved :=
  let (p, notes) := { p with closed := true, channelOpen := false }.giveUpAll p.queue
  ({ p with queue := [], life := .stopped, stopping := .no }, notes ++ [.poolStopped p.stats])

/-- The move of a stop; `none` while it waits, or when none is going on. -/
def stopStep? (p : Pool) : Option Moved :=
  match p.stopping with
  | .no => none
  | .awaiting w deadline =>
    match p.workers[w]? with
    | none => some p.dismiss
    | some worker =>
      if worker.stage = .left then
        some ({ p with stopping := .awaiting (w + 1) p.patience }, [.backgroundStopped (.worker w)])
      else if deadline ≤ p.now then
        some ({ p with
            workers := p.workers.modify w ({ · with cut := true })
            line := p.line.erase w
            stopping := .awaiting (w + 1) p.patience },
          [.backgroundCut (.worker w)])
      else none
  | .dismissing deadline =>
    match p.scheduler.watch with
    | .absent => some ({ p with stopping := .closing }, [])
    | .left => some ({ p with stopping := .closing }, [.backgroundStopped .scheduler])
    | _ =>
      if deadline ≤ p.now then
        some ({ p with
            scheduler := { p.scheduler with cut := true }
            channelOpen := false
            stopping := .closing },
          [.backgroundCut .scheduler])
      else none
  | .closing => some p.close

end CouponSale.Pool
