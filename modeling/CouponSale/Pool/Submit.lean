import CouponSale.Note

/-!
Handing tasks to a pool and starting it. A submission never waits: without a free place in the
primary queue the task is dropped, and the caller is told.
-/
namespace CouponSale.Pool

/-- What an action leaves behind: the pool and the notes of what happened. -/
abbrev Moved := Pool × List Note

def giveUp (p : Pool) (job : Job) (reason : GiveUp) (lastError : Option String) : Moved :=
  ({ p with stats := { p.stats with deadLettered := p.stats.deadLettered + 1 } },
    [.deadLettered job reason lastError])

/-- Drops a task that found no place. -/
def drop (p : Pool) (task : Task) (stopped : Bool) : Moved :=
  ({ p with stats := { p.stats with dropped := p.stats.dropped + 1 } }, [.dropped task stopped])

/-- Hands a task to the pool without waiting. -/
def submit (p : Pool) (task : Task) : Answer Unit × Moved :=
  if p.closed then (.error .poolStopped, p.drop task true)
  else if p.hasRoom then
    let job : Job := ⟨p.stats.submitted, task⟩
    (.ok (), { p with
      queue := p.queue ++ [job]
      stats := { p.stats with submitted := p.stats.submitted + 1 } }, [.accepted job])
  else (.error .queueFull, p.drop task false)

/-- Starts the workers and the scheduler. A running pool stays as it is, a stopped one cannot be
started again. -/
def start (p : Pool) : Answer Unit × Moved :=
  match p.life with
  | .running => (.ok (), p, [.poolRunning])
  | .stopped => (.error .poolStopped, p, [])
  | .idle =>
    (.ok (), { p with
      life := .running
      workers := List.replicate p.config.crew .new
      scheduler := { p.scheduler with watch := .fresh } }, [.poolStarted p.config])

end CouponSale.Pool
