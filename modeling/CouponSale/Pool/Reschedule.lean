import CouponSale.Pool.Submit

/-!
One move of the retry scheduler. It collects failed jobs from the retry queue and, once the
earliest is ready, hands all that are ready to the primary queue in the order it received them,
waiting for a place for each. A stop is heard before a new entry, a new entry before the timer.
What still waits at a stop is given up.
-/
namespace CouponSale.Pool

/-- The first time at which a waiting entry is ready. -/
def firstReady? (waiting : List Entry) : Option Nat := (waiting.map (·.readyAt)).min?

/-- Takes up the stop: closes the retry queue and keeps everything that waited anywhere. -/
def schedulerHearStop (p : Pool) : Pool :=
  { p with
    channel := []
    channelOpen := false
    scheduler := { p.scheduler with
      watch := .closing
      waiting := p.scheduler.waiting ++ p.scheduler.watch.due ++ p.channel } }

/-- Splits the ready entries off as a batch. -/
def collect (p : Pool) : Option Pool :=
  match p.scheduler.waiting.filter (·.readyAt ≤ p.now) with
  | [] => none
  | entry :: batch =>
    some { p with scheduler := { p.scheduler with
      watch := .handing entry batch .wanted
      waiting := p.scheduler.waiting.filter (p.now < ·.readyAt) } }

/-- Asks for a place in the primary queue, which is granted at once if there is one. -/
def ask (p : Pool) (entry : Entry) (batch : List Entry) : Pool :=
  { p with scheduler := { p.scheduler with
    watch := .handing entry batch (if p.hasRoom then .granted else .awaited) } }

/-- Releases the slot of an entry and queues its job at the place granted. -/
def handOver (p : Pool) (entry : Entry) (batch : List Entry) : Moved :=
  ({ p with
      queue := p.queue ++ [entry.job]
      slots := p.slots - 1
      scheduler := { p.scheduler with watch := match batch with
        | [] => .idle
        | next :: later => .handing next later .wanted } },
    [.requeued entry.job])

/-- The move of a scheduler that has not been cut off. -/
def moveScheduler? (p : Pool) : Option Moved :=
  let s := p.scheduler
  match s.watch with
  | .absent | .left => none
  | .fresh => some ({ p with scheduler := { s with watch := .idle } }, [.schedulerStarted])
  | .idle =>
    if p.schedulerTold then some (p.schedulerHearStop, [])
    else
      match p.channel with
      | entry :: rest =>
        some ({ p with
          channel := rest, scheduler := { s with waiting := s.waiting ++ [entry] } }, [])
      | [] => p.collect.map (·, [])
  | .handing entry batch place =>
    if p.schedulerTold then some (p.schedulerHearStop, [])
    else
      match place with
      | .wanted => some (p.ask entry batch, [])
      | .awaited => none
      | .granted => some (p.handOver entry batch)
  | .closing =>
    match s.waiting with
    | entry :: rest =>
      some ({ p with slots := p.slots - 1, scheduler := { s with waiting := rest } }.giveUp
        entry.job .shutdown (some entry.lastError))
    | [] => some ({ p with scheduler := { s with watch := .left } }, [.schedulerStopped])

/-- The move of the scheduler; `none` while it waits, has left or was cut off. -/
def schedulerStep? (p : Pool) : Option Moved :=
  if p.scheduler.cut then none else p.moveScheduler?

end CouponSale.Pool
