import CouponSale.Demo
import CouponSale.Pool.State
import CouponSale.SoldOut

/-!
What the service reports while it runs. A note says what happened; its log record, if it has
one, and the metrics it counts follow from it.
-/
namespace CouponSale

inductive Series where
  | claims (outcome : Outcome)
  | transientErrors
  | soldOutHits
  | reserveDurations
  | dropped
  | persisted
  | retried
  | deadLettered (reason : GiveUp)
  | outboxAdded (reason : GiveUp)
  | outboxResolved
  | outboxDiscarded
  deriving DecidableEq, Repr, Inhabited

namespace Series

/-- A metric name with one label. -/
def labelled (name key value : String) : String :=
  name ++ "\x7b" ++ key ++ "=\"" ++ value ++ "\"\x7d"

def name : Series → String
  | claims outcome => labelled "flash_sale_claims_total" "outcome" outcome.label
  | transientErrors => "flash_sale_claims_transient_errors_total"
  | soldOutHits => "flash_sale_negative_cache_hits_total"
  | reserveDurations => "flash_sale_reserve_duration_seconds_count"
  | dropped => "flash_sale_tasks_dropped_total"
  | persisted => "flash_sale_tasks_persisted_total"
  | retried => "flash_sale_tasks_retried_total"
  | deadLettered reason => labelled "flash_sale_tasks_dead_lettered_total" "reason" reason.label
  | outboxAdded reason => labelled "flash_sale_outbox_added_total" "reason" reason.label
  | outboxResolved => "flash_sale_outbox_resolved_total"
  | outboxDiscarded => "flash_sale_outbox_discarded_total"

end Series

inductive Background where
  | worker (number : Nat)
  | scheduler
  deriving DecidableEq, Repr, Inhabited

/-- Something that happened. -/
inductive Note where
  -- claims
  | soldOutHit (user : UserId) (coupon : CouponId)
  | flagged (coupon : CouponId)
  | notSeeded (coupon : CouponId)
  | reserveEnded
  | reserveFailed (user : UserId) (coupon : CouponId) (failure : Failure)
  | decided (user : UserId) (coupon : CouponId) (outcome : Outcome)
  | granted (admin user : UserId) (coupon : CouponId) (outcome : Outcome)
  /-- The caller of a claim has its answer. -/
  | answered (call : Nat) (answer : Answer Outcome)
  | burstFinished (coupon : CouponId) (tally : Tally)
  -- submissions
  | accepted (job : Pool.Job)
  | dropped (task : Task) (stopped : Bool)
  -- workers
  | workerStarted (worker : Nat)
  | processing (worker : Nat) (job : Pool.Job)
  | persisted (worker : Nat) (job : Pool.Job)
  | alreadyPersisted (worker : Nat) (job : Pool.Job)
  | attemptFailed (worker : Nat) (job : Pool.Job) (failure : Failure)
  | retryScheduled (job : Pool.Job) (failure : Failure) (delay : Nat)
  | deadLettered (job : Pool.Job) (reason : GiveUp) (lastError : Option String)
  | workerStopped (worker : Nat)
  -- dead letters
  | letterLogged (letter : DeadLetter)
  | letterLost (letter : DeadLetter) (failure : Failure)
  | letterStored (id : Int) (letter : DeadLetter)
  | letterResolved (id : Int)
  | letterDiscarded (id : Int) (notes : String)
  | lettersPending (count : Nat)
  | lettersUncounted (failure : Failure)
  -- the scheduler
  | schedulerStarted
  | requeued (job : Pool.Job)
  | schedulerStopped
  -- the life of the pool
  | poolStarted (config : Pool.Config)
  | poolRunning
  | poolStopping
  | backgroundStopped (task : Background)
  | backgroundCut (task : Background)
  | cutWhileWriting (worker : Nat) (job : Pool.Job)
  | poolStopped (stats : Pool.Stats)
  -- coupons
  | couponCreated (coupon : Coupon)
  | seedingFailed (coupon : Coupon) (failure : Failure)
  | reseeded (coupon : CouponId) (stock : Int)
  | counterSeeded (coupon : CouponId) (total : Int)
  | rowCreated (coupon : CouponId) (total : Int)
  -- the service
  | migrated
  | recorderPresent
  deriving Repr, Inhabited

namespace Note

def taskFields (t : Task) : List LogField := [.user t.user, .coupon t.coupon]

def stateField (s : TaskState) : LogField := .ofText "state" s.label

def backgroundFields : Background → List LogField
  | .worker n => [.ofText "kind" "worker", .ofNat "idx" n]
  | .scheduler => [.ofText "kind" "retry scheduler", .ofNat "idx" 0]

/-- The retry count of a dead letter, as wide as its column. -/
def columnRetries (t : Task) : Nat := min t.retries maxInt32

def record? : Note → Option LogRecord
  | soldOutHit user coupon => some (.debug "Negative cache hit" [.user user, .coupon coupon])
  | flagged coupon => some (SoldOut.markedRecord coupon)
  | notSeeded coupon =>
    some (.debug "Counter not seeded, answering out of stock" [.coupon coupon])
  | reserveEnded => none
  | reserveFailed user coupon failure =>
    some (.warn "Reservation failed, no claim recorded"
      [.user user, .coupon coupon, .error failure])
  | decided user coupon outcome =>
    some (.debug "Claim decided" [.user user, .coupon coupon, .ofText "outcome" outcome.label])
  | granted admin user coupon outcome =>
    some (.info "Admin coupon grant"
      [.ofText "admin_id" admin.text, .user user, .coupon coupon, .ofText "outcome" outcome.label])
  | answered _ _ => none
  | burstFinished coupon tally =>
    some (.debug "Burst finished" [.coupon coupon, .ofText "tally" tally.text])
  | accepted _ => none
  | dropped task stopped =>
    some (.error
      (if stopped then "Persistence pool stopped, claim task dropped"
        else "Persistence queue full, claim task dropped")
      (taskFields task))
  | workerStarted worker => some (.debug "Persistence worker started" [.ofNat "worker" worker])
  | processing worker job =>
    some (.debug "Processing claim task"
      (.ofNat "worker" worker :: taskFields job.task
        ++ [.ofNat "retry_count" job.task.retries, stateField .processing]))
  | persisted worker job =>
    some (.debug "Claim persisted"
      (.ofNat "worker" worker :: taskFields job.task ++ [stateField .persisted]))
  | alreadyPersisted worker job =>
    some (.info "Claim row already present, nothing written"
      (.ofNat "worker" worker :: taskFields job.task ++ [stateField .persisted]))
  | attemptFailed _ _ _ => none
  | retryScheduled _ failure delay =>
    some (.warn "Claim persistence failed, scheduled retry"
      [.error failure, .ofNat "delay_ms" delay, stateField .retrying])
  | deadLettered _ _ _ => none
  | workerStopped worker => some (.debug "Persistence worker stopped" [.ofNat "worker" worker])
  | letterLogged letter =>
    some (.error "Claim task dead-lettered, durable record missing"
      (taskFields letter.task ++
        [.ofNat "retry_count" letter.task.retries, .ofText "reason" letter.reason.label,
          .ofText "error" (letter.lastError.getD "none")]))
  | letterLost letter failure =>
    some (.error "Failed to record dead-lettered claim task"
      (taskFields letter.task ++
        [.ofText "reason" letter.reason.label, .ofNat "retry_count" letter.task.retries,
          .ofText "last_error" (letter.lastError.getD "none"), .error failure,
          stateField .deadLettered]))
  | letterStored id letter =>
    some (.warn "Claim task added to dead-letter outbox"
      (.ofInt "dlq_id" id :: taskFields letter.task ++
        [.ofText "reason" letter.reason.label, .ofNat "retry_count" (columnRetries letter.task)]))
  | letterResolved id => some (.info "Dead letter marked as resolved" [.ofInt "dlq_id" id])
  | letterDiscarded id notes =>
    some (.warn "Dead letter marked as discarded" [.ofInt "dlq_id" id, .ofText "reason" notes])
  | lettersPending count =>
    some (.warn "Dead-letter outbox has pending claims" [.ofNat "pending" count])
  | lettersUncounted failure =>
    some (.warn "Could not count pending dead letters" [.error failure])
  | schedulerStarted => some (.debug "Retry scheduler started" [])
  | requeued job =>
    some (.debug "Retrying claim task"
      (taskFields job.task ++ [.ofNat "retry_count" job.task.retries, stateField .queued]))
  | schedulerStopped => some (.debug "Retry scheduler stopped" [])
  | poolStarted config =>
    some (.info "Persistence worker pool started"
      [.ofNat "workers" config.crew, .ofNat "queue_capacity" config.queueCapacity,
        .ofNat "retry_queue_capacity" config.retryCapacity,
        .ofNat "max_retries" config.retry.maxRetries])
  | poolRunning => some (.warn "Persistence worker pool already running" [])
  | poolStopping => some (.info "Stopping persistence worker pool" [])
  | backgroundStopped task =>
    some (.debug "Background task stopped gracefully" (backgroundFields task))
  | backgroundCut task =>
    some (.warn "Background task shutdown timed out, aborting" (backgroundFields task))
  | cutWhileWriting worker job =>
    some (.warn "Worker aborted mid-write, dead-lettering its task"
      (.ofNat "worker" worker :: taskFields job.task))
  | poolStopped stats =>
    some (.info "Persistence worker pool stopped"
      [.ofNat "persisted" stats.persisted, .ofNat "dead_lettered" stats.deadLettered,
        .ofNat "dropped" stats.dropped])
  | couponCreated coupon =>
    some (.info "Coupon created and counter seeded"
      [.coupon coupon.id, .ofText "name" coupon.name, .ofInt "total" coupon.total])
  | seedingFailed coupon failure =>
    some (.error "Coupon persisted but counter seeding failed"
      [.coupon coupon.id, .ofInt "total" coupon.total, .error failure])
  | reseeded coupon stock =>
    some (.info "Counter re-seeded from durable stock" [.coupon coupon, .ofInt "stock" stock])
  | counterSeeded coupon total =>
    some (.debug "Seeded coupon stock in Redis" [.coupon coupon, .ofInt "total" total])
  | rowCreated coupon total =>
    some (.info "Coupon row created" [.coupon coupon, .ofInt "total" total])
  | migrated => some (.info "Database migrations applied" [])
  | recorderPresent =>
    some (.warn "Metrics recorder already initialized, skipping re-initialization" [])

/-- The metrics a note counts, each by one. -/
def series : Note → List Series
  | soldOutHit _ _ => [.soldOutHits, .claims .outOfStock]
  | reserveEnded => [.reserveDurations]
  | reserveFailed _ _ _ => [.transientErrors]
  | decided _ _ outcome => [.claims outcome]
  | dropped _ _ => [.dropped]
  | persisted _ _ => [.persisted]
  | retryScheduled _ _ _ => [.retried]
  | deadLettered _ reason _ => [.deadLettered reason]
  | letterStored _ letter => [.outboxAdded letter.reason]
  | letterResolved _ => [.outboxResolved]
  | letterDiscarded _ _ => [.outboxDiscarded]
  | _ => []

/-- The log that a list of notes leaves at a level. -/
def log (threshold : Level) (notes : List Note) : List LogRecord :=
  (notes.filterMap record?).filter (fun r => threshold.shows r.level)

/-- How much a metric grew over a list of notes. -/
def growth (s : Series) (notes : List Note) : Nat := (notes.flatMap series).count s

end Note
end CouponSale
