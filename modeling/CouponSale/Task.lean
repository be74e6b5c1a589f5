import CouponSale.Claim

/-!
Claims on their way to the durable store: the task a granted claim becomes, the stations it
passes, and the dead letter it leaves when it is given up.
-/
namespace CouponSale

/-- A granted claim that waits to be written. -/
structure Task where
  user : UserId
  coupon : CouponId
  /-- Failed attempts so far. -/
  retries : Nat
  deriving DecidableEq, Repr, Inhabited

/-- A task that no attempt has been made on. -/
def Task.fresh (user : UserId) (coupon : CouponId) : Task := ⟨user, coupon, 0⟩

inductive TaskState where
  | queued
  | processing
  | persisted
  | retrying
  | deadLettered
  deriving DecidableEq, Repr, Inhabited

namespace TaskState

def label : TaskState → String
  | queued => "queued"
  | processing => "processing"
  | persisted => "persisted"
  | retrying => "retrying"
  | deadLettered => "dead_lettered"

/-- No task leaves this station. -/
def isTerminal : TaskState → Bool
  | persisted | deadLettered => true
  | _ => false

end TaskState

/-- Why a task was given up. -/
inductive GiveUp where
  | retriesExhausted
  | retryQueueFull
  | shutdown
  deriving DecidableEq, Repr, Inhabited

def GiveUp.label : GiveUp → String
  | retriesExhausted => "retries_exhausted"
  | retryQueueFull => "retry_queue_full"
  | shutdown => "shutdown"

/-- A task that was given up, with the text of the last error, if any attempt had failed. -/
structure DeadLetter where
  task : Task
  reason : GiveUp
  lastError : Option String
  deriving DecidableEq, Repr, Inhabited

inductive LetterStatus where
  | pending
  | resolved
  | discarded
  deriving DecidableEq, Repr, Inhabited

namespace LetterStatus

def label : LetterStatus → String
  | pending => "pending"
  | resolved => "resolved"
  | discarded => "discarded"

def all : List LetterStatus := [pending, resolved, discarded]

def ofLabel? (s : String) : Option LetterStatus := all.find? (·.label = s)

def parse (s : String) : Answer LetterStatus :=
  match ofLabel? s with
  | some status => .ok status
  | none => .error (.database ("Invalid dead letter status: " ++ s))

end LetterStatus
end CouponSale
