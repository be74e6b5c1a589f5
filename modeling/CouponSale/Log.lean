import CouponSale.Claim

/-!
Log records. A record has a level, a message and named fields in the order of writing.
-/
namespace CouponSale

inductive Level where
  | error
  | warn
  | info
  | debug
  deriving DecidableEq, Repr, Inhabited

namespace Level

def label : Level → String
  | error => "error"
  | warn => "warn"
  | info => "info"
  | debug => "debug"

/-- The place of a level, the most severe first. -/
def rank : Level → Nat
  | error => 0
  | warn => 1
  | info => 2
  | debug => 3

def all : List Level := [error, warn, info, debug]

def ofLabel? (s : String) : Option Level := all.find? (·.label = s)

/-- A log at level `threshold` shows the records that are at least as severe. -/
def shows (threshold level : Level) : Bool := level.rank ≤ threshold.rank

end Level

inductive LogValue where
  | text (s : String)
  | number (i : Int)
  deriving DecidableEq, Repr, Inhabited

structure LogField where
  name : String
  value : LogValue
  deriving DecidableEq, Repr, Inhabited

structure LogRecord where
  level : Level
  message : String
  fields : List LogField
  deriving DecidableEq, Repr, Inhabited

def LogValue.toJson : LogValue → Json
  | text s => .str s
  | number i => .int i

namespace LogField

def ofText (name s : String) : LogField := ⟨name, .text s⟩

def ofNat (name : String) (n : Nat) : LogField := ⟨name, .number n⟩

def ofInt (name : String) (i : Int) : LogField := ⟨name, .number i⟩

def user (u : UserId) : LogField := .ofText "user_id" u.text

def coupon (c : CouponId) : LogField := .ofText "coupon_id" c.text

def error (e : Failure) : LogField := .ofText "error" e.message

end LogField

namespace LogRecord

def error (message : String) (fields : List LogField) : LogRecord :=
  ⟨.error, message, fields⟩

def warn (message : String) (fields : List LogField) : LogRecord :=
  ⟨.warn, message, fields⟩

def info (message : String) (fields : List LogField) : LogRecord :=
  ⟨.info, message, fields⟩

def debug (message : String) (fields : List LogField) : LogRecord :=
  ⟨.debug, message, fields⟩

def toJson (r : LogRecord) : Json :=
  .obj (("level", .str r.level.label) :: ("message", .str r.message)
    :: r.fields.map (fun f => (f.name, f.value.toJson)))

end LogRecord
end CouponSale
