import CouponSale.Database.Outbox
import CouponSale.Database.Sales
import CouponSale.Keyspace.CounterServer
import CouponSale.Sale.Backend

/-!
The stores of a deployment: a counter server and a database. Dead letters go to the outbox of the
database, or are only logged. Calls take no time.
-/
namespace CouponSale

structure Deployment where
  counter : CounterServer
  database : Database
  /-- Dead letters go to the outbox. -/
  outbox : Bool

namespace Deployment

/-- Takes a dead letter, as of the database's time. -/
def file (d : Deployment) (letter : DeadLetter) : Answer Unit × Deployment × List Note :=
  if d.outbox then
    let (answer, database, notes) := d.database.record letter d.database.now d.database.now
    (answer, { d with database }, notes)
  else (.ok (), d, [.letterLogged letter])

instance : Backend Deployment where
  reserveLatency _ := 0
  beginReserve d := d
  reserve d coupon user :=
    let (answer, counter) := d.counter.reserve coupon user
    (answer, { d with counter })
  seed d coupon total :=
    let (answer, counter, notes) := d.counter.seed coupon total
    (answer, { d with counter }, notes)
  writeLatency _ := none
  beginWrite d := d
  write d user coupon :=
    let (answer, database) := d.database.persist user coupon
    (answer, { d with database })
  create d c :=
    let (answer, database, notes) := d.database.create c
    (answer, { d with database }, notes)
  find d coupon :=
    let (answer, database) := d.database.get coupon
    (answer, { d with database })
  claimsOf d user :=
    let (answer, database) := d.database.claimsOf user
    (answer, { d with database })
  file := file

end Deployment
end CouponSale
