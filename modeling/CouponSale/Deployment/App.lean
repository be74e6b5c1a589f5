import CouponSale.Deployment.Network
import CouponSale.Deployment.Stores
import CouponSale.Retry.Loop
import CouponSale.Settings
import CouponSale.Simulation.Errand

/-!
The assembled service: a sale in virtual time over the stores of a deployment. It is connected
before anything runs, and at its end reports the dead letters that still wait for someone.
-/
namespace CouponSale

abbrev App := Simulation Deployment

namespace App

/-- How connecting is tried again, so that the service may start before its servers do. -/
def startup : RetryPolicy :=
  { RetryPolicy.standard with
    maxRetries := 5, initialDelay := .ofMillis 500, maxDelay := .ofSeconds 5, jitter := true }

/-- Tries a connection, and again after a failure. -/
def patiently (attempt : Answer Unit) : Answer Unit :=
  (Retry.run startup Failure.message .one (fun _ => attempt)).result

def assembled (settings : Settings) (counter : CounterServer) (database : Database) : App :=
  .new (.new settings.poolConfig settings.reserveTimeout
    ⟨counter, database, settings.letters.persist⟩)

/-- Connects to both servers and brings the schema up to date. The service is given also when
that fails, for the stores in it. -/
def connect (network : Network) (settings : Settings) (counter : CounterServer)
    (database : Database) : Answer Unit × App :=
  match patiently (network.database settings.database.url) with
  | .error e => (.error e, assembled settings counter database)
  | .ok () =>
    match database.migrate with
    | (.error e, database, _) => (.error e, assembled settings counter database)
    | (.ok (), database, notes) =>
      let app := assembled settings counter database
      (patiently (network.counter settings.counter.url), { app with notes := notes.reverse })

/-- Longer than any wait for a drained pool. -/
def ample : Span := .ofSeconds 1000000000

/-- Waits until every accepted task has reached an end, if the pool runs. -/
def settle (app : App) : App :=
  if app.sale.pool.life = .running then (app.drain ample).2 else app

/-- What is reported of the letters that still wait. -/
def reportPending : Answer Nat → List Note
  | .ok 0 => []
  | .ok n => [.lettersPending n]
  | .error e => [.lettersUncounted e]

def countLetters (app : App) : App :=
  let stores := app.sale.stores
  let (count, database) := stores.database.countPending
  { app with
    sale := { app.sale with stores := { stores with database } }
    notes := (reportPending count).reverse ++ app.notes }

/-- Stops the pool, gives its counts, and reports the letters that wait in the outbox. -/
def shutdown (app : App) : Pool.Stats × App :=
  let (stats, app) := app.stop
  (stats, if app.sale.stores.outbox then countLetters app else app)

end App
end CouponSale
