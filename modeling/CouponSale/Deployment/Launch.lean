import CouponSale.Deployment.App

/-!
One run of the program: it connects, starts the pool, puts the demonstration's coupon on sale,
has the users claim it, waits for the pool to drain and shuts down. A failure on the way ends the
run with exit code one.
-/
namespace CouponSale

structure Launch where
  exit : Nat
  printed : List String
  stores : Deployment

namespace Launch

def failed (printed : List String) (app : App) : Launch := ⟨1, printed, app.sale.stores⟩

def burst (settings : Settings) (app : App) (coupon : CouponId) : Launch :=
  let (tally, app) := Simulation.burst app coupon settings.demo.users.toInt
    settings.demo.concurrency.toNat
  let (_, app) := Simulation.drain app (.ofSeconds settings.server.shutdownTimeout.toNat)
  match Simulation.get app coupon with
  | (.error _, app) => failed [tally.text] app
  | (.ok _, app) => ⟨0, [tally.text], (App.shutdown app).2.sale.stores⟩

def serve (settings : Settings) (now : Moment) (app : App) : Launch :=
  let (_, app) := Simulation.start app
  match Simulation.create app (demoCoupon now settings.demo.stock.toInt) now with
  | (.error _, app) => failed [] app
  | (.ok coupon, app) => burst settings app coupon.id

def metricsAddress (settings : Settings) : String :=
  settings.server.metricsHost ++ ":" ++ Decimal.text settings.server.metricsPort.toNat

/-- A run over a counter server and a database. -/
def run (network : Network) (settings : Settings) (now : Moment) (counter : CounterServer)
    (database : Database) : Launch :=
  match SocketAddress.ofText? (metricsAddress settings) with
  | none => failed [] (App.assembled settings counter database)
  | some _ =>
    match App.connect network settings counter database with
    | (.error _, app) => failed [] app
    | (.ok (), app) => serve settings now app

end Launch
end CouponSale
