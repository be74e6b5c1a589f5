import CouponSale.Deployment.Launch

/-!
The command: one run of the program over servers in memory, on a clock that starts at the epoch
and moves only while everyone waits. The settings come from the environment.
-/
namespace CouponSale

/-- The variables of the environment that settings are read from. -/
def environment : IO (List (String × String)) := do
  let names := (Settings.ofLookup fun _ => none).toVariables.map (·.1)
  names.filterMapM fun name => do return (← IO.getEnv name).map (name, ·)

end CouponSale

open CouponSale in
def main : IO UInt32 := do
  let settings := Settings.ofLookup (Settings.lookupIn (← environment))
  let launch := Launch.run .whole settings .epoch .new .new
  launch.printed.forM fun line => IO.println line
  return UInt32.ofNat launch.exit
