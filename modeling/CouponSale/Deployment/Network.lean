import CouponSale.Deployment.CounterAddress
import CouponSale.Failure

/-!
Connecting to the servers by their addresses. What is not the address of a counter server is
refused before anyone is asked.
-/
namespace CouponSale

/-- The servers that can be reached. -/
structure Network where
  answers : String → Bool

namespace Network

def whole : Network := ⟨fun _ => true⟩

def down : Network := ⟨fun _ => false⟩

def database (n : Network) (url : String) : Answer Unit :=
  if n.answers url then .ok () else .error (.database "Failed to connect to Postgres")

def counter (n : Network) (url : String) : Answer Unit :=
  if !(Url.ofText? url).any Url.isCounterAddress then
    .error (.counterUnavailable "Failed to create Redis client")
  else if n.answers url then .ok ()
  else .error (.counterUnavailable "Failed to create Redis connection manager")

end Network
end CouponSale
