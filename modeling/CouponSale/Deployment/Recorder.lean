import CouponSale.Note
import CouponSale.Text.SocketAddress

/-!
The recorder of metrics. A process has one; a server that starts when it is there already goes
on without being able to render it.
-/
namespace CouponSale

structure MetricsServer where
  address : SocketAddress
  /-- The recorder of the process is this server's. -/
  renders : Bool
  deriving DecidableEq, Repr, Inhabited

namespace MetricsServer

def new (address : SocketAddress) : MetricsServer := ⟨address, false⟩

/-- Installs the recorder, unless the process has one. -/
def start (s : MetricsServer) (hasRecorder : Bool) : MetricsServer × List Note :=
  if hasRecorder then (s, [.recorderPresent]) else ({ s with renders := true }, [])

end MetricsServer
end CouponSale
