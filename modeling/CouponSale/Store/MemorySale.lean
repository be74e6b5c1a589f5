import CouponSale.Sale.Step
import CouponSale.Store.Memory

/-!
A sale over stores in memory as a labelled machine: beside the moves of the sale, the faults and
latencies of the stores are set at any time.
-/
namespace CouponSale.MemorySale

/-- A move of the sale, or a setting of the stores. -/
inductive Label where
  | move (label : Sale.Label)
  | set (setting : Memory.Setting)

/-- The move a label stands for; `none` where it is not possible. -/
def step? (s : Sale Memory) : Label → Option (Sale.Moved Memory)
  | .move label => s.step? label
  | .set setting => some ({ s with stores := s.stores.adjust setting }, [])

/-- A sale that a run leads to from one over empty stores. -/
def Reachable (config : Pool.Config) (reserveTimeout : Span) (sink : Sink) (notes : List Note)
    (s : Sale Memory) : Prop :=
  Leads step? (.new config reserveTimeout (.new sink)) notes s

end CouponSale.MemorySale
