import CouponSale.Deployment.Recorder
import CouponSale.Keyspace.Exchange
import CouponSale.Main
import CouponSale.Store.MemorySale
import CouponSale.Proofs.Pool.Moves
import CouponSale.Proofs.Pool.Phases
import CouponSale.Proofs.Pool.Accounts
import CouponSale.Proofs.Pool.Tickets
import CouponSale.Proofs.Pool.InFlight
import CouponSale.Proofs.Runs
import CouponSale.Proofs.Trace
import CouponSale.Proofs.Pool.Conservation
import CouponSale.Proofs.Pool.Stop
import CouponSale.Proofs.Sale.Moves
import CouponSale.Proofs.Sale.PoolPart
import CouponSale.Proofs.Pool.Attempts
import CouponSale.Proofs.Sale.Rows
import CouponSale.Proofs.Sale.Stop
import CouponSale.Proofs.Sale.Grants
import CouponSale.Proofs.Sale.Balance
import CouponSale.Proofs.Keyspace.Numeral
import CouponSale.Proofs.Keyspace.Script
import CouponSale.Proofs.Keyspace.Refinement
import CouponSale.Proofs.Store.Reservations
import CouponSale.Proofs.Database.Refinement
import CouponSale.Proofs.Pool.Chances
import CouponSale.Proofs.Pool.Tended
import CouponSale.Proofs.Pool.Effort
import CouponSale.Proofs.Pool.Settling
import CouponSale.Proofs.Sale.Calls
import CouponSale.Proofs.Sale.Tally
import CouponSale.Proofs.Sale.Front
import CouponSale.Proofs.Sale.Serving
import CouponSale.Proofs.Sale.FastPath
import CouponSale.Proofs.Pool.Slots
import CouponSale.Proofs.Pool.Histories
import CouponSale.Proofs.Pool.Letters
import CouponSale.Proofs.Pool.Lifecycle
import CouponSale.Proofs.Pool.Backpressure
import CouponSale.Proofs.Sale.Lifecycle
import CouponSale.Proofs.Coupon
import CouponSale.Proofs.Database.Storability
import CouponSale.Proofs.Sale.Recast
import CouponSale.Proofs.Sale.Reseeding
import CouponSale.Proofs.Sale.Hindsight
import CouponSale.Proofs.Sale.Recovery
import CouponSale.Proofs.Database.Outbox
import CouponSale.Proofs.Sale.Metrics
import CouponSale.Proofs.Pool.Halting
import CouponSale.Proofs.Keyspace.Exchange
import CouponSale.Proofs.Pool.Drain
import CouponSale.Proofs.Pool.Release
import CouponSale.Proofs.Pool.Punctuality
import CouponSale.Proofs.Pool.LastErrors
import CouponSale.Proofs.Pool.Emptying
import CouponSale.Proofs.Keyspace.Reservation
import CouponSale.Proofs.Database.Atomicity
import CouponSale.Proofs.Store.History
import CouponSale.Proofs.Pool.Recovery
import CouponSale.Proofs.Number.Rounding
import CouponSale.Proofs.Retry.Backoff
import CouponSale.Proofs.Retry.Loop
import CouponSale.Proofs.Sale.Whereabouts
import CouponSale.Proofs.Sale.Overselling
import CouponSale.Proofs.Sale.Exhaustion
import CouponSale.Proofs.Sale.Rush
import CouponSale.Proofs.Sale.Burst
import CouponSale.Proofs.Number.Order
import CouponSale.Proofs.Retry.Growth
import CouponSale.Proofs.Text.Spelling
import CouponSale.Proofs.Settings
import CouponSale.Proofs.Time.Calendar
import CouponSale.Proofs.Time.Stamp
import CouponSale.Proofs.Json.Text
import CouponSale.Proofs.Json.RoundTrip
