import CouponSale.Text.SocketAddress
import CouponSale.Text.Url

/-!
The addresses of counter servers. A server is at a host or at a socket file, and the scheme says at
which of the two. The number of a database may follow: the path at a host, a parameter at a file.
-/
namespace CouponSale.Url

def hostSchemes : List String := ["redis"]

def pathSchemes : List String := ["unix", "redis+unix"]

/-- A character that the name of a host does not have. -/
def isBarredFromHost (c : Char) : Bool := "\u0000 <>@[]\\^|".toList.contains c

/-- Nothing, or a colon and at most the number of a service. -/
def isServiceSuffix : List Char → Bool
  | [] | [':'] => true
  | ':' :: digits => (Decimal.readNat? digits).any (· ≤ 65535)
  | _ => false

def namesHost : List Char → Bool
  | '[' :: cs =>
    match SocketAddress.eightGroups cs with
    | some (_, ']' :: rest) => isServiceSuffix rest
    | _ => false
  | cs =>
    let (name, rest) := cs.span (· ≠ ':')
    !name.isEmpty && !name.any isBarredFromHost && isServiceSuffix rest

/-- The host of an authority with its service, which stand behind the last at sign. -/
def withoutUser (authority : List Char) : List Char :=
  (authority.reverse.takeWhile (· ≠ '@')).reverse

/-- Who asks, with a secret behind a colon: what stands before the last at sign. -/
def user? (authority : List Char) : Option (List Char) :=
  if authority.contains '@' then
    some ((authority.reverse.dropWhile (· ≠ '@')).drop 1).reverse
  else none

def isDatabase (cs : List Char) : Bool := (Decimal.readInt64? cs).isSome

def protocols : List String := ["2", "resp2", "3", "resp3"]

/-- Asks for no version of the protocol, or for a known one. -/
def hasProtocol (u : Url) : Bool :=
  (u.parameter? "protocol").all (fun p => protocols.contains (String.ofList p))

def isHostAddress (u : Url) : Bool :=
  u.authority.any (fun a => namesHost (withoutUser a) && (user? a).all isEncoded)
    && (u.trimmedPath.isEmpty || isDatabase u.trimmedPath)

/-- The authority names this machine, as `localhost` or not at all. With no host there is no user
either, but the colon of a missing one may stand there. -/
def isHere (authority : List Char) : Bool :=
  match withoutUser authority with
  | [] => (user? authority).all (· = [':'])
  | place => namesHost place && place.takeWhile (· ≠ ':') = "localhost".toList

def isPathAddress (u : Url) : Bool :=
  u.authority.all isHere && u.path.head? = some '/' && (u.parameter? "db").all isDatabase

def isCounterAddress (u : Url) : Bool :=
  (hostSchemes.contains u.scheme && isHostAddress u
    || pathSchemes.contains u.scheme && isPathAddress u) && hasProtocol u

end CouponSale.Url
