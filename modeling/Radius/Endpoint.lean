import Radius.Address.IPv6
import Radius.Value.Operand

/-!
# UDP endpoints

An endpoint is an address literal and a port, kept as the caller gave them. `Endpoint.create`
refuses a host that is no address of either family and a port that is no number from 0 to 65535.
The family decides the local address a socket is bound to and how the endpoint is written.
-/

namespace Radius

/-- The families of internet addresses. -/
inductive AddressFamily where
  | inet
  | inet6
  deriving DecidableEq, Repr, Inhabited

/-- The name of a family. -/
def AddressFamily.name : AddressFamily → String
  | inet => "AF_INET"
  | inet6 => "AF_INET6"

/-- Any local address and any free port of a family. -/
def AddressFamily.wildcard : AddressFamily → String × Nat
  | inet => ("0.0.0.0", 0)
  | inet6 => ("::", 0)

/-- The family of the address a value gives. -/
def AddressFamily.ofHost? (host : Value) : Option AddressFamily :=
  match IPv4.ofValue host with
  | .ok _ => some .inet
  | .error _ => (IPv6.ofValue? host).map fun _ => .inet6

/-- Why there is no endpoint. -/
inductive EndpointError where
  | notAddress (host : Value)
  | portRange (port : Value)
  | portKind (why : OperandError)

/-- What is said of a host and a port that make no endpoint. -/
def EndpointError.message : EndpointError → String
  | notAddress host => host.quoted ++ " does not appear to be an IPv4 or IPv6 address"
  | portRange port => "port must be 0-65535, got " ++ port.plain
  | portKind why => why.message

/-- A host and a port as the caller gave them, and the family of the host's address. -/
structure Endpoint where
  host : Value
  port : Value
  family : AddressFamily
  deriving Inhabited

namespace Endpoint

/-- The endpoint of a host and a port. The host is looked at first. -/
def create (host port : Value) : Except EndpointError Endpoint :=
  match AddressFamily.ofHost? host with
  | none => .error (.notAddress host)
  | some family => match port.within 0 65535 with
    | .error why => .error (.portKind why)
    | .ok false => .error (.portRange port)
    | .ok true => .ok ⟨host, port, family⟩

/-- Equality of endpoints as given: two spellings of one address differ. -/
def same (x y : Endpoint) : Bool := x.host.same y.host && x.port.same y.port

/-- The endpoint as people write it, an IPv6 address in brackets. -/
def text (x : Endpoint) : String :=
  match x.family with
  | .inet => x.host.plain ++ ":" ++ x.port.plain
  | .inet6 => "[" ++ x.host.plain ++ "]:" ++ x.port.plain

/-- The endpoint with its fields named. -/
def quoted (x : Endpoint) : String :=
  "UdpEndpoint(host=" ++ x.host.quoted ++ ", port=" ++ x.port.quoted ++ ")"

end Endpoint

end Radius
