import CoverageLink.Collector.Host
import CoverageLink.Failure
import CoverageLink.Text.Numeral

/-!
# Where a collector listens

A listening address is a host and a port, the port behind the last colon.  Which hosts a machine
can listen at is a matter of its own (`Interfaces`), and a parameter.

A machine that is cut off from every network, its own loopback included
(`Interfaces.isolated`), takes every number of four octets for one of its own, and of the
numbers of eight groups only the one that stands for all of its own, and those that wrap four
octets.  It can ask nobody for a name, and knows a single one: the local one.
-/

namespace CoverageLink
namespace Collector

/-- Where a machine can listen, or why it cannot. -/
abbrev Interfaces := Host → Except Failure Unit

namespace Interfaces

/-- A machine that can listen everywhere. -/
def all : Interfaces := fun _ => .ok ()

/-- The numbers of eight groups at which a machine listens that is cut off.  One that is shared
by many hosts, and one that holds on one link only, is no number to listen at. -/
def isolatedAt (groups : List Nat) : Except Failure Unit :=
  let first := groups.headD 0
  if groups.all (· = 0) || groups.take 6 = [0, 0, 0, 0, 0, 0xFFFF] then .ok ()
  else if 0xFF00 ≤ first || 0xFE80 ≤ first && first < 0xFEC0 then
    .error (.host .invalidArgument)
  else .error (.host .addressNotAvailable)

/-- A machine that is cut off from every network. -/
def isolated : Interfaces
  | .parts _ => .ok ()
  | .groups numbers => isolatedAt numbers
  | .named name => if name = "localhost" || name = "*" then .ok () else .error .unknownHost

end Interfaces

/-- A place to listen. -/
structure Address where
  host : String
  port : Nat
  deriving DecidableEq, Repr, Inhabited

namespace Address

/-- The host and the port that a text names. -/
def parse (text : String) : Except Failure Address :=
  match (Text.pieces ':' text).reverse with
  | port :: host :: others =>
    match Text.parseBelow UInt16.size port.toList with
    | some number => .ok ⟨Text.join ':' (host :: others).reverse, number⟩
    | none => .error .invalidPort
  | _ => .error .invalidSocketAddress

/-- Listens at an address, if the machine can. -/
def bind (address : Address) (interfaces : Interfaces) : Except Failure Unit :=
  interfaces (Host.ofText address.host)

end Address
end Collector
end CoverageLink
