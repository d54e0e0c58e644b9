import CoverageLink.Failure
import CoverageLink.Interval

/-!
# Reaching another socket

Whether a socket can be reached is a matter of the host's network, which is a parameter here: a
host without a route refuses at once, and with a route the peer may refuse.  A wait for the
peer's answer must have a duration; that is only looked at when there is something to wait for.
-/

namespace CoverageLink
namespace Link

/-- What a host's network lets through. -/
structure Network where
  /-- What every attempt to reach a socket is refused with, if it is. -/
  refusal : Option HostError
  deriving DecidableEq, Repr, Inhabited

namespace Network

/-- A network that reaches everything. -/
def routed : Network := ⟨none⟩

/-- A network without any route. -/
def unrouted : Network := ⟨some .networkUnreachable⟩

/-- Reaches for a socket that listens or does not, waiting for its answer so long. -/
def dial (network : Network) (listening : Bool) (wait : Interval) : Except Failure Unit :=
  match network.refusal with
  | some refusal => .error (.host refusal)
  | none =>
    if wait = .zero then .error .zeroTimeout
    else if listening then .ok ()
    else .error (.host .connectionRefused)

end Network
end Link
end CoverageLink
