/-!
# A signal to stop

A signal is raised once and stays raised.  Waiting on it sleeps for a while unless the
signal is up, or goes up in the meantime, and reports whether it is.  In a run that does
one thing after the other nobody raises a signal while someone waits on it, so a wait
reports what was the case before.
-/

namespace CoverageLink
namespace Link

/-- Whether the signal was raised. -/
structure StopSignal where
  raised : Bool
  deriving DecidableEq, Repr, Inhabited

namespace StopSignal

/-- A signal nobody raised. -/
def down : StopSignal := ⟨false⟩

/-- The signal after it was raised. -/
def raise (_ : StopSignal) : StopSignal := ⟨true⟩

/-- What a wait of any length reports. -/
def wait (signal : StopSignal) : Bool := signal.raised

end StopSignal
end Link
end CoverageLink
