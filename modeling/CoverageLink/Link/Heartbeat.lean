import CoverageLink.Failure
import CoverageLink.Log

/-!
# Signs of life

A collector drops an agent that stays silent, so an agent that has nothing to say sends a
heartbeat.  The monitor runs in rounds.  At the start of a round it looks whether the
connection is closed; if the last record was sent at least an interval ago it sends a
heartbeat and waits for an interval, otherwise it waits for as long as is left.  Other
records may be sent while it waits, so after the wait it looks at the clock again.

## Time and surroundings

Time is counted in whole milliseconds, and a wait lasts exactly as long as it was asked
to unless it is cut short by the signal to stop.  What the surroundings contribute to one
round is a `Round`: whether the connection is seen closed, how a heartbeat fares if one is
due, when other records are sent during the wait, and whether the signal was raised.
`Monitor.run` goes through a list of rounds, so a statement about the monitor quantifies
over every behaviour of its surroundings.
-/

namespace CoverageLink
namespace Link

/-- The time of the last record sent on a connection, in milliseconds. -/
structure SendClock where
  last : Nat
  deriving DecidableEq, Repr, Inhabited

namespace SendClock

/-- Notes a record sent at a time; the clock never goes back. -/
def touch (clock : SendClock) (now : Nat) : SendClock := ⟨max clock.last now⟩

/-- How long ago the last record was sent. -/
def elapsed (clock : SendClock) (now : Nat) : Nat := now - clock.last

end SendClock

/-- How the sending of a heartbeat ends. -/
inductive Beat
  /-- It fails. -/
  | fails (failure : Failure)
  /-- It succeeds, and is noted by the clock or not. -/
  | sent (noted : Bool)
  deriving DecidableEq, Repr, Inhabited

/-- What the surroundings do during one round of the monitor. -/
structure Round where
  /-- Whether the connection is seen closed. -/
  closed : Bool
  /-- How a heartbeat fares, if one is due. -/
  beat : Beat
  /-- How far into the wait other records are sent. -/
  traffic : List Nat
  /-- Whether the wait ends because the signal to stop is up. -/
  stopped : Bool
  deriving Repr, Inhabited

/-- The state of the monitor between two rounds. -/
structure Monitor where
  interval : Nat
  now : Nat
  clock : SendClock
  deriving Repr, Inhabited

/-- What the monitor did in a round. -/
structure RoundReport where
  /-- When it sent a heartbeat, successfully or not. -/
  beat : Option Nat
  /-- Why the heartbeat failed. -/
  failure : Option Failure
  /-- How long it was going to wait. -/
  wait : Option Nat
  deriving DecidableEq, Repr, Inhabited

namespace Monitor

/-- Whether a heartbeat is due. -/
def due (monitor : Monitor) : Bool := monitor.interval ≤ monitor.clock.elapsed monitor.now

/-- The clock after records that were sent during a wait. -/
def afterTraffic (monitor : Monitor) (span : Nat) (traffic : List Nat) : SendClock :=
  traffic.foldl (fun clock offset =>
    if offset ≤ span then clock.touch (monitor.now + offset) else clock) monitor.clock

/-- Waits, and goes on if the signal stayed down. -/
def wait (monitor : Monitor) (span : Nat) (round : Round) : Option Monitor :=
  if round.stopped then none
  else some { monitor with
    now := monitor.now + span
    clock := monitor.afterTraffic span round.traffic }

/-- One round: what the monitor did, and its state if it goes on. -/
def step (monitor : Monitor) (round : Round) : RoundReport × Option Monitor :=
  if round.closed then (⟨none, none, none⟩, none)
  else if monitor.due then
    match round.beat with
    | .fails failure => (⟨some monitor.now, some failure, none⟩, none)
    | .sent noted =>
      let monitor' :=
        if noted then { monitor with clock := monitor.clock.touch monitor.now } else monitor
      (⟨some monitor.now, none, some monitor.interval⟩, monitor'.wait monitor.interval round)
  else
    let left := monitor.interval - monitor.clock.elapsed monitor.now
    (⟨none, none, some left⟩, monitor.wait left round)

/-- Goes through rounds until the monitor ends or there are no more of them.  `reports` are
those of earlier rounds, the last first. -/
def runFrom (reports : List RoundReport) (monitor : Monitor) :
    List Round → List RoundReport × Option Monitor
  | [] => (reports.reverse, some monitor)
  | round :: rest =>
    match monitor.step round with
    | (report, none) => ((report :: reports).reverse, none)
    | (report, some monitor) => runFrom (report :: reports) monitor rest

/-- Goes through rounds; the monitor is left if they did not end it. -/
def run (monitor : Monitor) (rounds : List Round) : List RoundReport × Option Monitor :=
  runFrom [] monitor rounds

/-- What the monitor logs about its rounds once it has ended. -/
def lines (reports : List RoundReport) : List Log.Line :=
  [Log.debug "Heartbeat thread started"] ++
    (reports.filterMap fun report => report.failure.map fun failure =>
      Log.debug ("Failed to send a heartbeat: " ++ failure.message)) ++
    [Log.debug "Heartbeat thread stopped"]

/-- The number of heartbeats sent, failed ones included. -/
def beats (reports : List RoundReport) : Nat :=
  reports.countP fun report => report.beat.isSome

end Monitor
end Link
end CoverageLink
