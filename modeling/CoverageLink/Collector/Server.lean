import CoverageLink.Collector.Session

/-!
# Serving agent after agent

A collector accepts agents until its operator stops it, and serves each of them in a session
of its own.  What a bad session does ends with it.  Here the agents come one after the other,
so each of them finds the volume as the one before has left it.
-/

namespace CoverageLink
namespace Collector

open Files (Volume)

/-- An agent that comes to a collector: who it is, what it sends, and how long its session
lasted, in seconds. -/
structure Caller where
  peer : Peer
  source : Wire.Source
  seconds : Nat

/-- An agent that sends octets, never slowly, and hangs up. -/
def Caller.sending (address port stamp : String) (octets : Bytes) : Caller :=
  ⟨⟨address, port, stamp, fun _ => 0⟩, .ofBytes octets, 0⟩

/-- What came of a server. -/
structure Service where
  log : List Log.Line
  /-- What each agent got. -/
  received : List Bytes
  volume : Volume

namespace Service

/-- The line about the end of a session. -/
def farewell (caller : Caller) : Except Failure Summary → Log.Line
  | .ok summary =>
    Log.info ("Agent " ++ caller.peer.address ++ " disconnected after " ++
      elapsed caller.seconds ++ s!"; {summary.files} file(s) and {summary.records} " ++
      "execution data record(s) received")
  | .error failure =>
    Log.error ("Dropped agent " ++ caller.peer.address ++ ": " ++ failure.message)

/-- Serves one more agent. -/
def serve (settings : Settings) (service : Service) (caller : Caller) : Service :=
  let (result, session) :=
    Session.serve settings false caller.peer caller.source Wire.Sink.open_ service.volume
  { log := service.log ++ [Log.info ("Agent connected from " ++ caller.peer.address)] ++
      session.lines ++ [farewell caller result]
    received := service.received ++ [session.sent]
    volume := session.volume }

/-- Serves agents one after the other until the operator stops the collector.  `place` is
where it listens. -/
def run (settings : Settings) (place : String) (callers : List Caller) (volume : Volume) :
    Service :=
  let opened : Service := ⟨[Log.info ("Listening on " ++ place ++ "...")], [], volume⟩
  let served := callers.foldl (serve settings) opened
  { served with log := served.log ++ [Log.info "Waiting for 0 agent thread(s) to finish..."] }

end Service
end Collector
end CoverageLink
