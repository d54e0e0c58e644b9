import CoverageLink.Failure
import CoverageLink.Link.Backoff
import CoverageLink.Log

/-!
# Connecting again and again

An agent keeps a connection to its collector for as long as it runs.  One round of the loop
connects, opens the stream, sends the project (the handshake), answers the collector until
the connection ends, and waits before the next round.  The waits grow with the failures in a
row; a handshake that went through starts them anew.

Between its steps the loop looks whether the agent is still running.  It does so again at
the two moments where a shutdown in between would be missed: before the connection is made
available to others, and before it is declared ready.

The loop decides and the surroundings act.  What they are asked for is `Surroundings`, over
a world of any kind, and the loop is defined for all of them.  It keeps two counters and
nothing else: what others see of it, what is logged, and whether a connection is there or not,
is part of the world.
-/

namespace CoverageLink
namespace Link

/-- What others see of the loop. -/
inductive Standing
  | disconnected
  | connecting
  | connected
  | stopped
  deriving DecidableEq, Repr, Inhabited

/-- What the loop asks of the rest of the world. -/
structure Surroundings (σ : Type) where
  /-- Whether the agent is still running. -/
  running : σ → Bool × σ
  /-- Tells others how the loop stands. -/
  stand : Standing → σ → σ
  connect : σ → Except Failure Unit × σ
  /-- Opens the stream. -/
  open_ : σ → Except Failure Unit × σ
  /-- Makes the connection available to others, who may close it. -/
  install : σ → σ
  /-- Sends the project. -/
  handshake : σ → Except Failure Unit × σ
  /-- Declares the connection ready, so that others may dump into it. -/
  ready : σ → σ
  /-- Sets up the signs of life. -/
  watch : σ → Except Failure Unit × σ
  /-- Answers the collector until the connection ends. -/
  answer : σ → Except Failure Unit × σ
  /-- Takes the signs of life down. -/
  unwatch : σ → σ
  close : σ → σ
  /-- Takes the connection away from others. -/
  remove : σ → σ
  /-- Waits until the delay is over or the signal to stop is raised, and reports which. -/
  wait : Interval → σ → Bool × σ
  log : Log.Line → σ → σ

/-- How far the loop has come. -/
structure Reconnect (σ : Type) where
  /-- The failures since the last handshake, counted for the waits. -/
  failures : UInt32
  attempts : Nat
  world : σ

namespace Reconnect

variable {σ : Type}

/-- The loop before its first round. -/
def start (world : σ) : Reconnect σ := ⟨0, 0, world⟩

/-- Asks the surroundings for something. -/
def ask {α : Type} (loop : Reconnect σ) (request : σ → α × σ) : α × Reconnect σ :=
  let (reply, world) := request loop.world
  (reply, { loop with world })

/-- Has the surroundings do something. -/
def tell (loop : Reconnect σ) (order : σ → σ) : Reconnect σ :=
  { loop with world := order loop.world }

/-- A counter that stops at its greatest value. -/
def countFailure (failures : UInt32) : UInt32 :=
  if failures = 0xFFFFFFFF then failures else failures + 1

/-- Sends the project.  If that succeeds, the waits start anew. -/
def handshake (surroundings : Surroundings σ) (loop : Reconnect σ) :
    Except Failure Unit × Reconnect σ :=
  match loop.ask surroundings.handshake with
  | (.error failure, loop) => (.error failure, loop)
  | (.ok (), loop) => (.ok (), { loop with failures := 0 })

/-- What is done with a connection that is ready. -/
def converse (surroundings : Surroundings σ) (loop : Reconnect σ) :
    Except Failure Bool × Reconnect σ :=
  match loop.ask surroundings.watch with
  | (.error failure, loop) => (.error failure, loop)
  | (.ok (), loop) =>
    let (result, loop) := loop.ask surroundings.answer
    (result.map fun _ => true, (loop.tell surroundings.close).tell surroundings.unwatch)

/-- What is done with a connection that others may close: whether it was declared ready, or
why not. -/
def drive (surroundings : Surroundings σ) (loop : Reconnect σ) :
    Except Failure Bool × Reconnect σ :=
  match loop.handshake surroundings with
  | (.error failure, loop) => (.error failure, loop)
  | (.ok (), loop) =>
    match loop.ask surroundings.running with
    | (false, loop) => (.ok false, loop)
    | (true, loop) =>
      let loop := (loop.tell surroundings.ready).tell (surroundings.stand .connected)
      (loop.tell (surroundings.log (Log.info "Connected to the collector"))).converse surroundings

/-- One attempt: whether a connection was had, or why not. -/
def attempt (surroundings : Surroundings σ) (loop : Reconnect σ) :
    Except Failure Bool × Reconnect σ :=
  match loop.ask surroundings.connect with
  | (.error failure, loop) => (.error failure, loop)
  | (.ok (), loop) =>
    match loop.ask surroundings.open_ with
    | (.error failure, loop) => (.error failure, loop)
    | (.ok (), loop) =>
      match loop.ask surroundings.running with
      | (false, loop) => (.ok false, loop.tell surroundings.close)
      | (true, loop) =>
        let (result, loop) := (loop.tell surroundings.install).drive surroundings
        (result, (loop.tell surroundings.close).tell surroundings.remove)

/-- What is logged about an attempt; a failure only matters while the agent is running. -/
def report (surroundings : Surroundings σ) (result : Except Failure Bool) (loop : Reconnect σ) :
    Reconnect σ :=
  match result with
  | .ok true => loop.tell (surroundings.log (Log.info "Disconnected from the collector"))
  | .ok false => loop
  | .error failure =>
    match loop.ask surroundings.running with
    | (false, loop) => loop
    | (true, loop) =>
      loop.tell (surroundings.log (Log.info
        (s!"Connection attempt #{loop.attempts} to the collector failed: " ++ failure.message)))

/-- The wait after a round: whether there is another round. -/
def pause (backoff : Backoff) (surroundings : Surroundings σ) (loop : Reconnect σ) :
    Bool × Reconnect σ :=
  let delay := backoff.delay loop.failures
  let loop := loop.tell (surroundings.stand .disconnected)
  let loop := { loop with failures := countFailure loop.failures }.tell
    (surroundings.log (Log.info
      s!"Reconnecting in {delay.millis}ms (attempt #{loop.attempts + 1})..."))
  let (stopped, loop) := loop.ask (surroundings.wait delay)
  (!stopped, loop)

/-- The beginning of a round: whether there is one. -/
def begin_ (surroundings : Surroundings σ) (loop : Reconnect σ) : Bool × Reconnect σ :=
  match loop.ask surroundings.running with
  | (false, loop) => (false, loop)
  | (true, loop) =>
    (true, { loop with attempts := loop.attempts + 1 }.tell (surroundings.stand .connecting))

/-- The rest of a round: whether there is another one. -/
def finish (backoff : Backoff) (surroundings : Surroundings σ) (loop : Reconnect σ) :
    Bool × Reconnect σ :=
  let (result, loop) := loop.attempt surroundings
  match (loop.report surroundings result).ask surroundings.running with
  | (false, loop) => (false, loop)
  | (true, loop) => loop.pause backoff surroundings

/-- One round: whether there is another one. -/
def round (backoff : Backoff) (surroundings : Surroundings σ) (loop : Reconnect σ) :
    Bool × Reconnect σ :=
  match loop.begin_ surroundings with
  | (false, loop) => (false, loop)
  | (true, loop) => loop.finish backoff surroundings

/-- The end of the loop. -/
def stop (surroundings : Surroundings σ) (loop : Reconnect σ) : Reconnect σ :=
  (loop.tell (surroundings.stand .stopped)).tell
    (surroundings.log (Log.debug "Cycle thread stopped"))

/-- At most so many rounds: whether the loop ended. -/
def run (backoff : Backoff) (surroundings : Surroundings σ) :
    (rounds : Nat) → Reconnect σ → Bool × Reconnect σ
  | 0, loop => (false, loop)
  | rounds + 1, loop =>
    match loop.round backoff surroundings with
    | (false, loop) => (true, loop.stop surroundings)
    | (true, loop) => run backoff surroundings rounds loop

end Reconnect
end Link
end CoverageLink
