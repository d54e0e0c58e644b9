import CoverageLink.Link.Connection
import CoverageLink.Link.Reconnect
import CoverageLink.Settings

/-!
# The agent

An agent lives in a host program.  Started with valid settings it connects to its collector
again and again, in the background, until it is shut down; meanwhile the host program hits
probes and may ask for a dump, which goes to the collector if one is connected and ready, and
nowhere otherwise.

This module runs the loop of `Link.Reconnect` against one collector after the other.  How an
attempt to connect goes is an `Encounter`.  The connector is a function of the host program, and
if it panics, the background thread is gone and the agent stays where it was until it is shut
down.  What the host program does while it is connected (`Action`) happens before the
collector's commands arrive.

Everything the loop asks for is done here (`World.surroundings`): others see the agent stand as
the loop said last, and find the connection that it made available to them.
-/

namespace CoverageLink

open Artifact (Unpacker)
open Link (Connection Holdings Reconnect Standing Surroundings)

namespace Agent

/-- What the host program does with an agent. -/
inductive Action
  | dump (resets : Bool)
  | hit (id : Int64) (index : Nat)
  /-- Asks how the agent stands. -/
  | look
  deriving DecidableEq, Repr, Inhabited

/-- What came of an action. -/
inductive Reaction
  | dumped (result : Except Failure Unit)
  | hit
  | stands (standing : Standing)

/-- How an attempt to connect goes. -/
inductive Encounter
  | refused (failure : Failure)
  /-- The connector panics, and takes the background thread with it. -/
  | collapsed
  /-- A collector that sends commands, after the host program has acted. -/
  | met (commands : Bytes) (actions : List Action)
  deriving Inhabited

/-- What a collector got, and what came of the actions meanwhile. -/
structure Meeting where
  sent : Bytes
  reactions : List Reaction

/-- The world of the loop. -/
structure World where
  project : ProjectInfo
  holdings : Holdings
  /-- How archives are read. -/
  unpack : Unpacker
  running : Bool
  /-- What others see of the loop. -/
  standing : Standing
  encounter : Encounter
  connection : Option Connection
  /-- Whether the connection that others find is ready, if they find one. -/
  shared : Option Bool
  reactions : List Reaction
  /-- The collectors met so far, the last one first. -/
  meetings : List Meeting
  /-- What the loop logged, the last line first. -/
  lines : List Log.Line

namespace World

/-- Asks the connection for something. -/
def ask (world : World) (request : Connection → Except Failure Unit × Connection) :
    Except Failure Unit × World :=
  match world.connection with
  | none => (.error .notInitialized, world)
  | some connection =>
    let (result, connection) := request connection
    (result, { world with connection := some connection })

/-- Reaches the collector of the encounter. -/
def connect (world : World) : Except Failure Unit × World :=
  match world.encounter with
  | .refused failure => (.error failure, world)
  | .collapsed => (.error .notInitialized, world)
  | .met commands _ =>
    let connection := Connection.new (.ofBytes commands) Wire.Sink.open_
    (.ok (), { world with connection := some connection, reactions := [] })

/-- Lets the host program act.  It dumps into a connection that it finds and that is ready. -/
def act (world : World) (action : Action) : Reaction × World :=
  match action with
  | .hit id index =>
    (.hit, { world with
      holdings := { world.holdings with probes := world.holdings.probes.hit id index } })
  | .look => (.stands world.standing, world)
  | .dump resets =>
    match world.connection, world.shared with
    | some connection, some true =>
      let (result, connection, holdings) := connection.dump resets world.holdings
      (.dumped result, { world with connection := some connection, holdings })
    | _, _ => (.dumped (.ok ()), world)

/-- Lets the host program act, and then answers the collector. -/
def answer (world : World) : Except Failure Unit × World :=
  let actions := match world.encounter with
    | .met _ actions => actions
    | _ => []
  let world := actions.foldl (fun world action =>
    let (reaction, world) := world.act action
    { world with reactions := world.reactions ++ [reaction] }) world
  match world.connection with
  | none => (.error .notInitialized, world)
  | some connection =>
    let (result, connection, holdings) := connection.run world.holdings world.unpack
    (result, { world with
      connection := some connection
      holdings := { holdings with log := [] }
      lines := holdings.log ++ world.lines })

/-- Closes the connection; the collector has got all it gets. -/
def close (world : World) : World :=
  match world.connection with
  | none => world
  | some connection =>
    { world with
      connection := none
      meetings := ⟨connection.close.sent, world.reactions⟩ :: world.meetings }

/-- What the loop is answered, and what is done when it asks for something.  Waiting takes no
time here, and signs of life are not due as long as commands arrive. -/
def surroundings : Surroundings World where
  running world := (world.running, world)
  stand standing world := { world with standing }
  connect := connect
  open_ world := world.ask Connection.init
  install world := { world with shared := some false }
  handshake world := world.ask fun connection => connection.sendProjectInfo world.project
  ready world := { world with shared := world.shared.map fun _ => true }
  watch world := (.ok (), world)
  answer := answer
  unwatch world := world
  close := close
  remove world := { world with shared := none }
  wait _ world := (!world.running, world)
  log line world := { world with lines := line :: world.lines }

end World

/-- What the background thread is doing. -/
inductive Thread
  | looping
  /-- Waiting for a connection that does not come. -/
  | waiting
  | ended
  | collapsed
  deriving DecidableEq, Repr, Inhabited

end Agent

/-- What the loop of an agent logged, in order. -/
def Link.Reconnect.lines (loop : Reconnect Agent.World) : List Log.Line :=
  loop.world.lines.reverse

/-- An agent that was started. -/
structure Agent where
  settings : Settings
  loop : Reconnect Agent.World
  thread : Agent.Thread

namespace Agent

/-- What a start says: the lines it logs, and the agent or the objection to the settings.
`temporary` is where archives are unpacked unless the settings say where. -/
def start (settings : Settings) (temporary : String) (probes : Probes) (volume : Files.Volume)
    (unpack : Unpacker := Archive.members?) (glob : Artifact.Glob := Wildcard.compile) :
    List Log.Line × Except SettingsFault Agent :=
  match settings.validate glob, settings.filter glob with
  | .error fault, _ => ([Log.error ("Invalid configuration: " ++ fault.message)], .error fault)
  | .ok (), .error fault => (settings.lines, .error fault)
  | .ok (), .ok filter =>
    let artifacts : Artifact.Sync :=
      { dumpFolder := .ofText settings.dumpDirectory
        archive := settings.archive.map Files.Path.ofText
        filter
        denied := settings.denied
        scratch := .ofText (settings.scratchDirectory.getD temporary) }
    let world : World :=
      { project := settings.project
        holdings := ⟨probes, artifacts, volume, []⟩
        unpack
        running := true
        standing := .disconnected
        encounter := .refused .notInitialized
        connection := none
        shared := none
        reactions := []
        meetings := []
        lines := [] }
    (settings.lines ++ [Log.info "Agent started"],
      .ok ⟨settings, .start world, .looping⟩)

/-- Lets an attempt to connect go in a certain way, if the agent still makes attempts. -/
def meet (agent : Agent) (encounter : Encounter) : Agent :=
  match agent.thread with
  | .ended | .collapsed | .waiting => agent
  | .looping =>
    let loop := { agent.loop with world := { agent.loop.world with encounter } }
    match loop.begin_ World.surroundings, encounter with
    | (false, loop), _ => { agent with loop := loop.stop World.surroundings, thread := .ended }
    | (true, loop), .collapsed => { agent with loop, thread := .collapsed }
    | (true, loop), _ =>
      let (more, loop) := loop.finish agent.settings.backoff World.surroundings
      if more then { agent with loop }
      else { agent with loop := loop.stop World.surroundings, thread := .ended }

/-- Lets the next attempt to connect wait for an answer. -/
def wait (agent : Agent) : Agent :=
  match agent.thread with
  | .ended | .collapsed | .waiting => agent
  | .looping =>
    match agent.loop.begin_ World.surroundings with
    | (false, loop) => { agent with loop := loop.stop World.surroundings, thread := .ended }
    | (true, loop) => { agent with loop, thread := .waiting }

/-- What others see of the agent. -/
def standing (agent : Agent) : Standing := agent.loop.world.standing

/-- Lets the host program act while no collector is connected. -/
def act (agent : Agent) (action : Action) : Reaction × Agent :=
  let (reaction, world) := agent.loop.world.act action
  (reaction, { agent with loop := { agent.loop with world } })

/-- Shuts the agent down; a connection that was waited for ends in the given way.  Says what
is logged about it, and what collectors have got. -/
def shutDown (agent : Agent) (ending : Encounter) : List Log.Line × Agent :=
  let world := { agent.loop.world with running := false, encounter := ending }
  let loop := { agent.loop with world }
  let (collapsed, loop) := match agent.thread, ending with
    | .collapsed, _ | .waiting, .collapsed => (true, loop)
    | .waiting, _ =>
      let (_, loop) := loop.finish agent.settings.backoff World.surroundings
      (false, loop.stop World.surroundings)
    | .looping, _ => (false, loop.stop World.surroundings)
    | .ended, _ => (false, loop)
  ((if collapsed then [Log.warn "The cycle thread panicked"] else []) ++
      [Log.info "Agent stopped"],
    { agent with loop := loop.tell (World.surroundings.stand .stopped), thread := .ended })

end Agent
end CoverageLink
