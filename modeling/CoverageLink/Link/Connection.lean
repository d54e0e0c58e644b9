import CoverageLink.Artifact.Sync
import CoverageLink.Link.Commands
import CoverageLink.Link.RecordWriter
import CoverageLink.Probes

/-!
# One connection to the collector

A connection goes through four phases, never back: it is unbound until its stream has been
opened with a header, then initialized, running while the collector's commands are answered,
and closed.

Commands are answered in the order in which they arrive.  A dump is answered by the report
of the probes, a pull by the artifacts the collector does not have, and either by an
acknowledgement behind that; anything else is not answered.  The same dump can be asked for
by the host program, on its own behalf (`Connection.dump`), as long as the connection is
neither unbound nor closed.

What is answered from --- the probes, the artifacts and the volume they lie in --- is kept
apart from the connection (`Holdings`), because it outlives it.  How archives among the
artifacts are read is a parameter.
-/

namespace CoverageLink
namespace Link

/-- What an agent can tell a collector. -/
structure Holdings where
  probes : Probes
  artifacts : Artifact.Sync
  volume : Files.Volume
  /-- What was logged about it, the last line first. -/
  log : List Log.Line

namespace Holdings

/-- Logs a line. -/
def note (holdings : Holdings) (line : Log.Line) : Holdings :=
  { holdings with log := line :: holdings.log }

end Holdings

/-- How far a connection has come. -/
inductive Phase
  | unbound
  | initialized
  | running
  | closed
  deriving DecidableEq, Repr, Inhabited

/-- The place of a phase in the order of phases. -/
def Phase.rank : Phase → Nat
  | unbound => 0
  | initialized => 1
  | running => 2
  | closed => 3

/-- A connection to the collector. -/
structure Connection where
  phase : Phase
  /-- The sending half. -/
  writer : RecordWriter
  /-- The receiving half. -/
  stream : RecordStream
  /-- Whether both halves are in use. -/
  bound : Bool
  /-- Whether the receiving half was given to a run. -/
  taken : Bool

namespace Connection

/-- A connection over a socket: what it receives and where it sends. -/
def new (source : Wire.Source) (sink : Wire.Sink) : Connection :=
  ⟨.unbound, ⟨sink, 0⟩, .start source, false, false⟩

/-- The connection after more octets have arrived. -/
def arrive (connection : Connection) (bytes : Bytes) : Connection :=
  let source := connection.stream.source
  { connection with
    stream := { connection.stream with source := { source with unread := source.unread ++ bytes } } }

/-- Opens the stream. -/
def init (connection : Connection) : Except Failure Unit × Connection :=
  if connection.phase ≠ .unbound then (.error .alreadyInitialized, connection)
  else
    match connection.writer.send Record.ownHeader with
    | (.error failure, writer) => (.error failure, { connection with writer })
    | (.ok (), writer) => (.ok (), { connection with writer, phase := .initialized, bound := true })

/-- Ends the connection; nothing gets through afterwards. -/
def close (connection : Connection) : Connection :=
  if connection.phase = .closed then connection
  else
    { connection with
      phase := .closed
      writer := { connection.writer with sink := connection.writer.sink.shut } }

/-! ## Answers -/

/-- Answers a dump command. -/
def answerDump (dumps resets : Bool) (state : RecordWriter × Holdings) :
    Except Failure Unit × RecordWriter × Holdings :=
  let (writer, holdings) := state
  let (result, probes, writer) : Except Failure Unit × Probes × RecordWriter :=
    if dumps then holdings.probes.collect resets RecordWriter.receive writer
    else if resets then (.ok (), holdings.probes.reset, writer)
    else (.ok (), holdings.probes, writer)
  let holdings := { holdings with probes }
  match result with
  | .error failure => (.error failure, writer, holdings)
  | .ok () =>
    let (result, writer) := writer.ok
    (result, writer, holdings)

/-- What is logged about a pull that was answered. -/
def pullLine (kind : PullKind) (tally : Artifact.Tally) : Log.Line :=
  Log.info ("Artifact sync (" ++ kind.name ++
    s!"): {tally.sent} sent, {tally.known} already known, {tally.filtered} filtered out")

/-- Answers a pull. -/
def answerPull (unpack : Artifact.Unpacker) (request : PullRequest)
    (state : RecordWriter × Holdings) : Except Failure Unit × RecordWriter × Holdings :=
  let (writer, holdings) := state
  let send : Artifact.Receiver RecordWriter := fun name contents writer =>
    writer.file name contents
  let (result, pass) :=
    holdings.artifacts.run unpack request send writer holdings.volume
  let holdings := { holdings with volume := pass.volume, log := pass.log ++ holdings.log }
  match result with
  | .error failure => (.error failure, pass.receiver, holdings)
  | .ok tally =>
    let (result, writer) := pass.receiver.ok
    (result, writer, holdings.note (pullLine request.kind tally))

/-- Answers whatever the collector sends. -/
def answer (unpack : Artifact.Unpacker) : Visitor (RecordWriter × Holdings)
  | .dump dumps resets, state => answerDump dumps resets state
  | .pull request, state => answerPull unpack request state
  | .record _, state => (.ok (), state)

/-! ## Running -/

/-- Answers up to `limit` commands. -/
def answerAll (unpack : Artifact.Unpacker) : (limit : Nat) → RecordStream →
    RecordWriter × Holdings → Except Failure Unit × RecordStream × RecordWriter × Holdings
  | 0, stream, state => (.ok (), stream, state)
  | limit + 1, stream, state =>
    match CommandReader.read (answer unpack) stream state with
    | (.ok .more, stream, state) => answerAll unpack limit stream state
    | (.ok .stop, stream, state) => (.ok (), stream, state)
    | (.error failure, stream, state) => (.error failure, stream, state)

/-- Answers the collector until it stops, and closes the connection.  Every command has a
tag, so there are at most as many of them as octets. -/
def run (connection : Connection) (holdings : Holdings)
    (unpack : Artifact.Unpacker := Archive.members?) :
    Except Failure Unit × Connection × Holdings :=
  if !connection.bound || connection.taken then (.error .notInitialized, connection, holdings)
  else
    let connection := { connection with taken := true }
    if connection.phase ≠ .initialized then (.ok (), connection, holdings)
    else
      let limit := connection.stream.source.unread.length + 1
      let (result, stream, writer, holdings) :=
        answerAll unpack limit connection.stream (connection.writer, holdings)
      (result, { connection with phase := .running, stream, writer }.close, holdings)

/-- Whether the host program may dump over the connection. -/
def isOpen (connection : Connection) : Bool :=
  connection.phase = .initialized || connection.phase = .running

/-- Dumps on behalf of the host program; does nothing unless the connection is open. -/
def dump (connection : Connection) (resets : Bool) (holdings : Holdings) :
    Except Failure Unit × Connection × Holdings :=
  if !connection.isOpen then (.ok (), connection, holdings)
  else
    let (result, writer, holdings) := answerDump true resets (connection.writer, holdings)
    (result, { connection with writer }, holdings)

/-- Sends a record that is no answer, once the stream was opened. -/
def tell (connection : Connection) (send : RecordWriter → Except Failure Unit × RecordWriter) :
    Except Failure Unit × Connection :=
  if !connection.bound then (.error .notInitialized, connection)
  else
    let (result, writer) := send connection.writer
    (result, { connection with writer })

/-- Says which project the agent belongs to. -/
def sendProjectInfo (connection : Connection) (info : ProjectInfo) :
    Except Failure Unit × Connection :=
  connection.tell fun writer => writer.projectInfo info

/-- Sends a sign of life. -/
def sendHeartbeat (connection : Connection) : Except Failure Unit × Connection :=
  connection.tell RecordWriter.heartbeat

/-- The octets the agent has sent. -/
def sent (connection : Connection) : Bytes := connection.writer.sink.bytes

@[simp] theorem phase_close (connection : Connection) : connection.close.phase = .closed := by
  unfold close
  split <;> simp_all

/-- A connection that is not open is not dumped into. -/
theorem dump_of_not_isOpen {connection : Connection} {resets : Bool} {holdings : Holdings}
    (h : connection.isOpen = false) :
    connection.dump resets holdings = (.ok (), connection, holdings) := by
  simp [dump, h]

end Connection
end Link
end CoverageLink
