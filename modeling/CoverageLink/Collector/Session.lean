import CoverageLink.Collector.Store
import CoverageLink.Interval
import CoverageLink.Link.RecordWriter
import CoverageLink.Log
import CoverageLink.Record.Stream

/-!
# Serving one agent

A session takes an agent's records in the order in which they arrive.  The first project
info decides where everything is kept; what arrives before it is ignored.  Upon it the
collector asks for the artifacts it does not have, once, and then for a dump at regular
intervals, if it was told to.  Artifacts are stored one by one.  Execution data goes to one
file, which is begun when the first of it arrives and is complete on disk at every
acknowledgement and at the end of the session.

A session ends well when the agent's stream ends, even in the middle of a record, and when
the operator stops the collector.  It ends badly when the stream is no stream of records, and
when the collector's own writing fails; an artifact that cannot be stored is only logged.

Times of day do not occur here: the moment at which the file of execution data is begun is a
text (`Peer.stamp`), and how many dumps were asked for before a record arrives is a parameter
(`Peer.ticks`).
-/

namespace CoverageLink
namespace Collector

open Files (Volume)
open Link (RecordWriter)

/-- What a collector was told to do. -/
structure Settings where
  output : Files.Path
  /-- How often dumps are asked for, if they are. -/
  dumpInterval : Option Interval
  /-- Whether dumps clear the probes. -/
  resets : Bool
  /-- Whether artifacts are asked for. -/
  pulls : Bool
  /-- How long an agent may be silent. -/
  heartbeatTimeout : Interval
  deriving Repr, Inhabited

/-- An agent as its collector sees it. -/
structure Peer where
  /-- How the agent is named in the log. -/
  address : String
  /-- The port it came from. -/
  port : String
  /-- When its execution data begins to be written. -/
  stamp : String
  /-- How many dumps come due before the record of this number arrives. -/
  ticks : Nat → Nat

/-- What a session has achieved. -/
structure Summary where
  project : Option ProjectInfo
  /-- How many artifacts were stored. -/
  files : Nat
  /-- How many records of execution data were written. -/
  records : Nat
  /-- Where they were written. -/
  path : Option Files.Path
  deriving DecidableEq, Repr, Inhabited

/-- A session. -/
structure Session where
  settings : Settings
  peer : Peer
  writer : RecordWriter
  project : Option ProjectStore
  file : Option ExecutionFile
  /-- Whether dumps are being asked for. -/
  timed : Bool
  summary : Summary
  volume : Volume
  /-- What was logged, the last line first. -/
  log : List Log.Line

namespace Session

/-- A session at its beginning. -/
def new (settings : Settings) (peer : Peer) (writer : RecordWriter) (volume : Volume) : Session :=
  ⟨settings, peer, writer, none, none, false, ⟨none, 0, 0, none⟩, volume, []⟩

/-- Logs a line. -/
def note (session : Session) (line : Log.Line) : Session :=
  { session with log := line :: session.log }

/-- Logs several lines. -/
def notes (session : Session) (lines : List Log.Line) : Session := lines.foldl note session

/-- The lines about a project. -/
def projectLines (address : String) (info : ProjectInfo) : List Log.Line :=
  [Log.info ("Agent " ++ address ++ " belongs to " ++ info.product ++ "/" ++ info.project ++ ":"),
    Log.info ("   Service: " ++ info.service), Log.info ("    Branch: " ++ info.branch),
    Log.info ("    Commit: " ++ info.commit), Log.info ("   Git URL: " ++ info.gitUrl)]

/-- Asks for the artifacts that a project does not have. -/
def pull (session : Session) (project : ProjectStore) : Except Failure Unit × Session :=
  if !session.settings.pulls then (.ok (), session)
  else
    match project.knownIds session.volume with
    | .error failure => (.error failure, session)
    | .ok known =>
      let session := session.note (Log.info ("Pulling classes from " ++ session.peer.address ++
        s!" ({known.size} already known)"))
      let (result, writer) := session.writer.pull .classes known
      (result, { session with writer })

/-- Takes a project info; only the first one counts. -/
def handshake (session : Session) (info : ProjectInfo) : Except Failure Unit × Session :=
  match session.project with
  | some _ =>
    (.ok (), session.note (Log.warn ("Agent " ++ session.peer.address ++
      " sent its project info twice; ignoring")))
  | none =>
    let session := session.notes (projectLines session.peer.address info)
    match (Store.mk session.settings.output).project info session.volume with
    | (.error failure, volume) => (.error failure, { session with volume })
    | (.ok project, volume) =>
      match { session with volume }.pull project with
      | (.error failure, session) => (.error failure, session)
      | (.ok (), session) =>
        (.ok (), { session with
          project := some project
          timed := session.settings.dumpInterval.isSome
          summary := { session.summary with project := some info } })

/-- Stores an artifact. -/
def takeFile (session : Session) (artifact : ArtifactFile) : Session :=
  match session.project with
  | none =>
    session.note (Log.warn ("Agent " ++ session.peer.address ++ " sent '" ++ artifact.name ++
      "' before its project info; ignoring"))
  | some project =>
    match project.saveFile artifact.name artifact.contents session.volume with
    | (.ok path, volume) =>
      { session with
        volume
        summary := { session.summary with files := session.summary.files + 1 } }.note
          (Log.debug ("Stored " ++ Text.quoted path.text ++
            s!" ({artifact.contents.length} bytes)"))
    | (.error failure, volume) =>
      { session with volume }.note
        (Log.warn ("Failed to store '" ++ artifact.name ++ "' from " ++ session.peer.address ++
          ": " ++ failure.message))

/-- Begins the file of execution data unless it was begun; there is none without a project. -/
def provideFile (session : Session) : Except Failure Unit × Session :=
  match session.file, session.project with
  | some _, _ => (.ok (), session)
  | none, none =>
    (.ok (), session.note (Log.warn ("Agent " ++ session.peer.address ++
      " sent execution data before its project info; ignoring")))
  | none, some project =>
    let label := sessionLabel session.peer.stamp session.peer.port
    match project.executionFile label session.volume with
    | (.error failure, volume) => (.error failure, { session with volume })
    | (.ok file, volume) =>
      (.ok (), { session with
        volume
        file := some file
        summary := { session.summary with path := some file.path } }.note
          (Log.info ("Writing execution data from " ++ session.peer.address ++ " to " ++
            Text.quoted file.path.text)))

/-- Takes a record of execution data. -/
def takeData (session : Session) (record : Record) : Except Failure Unit × Session :=
  match session.provideFile with
  | (.error failure, session) => (.error failure, session)
  | (.ok (), session) =>
    match session.file with
    | none => (.ok (), session)
    | some file =>
      match file.append record session.volume with
      | (.error failure, file, volume) =>
        (.error failure, { session with file := some file, volume })
      | (.ok (), file, volume) =>
        (.ok (), { session with
          file := some file
          volume
          summary := { session.summary with records := session.summary.records + 1 } })

/-- Completes the file of execution data on disk. -/
def flush (session : Session) : Session :=
  match session.file with
  | none => session
  | some file =>
    let (file, volume) := file.flush session.volume
    { session with file := some file, volume }

/-- Takes a record. -/
def take (session : Session) (record : Record) : Except Failure Unit × Session :=
  let agent := "Agent " ++ session.peer.address
  match record with
  | .header version =>
    (.ok (), session.note (Log.debug (agent ++ " speaks format version 0x" ++
      upperHex 4 version.toNat)))
  | .projectInfo info => session.handshake info
  | .heartbeat => (.ok (), session.note (Log.trace ("Heartbeat from " ++ session.peer.address)))
  | .file artifact => (.ok (), session.takeFile artifact)
  | .sessionInfo _ | .executionData _ => session.takeData record
  | .ok => (.ok (), (session.note (Log.debug (agent ++ " acknowledged a command"))).flush)
  | .dump _ _ | .pull _ =>
    (.ok (), session.note (Log.warn (agent ++ " sent a command block; ignoring")))

/-- Asks for dumps that have come due, up to the first one that cannot be sent. -/
def askForDumps (session : Session) : (due : Nat) → Session
  | 0 => session
  | due + 1 =>
    if !session.timed then session
    else
      let resets := session.settings.resets
      let session := session.note (Log.debug s!"Requesting a dump (reset: {resets})")
      match session.writer.dump true resets with
      | (.ok (), writer) => askForDumps { session with writer } due
      | (.error failure, writer) =>
        { session with writer, timed := false }.note
          (Log.debug ("Failed to request a dump: " ++ failure.message))

/-- Takes up to `limit` records, the first of which has the given number.  `stopped` says
whether the operator has stopped the collector. -/
def takeAll (stopped : Bool) :
    (limit number : Nat) → RecordStream → Session → Except Failure Unit × Session
  | 0, _, _, session => (.ok (), session)
  | limit + 1, number, stream, session =>
    let session := session.askForDumps (session.peer.ticks number)
    match stream.next with
    | (.ok none, _) => (.ok (), session)
    | (.error failure, _) =>
      (if failure.kind = .unexpectedEof || stopped then .ok () else .error failure, session)
    | (.ok (some record), stream) =>
      match session.take record with
      | (.error failure, session) => (.error failure, session)
      | (.ok (), session) => takeAll stopped limit (number + 1) stream session

/-- Serves an agent from the beginning to the end: whether the session ended well, and the
session as it was left.  Every record has a tag, so there are at most as many of them as
octets.  A wait for the agent needs a duration. -/
def serve (settings : Settings) (stopped : Bool) (peer : Peer) (source : Wire.Source)
    (sink : Wire.Sink) (volume : Volume) : Except Failure Summary × Session :=
  if settings.heartbeatTimeout = .zero then
    (.error .zeroTimeout, new settings peer ⟨sink, 0⟩ volume)
  else
    match RecordWriter.start sink with
    | (.error failure, writer) => (.error failure, new settings peer writer volume)
    | (.ok (), writer) =>
      let limit := source.unread.length + 1
      let (result, session) :=
        takeAll stopped limit 0 (.start source) (new settings peer writer volume)
      let session := session.flush
      (result.map fun _ => session.summary, session)

/-- What was logged, in order. -/
def lines (session : Session) : List Log.Line := session.log.reverse

/-- The octets the collector has sent. -/
def sent (session : Session) : Bytes := session.writer.sink.bytes

end Session
end Collector
end CoverageLink
