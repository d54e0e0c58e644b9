import CoverageLink.Record.Encode

/-!
# Sending records

A record writer puts records onto one transport, each of them encoded before the first of
its octets is sent: a record that cannot be encoded leaves no trace on the stream.  What
is encoded is written in one go and flushed, and only if all of that succeeds does the
record count as sent.  The count of sent records (`RecordWriter.touches`) is what tells a
heartbeat that there was traffic.

Execution data without a hit and files without contents say nothing; they are dropped
before they are encoded, successfully.
-/

namespace CoverageLink
namespace Link

open Wire (Sink)

/-- A stream of records on its way out. -/
structure RecordWriter where
  sink : Sink
  /-- How many records were sent. -/
  touches : Nat

namespace RecordWriter

/-- Sends a record. -/
def send (writer : RecordWriter) (record : Record) : Except Failure Unit × RecordWriter :=
  match record.encode with
  | .error failure => (.error failure, writer)
  | .ok bytes =>
    match writer.sink.writeAll bytes with
    | (.error failure, sink) => (.error failure, { writer with sink })
    | (.ok (), sink) =>
      match sink.flush with
      | (.error failure, sink) => (.error failure, { writer with sink })
      | (.ok (), sink) => (.ok (), ⟨sink, writer.touches + 1⟩)

/-- Opens a stream on a transport: its header is sent at once. -/
def start (sink : Sink) : Except Failure Unit × RecordWriter := send ⟨sink, 0⟩ Record.ownHeader

/-- Sends the session of a dump. -/
def sessionInfo (writer : RecordWriter) (info : SessionInfo) :
    Except Failure Unit × RecordWriter :=
  writer.send (.sessionInfo info)

/-- Sends the data of a class, unless no probe of it was hit; reports whether it was sent. -/
def executionData (writer : RecordWriter) (data : ExecutionData) :
    Except Failure Bool × RecordWriter :=
  if !data.hasHits then (.ok false, writer)
  else
    let (result, writer) := writer.send (.executionData data)
    (result.map fun _ => true, writer)

/-- Sends a sign of life. -/
def heartbeat (writer : RecordWriter) : Except Failure Unit × RecordWriter :=
  writer.send .heartbeat

/-- Sends a file, unless it is empty. -/
def file (writer : RecordWriter) (name : String) (contents : Bytes) :
    Except Failure Unit × RecordWriter :=
  if contents.isEmpty then (.ok (), writer) else writer.send (.file ⟨name, contents⟩)

/-- Sends what the stream is about. -/
def projectInfo (writer : RecordWriter) (info : ProjectInfo) :
    Except Failure Unit × RecordWriter :=
  writer.send (.projectInfo info)

/-- Acknowledges a command. -/
def ok (writer : RecordWriter) : Except Failure Unit × RecordWriter := writer.send .ok

/-- Asks for a dump, a reset, or both. -/
def dump (writer : RecordWriter) (dumps resets : Bool) : Except Failure Unit × RecordWriter :=
  writer.send (.dump dumps resets)

/-- Asks for artifacts. -/
def pull (writer : RecordWriter) (kind : PullKind) (known : KnownIds) :
    Except Failure Unit × RecordWriter :=
  writer.send (.pull ⟨kind, known⟩)

/-- Takes a record of a dump: the session as it is, data only with hits, nothing else. -/
def receive (record : Record) (writer : RecordWriter) : Except Failure Unit × RecordWriter :=
  match record with
  | .sessionInfo info => writer.sessionInfo info
  | .executionData data =>
    let (result, writer) := writer.executionData data
    (result.map fun _ => (), writer)
  | _ => (.ok (), writer)

/-- What cannot be encoded is not sent, and changes nothing. -/
theorem send_of_encode_error {writer : RecordWriter} {record : Record} {failure : Failure}
    (h : record.encode = .error failure) : writer.send record = (.error failure, writer) := by
  simp [send, h]

end RecordWriter
end Link
end CoverageLink
