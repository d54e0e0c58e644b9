import CoverageLink.Files.Stream
import CoverageLink.Record.Encode

/-!
# Files of execution data

A file of execution data is a stream of records of its own: a header, then sessions and the
data of classes.  Other records do not belong there, and appending one does nothing.

What is written is held back until `capacity` octets have come together or the file is
flushed, and then passed on to the volume.  Records are written piece by piece as they are
put into octets, so of a record that cannot be put into octets completely the pieces before
the failure are written all the same.
-/

namespace CoverageLink
namespace Collector

open Files (Path Volume)

/-- A file of execution data that is being written. -/
structure ExecutionFile where
  path : Path
  /-- The number of the file in its volume. -/
  number : Nat
  /-- How many octets were passed on. -/
  offset : Nat
  /-- The octets held back. -/
  pending : Array UInt8
  /-- How many records were appended. -/
  records : Nat
  deriving Repr, Inhabited

namespace ExecutionFile

/-- From how many octets on nothing more is held back. -/
def capacity : Nat := 8192

/-- Passes octets on to the volume. -/
def pass (file : ExecutionFile) (bytes : Bytes) (volume : Volume) : ExecutionFile × Volume :=
  if bytes.isEmpty then (file, volume)
  else ({ file with offset := file.offset + bytes.length },
    volume.writeAt file.number file.offset bytes)

/-- Passes on what is held back. -/
def flush (file : ExecutionFile) (volume : Volume) : ExecutionFile × Volume :=
  let (file, volume) := file.pass file.pending.toList volume
  ({ file with pending := #[] }, volume)

/-- Holds a piece back. -/
def hold (file : ExecutionFile) (piece : Bytes) : ExecutionFile :=
  { file with pending := file.pending ++ piece.toArray }

/-- Writes a piece: it is held back if there is room for it, once the octets before it were
passed on if need be; a piece that never has room is passed on by itself. -/
def write (piece : Bytes) (state : ExecutionFile × Volume) : ExecutionFile × Volume :=
  let (file, volume) := state
  let free := capacity - file.pending.size
  if piece.length < free then (file.hold piece, volume)
  else
    let (file, volume) := if free < piece.length then file.flush volume else (file, volume)
    if capacity ≤ piece.length then file.pass piece volume else (file.hold piece, volume)

/-- Writes pieces one after the other. -/
def writePieces (file : ExecutionFile) (pieces : List Bytes) (volume : Volume) :
    ExecutionFile × Volume :=
  pieces.foldl (fun state piece => write piece state) (file, volume)

/-- Makes a file of execution data, or empties the file that is there; its header is written
at once. -/
def create (path : Path) (volume : Volume) : Except Failure ExecutionFile × Volume :=
  match volume.openFile .emptied path with
  | (.error failure, volume) => (.error failure, volume)
  | (.ok (number, _), volume) =>
    let (file, volume) :=
      writePieces ⟨path, number, 0, #[], 0⟩ Record.ownHeader.emission.pieces volume
    (.ok file, volume)

/-- Whether a record belongs into a file of execution data. -/
def admits : Record → Bool
  | .sessionInfo _ | .executionData _ => true
  | _ => false

/-- Appends a record. -/
def append (file : ExecutionFile) (record : Record) (volume : Volume) :
    Except Failure Unit × ExecutionFile × Volume :=
  if !admits record then (.ok (), file, volume)
  else
    let emission := record.emission
    let (file, volume) := file.writePieces emission.pieces volume
    match emission.fault with
    | some failure => (.error failure, file, volume)
    | none => (.ok (), { file with records := file.records + 1 }, volume)

@[simp] theorem records_pass (file : ExecutionFile) (bytes : Bytes) (volume : Volume) :
    (file.pass bytes volume).1.records = file.records := by
  unfold pass
  split <;> rfl

@[simp] theorem records_flush (file : ExecutionFile) (volume : Volume) :
    (file.flush volume).1.records = file.records :=
  records_pass file file.pending.toList volume

end ExecutionFile
end Collector
end CoverageLink
