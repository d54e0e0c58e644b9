import CoverageLink.Bytes
import CoverageLink.Failure

/-!
# Writing to a transport

The counterpart of `Source`: a transport that takes octets.  A single write may take
fewer octets than it is offered, so whoever has a whole string to send repeats the call
until all of it is taken (`Sink.writeAll`).

A sink may be given a capacity.  Once that many octets were taken, every write is turned
away, and a write that would cross the capacity is shortened to reach it exactly; so at
every moment the sink holds a prefix of what was offered to it.  It may also be told to
fail its flushes from the `n`-th on.

The octets taken are kept last first; `Sink.bytes` is the view in the order of writing.
-/

namespace CoverageLink
namespace Wire

/-- How a full sink turns a write away. -/
inductive Refusal
  /-- The write fails. -/
  | fails (failure : Failure)
  /-- The write succeeds and takes nothing. -/
  | takesNothing
  deriving DecidableEq, Repr, Inhabited

/-- What a writer is told after a refusal: taking nothing is a failure of its own. -/
def Refusal.failure : Refusal → Failure
  | fails failure => failure
  | takesNothing => .nothingTaken

/-- A transport to write to. -/
structure Sink where
  /-- The octets taken, the last first. -/
  backwards : Bytes
  /-- The number of octets taken. -/
  count : Nat
  /-- How many octets are taken in all, and what happens then. -/
  capacity : Option (Nat × Refusal)
  /-- The most octets the write of this number takes, less one; `none` for no limit. -/
  most : Nat → Option Nat
  /-- The number of writes made. -/
  writes : Nat
  /-- The number of flushes made. -/
  flushes : Nat
  /-- The flush from which on flushes fail, counted from one, and how. -/
  flushFault : Option (Nat × Failure)

namespace Sink

/-- A sink that takes everything. -/
def open_ : Sink := ⟨[], 0, none, fun _ => none, 0, 0, none⟩

instance : Inhabited Sink := ⟨open_⟩

/-- The octets taken, in the order of writing. -/
def bytes (sink : Sink) : Bytes := sink.backwards.reverse

/-- Whether a write is turned away now. -/
def refusal? (sink : Sink) : Option Refusal :=
  sink.capacity.bind fun (limit, refusal) => if limit ≤ sink.count then some refusal else none

/-- The sink when it takes at most `chunk` octets at a time.  One that may take none at a time
takes nothing, unless it turns writes away for a reason of its own. -/
def inChunks (sink : Sink) (chunk : Option Nat) : Sink :=
  { sink with
    most := fun _ => chunk.map (· - 1)
    capacity :=
      if chunk = some 0 && sink.refusal?.isNone then some (0, .takesNothing)
      else sink.capacity }

/-- The most octets the next write takes, if it is not turned away; `none` for no limit. -/
def room (sink : Sink) : Option Nat :=
  let left := sink.capacity.map fun (limit, _) => limit - sink.count
  match sink.most sink.writes, left with
  | none, left => left
  | some most, none => some (most + 1)
  | some most, some left => some (min (most + 1) left)

/-- The octets that the next write takes, if it is not turned away, and those it leaves. -/
def divide (sink : Sink) (bytes : Bytes) : Bytes × Bytes :=
  match sink.room with
  | none => (bytes, [])
  | some room => (bytes.take room, bytes.drop room)

/-- The sink after it took these octets in one write. -/
def take (sink : Sink) (bytes : Bytes) : Sink :=
  { sink with
    backwards := bytes.reverseAux sink.backwards
    count := sink.count + bytes.length
    writes := sink.writes + 1 }

/-- One write call: the number of octets taken, or the refusal. -/
def write (sink : Sink) (bytes : Bytes) : Except Refusal Nat × Sink :=
  match sink.refusal? with
  | some refusal => (.error refusal, { sink with writes := sink.writes + 1 })
  | none =>
    let taken := (sink.divide bytes).1
    (.ok taken.length, sink.take taken)

theorem room_pos {sink : Sink} {room : Nat} (open_ : sink.refusal? = none)
    (h : sink.room = some room) : 0 < room := by
  unfold refusal? at open_
  unfold Sink.room at h
  cases hc : sink.capacity with
  | none =>
    cases hm : sink.most sink.writes <;> simp_all
    omega
  | some limit =>
    obtain ⟨limit, refusal⟩ := limit
    simp only [hc, Option.bind_some, ite_eq_right_iff, reduceCtorEq, imp_false, Nat.not_le] at open_
    cases hm : sink.most sink.writes <;> simp_all <;> omega

/-- A write that is not turned away takes something of what it is offered. -/
theorem length_divide_lt {sink : Sink} {bytes : Bytes} (open_ : sink.refusal? = none)
    (h : bytes ≠ []) : (sink.divide bytes).2.length < bytes.length := by
  have := List.length_pos_iff.2 h
  unfold divide
  cases hr : sink.room with
  | none => simpa using this
  | some room =>
    have := room_pos open_ hr
    simp only [List.length_drop]
    omega

/-- Nothing is lost between what a write takes and what it leaves. -/
theorem divide_append (sink : Sink) (bytes : Bytes) :
    (sink.divide bytes).1 ++ (sink.divide bytes).2 = bytes := by
  unfold divide
  cases sink.room <;> simp

/-- Writes until everything is taken or a write is turned away. -/
def writeAll (sink : Sink) (bytes : Bytes) : Except Failure Unit × Sink :=
  match bytes with
  | [] => (.ok (), sink)
  | first :: others =>
    match _h : sink.refusal? with
    | some refusal => (.error refusal.failure, { sink with writes := sink.writes + 1 })
    | none =>
      let parts := sink.divide (first :: others)
      writeAll (sink.take parts.1) parts.2
termination_by bytes.length
decreasing_by exact length_divide_lt _h (List.cons_ne_nil first others)

/-- Writes several strings one after the other, and stops at the first failure. -/
def writePieces (sink : Sink) : List Bytes → Except Failure Unit × Sink
  | [] => (.ok (), sink)
  | piece :: rest =>
    match sink.writeAll piece with
    | (.ok (), sink) => writePieces sink rest
    | (.error failure, sink) => (.error failure, sink)

/-- Asks the transport to pass on what it took. -/
def flush (sink : Sink) : Except Failure Unit × Sink :=
  let flushed := { sink with flushes := sink.flushes + 1 }
  match sink.flushFault with
  | none => (.ok (), flushed)
  | some (first, failure) =>
    if first ≤ flushed.flushes then (.error failure, flushed) else (.ok (), flushed)

/-- The sink after its peer or its owner ended the connection: every write fails. -/
def shut (sink : Sink) : Sink :=
  { sink with capacity := some (sink.count, .fails (.host .brokenPipe)) }

@[simp] theorem bytes_take (sink : Sink) (bytes : Bytes) :
    (sink.take bytes).bytes = sink.bytes ++ bytes := by
  simp [take, Sink.bytes, List.reverseAux_eq]

end Sink
end Wire
end CoverageLink
