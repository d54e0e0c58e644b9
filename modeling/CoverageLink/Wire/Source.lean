import CoverageLink.Bytes
import CoverageLink.Failure

/-!
# Reading from a transport

A transport hands out a fixed string of octets, but nothing obliges it to hand them out
in one piece: a read may give fewer octets than asked for, and it may be interrupted and
give none at all.  Both are scheduled here as data (`Schedule`), so that a statement
about a reader can quantify over every behaviour of the transport.

A source may also fail: from a given offset on, every read reports the same failure.
Octets before the offset are delivered, and no single read crosses it.

## Why the schedule counts deliveries

An interrupted read is repeated by every reader of this library.  A schedule therefore
says, for each read that does deliver, how many interrupted ones precede it and how many
octets it may give; "finitely many interruptions in a row" is then built into the type,
and the repetition (`Source.readThrough`) ends by counting them down.

## What readers use

* `Source.next?` takes one octet, or says that the stream has ended;
* `Source.gather` takes up to a number of octets, and fewer only at the end.

Both leave the source where it stopped, after a failure too.
-/

namespace CoverageLink
namespace Wire

/-- How a transport divides its octets among read calls. -/
structure Schedule where
  /-- The interrupted reads before the delivery of this number. -/
  interruptions : Nat → Nat
  /-- The most octets the delivery of this number gives, less one; `none` for no limit. -/
  most : Nat → Option Nat

/-- The schedule of a transport that gives all it is asked for at once. -/
def Schedule.prompt : Schedule := ⟨fun _ => 0, fun _ => none⟩

/-- The schedule of a transport that gives at most `chunk` octets at a time and interrupts
every read whose number is a multiple of `period`, so far as either is given.  A period of
less than two reads would leave nothing to deliver, and interrupts nothing. -/
def Schedule.regular (chunk period : Option Nat) : Schedule where
  interruptions delivery :=
    match period with
    | some (length + 2) => if delivery ≠ 0 && delivery % (length + 1) = 0 then 1 else 0
    | _ => 0
  most _ := chunk.map (· - 1)

/-- A transport to read from. -/
structure Source where
  /-- The octets not handed out yet. -/
  unread : Bytes
  /-- The number of octets handed out. -/
  consumed : Nat
  /-- The offset from which on reads fail, and how. -/
  fault : Option (Nat × Failure)
  schedule : Schedule
  /-- The number of deliveries made, failed ones and the end of the stream included. -/
  deliveries : Nat
  /-- The interrupted reads still to come before the next delivery. -/
  pending : Nat

/-- The answer to one read call. -/
inductive Answer
  | interrupted
  | failed (failure : Failure)
  /-- Octets; none of them at the end of the stream. -/
  | given (bytes : Bytes)

namespace Source

/-- A source at its beginning. -/
def start (bytes : Bytes) (fault : Option (Nat × Failure)) (schedule : Schedule) : Source :=
  { unread := bytes, consumed := 0, fault, schedule, deliveries := 0
    pending := schedule.interruptions 0 }

/-- A source that gives at most `chunk` octets at a time and interrupts reads regularly.  One
that may give none at a time is at its end from the beginning. -/
def inChunks (bytes : Bytes) (fault : Option (Nat × Failure)) (chunk period : Option Nat) :
    Source :=
  start (if chunk = some 0 then [] else bytes) fault (.regular chunk period)

/-- A source that gives all its octets at once. -/
def ofBytes (bytes : Bytes) : Source := start bytes none Schedule.prompt

/-- The source after a delivery of `count` octets. -/
def advance (source : Source) (count : Nat) : Source :=
  { source with
    unread := source.unread.drop count
    consumed := source.consumed + count
    deliveries := source.deliveries + 1
    pending := source.schedule.interruptions (source.deliveries + 1) }

/-- How many octets the next delivery may give to a reader that asks for `want`. -/
def portion (source : Source) (want : Nat) : Nat :=
  let scheduled := match source.schedule.most source.deliveries with
    | none => want
    | some most => min want (most + 1)
  match source.fault with
  | none => scheduled
  | some (offset, _) => min scheduled (offset - source.consumed)

/-- The failure that the next delivery reports, if the offset of the fault is reached. -/
def failing? (source : Source) : Option Failure :=
  source.fault.bind fun (offset, failure) =>
    if offset ≤ source.consumed then some failure else none

/-- One read call that asks for up to `want` octets. -/
def read (source : Source) (want : Nat) : Answer × Source :=
  match source.pending with
  | pending + 1 => (.interrupted, { source with pending })
  | 0 =>
    match source.failing? with
    | some failure => (.failed failure, source.advance 0)
    | none =>
      let bytes := source.unread.take (source.portion want)
      (.given bytes, source.advance bytes.length)

/-- Reads, and reads again after every interruption. -/
def readThrough (source : Source) (want : Nat) : Except Failure Bytes × Source :=
  match _h : source.read want with
  | (.interrupted, rest) => readThrough rest want
  | (.failed failure, rest) => (.error failure, rest)
  | (.given bytes, rest) => (.ok bytes, rest)
termination_by source.pending
decreasing_by
  unfold read at _h
  split at _h
  · rename_i pending eq
    simp only [Prod.mk.injEq, true_and] at _h
    subst _h
    simp [eq]
  · split at _h <;> simp at _h

/-- The next octet, or nothing at the end of the stream. -/
def next? (source : Source) : Except Failure (Option UInt8) × Source :=
  let (result, rest) := source.readThrough 1
  (result.map List.head?, rest)

/-- Reads until `want` more octets have arrived or the stream ends.  `taken` holds the
octets that arrived before, the last first. -/
def gatherOnto (source : Source) (taken : Bytes) (want : Nat) :
    Except Failure Bytes × Source :=
  match want with
  | 0 => (.ok taken.reverse, source)
  | less + 1 =>
    match source.readThrough (less + 1) with
    | (.error failure, rest) => (.error failure, rest)
    | (.ok [], rest) => (.ok taken.reverse, rest)
    | (.ok (first :: others), rest) =>
      gatherOnto rest ((first :: others).reverseAux taken) (less - others.length)
termination_by want

/-- The next `want` octets, or as many as there are. -/
def gather (source : Source) (want : Nat) : Except Failure Bytes × Source :=
  source.gatherOnto [] want

end Source

/-! ## Readers

A reader takes what it needs from a source and leaves the rest, whether it succeeds or
fails. -/

/-- A computation that reads from a source. -/
abbrev Reading := ExceptT Failure (StateM Source)

namespace Reading

/-- Runs a reader on a source: its result, and the source it leaves. -/
def runOn {α : Type} (reading : Reading α) (source : Source) : Except Failure α × Source :=
  reading source

/-- The tag of the next record; nothing if the stream ends here. -/
def tag? : Reading (Option UInt8) := fun source => source.next?

/-- Exactly so many octets of a field of fixed width. -/
def exactly (width : Nat) : Reading Bytes := fun source =>
  match source.gather width with
  | (.error failure, rest) => (.error failure, rest)
  | (.ok bytes, rest) =>
    if bytes.length < width then (.error .endOfInput, rest) else (.ok bytes, rest)

/-- Exactly so many octets of a run whose length was declared before. -/
def fully (length : Nat) : Reading Bytes := fun source =>
  match source.gather length with
  | (.error failure, rest) => (.error failure, rest)
  | (.ok bytes, rest) =>
    if bytes.length < length then (.error (.cutShort bytes.length length), rest)
    else (.ok bytes, rest)

/-- One octet. -/
def octet : Reading UInt8 := do
  return UInt8.ofNat (Bytes.ofBigEndian (← exactly 1))

/-- A truth value: any octet but zero is true. -/
def flag : Reading Bool := do
  return (← octet) != 0

/-- An unsigned number of 16 bits. -/
def word : Reading UInt16 := do
  return UInt16.ofNat (Bytes.ofBigEndian (← exactly 2))

/-- A signed number of 64 bits. -/
def long : Reading Int64 := do
  return (UInt64.ofNat (Bytes.ofBigEndian (← exactly 8))).toInt64

end Reading
end Wire
end CoverageLink
