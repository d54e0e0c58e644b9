import CoverageLink.Link.RecordWriter
import CoverageLink.Proofs.HandOver
import CoverageLink.Proofs.Wire.Sink

/-!
# What a record writer leaves on its transport

A reader at the other end must find whole records up to the point where the transport gave
up, and then at most one that was cut.  That is a statement about *all* that was ever sent:
a single encoding that got through in part, followed by another one, would garble
everything behind it.

## 1.  One record

`send_cases` is all that `send` can do: nothing, because there is no encoding; writing the
encoding in part; writing all of it, and then flushing with success or without.
`Accounts` is what a caller can rely on, and `accounts_send` derives it.

## 2.  Many operations

The operations of a writer differ in the records they make and in nothing else
(`Operation.perform_eq`), and some of them make none.  So a run of operations offers the
sink the encodings of its records, one behind the other, and behind the header of the
stream (`offered`).  `Keeps` is the invariant of a run: what the sink holds is what it
takes of all that was offered.

## 3.  Records that are sent one after the other

Whoever stops at the first failure sends a part of what there is to send (`sendAll`).  If there
was none, the encodings stand on the transport one behind the other (`bytes_of_sendAll`).
-/

namespace CoverageLink
namespace Link

open Record (ownHeader streamHeader)
open Wire (Refusal Sink)
open Wire.Sink (Grown Took)

namespace RecordWriter

/-! ## 1.  One record -/

/-- **Sending a record.** -/
theorem send_cases (writer : RecordWriter) (record : Record) :
    (∃ failure, record.encode = .error failure ∧ writer.send record = (.error failure, writer)) ∨
      ∃ bytes, record.encode = .ok bytes ∧
        ((∃ failure, (writer.sink.writeAll bytes).1 = .error failure ∧
            writer.send record = (.error failure, ⟨(writer.sink.writeAll bytes).2, writer.touches⟩)) ∨
          ((writer.sink.writeAll bytes).1 = .ok () ∧
            ((∃ failure, (writer.sink.writeAll bytes).2.flush.1 = .error failure ∧
                writer.send record =
                  (.error failure, ⟨(writer.sink.writeAll bytes).2.flush.2, writer.touches⟩)) ∨
              ((writer.sink.writeAll bytes).2.flush.1 = .ok () ∧
                writer.send record =
                  (.ok (), ⟨(writer.sink.writeAll bytes).2.flush.2, writer.touches + 1⟩))))) := by
  unfold send
  rcases record.encode with failure | bytes
  · exact .inl ⟨failure, rfl, rfl⟩
  · refine .inr ⟨bytes, rfl, ?_⟩
    simp only
    rcases writer.sink.writeAll bytes with ⟨failure | done, sink⟩
    · exact .inl ⟨failure, rfl, rfl⟩
    · refine .inr ⟨rfl, ?_⟩
      simp only
      rcases sink.flush with ⟨failure | flushed, after⟩
      · exact .inl ⟨failure, rfl, rfl⟩
      · exact .inr ⟨rfl, rfl⟩

/-- What is owed to whoever asked a writer to send a record, or to do without one, over a sink
whose flushes fail as those of `sink` do. -/
structure Accounts (sink : Sink) (record? : Option Record) (before : RecordWriter)
    (result : Except Failure Unit) (after : RecordWriter) : Prop where
  /-- The operation succeeds exactly if it has nothing to send, or the record has an encoding, all
  of it was taken, and the flush behind it succeeded. -/
  success : result = .ok () ↔
    record? = none ∨ ∃ record bytes, record? = some record ∧ record.encode = .ok bytes ∧
      after.sink.bytes = before.sink.bytes ++ bytes ∧
      after.sink.flushes = before.sink.flushes + 1 ∧ sink.Passes after.sink.flushes
  /-- With nothing to send, nothing happens. -/
  idle : record? = none → after = before
  /-- A record without an encoding leaves no trace. -/
  unsendable : ∀ record failure, record? = some record → record.encode = .error failure →
    after = before
  /-- The clock is touched by the records that were sent with success. -/
  touched : record?.isSome → result = .ok () → after.touches = before.touches + 1
  /-- Nothing else touches the clock. -/
  untouched : record? = none ∨ result ≠ .ok () → after.touches = before.touches

/-- A part of an encoding is not the encoding. -/
theorem not_bytes_of_part {sink after : Sink} {bytes taken left : Bytes} (some_left : left ≠ [])
    (split : bytes = taken ++ left) (grown : Grown sink taken after) :
    after.bytes ≠ sink.bytes ++ bytes := by
  intro whole
  rw [grown.bytes, split, List.append_cancel_left_eq] at whole
  exact some_left (List.append_right_eq_self.mp whole.symm)

/-- An operation that failed to send a record. -/
theorem Accounts.of_failed {sink : Sink} {writer after : RecordWriter} {record : Record}
    {bytes : Bytes} {failure : Failure} (encoded : record.encode = .ok bytes)
    (touches : after.touches = writer.touches)
    (h : ¬ (after.sink.bytes = writer.sink.bytes ++ bytes ∧
      after.sink.flushes = writer.sink.flushes + 1 ∧ sink.Passes after.sink.flushes)) :
    Accounts sink (some record) writer (.error failure) after where
  success := by
    refine ⟨nofun, ?_⟩
    rintro (nothing | ⟨other, others, same, written, taken⟩)
    · cases nothing
    · cases same
      cases encoded.symm.trans written
      exact absurd taken h
  idle nothing := nomatch nothing
  unsendable other failure same refused := by
    cases same
    cases encoded.symm.trans refused
  touched _ ok := nomatch ok
  untouched _ := touches

/-- **Sending a record, in terms of what the caller can see.** -/
theorem accounts_send (writer : RecordWriter) (record : Record) :
    Accounts writer.sink (some record) writer (writer.send record).1 (writer.send record).2 := by
  rcases writer.send_cases record with ⟨failure, unsendable, sent⟩ | ⟨bytes, encoded, h⟩
  · rw [sent]
    refine ⟨⟨nofun, ?_⟩, nofun, fun _ _ _ _ => rfl, nofun, fun _ => rfl⟩
    rintro (nothing | ⟨other, bytes, same, encoded, -⟩)
    · cases nothing
    · cases same
      cases unsendable.symm.trans encoded
  · have written := writer.sink.writeAll_cases bytes
    have flushed := (writer.sink.writeAll bytes).2.flush_cases
    rcases h with ⟨failure, failed, sent⟩ | ⟨wrote, ⟨failure, failed, sent⟩ | ⟨passed, sent⟩⟩
    · -- the sink gave up inside the encoding
      rw [sent]
      refine .of_failed encoded rfl fun ⟨whole, _⟩ => ?_
      rcases written with ⟨ok, -⟩ | ⟨taken, left, refusal, some_left, split, -, grown, -⟩
      · cases failed.symm.trans ok
      · exact not_bytes_of_part some_left split grown whole
    · -- the flush failed behind it
      rw [sent]
      rcases written with ⟨-, grown⟩ | ⟨_, _, _, _, _, error, _⟩
      · obtain ⟨counted, ⟨ok, -⟩ | ⟨-, blocked⟩⟩ := flushed
        · cases failed.symm.trans ok
        · refine .of_failed encoded rfl fun ⟨_, number, passes⟩ => blocked ?_
          rw [counted] at passes
          exact (Sink.passes_congr grown.flushFault _).mpr passes
      · cases wrote.symm.trans error
    · rw [sent]
      rcases written with ⟨-, grown⟩ | ⟨_, _, _, _, _, error, _⟩
      · obtain ⟨counted, ⟨-, passes⟩ | ⟨⟨failure, failed⟩, -⟩⟩ := flushed
        · rw [counted]
          refine ⟨⟨fun _ => .inr ⟨record, bytes, rfl, encoded, grown.bytes, ?_, ?_⟩, fun _ => rfl⟩,
            nofun, fun other failure same refused => ?_, fun _ _ => rfl, ?_⟩
          · exact congrArg (· + 1) grown.flushes
          · exact (Sink.passes_congr grown.flushFault _).mp passes
          · cases same
            cases encoded.symm.trans refused
          · rintro (nothing | failed)
            · cases nothing
            · exact absurd rfl failed
        · cases passed.symm.trans failed
      · cases wrote.symm.trans error

/-! ## 2.  Many operations -/

/-- What can be asked of a writer. -/
inductive Operation
  | sessionInfo (info : SessionInfo)
  | executionData (data : ExecutionData)
  | heartbeat
  | file (name : String) (contents : Bytes)
  | projectInfo (info : ProjectInfo)
  | ok
  | dump (dumps resets : Bool)
  | pull (kind : PullKind) (known : KnownIds)
  /-- To take a record of a dump. -/
  | receive (record : Record)

namespace Operation

/-- Carries an operation out. -/
def perform (writer : RecordWriter) : Operation → Except Failure Unit × RecordWriter
  | sessionInfo info => writer.sessionInfo info
  | executionData data =>
    ((writer.executionData data).1.map fun _ => (), (writer.executionData data).2)
  | heartbeat => writer.heartbeat
  | file name contents => writer.file name contents
  | projectInfo info => writer.projectInfo info
  | ok => writer.ok
  | dump dumps resets => writer.dump dumps resets
  | pull kind known => writer.pull kind known
  | receive record => RecordWriter.receive record writer

/-- The data of a class, if there is a hit to report. -/
def dataRecord? (data : ExecutionData) : Option Record :=
  if data.hasHits then some (.executionData data) else none

/-- The record that an operation has to send; none for data without hits, for a file without
contents, and for what is no record of a dump. -/
def record? : Operation → Option Record
  | sessionInfo info => some (.sessionInfo info)
  | executionData data => dataRecord? data
  | heartbeat => some .heartbeat
  | file name contents => if contents = [] then none else some (.file ⟨name, contents⟩)
  | projectInfo info => some (.projectInfo info)
  | ok => some .ok
  | dump dumps resets => some (.dump dumps resets)
  | pull kind known => some (.pull ⟨kind, known⟩)
  | receive (.sessionInfo info) => some (.sessionInfo info)
  | receive (.executionData data) => dataRecord? data
  | receive _ => none

/-- The encoding of what an operation has to send, if there is one. -/
def encoding? (operation : Operation) : Option Bytes :=
  operation.record?.bind fun record => record.encode.toOption

end Operation

/-- Sends a record if there is one. -/
def sendIfAny (writer : RecordWriter) : Option Record → Except Failure Unit × RecordWriter
  | none => (.ok (), writer)
  | some record => writer.send record

theorem executionData_eq (writer : RecordWriter) (data : ExecutionData) :
    ((writer.executionData data).1.map fun _ => (), (writer.executionData data).2) =
      writer.sendIfAny (Operation.dataRecord? data) := by
  unfold executionData Operation.dataRecord?
  cases data.hasHits
  · rfl
  · simp only [Bool.not_true, Bool.false_eq_true, if_false, if_true, sendIfAny]
    rcases writer.send (.executionData data) with ⟨failure | done, after⟩ <;> rfl

/-- **Operations differ in their records only.** -/
theorem Operation.perform_eq (writer : RecordWriter) (operation : Operation) :
    operation.perform writer = writer.sendIfAny operation.record? := by
  cases operation with
  | executionData data => exact executionData_eq writer data
  | file name contents => cases contents <;> rfl
  | receive record =>
    cases record with
    | executionData data => exact executionData_eq writer data
    | _ => rfl
  | _ => rfl

/-- The writer after operations, whatever became of each of them. -/
def performAll (writer : RecordWriter) (operations : List Operation) : RecordWriter :=
  operations.foldl (fun writer operation => (operation.perform writer).2) writer

/-- All that a stream is offered: its header, and the encodings of the records that have one. -/
def offered (operations : List Operation) : Bytes :=
  streamHeader ++ (operations.filterMap Operation.encoding?).flatten

/-- A writer that has kept to a sink: it holds what it takes of all that was offered. -/
structure Keeps (sink : Sink) (offered : Bytes) (writer : RecordWriter) : Prop where
  took : Took writer.sink offered
  capacity : writer.sink.capacity = sink.capacity
  flushFault : writer.sink.flushFault = sink.flushFault

namespace Keeps

variable {sink : Sink} {offered : Bytes} {writer : RecordWriter}

/-- A flush changes nothing of what a sink holds. -/
theorem flush (h : Keeps sink offered writer) (touches : Nat) :
    Keeps sink offered ⟨writer.sink.flush.2, touches⟩ := by
  obtain ⟨⟨begun, full, counted, within⟩, capacity, flushFault⟩ := h
  rw [writer.sink.flush_cases.1]
  exact ⟨⟨begun, full, counted, within⟩, capacity, flushFault⟩

theorem writeAll (h : Keeps sink offered writer) (bytes : Bytes) (touches : Nat) :
    Keeps sink (offered ++ bytes) ⟨(writer.sink.writeAll bytes).2, touches⟩ := by
  refine ⟨h.took.writeAll bytes, ?_, ?_⟩ <;>
    rcases writer.sink.writeAll_cases bytes with ⟨-, grown⟩ | ⟨_, _, _, _, _, _, grown, _⟩
  · exact grown.capacity.trans h.capacity
  · exact grown.capacity.trans h.capacity
  · exact grown.flushFault.trans h.flushFault
  · exact grown.flushFault.trans h.flushFault

theorem send (h : Keeps sink offered writer) (record : Record) :
    Keeps sink (offered ++ record.encode.toOption.getD []) (writer.send record).2 := by
  rcases writer.send_cases record with ⟨failure, unsendable, sent⟩ | ⟨bytes, encoded, cases⟩
  · rw [sent, unsendable]
    simpa [Except.toOption] using h
  · rw [encoded]
    have written := h.writeAll bytes writer.touches
    rcases cases with ⟨_, -, sent⟩ | ⟨-, ⟨_, -, sent⟩ | ⟨-, sent⟩⟩
    · rw [sent]
      exact written
    · rw [sent]
      exact written.flush _
    · rw [sent]
      exact written.flush _

theorem perform (h : Keeps sink offered writer) (operation : Operation) :
    Keeps sink (offered ++ operation.encoding?.getD []) (operation.perform writer).2 := by
  rw [operation.perform_eq, Operation.encoding?]
  rcases operation.record? with _ | record
  · simpa [sendIfAny] using h
  · exact h.send record

theorem performAll (h : Keeps sink offered writer) (operations : List Operation) :
    Keeps sink (offered ++ (operations.filterMap Operation.encoding?).flatten)
      (writer.performAll operations) := by
  induction operations generalizing writer offered with
  | nil => simpa [RecordWriter.performAll] using h
  | cons operation rest ih =>
    have done := ih (h.perform operation)
    rw [List.append_assoc] at done
    rw [List.filterMap_cons]
    rcases encoding : operation.encoding? with _ | bytes
    · rw [encoding, Option.getD_none, List.nil_append] at done
      exact done
    · rw [encoding, Option.getD_some, ← List.flatten_cons] at done
      exact done

end Keeps

/-- What is owed depends on the flushes of the sink only. -/
theorem Accounts.of_flushFault {sink other : Sink} {record? : Option Record}
    {before after : RecordWriter} {result : Except Failure Unit}
    (same : other.flushFault = sink.flushFault) (h : Accounts other record? before result after) :
    Accounts sink record? before result after := by
  obtain ⟨success, idle, unsendable, touched, untouched⟩ := h
  simp only [Sink.passes_congr same] at success
  exact ⟨success, idle, unsendable, touched, untouched⟩

theorem accounts_perform (writer : RecordWriter) (operation : Operation) :
    Accounts writer.sink operation.record? writer (operation.perform writer).1
      (operation.perform writer).2 := by
  rw [operation.perform_eq]
  rcases operation.record? with _ | record
  · exact {
      success := ⟨fun _ => .inl rfl, fun _ => rfl⟩
      idle := fun _ => rfl
      unsendable := fun _ _ something => nomatch something
      touched := fun something => nomatch something
      untouched := fun _ => rfl }
  · exact writer.accounts_send record

/-- The writer that was opened on a sink has offered it the header. -/
theorem keeps_start {sink : Sink} (took : Took sink []) :
    Keeps sink streamHeader (start sink).2 := by
  have unopened : Keeps sink [] ⟨sink, 0⟩ := ⟨took, rfl, rfl⟩
  have opened := unopened.send ownHeader
  rwa [Record.encode_ownHeader] at opened

/-- A sink that was used for nothing yet. -/
def unused (capacity : Option (Nat × Refusal)) (most : Nat → Option Nat)
    (flushFault : Option (Nat × Failure)) : Sink :=
  ⟨[], 0, capacity, most, 0, 0, flushFault⟩

/-- **The stream of a writer.**  Whatever its sink takes at a time, wherever it is full, and from
whichever flush on flushes fail: after any operations it holds as much as it takes of the header
and the encodings that were to be sent, in order; and the opening of the stream and the next
operation give the account of themselves that is owed. -/
theorem stream_performAll (capacity : Option (Nat × Refusal)) (most : Nat → Option Nat)
    (flushFault : Option (Nat × Failure)) (done : List Operation) (next : Operation) :
    let sink := unused capacity most flushFault
    let opened := start sink
    let writer := opened.2.performAll done
    let call := next.perform writer
    writer.sink.bytes = sink.admits (offered done) ∧
      Accounts sink (some ownHeader) ⟨sink, 0⟩ opened.1 opened.2 ∧
      Accounts sink next.record? writer call.1 call.2 := by
  intro sink opened writer call
  have empty : Took sink [] :=
    ⟨List.prefix_rfl, fun missing => absurd rfl missing, rfl, fun _ _ _ => Nat.zero_le _⟩
  have kept : Keeps sink (offered done) writer := (keeps_start empty).performAll done
  refine ⟨?_, accounts_send ⟨sink, 0⟩ ownHeader,
    (accounts_perform writer next).of_flushFault kept.flushFault⟩
  rw [kept.took.bytes_eq]
  unfold Sink.admits
  rw [kept.capacity]

/-! ## 3.  Records that are sent one after the other -/

/-- Sends records until one of them fails. -/
def sendAll : List Record → RecordWriter → Except Failure Unit × RecordWriter :=
  handOver fun record writer => writer.send record

/-- A record that was sent stands on the transport. -/
theorem bytes_of_send {writer : RecordWriter} {record : Record}
    (sent : (writer.send record).1 = .ok ()) :
    ∃ bytes, record.encode = .ok bytes ∧
      (writer.send record).2.sink.bytes = writer.sink.bytes ++ bytes := by
  obtain nothing | ⟨other, bytes, same, encoded, whole, -⟩ :=
    (writer.accounts_send record).success.mp sent
  · cases nothing
  · cases same
    exact ⟨bytes, encoded, whole⟩

/-- **Records that were all sent** stand on the transport one behind the other. -/
theorem bytes_of_sendAll {records : List Record} {writer : RecordWriter}
    (sent : (sendAll records writer).1 = .ok ()) :
    ∃ encodings, records.mapM Record.encode = .ok encodings ∧
      (sendAll records writer).2.sink.bytes = writer.sink.bytes ++ encodings.flatten := by
  induction records generalizing writer with
  | nil => exact ⟨[], rfl, (List.append_nil _).symm⟩
  | cons record records ih =>
    have first (ok : (writer.send record).1 = .ok ()) := bytes_of_send ok
    rw [sendAll, handOver] at sent ⊢
    generalize writer.send record = call at first sent
    obtain ⟨failure | _, after⟩ := call
    · cases sent
    · obtain ⟨bytes, encoded, stands⟩ := first rfl
      obtain ⟨others, encoded_others, stand⟩ := ih sent
      refine ⟨bytes :: others, ?_, ?_⟩
      · rw [List.mapM_cons, encoded, encoded_others]
        rfl
      · simp only at stands ⊢
        rw [← sendAll, stand, stands, List.flatten_cons, List.append_assoc]

/-- A sink that takes everything, though not at once. -/
def Unlimited (sink : Sink) : Prop := sink.capacity = none ∧ sink.flushFault = none

/-- What can be encoded is sent on a sink that takes everything. -/
theorem send_of_unlimited {writer : RecordWriter} (free : Unlimited writer.sink) {record : Record}
    {bytes : Bytes} (encoded : record.encode = .ok bytes) :
    (writer.send record).1 = .ok () ∧ Unlimited (writer.send record).2.sink := by
  rcases writer.send_cases record with ⟨failure, unsendable, -⟩ | ⟨other, same, cases⟩
  · cases encoded.symm.trans unsendable
  cases encoded.symm.trans same
  obtain ⟨wrote, grown⟩ := Sink.writeAll_of_unlimited free.1 bytes
  have still : Unlimited (writer.sink.writeAll bytes).2 :=
    ⟨grown.capacity.trans free.1, grown.flushFault.trans free.2⟩
  obtain ⟨counted, ⟨passed, -⟩ | ⟨-, blocked⟩⟩ := (writer.sink.writeAll bytes).2.flush_cases
  · rcases cases with ⟨failure, failed, -⟩ | ⟨-, ⟨failure, failed, -⟩ | ⟨-, sent⟩⟩
    · cases wrote.symm.trans failed
    · cases passed.symm.trans failed
    · rw [sent, counted]
      exact ⟨rfl, still⟩
  · refine absurd (fun first failure fault => ?_) blocked
    cases still.2.symm.trans fault

/-- It stands behind what was sent before. -/
theorem bytes_send_of_unlimited {writer : RecordWriter} (free : Unlimited writer.sink)
    {record : Record} {bytes : Bytes} (encoded : record.encode = .ok bytes) :
    (writer.send record).2.sink.bytes = writer.sink.bytes ++ bytes := by
  obtain ⟨other, same, stands⟩ := bytes_of_send (send_of_unlimited free encoded).1
  cases encoded.symm.trans same
  exact stands

/-- **Records that can be encoded are all sent** on a sink that takes everything. -/
theorem sendAll_of_unlimited {records : List Record} {writer : RecordWriter}
    (free : Unlimited writer.sink)
    (encodable : ∀ record ∈ records, ∃ bytes, record.encode = .ok bytes) :
    (sendAll records writer).1 = .ok () := by
  induction records generalizing writer with
  | nil => rfl
  | cons record records ih =>
    obtain ⟨bytes, encoded⟩ := encodable record List.mem_cons_self
    obtain ⟨sent, still⟩ := send_of_unlimited free encoded
    rw [sendAll, handOver]
    rcases told : writer.send record with ⟨failure | _, after⟩ <;> rw [told] at sent still
    · cases sent
    · exact ih still fun other later => encodable other (List.mem_cons_of_mem record later)

/-- Nothing else is all sent. -/
theorem sendAll_eq_ok_iff {records : List Record} {writer : RecordWriter}
    (free : Unlimited writer.sink) :
    (sendAll records writer).1 = .ok () ↔ ∀ record ∈ records, ∃ bytes, record.encode = .ok bytes := by
  refine ⟨fun sent => ?_, sendAll_of_unlimited free⟩
  induction records generalizing writer with
  | nil => exact nofun
  | cons record records ih =>
    rw [sendAll, handOver] at sent
    rcases told : writer.send record with ⟨failure | _, after⟩
    · rw [told] at sent
      cases sent
    · obtain ⟨bytes, encoded, -⟩ := @bytes_of_send writer record (by rw [told])
      have still := (send_of_unlimited free encoded).2
      rw [told] at sent still
      exact List.forall_mem_cons.2 ⟨⟨bytes, encoded⟩, ih still sent⟩

end RecordWriter
end Link
end CoverageLink
