import CoverageLink.Proofs.Record.Calls
import CoverageLink.Proofs.Wire.Fields

/-!
# What is written of a record is read back

What `Record.encode` writes, `Record.body` reads behind the tag, and it stops at the end of
the record, whatever comes next.

## 1.  What comes back

Two kinds of record do not come back as they were sent, because the wire cannot hold
them.  `Record.normal` says what comes back instead: the times of a session stop at the
last time of a signed field, and known identifiers are cut at every separator.  Two kinds
are written more liberally than they are read, and `Record.Readable` excludes what the
reader refuses: headers of other versions, and more probes than a blob has octets.

## 2.  One kind of record after the other

A body is a row of fields, so there is nothing to prove about a kind of record but which
fields it has; `readBy_body` collects the kinds.  `Record.reads_encode` is the result, and
it is the strong one: the octets behind the tag *spell* the normal form (`Reading.Reads`),
so it covers a stream that breaks off inside the record as well.
-/

namespace CoverageLink

open Wire (Field Emission Reading)

/-! ## 1.  What comes back -/

/-- The wire clamps a time and does nothing else to it. -/
theorem Timestamp.ofWire_toWire (time : Timestamp) : ofWire time.toWire = time.clamped := by
  unfold ofWire toWire clamped
  generalize h : min time.msecs.toNat wireMax = msecs
  have fits : msecs < 2 ^ 63 := by
    rw [← h]
    exact Nat.lt_of_le_of_lt (Nat.min_le_right _ _) (by decide)
  have notBefore : ¬ (UInt64.ofNat msecs).toInt64 < 0 := by
    rw [UInt64.toInt64_ofNat', Int64.lt_iff_toInt_lt, Int64.toInt_ofNat_of_lt fits,
      Int64.toInt_zero]
    omega
  rw [if_neg notBefore, UInt64.toUInt64_toInt64]

namespace Record

/-- A record as it comes back from the wire. -/
def normal : Record → Record
  | sessionInfo info => sessionInfo ⟨info.id, info.start.clamped, info.dump.clamped⟩
  | pull request => pull ⟨request.kind, request.known.divided⟩
  | record => record

/-- Whether a reader accepts what is written of a record. -/
def Readable : Record → Prop
  | header version => version = formatVersion
  | executionData data => data.probes.length ≤ Wire.maxBlob
  | _ => True

/-! ## 2.  One kind of record after the other -/

theorem readBy_headerBody :
    (Emission.ofFields ownHeader.fields).ReadBy headerBody ownHeader := by
  refine Emission.readBy_cons (Field.readBy_word magic) ?_
  simp only [ne_eq, not_true, ite_false]
  refine Emission.readBy_cons (Field.readBy_word formatVersion) ?_
  exact Emission.readBy_nil ownHeader

theorem readBy_sessionInfoBody (info : SessionInfo) :
    (Emission.ofFields (sessionInfo info).fields).ReadBy sessionInfoBody
      (sessionInfo info).normal := by
  rw [normal, ← Timestamp.ofWire_toWire, ← Timestamp.ofWire_toWire]
  exact Emission.readBy_cons (Field.readBy_text info.id) <|
    Emission.readBy_cons (Field.readBy_long info.start.toWire) <|
    Emission.readBy_cons (Field.readBy_long info.dump.toWire) <| Emission.readBy_nil _

theorem readBy_executionDataBody {data : ExecutionData}
    (fits : data.probes.length ≤ Wire.maxBlob) :
    (Emission.ofFields (executionData data).fields).ReadBy executionDataBody
      (executionData data) :=
  Emission.readBy_cons (Field.readBy_long data.id) <|
    Emission.readBy_cons (Field.readBy_text data.name) <|
    Emission.readBy_cons (Field.readBy_bits fits) <| Emission.readBy_nil _

theorem readBy_fileBody (artifact : ArtifactFile) :
    (Emission.ofFields (file artifact).fields).ReadBy fileBody (file artifact) :=
  Emission.readBy_cons (Field.readBy_text artifact.name) <|
    Emission.readBy_cons (Field.readBy_blob artifact.contents) <| Emission.readBy_nil _

/-- A project line is written only if none of its texts holds the separator, which is what
makes it split into them again. -/
theorem readBy_projectInfoBody (info : ProjectInfo) :
    (Emission.ofFields (projectInfo info).fields).ReadBy projectInfoBody (projectInfo info) := by
  refine Emission.readBy_line fun clean => Emission.readBy_cons (Field.readBy_text _) ?_
  rw [show Wire.lineSeparator = '|' from rfl, ProjectInfo.parse_line clean]
  exact Emission.readBy_nil _

theorem readBy_knownIdsBody (request : PullRequest) :
    (Emission.ofFields (pull request).fields).ReadBy knownIdsBody request.known.divided := by
  refine Emission.readBy_cons (Field.readBy_blob _) ?_
  rw [Utf8.decode_encode, ← KnownIds.parse_line]
  exact Emission.readBy_nil _

theorem readBy_pullBody (request : PullRequest) :
    (Emission.ofFields (pull request).fields).ReadBy (body request.kind.tag)
      (pull request).normal := by
  have announced : body request.kind.tag =
      (knownIdsBody >>= fun known => pure (pull ⟨request.kind, known⟩)) := by
    cases request.kind <;> rfl
  intro payload written
  rw [announced]
  exact (readBy_knownIdsBody request payload written).map fun known => pull ⟨request.kind, known⟩

theorem readBy_dumpBody (dumps resets : Bool) :
    (Emission.ofFields (dump dumps resets).fields).ReadBy dumpBody (dump dumps resets) :=
  Emission.readBy_cons (Field.readBy_flag dumps) <|
    Emission.readBy_cons (Field.readBy_flag resets) <| Emission.readBy_nil _

/-- **The body of a record.**  What is written behind the tag spells the record. -/
theorem readBy_body {record : Record} (readable : record.Readable) :
    (Emission.ofFields record.fields).ReadBy (body record.tag) record.normal := by
  cases record with
  | header version =>
    cases readable
    exact readBy_headerBody
  | sessionInfo info => exact readBy_sessionInfoBody info
  | executionData data => exact readBy_executionDataBody readable
  | heartbeat => exact Emission.readBy_nil heartbeat
  | file artifact => exact readBy_fileBody artifact
  | projectInfo info => exact readBy_projectInfoBody info
  | pull request => exact readBy_pullBody request
  | ok => exact Emission.readBy_nil ok
  | dump dumps resets => exact readBy_dumpBody dumps resets

/-- A record is its tag and its fields. -/
theorem exists_payload_of_encode {record : Record} {bytes : Bytes}
    (encoded : record.encode = .ok bytes) :
    ∃ payload, bytes = record.tag :: payload ∧
      (Emission.ofFields record.fields).complete = .ok payload := by
  rw [encode, emission] at encoded
  obtain ⟨tag, payload, tagged, written, rfl⟩ := Emission.complete_ofFields_cons.mp encoded
  cases tagged
  exact ⟨payload, rfl, written⟩

/-- **A record is its tag and a spelling of what comes back.** -/
theorem reads_encode {record : Record} {bytes : Bytes} (encoded : record.encode = .ok bytes)
    (readable : record.Readable) :
    ∃ payload, bytes = record.tag :: payload ∧
      (body record.tag).Reads payload record.normal := by
  obtain ⟨payload, tagged, written⟩ := exists_payload_of_encode encoded
  exact ⟨payload, tagged, readBy_body readable payload written⟩

end Record
end CoverageLink
