import CoverageLink.Agent
import CoverageLink.Proofs.Link.RecordWriter
import CoverageLink.Proofs.Record.Rewrite

/-!
# What becomes of valid settings

Settings are checked before anything is started, so that nothing fails later for a reason that was
known at the start.  For the patterns that is so: an agent can be started with any settings that
passed.  For the announcement of the project it is not, because its length is not checked.  The six
texts and the five separators between them share one line, and the line has to fit into a text.  If
it does not, no collector is ever told about the project, not even over a transport that takes
everything (`announced_iff_of_validate`).

## 1.  What is checked

Checks stand one behind the other, and the first objection wins.  There is none exactly if each
check is passed (`validate_eq_ok_iff`), and then the patterns have been read as well, whatever a
pattern is.

## 2.  The length of the line

What was checked about the six texts is that the line can be taken apart again.  So there is one
thing left that can go wrong, and it is the length (`Record.exists_encode_projectInfo_iff`).

## 3.  The announcement
-/

namespace CoverageLink

open Link (RecordWriter)

/-! ## 1.  What is checked -/

namespace Settings

variable {settings : Settings} {glob : Artifact.Glob}

/-- Settings to which there is no objection. -/
structure Valid (settings : Settings) (glob : Artifact.Glob) : Prop where
  product : settings.project.product ≠ ""
  dumpDirectory : settings.dumpDirectory ≠ ""
  address : settings.address ≠ ""
  port : settings.port ≠ 0
  separable : ∀ text ∈ settings.project.fields, '|' ∉ text.toList
  filtered : ∃ filter, settings.filter glob = .ok filter
  heartbeat : settings.heartbeatInterval ≠ .zero
  timeout : settings.connectTimeout ≠ .zero

/-- A check is passed if there is no objection, and then the others are to be passed. -/
theorem check_eq_ok_iff {objection : Prop} [Decidable objection] {fault : SettingsFault}
    {others : Unit → Except SettingsFault Unit} :
    (if objection then (throw fault : Except SettingsFault Unit) >>= others else others ()) =
        .ok () ↔ ¬ objection ∧ others () = .ok () := by
  split
  · exact iff_of_false nofun fun passed => passed.1 ‹_›
  · exact (and_iff_right ‹_›).symm

/-- The last check. -/
theorem last_check_eq_ok_iff {objection : Prop} [Decidable objection] {fault : SettingsFault} :
    (if objection then (throw fault : Except SettingsFault Unit) else pure ()) = .ok () ↔
      ¬ objection := by
  split
  · exact iff_of_false nofun (not_not_intro ‹_›)
  · exact iff_of_true rfl ‹_›

theorem find?_separator_eq_none_iff {info : ProjectInfo} :
    ((projectFieldNames.zip info.fields).find? fun entry => entry.2.toList.contains '|') = none ↔
      ∀ text ∈ info.fields, '|' ∉ text.toList := by
  simp [List.find?_eq_none, projectFieldNames, ProjectInfo.fields]

/-- **There is no objection** exactly if every check is passed. -/
theorem validate_eq_ok_iff : settings.validate glob = .ok () ↔ settings.Valid glob := by
  simp only [validate, check_eq_ok_iff]
  split
  · rename_i found
    refine iff_of_false (fun passed => nomatch passed.2.2.2) fun valid => ?_
    cases found.symm.trans (find?_separator_eq_none_iff.2 valid.separable)
  · rename_i found
    have separable := find?_separator_eq_none_iff.1 found
    rcases read : settings.filter glob with fault | filter
    · refine iff_of_false (fun passed => nomatch passed.2.2.2) fun valid => ?_
      obtain ⟨filter, accepted⟩ := valid.filtered
      cases read.symm.trans accepted
    · show _ ∧ _ ∧ _ ∧ ((if _ then _ else _ : Except SettingsFault Unit) = _) ↔ _
      rw [check_eq_ok_iff, last_check_eq_ok_iff]
      simp only [String.isEmpty_iff, Bool.or_eq_true, decide_eq_true_eq, not_or]
      constructor
      · rintro ⟨product, dumpDirectory, ⟨address, port⟩, heartbeat, timeout⟩
        exact ⟨product, dumpDirectory, address, port, separable, ⟨filter, read⟩, heartbeat, timeout⟩
      · intro valid
        exact ⟨valid.product, valid.dumpDirectory, ⟨valid.address, valid.port⟩, valid.heartbeat,
          valid.timeout⟩

end Settings

/-- **An agent can be started** with settings to which there is no objection. -/
theorem Agent.exists_start {settings : Settings} {glob : Artifact.Glob}
    (valid : settings.validate glob = .ok ()) (temporary : String) (probes : Probes)
    (volume : Files.Volume) (unpack : Artifact.Unpacker) :
    ∃ agent, (Agent.start settings temporary probes volume unpack glob).2 = .ok agent := by
  obtain ⟨filter, accepted⟩ := (Settings.validate_eq_ok_iff.1 valid).filtered
  unfold Agent.start
  rw [valid, accepted]
  exact ⟨_, rfl⟩

/-! ## 2.  The length of the line -/

namespace ProjectInfo

/-- The number of octets of the six texts. -/
def octets (info : ProjectInfo) : Nat := (info.fields.flatMap Utf8.encode).length

/-- The most octets that there is room for, next to the five separators. -/
def maxOctets : Nat := Wire.maxText - 5

/-- Next to the texts there are five separators in the line. -/
theorem length_encode_join (info : ProjectInfo) :
    (Utf8.encode (Text.join Wire.lineSeparator info.fields)).length = info.octets + 5 := by
  have separator : (String.utf8EncodeChar Wire.lineSeparator).length = 1 := by decide
  have line := congrArg List.length
    (Text.encode_join_append Wire.lineSeparator info.product info.fields.tail)
  simp only [fields, octets, List.tail_cons, List.flatMap_cons, List.flatMap_nil, Text.terminated,
    List.length_append, List.length_nil, separator] at line ⊢
  omega

end ProjectInfo

namespace Record

variable {info : ProjectInfo}

/-- **A project can be announced** exactly if there is room for its texts. -/
theorem exists_encode_projectInfo_iff (separable : ∀ text ∈ info.fields, '|' ∉ text.toList) :
    (∃ bytes, (projectInfo info).encode = .ok bytes) ↔ info.octets ≤ ProjectInfo.maxOctets := by
  have settled : (projectInfo info).Settled := separable
  rw [settled.exists_encode_iff, overlong_projectInfo_iff, info.length_encode_join]
  show ¬ 65535 < info.octets + 5 ↔ info.octets ≤ 65530
  omega

/-- Without room the failure says how long the line is. -/
theorem encode_projectInfo_of_long (separable : ∀ text ∈ info.fields, '|' ∉ text.toList)
    (long : ProjectInfo.maxOctets < info.octets) :
    (projectInfo info).encode = .error (.textTooLong (info.octets + 5)) := by
  have line : (Wire.Field.line info.fields).pieces = .error (.textTooLong (info.octets + 5)) := by
    rw [Wire.Field.pieces_line separable, Wire.Field.textPieces, info.length_encode_join]
    refine if_pos ?_
    show 65535 < info.octets + 5
    have short : 65530 < info.octets := long
    omega
  simp only [encode, emission, fields, Wire.Emission.ofFields, line]
  rfl

end Record

/-! ## 3.  The announcement -/

namespace Settings

/-- The settings of an agent that names its product and nothing else. -/
def ofProduct (product : String) : Settings :=
  { standard with project := ⟨product, "", "", "", "", ""⟩, dumpDirectory := "/tmp/classes" }

theorem validate_ofProduct {product : String} (full : product ≠ "")
    (separable : '|' ∉ product.toList) : (ofProduct product).validate = .ok () := by
  refine validate_eq_ok_iff.2 {
    product := full
    dumpDirectory := (by decide : "/tmp/classes" ≠ "")
    address := (by decide : standard.address ≠ "")
    port := (by decide : standard.port ≠ 0)
    separable := by simpa [ofProduct, ProjectInfo.fields] using separable
    filtered := ?_
    heartbeat := (by decide : standard.heartbeatInterval ≠ .zero)
    timeout := (by decide : standard.connectTimeout ≠ .zero) }
  show ∃ filter, standard.filter = .ok filter
  have parsed : standard.filter.isOk = true := by decide +kernel
  rcases read : standard.filter with fault | filter
  · rw [read] at parsed
    cases parsed
  · exact ⟨filter, rfl⟩

theorem octets_ofProduct (product : String) :
    (ofProduct product).project.octets = (Utf8.encode product).length := by
  simp [ofProduct, ProjectInfo.octets, ProjectInfo.fields, Utf8.encode]

/-- **What valid settings promise**, whatever a pattern is.  There is a filter, and an agent can be
started.  The project can be announced exactly if there is room for its texts, and then that
succeeds over every transport that takes everything; otherwise it fails over every transport, and
leaves no trace there. -/
theorem announced_iff_of_validate {settings : Settings} {glob : Artifact.Glob}
    (valid : settings.validate glob = .ok ()) :
    (∃ filter, settings.filter glob = .ok filter) ∧
    (∀ temporary probes volume unpack,
      ∃ agent, (Agent.start settings temporary probes volume unpack glob).2 = .ok agent) ∧
    ((∃ bytes, (Record.projectInfo settings.project).encode = .ok bytes) ↔
      settings.project.octets ≤ ProjectInfo.maxOctets) ∧
    (settings.project.octets ≤ ProjectInfo.maxOctets →
      ∀ writer : RecordWriter, RecordWriter.Unlimited writer.sink →
        (writer.projectInfo settings.project).1 = .ok ()) ∧
    (ProjectInfo.maxOctets < settings.project.octets →
      ∀ writer : RecordWriter, writer.projectInfo settings.project =
        (.error (.textTooLong (settings.project.octets + 5)), writer)) := by
  obtain ⟨-, -, -, -, separable, filtered, -, -⟩ := validate_eq_ok_iff.1 valid
  have announced := Record.exists_encode_projectInfo_iff separable
  refine ⟨filtered, Agent.exists_start valid, announced, fun room writer free => ?_,
    fun long writer => ?_⟩
  · obtain ⟨bytes, encoded⟩ := announced.2 room
    exact (RecordWriter.send_of_unlimited free encoded).1
  · exact RecordWriter.send_of_encode_error (Record.encode_projectInfo_of_long separable long)

/-- A product with a short name can be announced. -/
theorem announced_iff_of_short_product :
    let settings := ofProduct "shop"
    settings.validate = .ok () ∧ settings.project.octets = 4 ∧
      (∃ bytes, (Record.projectInfo settings.project).encode = .ok bytes) ∧
      ((⟨Wire.Sink.open_, 0⟩ : RecordWriter).projectInfo settings.project).1 = .ok () := by
  intro settings
  have valid : settings.validate = .ok () := validate_ofProduct (by decide) (by decide)
  have four : settings.project.octets = 4 := by
    rw [octets_ofProduct]
    decide
  have room : settings.project.octets ≤ ProjectInfo.maxOctets := by
    rw [four]
    decide
  obtain ⟨-, -, announced, sent, -⟩ := announced_iff_of_validate valid
  exact ⟨valid, four, announced.2 room, sent room _ ⟨rfl, rfl⟩⟩

/-- Not all valid settings can be announced: nobody asks how long the name of the product is. -/
theorem not_announced_of_long_product :
    ¬ ∀ settings : Settings, settings.validate = .ok () →
      (∃ filter, settings.filter = .ok filter) ∧
      (∃ bytes, (Record.projectInfo settings.project).encode = .ok bytes) ∧
      ∀ writer : RecordWriter, RecordWriter.Unlimited writer.sink →
        (writer.projectInfo settings.project).1 = .ok () := by
  intro promise
  let product := String.ofList (List.replicate 65536 'p')
  have spelled : product.toList = List.replicate 65536 'p' := String.toList_ofList
  have full : product ≠ "" := by
    intro empty
    rw [empty] at spelled
    exact absurd (congrArg List.length spelled) (by rw [List.length_replicate]; decide)
  have separable : '|' ∉ product.toList := by
    rw [spelled, List.mem_replicate]
    exact fun same => absurd same.2 (by decide)
  have octets : (ofProduct product).project.octets = 65536 := by
    rw [octets_ofProduct, Utf8.encode, spelled, List.length_flatMap, List.map_replicate,
      List.sum_replicate_nat]
    decide
  have valid := validate_ofProduct full separable
  obtain ⟨-, announced, -⟩ := promise _ valid
  have room :=
    (Record.exists_encode_projectInfo_iff (validate_eq_ok_iff.1 valid).separable).1 announced
  rw [octets] at room
  exact absurd room (by decide)

end Settings
end CoverageLink
