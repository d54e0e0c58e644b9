import CoverageLink.Proofs.Collector.Unhindered
import CoverageLink.Proofs.KnownIds
import CoverageLink.Proofs.Link.Commands

/-!
# What an agent is told about the store

The collector reads off its disk which artifacts it has, and sends their identifiers in one line.
An identifier may be the name of a file, and there the agent's names are kept as they were: nothing
prevents the separator of the line in them.  So the agent gets the identifiers cut at every
separator, and these are the identifiers of the store exactly if none of them has one
(`known_arrives`).

A set of identifiers is determined by its elements (`KnownIds.ext_iff`), so it is enough to say
which they are: of the disk (`ProjectStore.mem_knownIds`), and of what arrives
(`KnownIds.mem_divided`).
-/

namespace CoverageLink

/-- The first record behind the header of a stream, whatever comes later. -/
theorem RecordStream.returned_first {record : Record} {bytes : Bytes}
    (encoded : record.encode = .ok bytes) (readable : record.Readable)
    (noHeader : ∀ version, record ≠ .header version) (later : Bytes) (schedule : Wire.Schedule) :
    (start (.start (Record.streamHeader ++ (bytes ++ later)) none schedule)).returned 2 =
      [Record.ownHeader, record.normal] := by
  have holds : Holds (start (.start (Record.streamHeader ++ (bytes ++ later)) none schedule)) false
      (Record.streamHeader ++ (bytes ++ later)) := ⟨rfl, rfl, rfl⟩
  obtain ⟨opened, behind⟩ :=
    holds.next_whole Record.encode_ownHeader rfl ⟨fun _ => rfl, fun _ => rfl⟩
  obtain ⟨answer, -⟩ := behind.next_whole encoded readable (Record.legal_of_ne_header noHeader)
  rw [returned_succ, opened, returned_succ, answer]
  rfl

namespace Collector

open Files (Path Volume)
open Link (RecordWriter Visitor)

/-- The identifiers of the store are those of the files that lie in the folder of the artifacts, at
any depth. -/
theorem ProjectStore.mem_knownIds {project : ProjectStore} {volume : Volume} {known : KnownIds}
    (listed : project.knownIds volume = .ok known) :
    ∃ top, volume.folderAt project.classes = .ok top ∧
      ∀ id, id ∈ known.ids ↔ ∃ row ∈ volume.below top, row.2 ≠ .folder ∧
        id = Artifact.identifier (Text.join Path.separator row.1) := by
  unfold knownIds at listed
  rcases there : volume.folderAt project.classes with failure | top <;> rw [there] at listed
  · cases listed
  cases listed
  refine ⟨top, rfl, fun id => ?_⟩
  rw [KnownIds.mem_ofList, List.mem_filterMap]
  refine exists_congr fun row => and_congr_right fun _ => ?_
  split
  · rename_i folder
    simp [folder]
  · rename_i file
    simp [file, eq_comm]

namespace Session

variable {settings : Settings} {peer : Peer} {sink : Wire.Sink} {volume : Volume}
  {before : List Record} {info : ProjectInfo} {σ : Type}

/-- **What the agent is asked** when the collector has taken its project info: the header of the
collector comes first, and then the request, from which the agent reads the pieces of the
identifiers. -/
theorem visits_of_welcome (unsent : sink.bytes = []) (starts : (RecordWriter.start sink).1 = .ok ())
    (silent : announcement? before = none) (pulls : settings.pulls = true)
    (welcomed : ∃ project after,
      Welcome settings volume (RecordWriter.start sink).2 info project after)
    (visit : Visitor σ) (state : σ) (later : Bytes) (schedule : Wire.Schedule) :
    let session := (takeEach (before ++ [.projectInfo info]) (opened settings peer sink volume)).2
    ∃ known, (Store.folderOf ⟨settings.output⟩ info).knownIds session.volume = .ok known ∧
      session.volume = (Store.project ⟨settings.output⟩ info volume).2 ∧
      (Link.CommandReader.after visit.recorded 2
        (.start (.start (session.sent ++ later) none schedule), [], state)).2.1 =
          [.record Record.ownHeader, .pull ⟨.classes, known.divided⟩] := by
  intro session
  obtain ⟨after, log, welcome, onward⟩ := takeEach_of_welcome peer silent welcomed
  have session_eq : session = (opened settings peer sink volume).introduced info
      (Store.folderOf ⟨settings.output⟩ info) (Store.project ⟨settings.output⟩ info volume).2 after
        log := congrArg Prod.snd (onward [])
  obtain ⟨request, stands, asked⟩ := welcome.exists_request
  rw [pulls, if_pos rfl] at asked
  obtain ⟨known, listed, encoded⟩ := asked
  have begun : (opened settings peer sink volume).sent = Record.streamHeader := by
    rw [sent_opened starts, unsent, List.nil_append]
  have header : (RecordWriter.start sink).2.sink.bytes = Record.streamHeader := begun
  have sent : session.sent ++ later = Record.streamHeader ++ (request ++ later) := by
    rw [← List.append_assoc, ← header, ← stands, session_eq]
    rfl
  rw [sent]
  refine ⟨known, by rw [session_eq]; exact listed, by rw [session_eq]; rfl, ?_⟩
  have alike (stream : RecordStream) : stream.Alike stream := ⟨rfl, rfl⟩
  rw [Link.CommandReader.visits_after visit [] state (alike _) 2,
    RecordStream.returned_first encoded trivial (fun _ => nofun) later schedule]
  rfl

/-- A store with a single artifact is asked about without a failure. -/
theorem prepared_of_file {project : ProjectStore}
    (place : project = Store.folderOf ⟨settings.output⟩ info)
    (classes : Volume.Followable project.classes) (unlimited : RecordWriter.Unlimited sink)
    (home : volume.home = project.folder) (folder : volume.at? ["classes"] = some .folder)
    {name id : String} {number : Nat} {contents : Bytes}
    (held : volume.below ["classes"] = [([name], .file number contents)])
    (named : Artifact.identifier name = id) {request : Bytes}
    (encoded : (Record.pull ⟨.classes, .ofList [id]⟩).encode = .ok request) :
    (RecordWriter.start sink).1 = .ok () ∧
      (∃ project after, Welcome settings volume (RecordWriter.start sink).2 info project after) ∧
      (Store.project ⟨settings.output⟩ info volume).2 = volume ∧
      project.knownIds volume = .ok (.ofList [id]) := by
  subst place named
  obtain ⟨given, there⟩ := ProjectStore.project_of_classes home folder classes
  have listed : (Store.folderOf ⟨settings.output⟩ info).knownIds volume =
      .ok (.ofList [Artifact.identifier name]) := by
    simp [ProjectStore.knownIds, there, held]
  generalize KnownIds.ofList [Artifact.identifier name] = known at listed encoded ⊢
  obtain ⟨starts, welcome⟩ := Welcome.of_unlimited unlimited (congrArg Prod.fst given)
    (by rw [given]; exact listed) encoded
  exact ⟨starts, ⟨_, welcome⟩, congrArg Prod.snd given, listed⟩

/-- **What the agent is told about the store.**

The collector has taken the project info of an agent and was told to ask for artifacts.  The agent
reads the header of the collector and then the request, however its transport divides them.  The
collector knows the identifiers of all files in the folder of the artifacts; the agent takes for
known the pieces of these between the separators of the line, and nothing else.  The two are the
same exactly if no identifier has a separator; and then an identifier is known to the agent exactly
if a file with it is in the store. -/
theorem known_arrives (unsent : sink.bytes = []) (starts : (RecordWriter.start sink).1 = .ok ())
    (silent : announcement? before = none) (pulls : settings.pulls = true)
    (welcomed : ∃ project after,
      Welcome settings volume (RecordWriter.start sink).2 info project after)
    (visit : Visitor σ) (state : σ) (later : Bytes) (schedule : Wire.Schedule) :
    let session := (takeEach (before ++ [.projectInfo info]) (opened settings peer sink volume)).2
    let project := Store.folderOf ⟨settings.output⟩ info
    ∃ top known passed, session.volume.folderAt project.classes = .ok top ∧
      project.knownIds session.volume = .ok known ∧
      (Link.CommandReader.after visit.recorded 2
        (.start (.start (session.sent ++ later) none schedule), [], state)).2.1 =
          [.record Record.ownHeader, .pull ⟨.classes, passed⟩] ∧
      (∀ id, id ∈ known.ids ↔ ∃ row ∈ session.volume.below top, row.2 ≠ .folder ∧
        id = Artifact.identifier (Text.join Path.separator row.1)) ∧
      (∀ id, passed.contains id = true ↔
        id ≠ "" ∧ ∃ stored ∈ known.ids, id ∈ Text.pieces KnownIds.separator stored) ∧
      (passed = known ↔ ∀ id ∈ known.ids, id ≠ "" ∧ KnownIds.separator ∉ id.toList) := by
  intro session project
  obtain ⟨known, listed, -, visits⟩ :=
    visits_of_welcome unsent starts silent pulls welcomed visit state later schedule
  obtain ⟨top, there, elements⟩ := ProjectStore.mem_knownIds listed
  refine ⟨top, known, known.divided, there, listed, visits, elements, fun id => ?_,
    KnownIds.divided_eq_iff⟩
  rw [KnownIds.contains, List.contains_iff_mem]
  exact KnownIds.mem_divided

/-- The agent is told of a class. -/
theorem known_arrives_of_class :
    let settings : Settings := ⟨⟨["", "store"]⟩, none, false, true, ⟨1, by decide⟩⟩
    let peer : Peer := ⟨"agent", "1", "now", fun _ => 0⟩
    let info : ProjectInfo := ⟨"a", "b", "", "", "", ""⟩
    let sink := RecordWriter.unused none (fun _ => none) none
    let project := Store.folderOf ⟨settings.output⟩ info
    let volume := ((Volume.empty project.folder).put ["classes"] .folder).put
      ["classes", "A.class"] (.file 0 [0])
    let session := (takeEach [.projectInfo info] (opened settings peer sink volume)).2
    let visit : Visitor Unit := fun _ state => (.ok (), state)
    sink.bytes = [] ∧ (RecordWriter.start sink).1 = .ok () ∧ settings.pulls = true ∧
      (∃ project after, Welcome settings volume (RecordWriter.start sink).2 info project after) ∧
      ∃ known, project.knownIds session.volume = .ok known ∧ known.ids = ["A.class"] ∧
        (Link.CommandReader.after visit.recorded 2 (.start (.ofBytes session.sent), [], ())).2.1 =
          [.record Record.ownHeader, .pull ⟨.classes, known⟩] := by
  intro settings peer info sink project volume session visit
  have unlimited : RecordWriter.Unlimited sink := ⟨rfl, rfl⟩
  have named : Artifact.identifier "A.class" = "A.class" := by decide +kernel
  have encoded : (Record.pull ⟨.classes, .ofList ["A.class"]⟩).encode =
      .ok [0x16, 7, 65, 46, 99, 108, 97, 115, 115] := rfl
  have unsent : sink.bytes = [] := rfl
  have pulls : settings.pulls = true := rfl
  have silent : announcement? [] = none := rfl
  have clean : ∀ id ∈ (KnownIds.ofList ["A.class"]).ids,
      id ≠ "" ∧ KnownIds.separator ∉ id.toList := by
    decide
  obtain ⟨starts, welcomed, made, listed⟩ := prepared_of_file rfl
    ⟨by decide +kernel, by decide +kernel, by decide +kernel⟩ unlimited rfl
    (rfl : volume.at? ["classes"] = some .folder) rfl named encoded
  -- lest the steps of the session be taken again
  clear_value settings peer info sink volume visit
  obtain ⟨-, -, kept, -⟩ :=
    visits_of_welcome unsent starts silent pulls welcomed visit () [] .prompt
  obtain ⟨_, known, passed, -, there, visits, -, -, same⟩ :=
    known_arrives unsent starts silent pulls welcomed visit () [] .prompt
  have same_known : known = .ofList ["A.class"] := by
    rw [kept, made] at there
    exact Except.ok.inj (there.symm.trans listed)
  rw [List.append_nil] at visits
  rw [same_known] at there same
  rw [same.2 clean] at visits
  exact ⟨unsent, starts, pulls, welcomed, _, there, rfl, visits⟩

/-- An artifact with the separator in its name is not known to the agent, and two that are not there
are. -/
theorem not_known_arrives_of_separator :
    let settings : Settings := ⟨⟨["", "store"]⟩, none, false, true, ⟨1, by decide⟩⟩
    let peer : Peer := ⟨"agent", "1", "now", fun _ => 0⟩
    let info : ProjectInfo := ⟨"a", "b", "", "", "", ""⟩
    let sink := RecordWriter.unused none (fun _ => none) none
    let project := Store.folderOf ⟨settings.output⟩ info
    let volume := ((Volume.empty project.folder).put ["classes"] .folder).put
      ["classes", "a|b.class"] (.file 0 [0])
    let session := (takeEach [.projectInfo info] (opened settings peer sink volume)).2
    let visit : Visitor Unit := fun _ state => (.ok (), state)
    ∃ known passed, project.knownIds session.volume = .ok known ∧
      (Link.CommandReader.after visit.recorded 2 (.start (.ofBytes session.sent), [], ())).2.1 =
        [.record Record.ownHeader, .pull ⟨.classes, passed⟩] ∧
      known.ids = ["a|b.class"] ∧ passed.ids = ["a", "b.class"] ∧ passed ≠ known := by
  intro settings peer info sink project volume session visit
  have unlimited : RecordWriter.Unlimited sink := ⟨rfl, rfl⟩
  have named : Artifact.identifier "a|b.class" = "a|b.class" := by decide +kernel
  have encoded : (Record.pull ⟨.classes, .ofList ["a|b.class"]⟩).encode =
      .ok [0x16, 9, 97, 124, 98, 46, 99, 108, 97, 115, 115] := rfl
  have unsent : sink.bytes = [] := rfl
  have pulls : settings.pulls = true := rfl
  have silent : announcement? [] = none := rfl
  have parts : (KnownIds.ofList ["a|b.class"]).divided.ids = ["a", "b.class"] := by decide +kernel
  have other : (KnownIds.ofList ["a|b.class"]).divided ≠ .ofList ["a|b.class"] := by decide +kernel
  obtain ⟨starts, welcomed, made, listed⟩ := prepared_of_file rfl
    ⟨by decide +kernel, by decide +kernel, by decide +kernel⟩ unlimited rfl
    (rfl : volume.at? ["classes"] = some .folder) rfl named encoded
  -- lest the steps of the session be taken again
  clear_value settings peer info sink volume visit
  obtain ⟨known, there, kept, visits⟩ :=
    visits_of_welcome unsent starts silent pulls welcomed visit () [] .prompt
  have same_known : known = .ofList ["a|b.class"] := by
    rw [kept, made] at there
    exact Except.ok.inj (there.symm.trans listed)
  rw [List.append_nil] at visits
  rw [same_known] at there visits
  exact ⟨_, _, there, visits, rfl, parts, other⟩

end Session
end Collector
end CoverageLink
