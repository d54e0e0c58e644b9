import CoverageLink.Proofs.Archive.Single
import CoverageLink.Proofs.Link.Connection

/-!
# Whether a pull is completed

An agent passes over what it cannot read and what is too large to send, so over a transport that
takes everything a pull should be completed, whatever lies in the folders of the host.  There is one
thing left that nobody looks at before a file is encoded, and that is how long its name is.

## 1.  Files that can be encoded

Contents that are sent are small enough (`Artifact.fits_of_mem_eligible`), so a file can be encoded
if its name fits behind a length of two octets.

## 2.  Names of blocks

A host keeps the paths of its files short, but a name in an archive may have 65535 octets.  These
need not be UTF-8, and then some of them stand for characters of three octets.  `Blocks.holdings`
are those of a host whose application holds one class with such a name.

## 3.  A pull

A pass ends at the first name that does not fit, behind everything that comes before it, and there
is no acknowledgement then (`Connection.pull_completed_iff`).
-/

namespace CoverageLink

open Artifact (Candidate eligible isArchive memberName)
open Files (Host Path Volume)

/-! ## 1.  Files that can be encoded -/

namespace ArtifactFile

/-- Whether the name of a file can be encoded. -/
def Named (file : ArtifactFile) : Prop := (Utf8.encode file.name).length ≤ Wire.maxText

instance (file : ArtifactFile) : Decidable file.Named := inferInstanceAs (Decidable (_ ≤ _))

end ArtifactFile

namespace Record

theorem exists_encode_file {file : ArtifactFile} (named : file.Named)
    (fits : file.contents.length ≤ Wire.maxBlob) :
    ∃ bytes, (Record.file file).encode = .ok bytes := by
  refine Wire.Emission.exists_complete ?_
  simp only [fields, List.forall_mem_cons, List.not_mem_nil, false_implies, implies_true, and_true]
  exact ⟨⟨_, rfl⟩, Wire.Field.exists_encode_text named, Wire.Field.exists_encode_blob fits⟩

/-- The length of the name is what comes first. -/
theorem encode_file_of_long {file : ArtifactFile} (long : ¬file.Named) :
    (Record.file file).encode = .error (.textTooLong (Utf8.encode file.name).length) := by
  have name : (Wire.Field.text file.name).pieces =
      .error (.textTooLong (Utf8.encode file.name).length) := by
    rw [Wire.Field.pieces, Wire.Field.textPieces]
    exact if_pos (Nat.lt_of_not_le long)
  simp only [encode, emission, fields, Wire.Emission.ofFields, name]
  rfl

end Record

namespace Link
namespace Stock

/-- A file that is sent can be encoded exactly if its name can. -/
theorem exists_encode_iff_of_mem_files {unpack : Artifact.Unpacker} {artifacts : Artifact.Sync}
    {request : PullRequest} {stock : Stock} {file : ArtifactFile}
    (member : file ∈ stock.files unpack artifacts request) :
    (∃ bytes, (Record.file file).encode = .ok bytes) ↔ file.Named := by
  obtain ⟨sent, sent_there, rfl⟩ := List.mem_map.1 member
  refine ⟨fun ⟨bytes, encoded⟩ => Decidable.not_not.1 fun long => ?_, fun named => ?_⟩
  · cases encoded.symm.trans (Record.encode_file_of_long long)
  · exact Record.exists_encode_file named (Artifact.fits_of_mem_eligible sent_there).2

/-- The files up to the first whose name cannot be encoded. -/
theorem named_or_first_long (files : List ArtifactFile) :
    (∀ file ∈ files, file.Named) ∨
      ∃ done file rest, files = done ++ file :: rest ∧ (∀ other ∈ done, other.Named) ∧
        ¬file.Named := by
  rcases found : files.find? (fun file => !decide file.Named) with _ | file
  · refine .inl fun file member => ?_
    simpa using List.find?_eq_none.1 found file member
  · obtain ⟨long, done, rest, split, named⟩ := List.find?_eq_some_iff_append.1 found
    refine .inr ⟨done, file, rest, split, fun other member => ?_, by simpa using long⟩
    simpa using named other member

end Stock

/-! ## 2.  Names of blocks -/

namespace Blocks

open Archive (Member)

/-- Full blocks, as an archive spells them. -/
def raw (count : Nat) : Bytes := List.replicate count 0xDB

/-- A name of full blocks. -/
def name (count : Nat) : String := String.ofList (List.replicate count '█')

set_option maxRecDepth 4000 in
theorem char_block : Codepage.char 0xDB = '█' := by
  -- a literal is its characters; to decode its octets would take long
  have literal {text : String} {chars : List Char} (same : text = String.ofList chars) :
      text.toList = chars := by
    rw [same, String.toList_ofList]
  rw [Codepage.char, if_neg (by decide)]
  delta Codepage.upper
  rw [String.toList_append, literal rfl, literal rfl]
  rfl

theorem decode_raw (count : Nat) : Codepage.decode (raw count) = name count := by
  rw [Codepage.decode, raw, List.map_replicate, char_block, name]

/-- A block has three octets. -/
theorem length_encode_name (count : Nat) : (Utf8.encode (name count)).length = 3 * count := by
  have block : (String.utf8EncodeChar '█').length = 3 := by decide +kernel
  rw [Utf8.encode, name, String.toList_ofList, List.length_flatMap, List.map_replicate, block,
    List.sum_replicate_nat, Nat.mul_comm]

theorem memberName_name (count : Nat) : memberName (name count) = name count := by
  have kept : (List.replicate count '█').dropWhile (· = '/') = List.replicate count '█' := by
    cases count <;> rfl
  rw [memberName, name, String.toList_ofList, kept]

theorem isFolder_ofContents (count : Nat) (contents : Bytes) :
    (Member.ofContents (name count) contents).isFolder = false := by
  rw [Member.isFolder, Member.ofContents, name, String.toList_ofList]
  cases count <;> simp [List.getLast?_replicate]

/-- There is no dot in a name of blocks. -/
theorem isArchive_name (count : Nat) : isArchive (name count) = false := by
  have block : Char.toLower '█' = '█' := by decide
  have no_dot : '.' ∉ List.replicate count '█' := fun dot => by
    cases List.eq_of_mem_replicate dot
  rw [isArchive, name, String.toList_ofList, List.map_replicate, block]
  refine List.any_eq_false.2 fun ending listed ends => no_dot ?_
  refine (List.isSuffixOf_iff_suffix.1 ends).subset ?_
  simp only [List.mem_cons, List.not_mem_nil, or_false] at listed
  rcases listed with rfl | rfl | rfl <;> decide

/-- An application of one class, and a dump folder in which there is nothing. -/
def volume (count : Nat) : Volume :=
  ((Volume.empty ⟨["", "srv"]⟩).put ["app.jar"]
    (.file 0 (Archive.Single.octets (raw count) [1]))).put ["dump"] .folder

/-- Nothing is filtered out. -/
def artifacts : Artifact.Sync :=
  ⟨⟨["", "srv", "dump"]⟩, some ⟨["", "srv", "app.jar"]⟩, ⟨⟨[fun _ => true]⟩, ⟨[]⟩⟩, [],
    ⟨["", "tmp"]⟩, .ofVolume⟩

/-- What a host with such an application holds. -/
def holdings (count : Nat) : Holdings := ⟨.new "session" .ticking, artifacts, volume count, []⟩

/-- The steps of a path are a matter of where the volume is. -/
theorem route_volume (count : Nat) (path : Path) :
    (volume count).route path = (Volume.empty ⟨["", "srv"]⟩).route path := rfl

theorem entryAt_application (count : Nat) :
    (volume count).entryAt ⟨["", "srv", "app.jar"]⟩ =
      .ok (["app.jar"], .file 0 (Archive.Single.octets (raw count) [1])) := by
  have route : (volume count).route ⟨["", "srv", "app.jar"]⟩ = [.name "app.jar"] := by
    rw [route_volume]
    decide +kernel
  rw [Volume.entryAt_eq_ok_iff, Volume.place_eq_ok_iff, route]
  exact ⟨by decide +kernel, .file ⟨by decide +kernel, by decide +kernel⟩ rfl rfl⟩

theorem folderAt_dump (count : Nat) :
    (volume count).folderAt artifacts.dumpFolder = .ok ["dump"] := by
  have route : (volume count).route artifacts.dumpFolder = [.name "dump"] := by
    rw [route_volume]
    decide +kernel
  rw [Volume.folderAt_eq_ok_iff, Volume.entryAt_eq_ok_iff, Volume.place_eq_ok_iff, route]
  exact ⟨by decide +kernel, .folder ⟨by decide +kernel, by decide +kernel⟩ rfl .here⟩

/-- The application is an archive of one class. -/
theorem members?_application {count : Nat} (fits : count < 0x10000) :
    Archive.members? (Archive.Single.octets (raw count) [1]) =
      some [.ofContents (name count) [1]] := by
  have short : (raw count).length = count := List.length_replicate
  have near : (Archive.Single.body (raw count) [1]).length < 0xFFFFFFFF := by
    rw [Archive.Single.length_body, short, List.length_singleton]
    omega
  rw [Archive.Single.members?_octets (by rw [short]; exact fits) near, decode_raw]

/-- The class is offered, however far one may still go into archives. -/
theorem ofMember_class (host : Host) (label : String)
    (descend : Option (String → Bytes → List Candidate)) (count : Nat) :
    artifacts.ofMember host label descend (.ofContents (name count) [1]) =
      [⟨name count, .ok [1]⟩] := by
  have unhindered : (Member.ofContents (name count) [1]).obstacle? = none := rfl
  have called : (Member.ofContents (name count) [1]).name = name count := rfl
  have full : (Member.ofContents (name count) [1]).size = 1 := rfl
  have allowed : artifacts.isDenied (name count) = false := rfl
  unfold Artifact.Sync.ofMember
  simp only [unhindered, isFolder_ofContents, called, memberName_name, allowed, isArchive_name,
    full, Member.contents_ofContents]
  rfl

theorem ofArchive_application {count : Nat} (fits : count < 0x10000) (host : Host) (scratch : Bool)
    (levels : Nat) (label : String) :
    artifacts.ofArchive Archive.members? host scratch levels label
      (Archive.Single.octets (raw count) [1]) = [⟨name count, .ok [1]⟩] := by
  cases levels <;> simp [Artifact.Sync.ofArchive, members?_application fits, ofMember_class]

/-- There is nothing on offer but the class. -/
theorem candidates_volume {count : Nat} (fits : count < 0x10000) :
    artifacts.candidates Archive.members? .classes (volume count) = [⟨name count, .ok [1]⟩] := by
  have answers : artifacts.hostOf (volume count) = Host.ofVolume (volume count) :=
    Host.ofVolume_renumber _ 0
  have dump : (artifacts.hostOf (volume count)).follow ⟨artifacts.dumpFolder, []⟩ =
      .ok .folder := by
    rw [answers]
    exact Host.follow_of_entryAt (Volume.folderAt_eq_ok_iff.1 (folderAt_dump count))
  have bare : (Host.ofVolume (volume count)).files ⟨artifacts.dumpFolder, []⟩ = [] :=
    Host.files_of_ok (Host.names_of_folderAt (folderAt_dump count))
  have application (scratch : Bool) :
      artifacts.ofApplication Archive.members? (Host.ofVolume (volume count)) scratch
        ⟨["", "srv", "app.jar"]⟩ = [⟨name count, .ok [1]⟩] := by
    rw [Artifact.Sync.ofApplication, Host.follow_of_entryAt (entryAt_application count),
      if_neg nofun, Artifact.Sync.ofArchiveFile,
      Host.load_of_entryAt (entryAt_application count)]
    exact ofArchive_application fits _ _ _ _
  rw [Artifact.Sync.candidates, Artifact.Sync.provided_of_follow dump, answers,
    Artifact.Sync.ofFolder, bare, List.flatMap_nil, List.append_nil]
  exact application _

/-- The class is sent. -/
theorem files_holdings {count : Nat} (fits : count < 0x10000) :
    Stock.files Archive.members? (holdings count).artifacts ⟨.classes, .empty⟩
      ⟨(holdings count).probes, (holdings count).volume⟩ = [⟨name count, [1]⟩] := by
  have accepted : Candidate.accepted artifacts.filter ⟨name count, .ok [1]⟩ = true := rfl
  have wanted : Candidate.stored .empty ⟨name count, .ok [1]⟩ = false := rfl
  have sent := (Artifact.fate_of_wanted .empty _ accepted wanted).1
  rw [Stock.files, holdings, candidates_volume fits, sent]
  rfl

end Blocks

/-! ## 3.  A pull -/

namespace RecordWriter

variable {writer : RecordWriter}

/-- Nothing goes out behind a record that cannot be encoded. -/
theorem sendAll_cons_of_encode_error {record : Record} {failure : Failure}
    (refused : record.encode = .error failure) (rest : List Record) (writer : RecordWriter) :
    sendAll (record :: rest) writer = (.error failure, writer) := by
  rw [sendAll, handOver, send_of_encode_error refused]

/-- Records go out until one of them cannot be encoded. -/
theorem sendAll_of_unencodable (free : Unlimited writer.sink) {done : List Record} {next : Record}
    (rest : List Record) (encodable : ∀ record ∈ done, ∃ bytes, record.encode = .ok bytes)
    {failure : Failure} (refused : next.encode = .error failure) :
    ∃ encodings, done.mapM Record.encode = .ok encodings ∧
      (sendAll (done ++ next :: rest) writer).1 = .error failure ∧
      (sendAll (done ++ next :: rest) writer).2.sink.bytes =
        writer.sink.bytes ++ encodings.flatten := by
  have sent := sendAll_of_unlimited free encodable
  obtain ⟨encodings, encoded, stand⟩ := bytes_of_sendAll sent
  have ended : sendAll (done ++ next :: rest) writer =
      (.error failure, (sendAll done writer).2) := by
    rw [sendAll_append, show sendAll done writer = (.ok (), (sendAll done writer).2) from
      Prod.ext sent rfl]
    exact sendAll_cons_of_encode_error refused rest _
  rw [ended]
  exact ⟨encodings, encoded, rfl, stand⟩

end RecordWriter

namespace Connection

open RecordWriter (Unlimited sendAll)

variable {writer : RecordWriter}

/-- A pass succeeds exactly if every name fits. -/
theorem run_ok_iff (unpack : Artifact.Unpacker) (artifacts : Artifact.Sync) (request : PullRequest)
    (stock : Stock) (free : Unlimited writer.sink) :
    (∃ tally, (artifacts.run unpack request
        (fun name contents writer => writer.file name contents) writer stock.volume).1 =
          .ok tally) ↔
      ∀ file ∈ stock.files unpack artifacts request, file.Named := by
  obtain ⟨⟨tally, sent⟩, -⟩ := run_sends unpack artifacts request stock writer
  have counted {result : Except Failure Unit} :
      (∃ other, result.map (fun _ => tally) = .ok other) ↔ result = .ok () := by
    cases result <;> simp [Except.map]
  rw [sent, counted, RecordWriter.sendAll_eq_ok_iff free, List.forall_mem_map]
  exact forall₂_congr fun file member => Stock.exists_encode_iff_of_mem_files member

/-- **A pull is completed exactly if every name fits**, however archives are read.  Over a transport
that takes everything a pass succeeds, and its files and the acknowledgement are on the stream,
unless the name of a file that it sends has more octets than a length of two octets can say.  Then
the pull fails at the first such file, and on the stream there are the files before it and nothing
else. -/
theorem pull_completed_iff (unpack : Artifact.Unpacker) (holdings : Holdings)
    (request : PullRequest) (free : Unlimited writer.sink) :
    let stock : Stock := ⟨holdings.probes, holdings.volume⟩
    let files := stock.files unpack holdings.artifacts request
    let pass := holdings.artifacts.run unpack request
      (fun name contents writer => writer.file name contents) writer holdings.volume
    let outcome := answerPull unpack request (writer, holdings)
    ((∃ tally, pass.1 = .ok tally) ↔ ∀ file ∈ files, file.Named) ∧
      (outcome.1 = .ok () ↔ ∀ file ∈ files, file.Named) ∧
      (outcome.1 = .ok () → ∃ encodings,
        (files.map Record.file ++ [Record.ok]).mapM Record.encode = .ok encodings ∧
          outcome.2.1.sink.bytes = writer.sink.bytes ++ encodings.flatten) ∧
      ∀ failure, outcome.1 = .error failure → ∃ done file rest encodings,
        files = done ++ file :: rest ∧ (∀ other ∈ done, other.Named) ∧
          Wire.maxText < (Utf8.encode file.name).length ∧
          failure = .textTooLong (Utf8.encode file.name).length ∧
          (done.map Record.file).mapM Record.encode = .ok encodings ∧
          outcome.2.1.sink.bytes = writer.sink.bytes ++ encodings.flatten := by
  intro stock files pass outcome
  have answered : (outcome.1, outcome.2.1) = sendAll (files.map .file ++ [.ok]) writer :=
    (answered_pull unpack (Stock.Held.self holdings) request writer).sent
  have ended : outcome.1 = (sendAll (files.map .file ++ [.ok]) writer).1 :=
    congrArg Prod.fst answered
  have told : outcome.2.1 = (sendAll (files.map .file ++ [.ok]) writer).2 :=
    congrArg Prod.snd answered
  have encodable (file : ArtifactFile) (member : file ∈ files) :
      (∃ bytes, (Record.file file).encode = .ok bytes) ↔ file.Named :=
    Stock.exists_encode_iff_of_mem_files member
  have acknowledged : ∃ bytes, Record.ok.encode = .ok bytes := ⟨_, rfl⟩
  have completed : outcome.1 = .ok () ↔ ∀ file ∈ files, file.Named := by
    rw [ended, RecordWriter.sendAll_eq_ok_iff free, List.forall_mem_append, List.forall_mem_map,
      List.forall_mem_singleton, and_iff_left acknowledged]
    exact forall₂_congr encodable
  refine ⟨run_ok_iff unpack holdings.artifacts request stock free, completed, fun ok => ?_,
    fun failure failed => ?_⟩
  · rw [told]
    exact RecordWriter.bytes_of_sendAll (ended ▸ ok)
  · rcases Stock.named_or_first_long files with named | ⟨done, file, rest, split, named, long⟩
    · cases (completed.2 named).symm.trans failed
    have before : ∀ record ∈ done.map Record.file, ∃ bytes, record.encode = .ok bytes := by
      refine List.forall_mem_map.2 fun other member => (encodable other ?_).2 (named other member)
      rw [split]
      exact List.mem_append_left _ member
    have records : files.map Record.file ++ [.ok] =
        done.map .file ++ .file file :: (rest.map .file ++ [.ok]) := by
      rw [split, List.map_append, List.map_cons, List.append_assoc, List.cons_append]
    obtain ⟨encodings, encoded, refused, stand⟩ :=
      RecordWriter.sendAll_of_unencodable free (rest.map .file ++ [.ok]) before
        (Record.encode_file_of_long long)
    rw [← records, ← ended] at refused
    rw [← records, ← told] at stand
    cases failed.symm.trans refused
    exact ⟨done, file, rest, encodings, split, named, Nat.lt_of_not_le long, rfl, encoded, stand⟩

/-- A name of 65535 octets is the longest one that fits. -/
theorem pull_completed_iff_of_greatest :
    let holdings := Blocks.holdings 21845
    let outcome := answerPull Archive.members? ⟨.classes, .empty⟩ (⟨.open_, 0⟩, holdings)
    Unlimited Wire.Sink.open_ ∧ (Utf8.encode (Blocks.name 21845)).length = 65535 ∧
      outcome.1 = .ok () ∧ ∃ encodings,
        [Record.file ⟨Blocks.name 21845, [1]⟩, .ok].mapM Record.encode = .ok encodings ∧
          outcome.2.1.sink.bytes = encodings.flatten := by
  intro holdings outcome
  have free : Unlimited Wire.Sink.open_ := ⟨rfl, rfl⟩
  have octets : (Utf8.encode (Blocks.name 21845)).length = 65535 := Blocks.length_encode_name 21845
  have named : (⟨Blocks.name 21845, [1]⟩ : ArtifactFile).Named := Nat.le_of_eq octets
  have files : Stock.files Archive.members? holdings.artifacts ⟨.classes, .empty⟩
      ⟨holdings.probes, holdings.volume⟩ = [⟨Blocks.name 21845, [1]⟩] :=
    Blocks.files_holdings (by decide)
  obtain ⟨-, completed, sent, -⟩ :=
    @pull_completed_iff ⟨.open_, 0⟩ Archive.members? holdings ⟨.classes, .empty⟩ free
  have done : outcome.1 = .ok () := by
    refine completed.2 fun file member => ?_
    rw [files] at member
    exact List.mem_singleton.1 member ▸ named
  obtain ⟨encodings, encoded, stand⟩ := sent done
  rw [files] at encoded
  exact ⟨free, octets, done, encodings, encoded, stand⟩

/-- Not every pull is completed: one block more, and there is nothing on the stream. -/
theorem not_completed_of_long_name :
    let holdings := Blocks.holdings 21846
    let pass := holdings.artifacts.run Archive.members? ⟨.classes, .empty⟩
      (fun name contents writer => writer.file name contents) (⟨.open_, 0⟩ : RecordWriter)
      holdings.volume
    let outcome := answerPull Archive.members? ⟨.classes, .empty⟩ (⟨.open_, 0⟩, holdings)
    Unlimited Wire.Sink.open_ ∧ pass.1 = .error (.textTooLong 65538) ∧
      outcome.1 = .error (.textTooLong 65538) ∧ outcome.2.1.sink.bytes = [] := by
  intro holdings pass outcome
  have octets : (Utf8.encode (Blocks.name 21846)).length = 65538 := Blocks.length_encode_name 21846
  have long : ¬(⟨Blocks.name 21846, [1]⟩ : ArtifactFile).Named := by
    rw [ArtifactFile.Named, octets]
    decide
  have refused : (Record.file ⟨Blocks.name 21846, [1]⟩).encode = .error (.textTooLong 65538) := by
    rw [Record.encode_file_of_long long, octets]
  have failed (rest : List Record) :
      sendAll (.file ⟨Blocks.name 21846, [1]⟩ :: rest) ⟨.open_, 0⟩ =
        (.error (.textTooLong 65538), ⟨.open_, 0⟩) :=
    RecordWriter.sendAll_cons_of_encode_error refused rest _
  have files : Stock.files Archive.members? holdings.artifacts ⟨.classes, .empty⟩
      ⟨holdings.probes, holdings.volume⟩ = [⟨Blocks.name 21846, [1]⟩] :=
    Blocks.files_holdings (by decide)
  obtain ⟨⟨tally, sent⟩, -⟩ := run_sends Archive.members? holdings.artifacts ⟨.classes, .empty⟩
    ⟨holdings.probes, holdings.volume⟩ ⟨.open_, 0⟩
  rw [files, List.map_singleton, failed] at sent
  have answered :=
    (answered_pull Archive.members? (Stock.Held.self holdings) ⟨.classes, .empty⟩ ⟨.open_, 0⟩).sent
  rw [Stock.answers, files, List.map_singleton, List.singleton_append, failed] at answered
  obtain ⟨ended, told⟩ := Prod.mk.inj answered
  exact ⟨⟨rfl, rfl⟩, sent, ended, congrArg (fun writer => writer.sink.bytes) told⟩

end Connection
end Link
end CoverageLink
