import CoverageLink.Link.Connection
import CoverageLink.Proofs.Artifact.Sync
import CoverageLink.Proofs.Link.Commands
import CoverageLink.Proofs.Link.RecordWriter
import CoverageLink.Proofs.Record.ReadAll

/-!
# What a connection answers

The collector delimits everything it asks for by counting acknowledgements, so an answer must be
complete, and there must be nothing between two answers.  This file says which records an agent
sends over a whole conversation, and what becomes of what it holds.

## 1.  Answers

`Stock` is what answers depend on: the probes and the volume.  `Stock.answers` are the records that
answer a command, and `Stock.after` is the stock that the next command finds.  So the answers to
several commands (`Stock.script`) are a matter of the commands alone.  All of it is for any reader
of archives.

## 2.  One command

What is sent for a command is what answers it, up to a write that fails (`answered`).  A dump hands
every class to the stream, which drops those without hits; a pull hands over the eligible files,
none of which is empty, so none of them is dropped.

What a command leaves behind is said only for the case that no write failed, because a run that
cannot answer is over.

## 3.  A conversation

By induction on the limit of a run (`conversed_answerAll`), which is never reached because every
command takes at least its tag.  The conversation is that of the stream, `RecordStream.commands`:
what comes behind its end is neither answered nor carried out.

## 4.  The beginning

A stream that is opened over a transport that takes everything begins with the header
(`init_of_unlimited`).
-/

namespace CoverageLink
namespace Link

open Artifact (eligible)
open Files (Volume)

/-! ## 1.  Answers -/

/-- What an agent answers from. -/
structure Stock where
  probes : Probes
  volume : Volume

namespace Stock

/-- The data of the classes with hits. -/
def hits (stock : Stock) : List ExecutionData :=
  (stock.probes.classes.map ProbedClass.data).filter ExecutionData.hasHits

/-- The files that are sent for a request. -/
def files (unpack : Artifact.Unpacker) (artifacts : Artifact.Sync) (request : PullRequest)
    (stock : Stock) : List ArtifactFile :=
  (eligible artifacts.filter request.known
    (artifacts.candidates unpack request.kind stock.volume)).map fun file => ⟨file.1, file.2⟩

/-- The records that answer a command. -/
def answers (unpack : Artifact.Unpacker) (artifacts : Artifact.Sync) (stock : Stock) :
    Record → List Record
  | .dump true _ =>
    .sessionInfo ⟨stock.probes.session, stock.probes.start, stock.probes.clock.now⟩ ::
      stock.hits.map .executionData ++ [.ok]
  | .dump false _ => [.ok]
  | .pull request => (stock.files unpack artifacts request).map .file ++ [.ok]
  | _ => []

/-- What an agent answers from after a command: the probes were reset if that was asked for, and
otherwise a dump has read the clock. -/
def after (artifacts : Artifact.Sync) (stock : Stock) : Record → Stock
  | .dump _ true => { stock with probes := stock.probes.reset }
  | .dump true false =>
    { stock with probes := { stock.probes with clock := stock.probes.clock.tick } }
  | .pull _ => { stock with volume := artifacts.provided stock.volume }
  | _ => stock

/-- The answers to commands, each of which finds what the ones before it have left. -/
def script (unpack : Artifact.Unpacker) (artifacts : Artifact.Sync) :
    (commands : List Record) → (stock : Stock) → List Record
  | [], _ => []
  | command :: commands, stock =>
    stock.answers unpack artifacts command ++
      script unpack artifacts commands (stock.after artifacts command)

/-- **The classes with hits are reported in increasing order of their numbers.** -/
theorem pairwise_hits (stock : Stock) : stock.hits.Pairwise fun data other => data.id < other.id :=
  List.Pairwise.filter _ (List.pairwise_map.2 stock.probes.ordered)

/-- What an agent holds, apart from its log and the number of files made. -/
structure Held (artifacts : Artifact.Sync) (stock : Stock) (holdings : Holdings) : Prop where
  probes : holdings.probes = stock.probes
  artifacts : holdings.artifacts = artifacts
  volume : ∃ made, holdings.volume = stock.volume.renumber made

/-- What an agent holds is what it answers from. -/
theorem Held.self (holdings : Holdings) :
    Held holdings.artifacts ⟨holdings.probes, holdings.volume⟩ holdings :=
  ⟨rfl, rfl, holdings.volume.made, rfl⟩

end Stock

/-! ## 2.  One command -/

namespace RecordWriter

theorem sendAll_append (first second : List Record) (writer : RecordWriter) :
    sendAll (first ++ second) writer =
      match sendAll first writer with
      | (.ok (), writer) => sendAll second writer
      | (.error failure, writer) => (.error failure, writer) := by
  rw [sendAll, handOver_append]
  rcases handOver _ first writer with ⟨_ | _, _⟩ <;> rfl

/-- Data is sent if there is a hit to report, and dropped otherwise. -/
theorem receive_executionData (data : ExecutionData) (writer : RecordWriter) :
    receive (.executionData data) writer =
      if data.hasHits then writer.send (.executionData data) else (.ok (), writer) := by
  have sent : receive (.executionData data) writer = writer.sendIfAny (Operation.dataRecord? data) :=
    executionData_eq writer data
  rw [sent, Operation.dataRecord?]
  split <;> rfl

/-- **The report of a dump**: the session, and the data of the classes with hits. -/
theorem deliver_report (info : SessionInfo) (classes : List ExecutionData) (writer : RecordWriter) :
    Probes.deliver RecordWriter.receive (Probes.Report.records ⟨info, classes⟩) writer =
      sendAll (.sessionInfo info :: (classes.filter ExecutionData.hasHits).map .executionData)
        writer := by
  rw [Probes.deliver_eq_handOver, Probes.Report.records, sendAll, handOver, handOver]
  have opened : receive (.sessionInfo info) writer = writer.send (.sessionInfo info) := rfl
  simp only
  rw [opened]
  rcases writer.send (.sessionInfo info) with ⟨failure | _, sent⟩
  · rfl
  · simp only
    have dropped (data : ExecutionData) (no_hits : data.hasHits = false) (writer : RecordWriter) :
        receive (.executionData data) writer = (.ok (), writer) := by
      rw [receive_executionData, no_hits]
      rfl
    rw [handOver_map, handOver_filter dropped, handOver_map]
    refine handOver_congr (fun data reported => ?_) sent
    funext writer
    rw [receive_executionData, if_pos (List.mem_filter.1 reported).2]

/-- **The files of a pull.**  None of them is empty, so all of them are sent. -/
theorem deliver_files {files : List Artifact.Sent} (full : ∀ file ∈ files, file.2 ≠ [])
    (writer : RecordWriter) :
    Artifact.deliver (fun name contents writer => writer.file name contents) files writer =
      sendAll (files.map fun file => .file ⟨file.1, file.2⟩) writer := by
  rw [sendAll, handOver_map]
  refine handOver_congr (fun file hfile => ?_) writer
  funext writer
  have some_contents : file.2.isEmpty = false := by
    simpa using full file hfile
  simp only [RecordWriter.file, some_contents]
  rfl

end RecordWriter

namespace Connection

open RecordWriter (sendAll sendAll_append)

variable {artifacts : Artifact.Sync} {stock : Stock} {holdings : Holdings}

/-- What has come of a command: its answer was sent until a write failed, and if none did, the agent
is left with what the next command should find. -/
structure Answered (artifacts : Artifact.Sync) (answers : List Record) (left : Stock)
    (writer : RecordWriter) (outcome : Except Failure Unit × RecordWriter × Holdings) : Prop where
  sent : (outcome.1, outcome.2.1) = sendAll answers writer
  held : outcome.1 = .ok () → left.Held artifacts outcome.2.2

namespace Answered

variable {records : List Record} {left : Stock} {writer told : RecordWriter}

/-- A write failed before the acknowledgement. -/
theorem of_failed {failure : Failure} (sent : sendAll records writer = (.error failure, told)) :
    Answered artifacts (records ++ [.ok]) left writer (.error failure, told, holdings) :=
  ⟨by rw [sendAll_append, sent], nofun⟩

/-- Everything before the acknowledgement was sent. -/
theorem of_sent (sent : sendAll records writer = (.ok (), told))
    (held : left.Held artifacts holdings) :
    Answered artifacts (records ++ [.ok]) left writer (told.ok.1, told.ok.2, holdings) := by
  refine ⟨?_, fun _ => held⟩
  rw [sendAll_append, sent]
  exact (handOver_singleton _ _ _).symm

end Answered

theorem answered_dump (unpack : Artifact.Unpacker) (held : stock.Held artifacts holdings)
    (dumps resets : Bool) (writer : RecordWriter) :
    Answered artifacts (stock.answers unpack artifacts (.dump dumps resets))
      (stock.after artifacts (.dump dumps resets)) writer
      (answerDump dumps resets (writer, holdings)) := by
  obtain ⟨probes, same, volume⟩ := held
  cases dumps with
  | false =>
    cases resets with
    | false => exact .of_sent (rfl : sendAll [] writer = _) ⟨probes, same, volume⟩
    | true =>
      have reset : holdings.probes.reset = stock.probes.reset := congrArg Probes.reset probes
      exact .of_sent (rfl : sendAll [] writer = _) ⟨reset, same, volume⟩
  | true =>
    have reported := RecordWriter.deliver_report
      ⟨stock.probes.session, stock.probes.start, stock.probes.clock.now⟩
      (stock.probes.classes.map ProbedClass.data) writer
    unfold answerDump
    simp only [probes, Probes.collect, Probes.take, if_true]
    rw [reported]
    rcases told : sendAll _ writer with ⟨failure | _, behind⟩
    · exact .of_failed told
    · cases resets <;> exact .of_sent told ⟨rfl, same, volume⟩

/-- A pass sends its files one after the other. -/
theorem run_sends (unpack : Artifact.Unpacker) (artifacts : Artifact.Sync) (request : PullRequest)
    (stock : Stock) (writer : RecordWriter) :
    let sent := sendAll ((stock.files unpack artifacts request).map .file) writer
    let pass := artifacts.run unpack request
      (fun name contents writer => writer.file name contents) writer stock.volume
    (∃ tally, pass.1 = sent.1.map fun _ => tally) ∧ pass.2.receiver = sent.2 := by
  intro sent pass
  have files : (stock.files unpack artifacts request).map Record.file =
      (eligible artifacts.filter request.known
        (artifacts.candidates unpack request.kind stock.volume)).map
          fun file => Record.file ⟨file.1, file.2⟩ := List.map_map
  obtain ⟨reported, receiver⟩ := artifacts.run_delivers unpack request
    (fun name contents (writer : RecordWriter) => writer.file name contents) writer stock.volume
  rw [RecordWriter.deliver_files fun _ => Artifact.contents_ne_nil_of_mem_eligible, ← files]
    at reported receiver
  exact ⟨⟨_, reported⟩, receiver⟩

theorem answered_pull (unpack : Artifact.Unpacker) (held : stock.Held artifacts holdings)
    (request : PullRequest) (writer : RecordWriter) :
    Answered artifacts (stock.answers unpack artifacts (.pull request))
      (stock.after artifacts (.pull request)) writer
      (answerPull unpack request (writer, holdings)) := by
  obtain ⟨probes, rfl, made, volume⟩ := held
  let receive : Artifact.Receiver RecordWriter := fun name contents writer =>
    writer.file name contents
  have same :
      Stock.files unpack holdings.artifacts request ⟨stock.probes, stock.volume.renumber made⟩ =
        stock.files unpack holdings.artifacts request := by
    simp only [Stock.files, Artifact.Sync.candidates_renumber]
  obtain ⟨⟨tally, reported⟩, receiver⟩ :=
    run_sends unpack holdings.artifacts request ⟨stock.probes, stock.volume.renumber made⟩ writer
  have placed (tally : Artifact.Tally)
      (ok : (holdings.artifacts.run unpack request receive writer
        (stock.volume.renumber made)).1 = .ok tally) :=
    holdings.artifacts.volume_of_run unpack request receive writer _ ok
  rw [same] at reported receiver
  rw [answerPull, Stock.answers]
  simp only [volume]
  generalize holdings.artifacts.run unpack request receive writer
    (stock.volume.renumber made) = outcome at reported receiver placed ⊢
  obtain ⟨result, pass⟩ := outcome
  simp only at reported receiver placed
  rcases told : sendAll _ writer with ⟨failure | _, behind⟩
  · rw [told] at reported receiver
    subst reported receiver
    exact .of_failed told
  · rw [told] at reported receiver
    subst reported receiver
    obtain ⟨last, restored⟩ := placed _ rfl
    rw [Artifact.Sync.provided_renumber, Volume.renumber_renumber] at restored
    exact .of_sent told ⟨probes, rfl, last, restored⟩

/-- **One command is answered**, whichever it is. -/
theorem answered (unpack : Artifact.Unpacker) {command : Record} {visit : Visit}
    (asked : Visit.ofRecord? command = some visit) (held : stock.Held artifacts holdings)
    (writer : RecordWriter) :
    Answered artifacts (stock.answers unpack artifacts command) (stock.after artifacts command)
      writer (answer unpack visit (writer, holdings)) := by
  cases command with
  | ok => cases asked
  | dump dumps resets =>
    cases asked
    exact answered_dump unpack held dumps resets writer
  | pull request =>
    cases asked
    exact answered_pull unpack held request writer
  | _ =>
    cases asked
    exact ⟨rfl, fun _ => held⟩

/-! ## 3.  A conversation -/

/-- Only an acknowledgement asks for nothing. -/
theorem exists_visit {record : Record} (other : record ≠ .ok) :
    ∃ visit, Visit.ofRecord? record = some visit := by
  cases record with
  | ok => contradiction
  | _ => exact ⟨_, rfl⟩

/-- What has come of a conversation: the answers were sent until a write failed, and if none did,
the conversation came to its end and every command was carried out. -/
structure Conversed (unpack : Artifact.Unpacker) (artifacts : Artifact.Sync)
    (commands : List Record) (ending : Except Failure Unit) (stock : Stock) (writer : RecordWriter)
    (outcome : Except Failure Unit × RecordStream × RecordWriter × Holdings) : Prop where
  sent : outcome.2.2.1 = (sendAll (stock.script unpack artifacts commands) writer).2
  failed : ∀ failure, (sendAll (stock.script unpack artifacts commands) writer).1 = .error failure →
    outcome.1 = .error failure
  ended : (sendAll (stock.script unpack artifacts commands) writer).1 = .ok () →
    outcome.1 = ending ∧ (commands.foldl (Stock.after artifacts) stock).Held artifacts outcome.2.2.2

namespace Conversed

variable {unpack : Artifact.Unpacker} {writer told : RecordWriter} {ending : Except Failure Unit}
  {rest : RecordStream}

/-- The conversation is over. -/
theorem of_over (held : stock.Held artifacts holdings) :
    Conversed unpack artifacts [] ending stock writer (ending, rest, writer, holdings) :=
  ⟨rfl, nofun, fun _ => ⟨rfl, held⟩⟩

/-- A write failed in an answer; what would have come behind it does not matter. -/
theorem of_failed {command : Record} (commands : List Record) {failure : Failure}
    (answered : Answered artifacts (stock.answers unpack artifacts command)
      (stock.after artifacts command) writer (.error failure, told, holdings)) :
    Conversed unpack artifacts (command :: commands) ending stock writer
      (.error failure, rest, told, holdings) := by
  have failed : sendAll (stock.script unpack artifacts (command :: commands)) writer =
      (.error failure, told) := by
    rw [Stock.script, sendAll_append, ← answered.sent]
  refine ⟨?_, ?_, ?_⟩ <;> rw [failed]
  · exact fun _ same => same
  · exact nofun

/-- The first command was answered, and the conversation went on. -/
theorem cons {command : Record} {commands : List Record} {left : Holdings}
    {outcome : Except Failure Unit × RecordStream × RecordWriter × Holdings}
    (answered : Answered artifacts (stock.answers unpack artifacts command)
      (stock.after artifacts command) writer (.ok (), told, left))
    (conversed : Conversed unpack artifacts commands ending (stock.after artifacts command) told
      outcome) :
    Conversed unpack artifacts (command :: commands) ending stock writer outcome := by
  have onward : sendAll (stock.script unpack artifacts (command :: commands)) writer =
      sendAll ((stock.after artifacts command).script unpack artifacts commands) told := by
    rw [Stock.script, sendAll_append, ← answered.sent]
  obtain ⟨sent, failed, ended⟩ := conversed
  rw [← onward] at sent failed ended
  exact ⟨sent, failed, ended⟩

end Conversed

/-- **A conversation is answered** command by command. -/
theorem conversed_answerAll (unpack : Artifact.Unpacker) {limit : Nat} {stream : RecordStream}
    (enough : stream.source.unread.length < limit) (held : stock.Held artifacts holdings)
    (writer : RecordWriter) :
    Conversed unpack artifacts stream.commands stream.ending stock writer
      (answerAll unpack limit stream (writer, holdings)) := by
  induction limit generalizing stream stock holdings writer with
  | zero => omega
  | succ limit ih =>
    rw [answerAll, CommandReader.read_eq]
    have conversation := stream.conversation_eq
    rcases given : stream.next with ⟨failure | _ | record, rest⟩ <;> rw [given] at conversation
    · obtain ⟨commands, ending⟩ := Prod.mk.inj conversation
      rw [commands, ending]
      exact .of_over held
    · obtain ⟨commands, ending⟩ := Prod.mk.inj conversation
      rw [commands, ending]
      exact .of_over held
    · by_cases acknowledged : record = .ok
      · subst acknowledged
        obtain ⟨commands, ending⟩ := Prod.mk.inj (conversation.trans (if_pos rfl))
        rw [commands, ending]
        exact .of_over held
      · obtain ⟨commands, ending⟩ := Prod.mk.inj (conversation.trans (if_neg acknowledged))
        obtain ⟨visit, asked⟩ := exists_visit acknowledged
        have less := RecordStream.length_unread_next given
        have first := answered unpack asked held writer
        rw [commands, ending]
        simp only [CommandReader.carryOut, Option.bind_some, asked]
        rcases told : answer unpack visit (writer, holdings) with ⟨failure | _, writer, left⟩ <;>
          rw [told] at first
        · exact .of_failed rest.commands first
        · exact .cons first (ih (by omega) (first.held rfl) writer)

/-- **Every command is answered.**  Whatever arrives on the stream of a connection, and however
archives are read, the agent sends the answers to the commands before the end of the conversation,
in order and with nothing between them, until a write fails.  If none fails, the run ends as the
conversation does, the answers stand completely behind what was sent before, and the agent holds
what those commands have left. -/
theorem run_answers (unpack : Artifact.Unpacker) (writer : RecordWriter) (stream : RecordStream)
    (holdings : Holdings) :
    let stock : Stock := ⟨holdings.probes, holdings.volume⟩
    let script := stock.script unpack holdings.artifacts stream.commands
    let told := sendAll script writer
    let outcome := run ⟨.initialized, writer, stream, true, false⟩ holdings unpack
    (∀ stock : Stock, stock.hits.Pairwise fun data other => data.id < other.id) ∧
      outcome.2.1.phase = .closed ∧
      outcome.2.1.sent = told.2.sink.bytes ∧
      match told.1 with
      | .error failure => outcome.1 = .error failure
      | .ok () =>
        outcome.1 = stream.ending ∧
          (∃ encodings, script.mapM Record.encode = .ok encodings ∧
            outcome.2.1.sent = writer.sink.bytes ++ encodings.flatten) ∧
          (stream.commands.foldl (Stock.after holdings.artifacts) stock).Held holdings.artifacts
            outcome.2.2 := by
  intro stock script told outcome
  have held : stock.Held holdings.artifacts holdings := ⟨rfl, rfl, holdings.volume.made, rfl⟩
  obtain ⟨sent, failed, ended⟩ :=
    conversed_answerAll unpack (Nat.lt_succ_self stream.source.unread.length) held writer
  have bytes : outcome.2.1.sent = told.2.sink.bytes :=
    congrArg (fun writer => writer.sink.bytes) sent
  refine ⟨Stock.pairwise_hits, phase_close _, bytes, ?_⟩
  rcases all : told.1 with failure | _
  · exact failed failure all
  · obtain ⟨encodings, encoded, stand⟩ := RecordWriter.bytes_of_sendAll all
    obtain ⟨finished, left⟩ := ended all
    exact ⟨finished, ⟨encodings, encoded, bytes.trans stand⟩, left⟩

/-! ## 4.  The beginning -/

/-- **A stream is opened** over a transport that takes everything. -/
theorem init_of_unlimited {connection : Connection} (unbound : connection.phase = .unbound)
    (free : RecordWriter.Unlimited connection.writer.sink) :
    ∃ writer, connection.init =
        (.ok (), { connection with writer, phase := .initialized, bound := true }) ∧
      RecordWriter.Unlimited writer.sink ∧
      writer.sink.bytes = connection.sent ++ Record.streamHeader := by
  obtain ⟨sent, still⟩ := RecordWriter.send_of_unlimited free Record.encode_ownHeader
  have opened : connection.writer.send Record.ownHeader =
      (.ok (), (connection.writer.send Record.ownHeader).2) := Prod.ext sent rfl
  refine ⟨_, ?_, still, RecordWriter.bytes_send_of_unlimited free Record.encode_ownHeader⟩
  rw [init, if_neg (Decidable.not_not.2 unbound), opened]

end Connection
end Link
end CoverageLink
