import CoverageLink.Proofs.Link.Connection
import CoverageLink.Proofs.Record.Rewrite

/-!
# What an agent sends while its host program runs

While it is connected an agent is not only asked for dumps by its collector.  The host program
passes probes all the time, and may dump on its own behalf.  These occurrences are put into one
order here, and what is sent for them is a matter of that order and of the probes at the beginning
(`Occurrence.script`): a report for every dump, and an acknowledgement behind it or in its place.

A report is *covered* when the classes without a hit are left out, which is what the stream does
with them.  `Occurrence.reports` are the covered reports of all dumps.  They are what an agent has
to tell in the end, and whoever takes apart what it has sent should come back to them.
-/

namespace CoverageLink

namespace Probes

namespace Report

/-- A report of the classes with hits only. -/
def covered (report : Report) : Report :=
  { report with classes := report.classes.filter ExecutionData.hasHits }

/-- A report as it comes back from the wire: the times of its session stop at the last time of a
signed field. -/
def received (report : Report) : Report :=
  { report with info := ⟨report.info.id, report.info.start.clamped, report.info.dump.clamped⟩ }

theorem map_normal_records (report : Report) :
    report.records.map Record.normal = report.received.records := by
  have data : (Record.normal ∘ Record.executionData) = Record.executionData := rfl
  rw [records, records, received, List.map_cons, List.map_map, data]
  rfl

end Report

/-- Probes that can be reported and read back: the texts fit into their fields, and no class has
more probes than a blob has octets. -/
structure Sized (probes : Probes) : Prop where
  session : (Utf8.encode probes.session).length ≤ Wire.maxText
  classes : ∀ entry ∈ probes.classes,
    (Utf8.encode entry.name).length ≤ Wire.maxText ∧ entry.probes.length ≤ Wire.maxBlob

namespace Sized

variable {probes : Probes}

/-- A change of the probes keeps their names and their numbers. -/
theorem of_map {change : ProbedClass → ProbedClass} {other : Probes} (sized : probes.Sized)
    (session : other.session = probes.session) (classes : other.classes = probes.classes.map change)
    (name : ∀ entry, (change entry).name = entry.name)
    (count : ∀ entry, (change entry).probes.length = entry.probes.length) : other.Sized := by
  refine ⟨session ▸ sized.session, fun entry member => ?_⟩
  rw [classes] at member
  obtain ⟨before, there, rfl⟩ := List.mem_map.1 member
  rw [name, count]
  exact sized.classes before there

theorem hit (sized : probes.Sized) (id : Int64) (index : Nat) : (probes.hit id index).Sized := by
  refine sized.of_map rfl rfl (fun entry => ?_) fun entry => ?_
  · split <;> rfl
  · split <;> simp

theorem reset (sized : probes.Sized) : probes.reset.Sized :=
  sized.of_map rfl rfl (fun _ => rfl) fun _ => by simp

theorem take (sized : probes.Sized) (resets : Bool) : (probes.take resets).2.Sized := by
  cases resets with
  | false => exact ⟨sized.session, sized.classes⟩
  | true => exact sized.reset

/-- What is reported fits on the wire. -/
theorem records (sized : probes.Sized) (resets : Bool) :
    ∀ record ∈ (probes.take resets).1.covered.records, record.Writable ∧ record.Readable := by
  intro record member
  rcases List.mem_cons.1 member with rfl | member
  · exact ⟨sized.session, trivial⟩
  · obtain ⟨data, reported, rfl⟩ := List.mem_map.1 member
    obtain ⟨entry, there, rfl⟩ := List.mem_map.1 (List.mem_filter.1 reported).1
    exact sized.classes entry there

end Sized

/-- **The classes of a report are in increasing order of their numbers.** -/
theorem pairwise_covered (probes : Probes) (resets : Bool) :
    (probes.take resets).1.covered.classes.Pairwise fun data other => data.id < other.id :=
  List.Pairwise.filter _ (List.pairwise_map.2 probes.ordered)

end Probes

namespace Link

/-- What may occur while an agent is connected. -/
inductive Occurrence
  /-- The program passes a probe. -/
  | hit (id : Int64) (index : Nat)
  /-- The host program dumps. -/
  | dump (resets : Bool)
  /-- The collector commands a dump, a reset, or both. -/
  | command (dumps resets : Bool)

namespace Occurrence

/-- What becomes of an agent. -/
def occur (occurrence : Occurrence) (agent : Connection × Holdings) :
    Except Failure Unit × Connection × Holdings :=
  let (connection, holdings) := agent
  match occurrence with
  | hit id index =>
    (.ok (), connection, { holdings with probes := holdings.probes.hit id index })
  | dump resets => connection.dump resets holdings
  | command dumps resets =>
    let (result, writer, holdings) :=
      Connection.answer Archive.members? (.dump dumps resets) (connection.writer, holdings)
    (result, { connection with writer }, holdings)

/-- What becomes of the probes. -/
def probes : Occurrence → Probes → Probes
  | hit id index, probes => probes.hit id index
  | dump resets, probes => (probes.take resets).2
  | command true resets, probes => (probes.take resets).2
  | command false true, probes => probes.reset
  | command false false, probes => probes

/-- The report, if there is one. -/
def report? : Occurrence → Probes → Option Probes.Report
  | hit _ _, _ => none
  | dump resets, probes => some (probes.take resets).1.covered
  | command true resets, probes => some (probes.take resets).1.covered
  | command false _, _ => none

/-- The records that are sent. -/
def records : Occurrence → Probes → List Record
  | hit _ _, _ => []
  | dump resets, probes => (probes.take resets).1.covered.records ++ [.ok]
  | command true resets, probes => (probes.take resets).1.covered.records ++ [.ok]
  | command false _, _ => [.ok]

/-- The reports of all dumps, in order. -/
def reports : List Occurrence → Probes → List Probes.Report
  | [], _ => []
  | occurrence :: later, probes =>
    (occurrence.report? probes).toList ++ reports later (occurrence.probes probes)

/-- All records that are sent, in order. -/
def script : List Occurrence → Probes → List Record
  | [], _ => []
  | occurrence :: later, probes =>
    occurrence.records probes ++ script later (occurrence.probes probes)

/-! ## One occurrence -/

open RecordWriter (sendAll sendAll_append)

/-- A dump that is asked for, by whomever. -/
theorem answerDump_eq (dumps resets : Bool) (writer : RecordWriter) (holdings : Holdings)
    (sent : (sendAll ((command dumps resets).records holdings.probes) writer).1 = .ok ()) :
    ∃ left, Connection.answerDump dumps resets (writer, holdings) =
        (.ok (), (sendAll ((command dumps resets).records holdings.probes) writer).2, left) ∧
      left.probes = (command dumps resets).probes holdings.probes := by
  have answered := Connection.answered_dump Archive.members? (.self holdings) dumps resets writer
  have answers : Stock.answers Archive.members? holdings.artifacts
      ⟨holdings.probes, holdings.volume⟩ (.dump dumps resets) =
        (command dumps resets).records holdings.probes := by
    cases dumps <;> rfl
  obtain ⟨told, kept⟩ := answered
  rw [answers] at told
  rcases outcome : Connection.answerDump dumps resets (writer, holdings) with ⟨result, after, left⟩
  rw [outcome] at told kept
  simp only at told kept
  rw [← told] at sent ⊢
  simp only at sent
  subst sent
  refine ⟨left, rfl, (kept rfl).probes.trans ?_⟩
  cases dumps <;> cases resets <;> rfl

/-- **What is sent for an occurrence** while the connection is open. -/
theorem occur_eq {connection : Connection} (open_ : connection.isOpen = true) (holdings : Holdings)
    (occurrence : Occurrence)
    (sent : (sendAll (occurrence.records holdings.probes) connection.writer).1 = .ok ()) :
    ∃ left, occurrence.occur (connection, holdings) =
        (.ok (), { connection with
          writer := (sendAll (occurrence.records holdings.probes) connection.writer).2 }, left) ∧
      left.probes = occurrence.probes holdings.probes := by
  cases occurrence with
  | hit id index => exact ⟨_, rfl, rfl⟩
  | dump resets =>
    obtain ⟨left, answered, probes⟩ := answerDump_eq true resets connection.writer holdings sent
    refine ⟨left, ?_, probes⟩
    simp only [occur, Connection.dump, open_, answered]
    rfl
  | command dumps resets =>
    obtain ⟨left, answered, probes⟩ := answerDump_eq dumps resets connection.writer holdings sent
    refine ⟨left, ?_, probes⟩
    simp only [occur, Connection.answer, answered]

/-! ## One occurrence after the other -/

/-- **What is sent for occurrences** while the connection is open, if nothing fails. -/
theorem occurAll_eq {connection : Connection} (open_ : connection.isOpen = true)
    (holdings : Holdings) (occurrences : List Occurrence)
    (sent : (sendAll (script occurrences holdings.probes) connection.writer).1 = .ok ()) :
    ∃ left, handOver occur occurrences (connection, holdings) =
      (.ok (), { connection with
        writer := (sendAll (script occurrences holdings.probes) connection.writer).2 }, left) := by
  induction occurrences generalizing connection holdings with
  | nil => exact ⟨holdings, rfl⟩
  | cons occurrence later ih =>
    rw [script, sendAll_append] at sent ⊢
    have first : (sendAll (occurrence.records holdings.probes) connection.writer).1 = .ok () := by
      rcases told : sendAll (occurrence.records holdings.probes) connection.writer with
        ⟨failure | _, writer⟩ <;> rw [told] at sent
      cases sent
    obtain ⟨left, occurred, probes⟩ := occur_eq open_ holdings occurrence first
    rw [handOver, occurred]
    rcases told : sendAll (occurrence.records holdings.probes) connection.writer with
      ⟨failure | _, writer⟩ <;> rw [told] at sent
    · cases sent
    · rw [← probes] at sent ⊢
      have still : ({ connection with writer } : Connection).isOpen = true := open_
      exact ih still left sent

/-! ## What was reported -/

theorem sized (occurrence : Occurrence) {probes : Probes} (sized : probes.Sized) :
    (occurrence.probes probes).Sized := by
  cases occurrence with
  | hit id index => exact sized.hit id index
  | dump resets => exact sized.take resets
  | command dumps resets =>
    cases dumps with
    | true => exact sized.take resets
    | false =>
      cases resets with
      | true => exact sized.reset
      | false => exact sized

/-- Every report was taken from probes that have come about. -/
theorem exists_of_mem_reports {occurrences : List Occurrence} {probes : Probes}
    (sized : probes.Sized) {report : Probes.Report} (member : report ∈ reports occurrences probes) :
    ∃ taken : Probes, taken.Sized ∧ ∃ resets, report = (taken.take resets).1.covered := by
  induction occurrences generalizing probes with
  | nil => cases member
  | cons occurrence later ih =>
    rcases List.mem_append.1 member with now | later
    · refine ⟨probes, sized, ?_⟩
      cases occurrence with
      | hit id index => cases now
      | dump resets => exact ⟨resets, List.mem_singleton.1 now⟩
      | command dumps resets =>
        cases dumps with
        | true => exact ⟨resets, List.mem_singleton.1 now⟩
        | false => cases now
    · exact ih (occurrence.sized sized) later

/-- What is sent are acknowledgements and the records of reports. -/
theorem mem_script {occurrences : List Occurrence} {probes : Probes} {record : Record}
    (member : record ∈ script occurrences probes) :
    record = .ok ∨ ∃ report ∈ reports occurrences probes, record ∈ report.records := by
  induction occurrences generalizing probes with
  | nil => cases member
  | cons occurrence later ih =>
    rcases List.mem_append.1 member with now | later
    · -- a report is followed by its acknowledgement
      have reported {report : Probes.Report} (there : occurrence.report? probes = some report)
          (sent : record ∈ report.records ++ [.ok]) :
          record = .ok ∨ ∃ report ∈ reports (occurrence :: later) probes,
            record ∈ report.records := by
        rcases List.mem_append.1 sent with told | acknowledged
        · refine .inr ⟨report, List.mem_append_left _ ?_, told⟩
          rw [there]
          exact List.mem_singleton.2 rfl
        · exact .inl (List.mem_singleton.1 acknowledged)
      cases occurrence with
      | hit id index => cases now
      | dump resets => exact reported rfl now
      | command dumps resets =>
        cases dumps with
        | true => exact reported rfl now
        | false => exact .inl (List.mem_singleton.1 now)
    · exact (ih later).imp_right fun ⟨report, there, told⟩ =>
        ⟨report, List.mem_append_right _ there, told⟩

end Occurrence
end Link
end CoverageLink
