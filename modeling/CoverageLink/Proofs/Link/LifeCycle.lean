import CoverageLink.Proofs.Link.Connection

/-!
# The life of a connection

A connection is used from several sides: whoever made it opens it, one side lets it run, the host
program dumps, a watcher sends signs of life, and anyone may close it.  In whatever order that
happens, its phases come in one order, its header is sent once and before everything else, and it
runs once.

## 1.  What is sent

`Spoke` says that what was sent since then is made of whole records, and that no header is among
them.  On a transport that takes everything that is so for any row of records
(`RecordWriter.spoke_sendAll`), because what cannot be encoded leaves no trace; and a transport that
is shut takes nothing (`RecordWriter.silent_send`).

## 2.  Calls

`Lived` is what holds of a connection whatever was done to it.  There is one lemma for each call,
and one for all of them (`Lived.perform`).

## 3.  The law

What calls keep is enough for all of `life_cycle` but one thing: that a header that was sent was
sent by a call that opened the connection, before which nothing was sent (`Onward.opened`,
`Lived.sent_of_init`).
-/

namespace CoverageLink
namespace Link

open Record (ownHeader streamHeader)
open Wire (Refusal Sink Source)

/-! ## 1.  What is sent -/

/-- Records were sent in between, whole ones, and none of them is a header. -/
def Spoke (before after : Bytes) : Prop :=
  ∃ (records : List Record) (parts : List Bytes), records.mapM Record.encode = .ok parts ∧
    (∀ record ∈ records, ∀ version, record ≠ .header version) ∧ after = before ++ parts.flatten

namespace Spoke

variable {before middle after : Bytes}

theorem refl (before : Bytes) : Spoke before before :=
  ⟨[], [], rfl, nofun, (List.append_nil _).symm⟩

theorem trans (first : Spoke before middle) (second : Spoke middle after) : Spoke before after := by
  obtain ⟨earlier, parts, encoded, proper, rfl⟩ := first
  obtain ⟨later, parts', encoded', proper', rfl⟩ := second
  refine ⟨earlier ++ later, parts ++ parts', ?_, ?_, ?_⟩
  · rw [List.mapM_append, encoded, encoded']
    rfl
  · intro record member
    exact (List.mem_append.1 member).elim (proper record) (proper' record)
  · rw [List.flatten_append, List.append_assoc]

theorem single {record : Record} {bytes : Bytes} (encoded : record.encode = .ok bytes)
    (proper : ∀ version, record ≠ .header version) : Spoke before (before ++ bytes) := by
  refine ⟨[record], [bytes], ?_, ?_, ?_⟩
  · rw [List.mapM_cons, encoded]
    rfl
  · intro other member
    exact List.mem_singleton.1 member ▸ proper
  · rw [List.flatten_singleton]

end Spoke

namespace RecordWriter

variable {writer : RecordWriter}

/-- A record that is no header is sent on a transport that takes everything, or leaves no trace. -/
theorem spoke_send (free : Unlimited writer.sink) {record : Record}
    (proper : ∀ version, record ≠ .header version) :
    Unlimited (writer.send record).2.sink ∧
      Spoke writer.sink.bytes (writer.send record).2.sink.bytes := by
  rcases encoded : record.encode with failure | bytes
  · rw [send_of_encode_error encoded]
    exact ⟨free, .refl _⟩
  · rw [bytes_send_of_unlimited free encoded]
    exact ⟨(send_of_unlimited free encoded).2, .single encoded proper⟩

theorem spoke_sendAll {records : List Record} (free : Unlimited writer.sink)
    (proper : ∀ record ∈ records, ∀ version, record ≠ .header version) :
    Unlimited (sendAll records writer).2.sink ∧
      Spoke writer.sink.bytes (sendAll records writer).2.sink.bytes := by
  induction records generalizing writer with
  | nil => exact ⟨free, .refl _⟩
  | cons record records ih =>
    obtain ⟨own, others⟩ := List.forall_mem_cons.1 proper
    obtain ⟨still, spoke⟩ := spoke_send free own
    rw [sendAll, handOver]
    rcases sent : writer.send record with ⟨failure | _, after⟩ <;> rw [sent] at still spoke
    · exact ⟨still, spoke⟩
    · obtain ⟨free, further⟩ := ih still others
      exact ⟨free, spoke.trans further⟩

/-- A transport that is shut takes nothing. -/
theorem silent_send {refusal : Refusal} (shut : writer.sink.refusal? = some refusal)
    (record : Record) :
    (writer.send record).2.sink.refusal? = some refusal ∧
      (writer.send record).2.sink.bytes = writer.sink.bytes := by
  rcases writer.send_cases record with ⟨failure, -, sent⟩ | ⟨bytes, -, cases⟩
  · rw [sent]
    exact ⟨shut, rfl⟩
  · have nothing := Sink.writeAll_of_refusal? shut bytes
    have still := nothing.refusal?_of_nil.trans shut
    have same := nothing.bytes.trans (List.append_nil _)
    have flushed := (writer.sink.writeAll bytes).2.flush_cases.1
    rcases cases with ⟨_, -, sent⟩ | ⟨-, ⟨_, -, sent⟩ | ⟨-, sent⟩⟩ <;> rw [sent]
    · exact ⟨still, same⟩
    all_goals
      simp only [flushed]
      exact ⟨still, same⟩

end RecordWriter

namespace Stock

variable {unpack : Artifact.Unpacker} {artifacts : Artifact.Sync} {stock : Stock}

/-- No answer is a header. -/
theorem answers_ne_header {command record : Record}
    (member : record ∈ stock.answers unpack artifacts command) (version : UInt16) :
    record ≠ .header version := by
  rintro rfl
  cases command with
  | dump dumps resets =>
    cases dumps with
    | true => simp [answers] at member
    | false => simp [answers] at member
  | pull request => simp [answers] at member
  | _ => simp [answers] at member

theorem script_ne_header {commands : List Record} {record : Record}
    (member : record ∈ stock.script unpack artifacts commands) (version : UInt16) :
    record ≠ .header version := by
  induction commands generalizing stock with
  | nil => cases member
  | cons command commands ih =>
    rcases List.mem_append.1 member with now | later
    · exact answers_ne_header now version
    · exact ih later

end Stock

namespace Connection

variable {writer : RecordWriter}

theorem spoke_answerDump (holdings : Holdings) (free : RecordWriter.Unlimited writer.sink)
    (dumps resets : Bool) :
    RecordWriter.Unlimited (answerDump dumps resets (writer, holdings)).2.1.sink ∧
      Spoke writer.sink.bytes (answerDump dumps resets (writer, holdings)).2.1.sink.bytes := by
  have answered := answered_dump Archive.members? (.self holdings) dumps resets writer
  have sent := congrArg Prod.snd answered.sent
  simp only at sent
  rw [sent]
  exact RecordWriter.spoke_sendAll free fun record member => Stock.answers_ne_header member

theorem spoke_answerAll (unpack : Artifact.Unpacker) (holdings : Holdings)
    (free : RecordWriter.Unlimited writer.sink) {limit : Nat} {stream : RecordStream}
    (enough : stream.source.unread.length < limit) :
    Spoke writer.sink.bytes
      (answerAll unpack limit stream (writer, holdings)).2.2.1.sink.bytes := by
  have conversed := conversed_answerAll unpack enough (.self holdings) writer
  rw [conversed.sent]
  exact (RecordWriter.spoke_sendAll free fun record member => Stock.script_ne_header member).2

/-! ## 2.  Calls -/

/-- What may be done to a connection.  What the agent holds is given to the calls that ask for it,
because it changes between them, and so is the reader of archives. -/
inductive Call
  | init
  | run (holdings : Holdings) (unpack : Artifact.Unpacker := Archive.members?)
  | close
  | dump (resets : Bool) (holdings : Holdings)
  | projectInfo (info : ProjectInfo)
  | heartbeat
  /-- Octets arrive from the peer. -/
  | arrive (bytes : Bytes)

/-- Makes a call: how it ends, and what becomes of the connection. -/
def Call.perform : Call → Connection → Except Failure Unit × Connection
  | init, connection => connection.init
  | run holdings unpack, connection =>
    let (result, connection, _) := connection.run holdings unpack
    (result, connection)
  | close, connection => (.ok (), connection.close)
  | dump resets holdings, connection =>
    let (result, connection, _) := connection.dump resets holdings
    (result, connection)
  | projectInfo info, connection => connection.sendProjectInfo info
  | heartbeat, connection => connection.sendHeartbeat
  | arrive bytes, connection => (.ok (), connection.arrive bytes)

/-- The connection after calls, whatever became of each of them. -/
def performAll (calls : List Call) (connection : Connection) : Connection :=
  calls.foldl (fun connection call => (call.perform connection).2) connection

theorem performAll_append (first second : List Call) (connection : Connection) :
    performAll (first ++ second) connection = performAll second (performAll first connection) :=
  List.foldl_append

theorem rank_le_closed (phase : Phase) : phase.rank ≤ Phase.closed.rank := by
  cases phase <;> decide

section

variable {connection : Connection}

theorem close_of_closed (closed : connection.phase = .closed) : connection.close = connection :=
  if_pos closed

@[simp] theorem sent_close (connection : Connection) : connection.close.sent = connection.sent := by
  unfold close
  split <;> rfl

@[simp] theorem bound_close (connection : Connection) :
    connection.close.bound = connection.bound := by
  unfold close
  split <;> rfl

@[simp] theorem taken_close (connection : Connection) :
    connection.close.taken = connection.taken := by
  unfold close
  split <;> rfl

/-- Nothing gets through any more. -/
theorem shut_close (other : connection.phase ≠ .closed) :
    ∃ refusal, connection.close.writer.sink.refusal? = some refusal := by
  unfold close
  rw [if_neg other]
  exact ⟨_, Sink.refusal?_shut _⟩

end

/-- What holds of a connection between calls. -/
structure Lived (connection : Connection) : Prop where
  unbound : connection.phase = .unbound → connection.bound = false ∧ connection.taken = false
  fresh : connection.phase = .initialized → connection.bound = true ∧ connection.taken = false
  rests : connection.phase ≠ .running
  free : connection.phase ≠ .closed → RecordWriter.Unlimited connection.writer.sink
  shut : connection.phase = .closed → ∃ refusal, connection.writer.sink.refusal? = some refusal
  silent : connection.bound = false → connection.sent = []
  spoke : connection.bound = true → Spoke streamHeader connection.sent

/-- What a call does to a connection: its phase goes forward, the receiving half is given to one run
only, and both halves are in use since a call that opens the stream. -/
structure Onward (opens : Prop) (before after : Connection) : Prop where
  lived : Lived after
  rank : before.phase.rank ≤ after.phase.rank
  taken : before.taken = true → after.taken = true
  bound : before.bound = true → after.bound = true
  opened : after.bound = true → before.bound = true ∨ opens

namespace Lived

variable {connection : Connection} {opens : Prop}

theorem refl (lived : Lived connection) : Onward opens connection connection :=
  ⟨lived, Nat.le_refl _, id, id, .inl⟩

theorem new (source : Source) (most : Nat → Option Nat) :
    Lived (Connection.new source (RecordWriter.unused none most none)) :=
  ⟨fun _ => ⟨rfl, rfl⟩, nofun, nofun, fun _ => ⟨rfl, rfl⟩, nofun, fun _ => rfl, nofun⟩

/-- A connection that was closed, whatever it was in the middle of. -/
theorem of_close (other : connection.phase ≠ .closed)
    (silent : connection.bound = false → connection.sent = [])
    (spoke : connection.bound = true → Spoke streamHeader connection.sent) :
    Lived connection.close where
  unbound phase := nomatch (phase_close connection).symm.trans phase
  fresh phase := nomatch (phase_close connection).symm.trans phase
  rests phase := nomatch (phase_close connection).symm.trans phase
  free open_ := absurd (phase_close connection) open_
  shut _ := shut_close other
  silent unused := (sent_close connection).trans (silent ((bound_close connection).symm.trans unused))
  spoke used := by
    rw [sent_close]
    exact spoke ((bound_close connection).symm.trans used)

/-- Something was sent by a connection that is in use. -/
theorem told (lived : Lived connection) (bound : connection.bound = true) {writer : RecordWriter}
    (free : connection.phase ≠ .closed →
      RecordWriter.Unlimited writer.sink ∧ Spoke connection.sent writer.sink.bytes)
    (shut : connection.phase = .closed →
      (∃ refusal, writer.sink.refusal? = some refusal) ∧
        writer.sink.bytes = connection.sent) :
    Onward opens connection { connection with writer } := by
  refine ⟨?_, Nat.le_refl _, id, id, .inl⟩
  exact {
    unbound := lived.unbound
    fresh := lived.fresh
    rests := lived.rests
    free := fun other => (free other).1
    shut := fun closed => (shut closed).1
    silent := fun unused => nomatch bound.symm.trans unused
    spoke := fun _ => by
      by_cases closed : connection.phase = .closed
      · rw [sent, (shut closed).2]
        exact lived.spoke bound
      · exact (lived.spoke bound).trans (free closed).2 }

/-- **The stream is opened**, if it was not before. -/
theorem init (lived : Lived connection) :
    Onward (connection.init.1 = .ok ()) connection connection.init.2 := by
  by_cases unbound : connection.phase = .unbound
  · obtain ⟨unused, untaken⟩ := lived.unbound unbound
    obtain ⟨writer, opened, still, stands⟩ :=
      init_of_unlimited unbound (lived.free (by rw [unbound]; nofun))
    have begun : writer.sink.bytes = streamHeader := by
      rw [stands, lived.silent unused, List.nil_append]
    rw [opened]
    refine ⟨?_, by rw [unbound]; exact Nat.zero_le _, id, fun _ => rfl, fun _ => .inr rfl⟩
    exact {
      unbound := nofun
      fresh := fun _ => ⟨rfl, untaken⟩
      rests := nofun
      free := fun _ => still
      shut := nofun
      silent := nofun
      spoke := fun _ => begun ▸ Spoke.refl streamHeader }
  · rw [Connection.init, if_pos unbound]
    exact lived.refl

theorem close (lived : Lived connection) : Onward opens connection connection.close := by
  by_cases closed : connection.phase = .closed
  · rw [close_of_closed closed]
    exact lived.refl
  · refine ⟨.of_close closed lived.silent lived.spoke, ?_, ?_, ?_, fun used => .inl ?_⟩
    · rw [phase_close]
      exact rank_le_closed _
    · rw [taken_close]
      exact id
    · rw [bound_close]
      exact id
    · rwa [bound_close] at used

/-- **A run** closes a connection that was opened, and otherwise does nothing but take away its
receiving half. -/
theorem run (lived : Lived connection) (holdings : Holdings) (unpack : Artifact.Unpacker) :
    Onward opens connection (connection.run holdings unpack).2.1 := by
  unfold Connection.run
  split
  · exact lived.refl
  rename_i ready
  have bound : connection.bound = true := by
    cases bound : connection.bound
    · exact absurd (by rw [bound]; rfl) ready
    · rfl
  simp only
  split
  · rename_i other
    refine ⟨?_, Nat.le_refl _, fun _ => rfl, id, .inl⟩
    exact { lived with
      unbound := fun unbound => nomatch bound.symm.trans (lived.unbound unbound).1
      fresh := fun fresh => absurd fresh other }
  · rename_i fresh
    have fresh : connection.phase = .initialized := Decidable.not_not.1 fresh
    have spoke := spoke_answerAll unpack holdings (lived.free (by rw [fresh]; nofun))
      (Nat.lt_succ_self connection.stream.source.unread.length)
    dsimp only
    refine ⟨.of_close ?_ ?_ ?_, ?_, ?_, ?_, fun _ => .inl bound⟩
    · nofun
    · exact fun unused => nomatch bound.symm.trans unused
    · exact fun _ => (lived.spoke bound).trans spoke
    · rw [phase_close]
      exact rank_le_closed _
    · rw [taken_close]
      exact fun _ => rfl
    · rw [bound_close]
      exact id

/-- A record is sent that is no answer. -/
theorem tell (lived : Lived connection) {record : Record}
    (proper : ∀ version, record ≠ .header version) :
    Onward opens connection (connection.tell fun writer => writer.send record).2 := by
  unfold Connection.tell
  split
  · exact lived.refl
  rename_i ready
  have bound : connection.bound = true := by simpa using ready
  refine lived.told bound (fun other => RecordWriter.spoke_send (lived.free other) proper) ?_
  intro closed
  obtain ⟨refusal, shut⟩ := lived.shut closed
  obtain ⟨still, same⟩ := RecordWriter.silent_send shut record
  exact ⟨⟨refusal, still⟩, same⟩

/-- The host program dumps. -/
theorem dump (lived : Lived connection) (resets : Bool) (holdings : Holdings) :
    Onward opens connection (connection.dump resets holdings).2.1 := by
  unfold Connection.dump
  split
  · exact lived.refl
  rename_i open_
  have fresh : connection.phase = .initialized := by
    have rests := lived.rests
    simpa [isOpen, rests] using open_
  exact lived.told (lived.fresh fresh).1
    (fun other => spoke_answerDump holdings (lived.free other) true resets)
    fun closed => nomatch fresh.symm.trans closed

/-- **Whatever is done to it**, a connection lives on. -/
theorem perform (lived : Lived connection) (call : Call) :
    Onward (call = .init ∧ connection.init.1 = .ok ()) connection (call.perform connection).2 := by
  cases call with
  | init =>
    obtain ⟨after, rank, taken, bound, opened⟩ := lived.init
    exact ⟨after, rank, taken, bound, fun used => (opened used).imp_right fun ok => ⟨rfl, ok⟩⟩
  | run holdings unpack => exact lived.run holdings unpack
  | close => exact lived.close
  | dump resets holdings => exact lived.dump resets holdings
  | projectInfo info => exact lived.tell nofun
  | heartbeat => exact lived.tell nofun
  | arrive bytes => exact ⟨{ lived with }, Nat.le_refl _, id, id, .inl⟩

/-- **Any calls.** -/
theorem performAll (lived : Lived connection) (calls : List Call) :
    Onward (∃ first later, calls = first ++ .init :: later ∧
        (Connection.performAll first connection).init.1 = .ok ())
      connection (Connection.performAll calls connection) := by
  induction calls generalizing connection with
  | nil => exact lived.refl
  | cons call calls ih =>
    have first := lived.perform call
    have rest := ih first.lived
    refine ⟨rest.lived, Nat.le_trans first.rank rest.rank, rest.taken ∘ first.taken,
      rest.bound ∘ first.bound, fun used => ?_⟩
    rcases rest.opened used with middle | ⟨front, later, rfl, opened⟩
    · rcases first.opened middle with before | ⟨rfl, opened⟩
      · exact .inl before
      · exact .inr ⟨[], calls, rfl, opened⟩
    · exact .inr ⟨call :: front, later, rfl, opened⟩

/-- Nothing was sent before the stream was opened. -/
theorem sent_of_init (lived : Lived connection) (opened : connection.init.1 = .ok ()) :
    connection.sent = [] := by
  by_cases unbound : connection.phase = .unbound
  · exact lived.silent (lived.unbound unbound).1
  · rw [Connection.init, if_pos unbound] at opened
    cases opened

end Lived

/-! ## 3.  The law -/

/-- A connection whose stream was opened is initialized. -/
theorem init_ok {connection : Connection} (opened : connection.init.1 = .ok ()) :
    connection.init.2.phase = .initialized ∧ connection.init.2.bound = true := by
  unfold init at opened ⊢
  split at opened
  · cases opened
  rename_i unbound
  rw [if_neg unbound]
  rcases sent : connection.writer.send ownHeader with ⟨failure | _, writer⟩ <;> rw [sent] at opened
  · cases opened
  · exact ⟨rfl, rfl⟩

/-- A run of a connection that was opened and not run before ends with closing it. -/
theorem run_of_initialized {connection : Connection} (bound : connection.bound = true)
    (untaken : connection.taken = false) (fresh : connection.phase = .initialized)
    (holdings : Holdings) (unpack : Artifact.Unpacker) :
    (connection.run holdings unpack).2.1.phase = .closed ∧
      (connection.run holdings unpack).2.1.taken = true := by
  unfold run
  rw [if_neg (by rw [bound, untaken]; decide)]
  dsimp only
  rw [if_neg (Decidable.not_not.2 fresh)]
  exact ⟨phase_close _, taken_close _⟩

/-- A run of a connection that is not initialized reads nothing and carries out nothing. -/
theorem run_of_ne_initialized {connection : Connection} (other : connection.phase ≠ .initialized)
    (holdings : Holdings) (unpack : Artifact.Unpacker) :
    (connection.run holdings unpack).2.1.stream = connection.stream ∧
      (connection.run holdings unpack).2.1.sent = connection.sent ∧
      (connection.run holdings unpack).2.2 = holdings := by
  unfold run
  split
  · exact ⟨rfl, rfl, rfl⟩
  · rw [if_pos other]
    exact ⟨rfl, rfl, rfl⟩

/-- **The life of a connection** whose socket takes everything until it is closed, whatever arrives
on it and however archives are read.  For all calls in any order:

* its phases come in order;
* nothing was sent before a call that opened the stream, no later call opens it again, and what
  was sent since is the header and whole records behind it, none of which is a header;
* nothing is sent unless a call has opened the stream;
* a run of an initialized connection closes it, and every later run only fails;
* a run of a closed connection reads nothing, sends nothing and carries out nothing;
* before it was opened and after it was closed, a dump succeeds without doing anything. -/
theorem life_cycle (source : Source) (most : Nat → Option Nat) :
    let start := new source (RecordWriter.unused none most none)
    (∀ calls later,
      (performAll calls start).phase.rank ≤ (performAll (calls ++ later) start).phase.rank) ∧
    (∀ calls between, (performAll calls start).init.1 = .ok () →
      (performAll calls start).sent = [] ∧
      (performAll (calls ++ .init :: between) start).init.1 = .error .alreadyInitialized ∧
      Spoke streamHeader (performAll (calls ++ .init :: between) start).sent) ∧
    (∀ calls, (performAll calls start).sent ≠ [] →
      ∃ first later, calls = first ++ .init :: later ∧
        (performAll first start).init.1 = .ok ()) ∧
    (∀ calls holdings unpack, (performAll calls start).phase = .initialized →
      ((performAll calls start).run holdings unpack).2.1.phase = .closed ∧
      ∀ later others reader, ∃ failure : Failure, failure.kind = .notConnected ∧
        (performAll (calls ++ .run holdings unpack :: later) start).run others reader =
          (.error failure, performAll (calls ++ .run holdings unpack :: later) start, others)) ∧
    (∀ calls holdings unpack, (performAll calls start).phase = .closed →
      ((performAll calls start).run holdings unpack).2.1.stream = (performAll calls start).stream ∧
      ((performAll calls start).run holdings unpack).2.1.sent = (performAll calls start).sent ∧
      ((performAll calls start).run holdings unpack).2.2 = holdings) ∧
    (∀ calls resets holdings,
      (performAll calls start).phase = .unbound ∨ (performAll calls start).phase = .closed →
        (performAll calls start).dump resets holdings =
          (.ok (), performAll calls start, holdings)) := by
  intro start
  have begun : Lived start := .new source most
  have lived (calls : List Call) : Lived (performAll calls start) := (begun.performAll calls).lived
  refine ⟨?_, ?_, ?_, ?_, ?_, ?_⟩
  · intro calls later
    rw [performAll_append]
    exact ((lived calls).performAll later).rank
  · intro calls between opened
    obtain ⟨initialized, used⟩ := init_ok opened
    have after : performAll (calls ++ .init :: between) start =
        performAll between (performAll calls start).init.2 := performAll_append _ _ _
    have onward := (lived calls).init.lived.performAll between
    rw [after]
    refine ⟨(lived calls).sent_of_init opened, ?_, onward.lived.spoke (onward.bound used)⟩
    refine congrArg Prod.fst (if_pos fun unbound => ?_)
    have back := onward.rank
    rw [unbound, initialized] at back
    exact absurd back (by decide)
  · intro calls some_sent
    have onward := begun.performAll calls
    cases used : (performAll calls start).bound with
    | false => exact absurd (onward.lived.silent used) some_sent
    | true => exact (onward.opened used).resolve_left nofun
  · intro calls holdings unpack fresh
    obtain ⟨bound, untaken⟩ := (lived calls).fresh fresh
    have ran := run_of_initialized bound untaken fresh holdings unpack
    refine ⟨ran.1, fun later others reader => ⟨.notInitialized, rfl, ?_⟩⟩
    have taken : (performAll (calls ++ .run holdings unpack :: later) start).taken = true := by
      rw [performAll_append]
      exact (((lived calls).perform (.run holdings unpack)).lived.performAll later).taken ran.2
    rw [run, if_pos (by rw [taken, Bool.or_true])]
  · intro calls holdings unpack closed
    exact run_of_ne_initialized (by rw [closed]; nofun) holdings unpack
  · intro calls resets holdings unopened
    refine dump_of_not_isOpen ?_
    rcases unopened with phase | phase <;> rw [isOpen, phase] <;> rfl

/-- A connection is opened and runs once; one that was closed before is not dumped into, and the hit
that was made stays where it is. -/
theorem life_cycle_of_open_and_of_closed :
    let start := new (.ofBytes []) (RecordWriter.unused none (fun _ => none) none)
    let holdings : Holdings :=
      ⟨((Probes.new "s" .ticking).register 1 "A" 2).hit 1 0,
        ⟨default, none, ⟨⟨[]⟩, ⟨[]⟩⟩, [], default, .ofVolume⟩, default, []⟩
    (performAll [] start).init.1 = .ok () ∧
    (performAll [.init, .run holdings] start).init.1 = .error .alreadyInitialized ∧
    Spoke streamHeader (performAll [.init, .run holdings] start).sent ∧
    (performAll [.init] start).phase = .initialized ∧
    ((performAll [.init] start).run holdings).2.1.phase = .closed ∧
    (performAll [.close] start).phase = .closed ∧
    ((performAll [.close] start).dump true holdings).2.2.probes = holdings.probes := by
  intro start holdings
  obtain ⟨-, opened, -, ran, -, idle⟩ := life_cycle (.ofBytes []) fun _ => none
  obtain ⟨_, done, -⟩ := init_of_unlimited (rfl : start.phase = .unbound) ⟨rfl, rfl⟩
  have first : (performAll [] start).init.1 = .ok () := congrArg Prod.fst done
  have fresh : (performAll [.init] start).phase = .initialized := (init_ok first).1
  have closed : (performAll [.close] start).phase = .closed := phase_close start
  obtain ⟨-, again, spoke⟩ := opened [] [.run holdings] first
  refine ⟨first, again, spoke, fresh, (ran [.init] holdings Archive.members? fresh).1, closed, ?_⟩
  exact congrArg (fun outcome => outcome.2.2.probes) (idle [.close] true holdings (.inr closed))

end Connection
end Link
end CoverageLink
