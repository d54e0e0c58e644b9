import CoverageLink.Link.Commands
import CoverageLink.Proofs.Record.Header

/-!
# Commands are the records of the stream

A command reader decodes commands by handlers of its own, a record stream decodes them as
records like any other.  The two must not drift apart: not on a payload that is cut short
or garbled, not on the octets they take, and not in what they hold for an open stream.

## 1.  One block

`Visit.ofRecord?` says which visit a record stands for.  `visitOf_eq` is the point at which
the two decoders meet: a handler reads the fields that the body of the record has, and a
body that no handler is responsible for gives none of the records that have one.  So one
call of the reader is one call of the stream, followed by what `carryOut` makes of the
answer (`read_eq`).

## 2.  Many calls

A visitor cannot influence what is read, so reader and stream stay in lockstep over any
number of calls, whatever the visitor answers, and over transports that divide the same
octets differently.  `Carries` is the table of what a call does for each answer of the
stream; that it visits *once* is said by the state of the visitor, which is changed by
exactly that visit.

`Visitor.recorded` notes the visits down as they are made.  Over many calls they are the
visits of the records that the stream returns, in order, so what arrived in part or
garbled is never carried out (`visits_after`).
-/

namespace CoverageLink

open Wire (Reading Schedule Source)

namespace Link

variable {σ : Type}

/-! ## 1.  One block -/

/-- The visit that a record stands for; an acknowledgement stands for none. -/
def Visit.ofRecord? : Record → Option Visit
  | .ok => none
  | .dump dumps resets => some (.dump dumps resets)
  | .pull request => some (.pull request)
  | other => some (.record other)

/-- A record that is no command and no acknowledgement. -/
def Plain (record : Record) : Prop := Visit.ofRecord? record = some (.record record)

/-- A visitor that notes down what it is asked for, whatever comes of it. -/
def Visitor.recorded (visit : Visitor σ) : Visitor (List Visit × σ) :=
  fun asked state => ((visit asked state.2).1, state.1 ++ [asked], (visit asked state.2).2)

namespace CommandReader

/-- A body that no handler is responsible for is that of a plain record. -/
theorem gives_plain_of_handler?_eq_none {tag : UInt8} (unhandled : handler? tag = none) :
    (Record.body tag).Gives Plain := by
  have absent (other : UInt8) (handled : handler? other ≠ none) : tag ≠ other := by
    rintro rfl
    exact handled unhandled
  unfold Record.body
  rw [if_neg (absent Tag.ok nofun), if_neg (absent Tag.dump nofun), PullKind.ofTag?,
    if_neg (absent Tag.pullClasses nofun), if_neg (absent Tag.pullRunningClasses nofun)]
  refine .ite ?header (.ite ?sessionInfo (.ite ?executionData (.ite (.pure rfl)
    (.ite ?file (.ite ?projectInfo (.throw _))))))
  case header => exact .bind fun _ => .check fun _ => .bind fun _ => .check fun _ => .pure rfl
  case sessionInfo => exact .bind fun _ => .bind fun _ => .bind fun _ => .pure rfl
  case executionData => exact .bind fun _ => .bind fun _ => .bind fun _ => .pure rfl
  case file => exact .bind fun _ => .bind fun _ => .pure rfl
  case projectInfo =>
    refine .bind fun line => ?_
    rcases ProjectInfo.parse line with failure | info
    · exact .throw _
    · exact .pure rfl

/-- A tag with a handler is one of four. -/
theorem cases_of_handler?_eq_some {tag : UInt8} {handler : Handler}
    (handled : handler? tag = some handler) :
    (tag = Tag.dump ∧ handler = .command dumpPayload) ∨
      (∃ kind : PullKind, tag = kind.tag ∧ handler = .command (pullPayload kind)) ∨
      (tag = Tag.ok ∧ handler = .acknowledgement) := by
  obtain ⟨entry, found, rfl⟩ := Option.map_eq_some_iff.mp handled
  have same : entry.1 = tag := by simpa using List.find?_some found
  have listed := List.mem_of_find?_eq_some found
  simp only [handlers, List.mem_cons, List.not_mem_nil, or_false] at listed
  rcases listed with rfl | rfl | rfl | rfl
  · exact .inl ⟨same.symm, rfl⟩
  · exact .inr (.inl ⟨.classes, same.symm, rfl⟩)
  · exact .inr (.inl ⟨.runningClasses, same.symm, rfl⟩)
  · exact .inr (.inr ⟨same.symm, rfl⟩)

/-- Two readers that take the same octets, and give the same once `f` and `g` were applied. -/
def Agree {α β γ : Type} (f : α → γ) (g : β → γ) (reader : Reading α) (other : Reading β) : Prop :=
  ∀ source, ((reader.runOn source).1.map f, (reader.runOn source).2) =
    ((other.runOn source).1.map g, (other.runOn source).2)

theorem Agree.pure {α β γ : Type} {f : α → γ} {g : β → γ} {value : α} {other : β}
    (h : f value = g other) : Agree f g (Pure.pure value) (Pure.pure other) := by
  intro source
  exact congrArg (fun value => (Except.ok value, source)) h

/-- Readers that begin alike agree if they agree from there on. -/
theorem Agree.bind {α β γ δ : Type} {f : α → γ} {g : β → γ} (reader : Reading δ)
    {next : δ → Reading α} {other : δ → Reading β} (h : ∀ value, Agree f g (next value) (other value)) :
    Agree f g (reader >>= next) (reader >>= other) := by
  intro source
  rw [Reading.runOn_bind, Reading.runOn_bind]
  rcases reader.runOn source with ⟨failure | value, rest⟩
  · rfl
  · exact h value rest

/-- The handler of a command reads what the body of the record has. -/
theorem agree_dumpPayload : Agree some Visit.ofRecord? dumpPayload (Record.body Tag.dump) :=
  .bind _ fun _ => .bind _ fun _ => .pure rfl

theorem agree_pullPayload (kind : PullKind) :
    Agree some Visit.ofRecord? (pullPayload kind) (Record.body kind.tag) := by
  cases kind
  · exact .bind _ fun _ => .pure rfl
  · exact .bind _ fun _ => .pure rfl

/-- A command that a stream reads by its handler is the record that it reads. -/
theorem command_eq_body {payload : Reading Visit} {tag : UInt8} (other : tag ≠ Tag.header)
    (agree : Agree some Visit.ofRecord? payload (Record.body tag)) (stream : RecordStream) :
    ((stream.reading payload).1.map some, (stream.reading payload).2) =
      ((stream.body tag).1.map Visit.ofRecord?, (stream.body tag).2) := by
  obtain ⟨result, left⟩ := Prod.mk.inj (agree stream.source)
  rw [RecordStream.body, if_neg other, RecordStream.reading, RecordStream.reading]
  simp only
  rw [result, left]

/-- A record that a stream reads without a handler is shown as it is. -/
theorem plain_of_body {tag : UInt8} (unhandled : handler? tag = none) {stream : RecordStream}
    {record : Record} (read : (stream.body tag).1 = .ok record) : Plain record := by
  have plain := gives_plain_of_handler?_eq_none unhandled stream.source record
  unfold RecordStream.body at read
  split at read
  · split at read
    · cases read
    · exact plain read
  · exact plain read

/-- **The handlers agree with the bodies of records**, on every tag. -/
theorem visitOf_eq (stream : RecordStream) (tag : UInt8) :
    visitOf stream tag = ((stream.body tag).1.map Visit.ofRecord?, (stream.body tag).2) := by
  unfold visitOf
  rcases handled : handler? tag with _ | handler
  · rcases read : stream.body tag with ⟨failure | record, rest⟩
    · rfl
    · have plain : Plain record := plain_of_body handled (congrArg Prod.fst read)
      exact congrArg (fun visit => (Except.ok visit, rest)) plain.symm
  · rcases cases_of_handler?_eq_some handled with
      ⟨rfl, rfl⟩ | ⟨kind, rfl, rfl⟩ | ⟨rfl, rfl⟩
    · exact command_eq_body (by decide) agree_dumpPayload stream
    · exact command_eq_body (by cases kind <;> decide) (agree_pullPayload kind) stream
    · rfl

/-- What becomes of an answer of the stream: the visit that the record stands for, if it stands
for one, and the end of the conversation otherwise. -/
def carryOut (visit : Visitor σ) (answer : Except Failure (Option Record)) (state : σ) :
    Except Failure Flow × σ :=
  match answer with
  | .error failure => (.error failure, state)
  | .ok record =>
    match record.bind Visit.ofRecord? with
    | none => (.ok .stop, state)
    | some asked => ((visit asked state).1.map fun _ => .more, (visit asked state).2)

/-- **One call.**  A command reader takes from the stream what the stream takes for a record, and
carries out what it answers. -/
theorem read_eq (visit : Visitor σ) (stream : RecordStream) (state : σ) :
    read visit stream state =
      ((carryOut visit stream.next.1 state).1, stream.next.2,
        (carryOut visit stream.next.1 state).2) := by
  unfold read RecordStream.next
  rcases stream.nextTag with ⟨failure | tag, rest⟩
  · rfl
  · rcases tag with _ | tag
    · rfl
    · simp only [visitOf_eq]
      rcases rest.body tag with ⟨failure | record, left⟩
      · rfl
      · simp only [Except.map, carryOut, Option.bind_some]
        rcases Visit.ofRecord? record with _ | asked
        · rfl
        · simp only
          rcases visit asked state with ⟨failure | done, after⟩ <;> rfl

/-! ## 2.  Many calls -/

/-- What a call does for each answer of the stream: what it answers itself, and the state in which
it leaves the visitor. -/
inductive Carries (visit : Visitor σ) (state : σ) :
    Except Failure (Option Record) → Except Failure Flow → σ → Prop
  /-- At the end of the stream nothing is visited. -/
  | ended : Carries visit state (.ok none) (.ok .stop) state
  /-- An acknowledgement is not visited. -/
  | acknowledged : Carries visit state (.ok (some .ok)) (.ok .stop) state
  /-- A dump command is one visit, whose failure is reported. -/
  | dump {dumps resets : Bool} {result : Except Failure Unit} {after : σ}
      (visited : visit (.dump dumps resets) state = (result, after)) :
      Carries visit state (.ok (some (.dump dumps resets))) (result.map fun _ => .more) after
  /-- A pull is one visit, whose failure is reported. -/
  | pull {request : PullRequest} {result : Except Failure Unit} {after : σ}
      (visited : visit (.pull request) state = (result, after)) :
      Carries visit state (.ok (some (.pull request))) (result.map fun _ => .more) after
  /-- Any other record is one visit, whose failure is reported. -/
  | record {record : Record} {result : Except Failure Unit} {after : σ}
      (no_acknowledgement : record ≠ .ok) (no_dump : ∀ dumps resets, record ≠ .dump dumps resets)
      (no_pull : ∀ request, record ≠ .pull request)
      (visited : visit (.record record) state = (result, after)) :
      Carries visit state (.ok (some record)) (result.map fun _ => .more) after
  /-- A failure is reported, and nothing is visited. -/
  | failed (failure : Failure) : Carries visit state (.error failure) (.error failure) state

theorem carries_carryOut (visit : Visitor σ) (answer : Except Failure (Option Record))
    (state : σ) :
    Carries visit state answer (carryOut visit answer state).1 (carryOut visit answer state).2 := by
  rcases answer with failure | _ | record
  · exact .failed failure
  · exact .ended
  · cases record with
    | ok => exact .acknowledged
    | dump dumps resets => exact .dump rfl
    | pull request => exact .pull rfl
    | header _ => exact .record nofun nofun nofun rfl
    | sessionInfo _ => exact .record nofun nofun nofun rfl
    | executionData _ => exact .record nofun nofun nofun rfl
    | heartbeat => exact .record nofun nofun nofun rfl
    | file _ => exact .record nofun nofun nofun rfl
    | projectInfo _ => exact .record nofun nofun nofun rfl

/-- The stream and the visitor after so many calls. -/
def after (visit : Visitor σ) : (count : Nat) → RecordStream × σ → RecordStream × σ
  | 0, reader => reader
  | count + 1, reader => after visit count (read visit reader.1 reader.2).2

/-- Reader and stream take the same, whatever is carried out. -/
theorem alike_read (visit : Visitor σ) {stream other : RecordStream} (state : σ)
    (alike : RecordStream.Alike stream other) :
    RecordStream.Alike (read visit stream state).2.1 other.next.2 := by
  rw [read_eq]
  exact alike.next.2

/-- **Lockstep.** -/
theorem alike_after (visit : Visitor σ) {stream other : RecordStream} (state : σ)
    (alike : RecordStream.Alike stream other) (count : Nat) :
    RecordStream.Alike (after visit count (stream, state)).1 (other.after count) := by
  induction count generalizing stream other state with
  | zero => exact alike
  | succ count ih => exact ih (read visit stream state).2.2 (alike_read visit state alike)

/-- What a call does is determined by the answer of any stream that is alike. -/
theorem carries_read (visit : Visitor σ) {stream other : RecordStream} (state : σ)
    (alike : RecordStream.Alike stream other) :
    Carries visit state other.next.1 (read visit stream state).1 (read visit stream state).2.2 := by
  rw [read_eq, ← alike.next.1]
  exact carries_carryOut visit stream.next.1 state

theorem carryOut_recorded (visit : Visitor σ) (answer : Except Failure (Option Record))
    (seen : List Visit) (state : σ) :
    (carryOut visit.recorded answer (seen, state)).2 =
      (seen ++ ((RecordStream.record? answer).bind Visit.ofRecord?).toList,
        (carryOut visit answer state).2) := by
  rcases answer with failure | record
  · exact congrArg (·, state) (List.append_nil seen).symm
  · rcases asked : record.bind Visit.ofRecord? with _ | asked
    · simp only [carryOut, RecordStream.record?, asked, Option.toList_none, List.append_nil]
    · simp only [carryOut, RecordStream.record?, asked, Option.toList_some, Visitor.recorded]

/-- **The visits of many calls** are those of the records that the stream returns. -/
theorem visits_after (visit : Visitor σ) {stream other : RecordStream} (seen : List Visit)
    (state : σ) (alike : RecordStream.Alike stream other) (count : Nat) :
    (after visit.recorded count (stream, seen, state)).2 =
      (seen ++ (other.returned count).filterMap Visit.ofRecord?,
        (after visit count (stream, state)).2) := by
  induction count generalizing stream other seen state with
  | zero => exact congrArg (·, state) (List.append_nil seen).symm
  | succ count ih =>
    obtain ⟨answer, behind⟩ := alike.next
    rw [after, after, read_eq, read_eq]
    simp only
    rw [carryOut_recorded, ih _ _ behind, RecordStream.returned_succ, List.filterMap_append, ← answer]
    rcases RecordStream.record? stream.next.1 with _ | record
    · simp
    · rcases asked : Visit.ofRecord? record with _ | visited <;> simp [asked]

/-- **A command reader refines a record stream.**  Over any octets, any fault and any two ways to
deliver them, after any number of calls --- failed ones included --- the reader has taken what the
stream has taken and takes it for open exactly if the stream does; the next call is carried out
as the answer of the stream says; and the visits made so far are those of the records returned
so far. -/
theorem read_refines_next (visit : Visitor σ) (state : σ) (bytes : Bytes)
    (fault : Option (Nat × Failure)) (schedule other : Schedule) (count : Nat) :
    let stream := RecordStream.start (.start bytes fault other)
    let reader := after visit count (.start (.start bytes fault schedule), state)
    let call := read visit reader.1 reader.2
    RecordStream.Alike reader.1 (stream.after count) ∧
      RecordStream.Alike call.2.1 (stream.after count).next.2 ∧
      Carries visit reader.2 (stream.after count).next.1 call.1 call.2.2 ∧
      (after visit.recorded count (.start (.start bytes fault schedule), [], state)).2 =
        ((stream.returned count).filterMap Visit.ofRecord?, reader.2) := by
  intro stream reader call
  have alike : RecordStream.Alike (.start (.start bytes fault schedule)) stream := ⟨rfl, rfl⟩
  have lockstep := alike_after visit state alike count
  exact ⟨lockstep, alike_read visit reader.2 lockstep, carries_read visit reader.2 lockstep,
    visits_after visit [] state alike count⟩

end CommandReader
end Link
end CoverageLink
