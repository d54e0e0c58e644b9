import CoverageLink.Proofs.Record.Truncation

/-!
# The header of a stream

A stream of records should be trusted only after its header was read and found to be good.
This file says what `RecordStream` makes of that, for a caller who goes on after a failure
as well.

## 1.  What readers give

`Reading.Gives` is partial correctness: whatever a reader gives, it has a property.  The
reader of a header gives the header of this version or nothing, and no other reader gives
a header at all.

## 2.  One call

An open stream stays open and gives no header (`next_of_opened`).  A stream that is not
open gives nothing and stays as it is, or it takes the tag of a header and is open from
then on --- with the header, or *with a failure* (`next_of_closed`).

## 3.  Many calls

`HeaderFirst` is what one would like to hold of the records returned.  A stream that opens
badly returns no header at all, neither then nor later, so it is first only if nothing is
returned; every other stream has its header first.  Together this is
`headerFirst_returned_iff`.

## 4.  A stream with a bad header

The exception is not an idle one: whatever record comes behind a header with a wrong magic
number is accepted by the second call (`returned_behind_badMagic`).  Only a caller who
stops at the first failure is safe from it (`headerFirst_returned_of_no_failure`).
-/

namespace CoverageLink

open Record (ownHeader)
open Wire (Reading Schedule Source)

/-! ## 1.  What readers give -/

namespace Wire
namespace Reading

variable {α β : Type}

/-- Whatever the reader gives has the property. -/
def Gives (reader : Reading α) (property : α → Prop) : Prop :=
  ∀ source value, (reader.runOn source).1 = .ok value → property value

namespace Gives

variable {property : α → Prop}

theorem pure {value : α} (h : property value) : Gives (Pure.pure value) property := by
  intro source other given
  cases given
  exact h

theorem throw (failure : Failure) : Gives (MonadExcept.throw failure : Reading α) property := by
  intro source value given
  cases given

/-- What the first reader gives has a property of its own. -/
theorem andThen {reader : Reading β} {earlier : β → Prop} {next : β → Reading α}
    (first : reader.Gives earlier)
    (h : ∀ value, earlier value → (next value).Gives property) :
    (reader >>= next).Gives property := by
  intro source value given
  rw [runOn_bind] at given
  rcases run : reader.runOn source with ⟨failure | read, rest⟩
  · rw [run] at given
    cases given
  · rw [run] at given
    exact h read (first source read (congrArg Prod.fst run)) rest value given

theorem bind {reader : Reading β} {next : β → Reading α}
    (h : ∀ value, (next value).Gives property) : (reader >>= next).Gives property := by
  have anything : reader.Gives fun _ => True := fun _ _ _ => trivial
  exact anything.andThen fun value _ => h value

theorem ite {condition : Prop} [Decidable condition] {yes no : Reading α}
    (h : yes.Gives property) (h' : no.Gives property) :
    (if condition then yes else no).Gives property := by
  split
  · exact h
  · exact h'

/-- Behind a check the condition is known not to hold. -/
theorem check {condition : Prop} [Decidable condition] {failure : Failure} {next : Reading α}
    (h : ¬ condition → next.Gives property) :
    (if condition then (do (MonadExcept.throw failure : Reading PUnit); next) else next).Gives
      property := by
  by_cases refused : condition
  · rw [if_pos refused]
    intro source value given
    cases given
  · rw [if_neg refused]
    exact h refused

end Gives
end Reading
end Wire

namespace Record

/-- **A header that was read is the header of this version.** -/
theorem gives_headerBody : headerBody.Gives (· = ownHeader) := by
  refine .bind fun word => .check fun _ => .bind fun version => .check fun same => .pure ?_
  rw [Decidable.not_not.mp same]
  rfl

/-- No tag but that of a header leads to one. -/
theorem gives_body {tag : UInt8} (other : tag ≠ Tag.header) :
    (body tag).Gives fun record => ∀ version, record ≠ header version := by
  unfold body
  rw [if_neg other]
  refine .ite ?sessionInfo (.ite ?executionData (.ite (.pure fun _ => nofun)
    (.ite ?file (.ite ?projectInfo (.ite (.pure fun _ => nofun) (.ite ?dump ?pull))))))
  case sessionInfo =>
    exact .bind fun _ => .bind fun _ => .bind fun _ => .pure fun _ => nofun
  case executionData =>
    exact .bind fun _ => .bind fun _ => .bind fun _ => .pure fun _ => nofun
  case file => exact .bind fun _ => .bind fun _ => .pure fun _ => nofun
  case projectInfo =>
    refine .bind fun line => ?_
    rcases ProjectInfo.parse line with failure | info
    · exact .throw _
    · exact .pure fun _ => nofun
  case dump => exact .bind fun _ => .bind fun _ => .pure fun _ => nofun
  case pull =>
    rcases PullKind.ofTag? tag with _ | kind
    · exact .throw _
    · exact .bind fun _ => .pure fun _ => nofun

end Record

namespace RecordStream

/-! ## 2.  One call -/

/-- An open stream stays open, and gives no header. -/
theorem next_of_opened {stream : RecordStream} (opened : stream.opened = true) :
    stream.next.2.opened = true ∧
      ∀ record, stream.next.1 = .ok (some record) → ∀ version, record ≠ .header version := by
  rw [next_eq, opened]
  rcases Reading.tag?.runOn stream.source with ⟨failure | tag, source⟩
  · exact ⟨rfl, fun _ => nofun⟩
  rcases tag with _ | tag
  · exact ⟨rfl, fun _ => nofun⟩
  simp only [Bool.true_eq_false, false_and, if_false, true_and]
  split
  · exact ⟨rfl, fun _ => nofun⟩
  · rename_i other
    refine ⟨rfl, fun record given => ?_⟩
    rcases read : ((Record.body tag).runOn source).1 with failure | found
    · rw [read] at given
      cases given
    · rw [read] at given
      cases given
      exact Record.gives_body other source record read

/-- A stream that is not open gives nothing and stays as it is, or takes the tag of a header and
is open from then on, even if that header is bad. -/
theorem next_of_closed {stream : RecordStream} (closed : stream.opened = false) :
    (stream.next.2.opened = false ∧ ∀ record, stream.next.1 ≠ .ok (some record)) ∨
      (stream.next.2.opened = true ∧
        (stream.next.1 = .ok (some ownHeader) ∨ ∃ failure, stream.next.1 = .error failure)) := by
  rw [next_eq, closed]
  rcases Reading.tag?.runOn stream.source with ⟨failure | tag, source⟩
  · exact .inl ⟨rfl, fun _ => nofun⟩
  rcases tag with _ | tag
  · exact .inl ⟨rfl, fun _ => nofun⟩
  simp only [Bool.false_eq_true, false_and, if_false, true_and]
  split
  · exact .inl ⟨rfl, fun _ => nofun⟩
  · rename_i header
    rw [Decidable.not_not.mp header]
    refine .inr ⟨rfl, ?_⟩
    have given := Record.gives_headerBody source
    rw [show Record.body Tag.header = Record.headerBody from rfl]
    rcases read : (Record.headerBody.runOn source).1 with failure | record
    · exact .inr ⟨failure, rfl⟩
    · rw [given record read]
      exact .inl rfl

/-! ## 3.  Many calls -/

/-- The stream after so many calls. -/
def after : (count : Nat) → RecordStream → RecordStream
  | 0, stream => stream
  | count + 1, stream => after count stream.next.2

/-- The record in an answer. -/
def record? : Except Failure (Option Record) → Option Record
  | .ok record => record
  | .error _ => none

/-- The records that the first `count` calls return. -/
def returned (stream : RecordStream) (count : Nat) : List Record :=
  (stream.answers count).filterMap record?

/-- Records as a stream of this version has them: if there are any, the first one is its header,
and there is no other one. -/
def HeaderFirst : List Record → Prop
  | [] => True
  | first :: rest => first = ownHeader ∧ ∀ record ∈ rest, ∀ version, record ≠ .header version

/-- The next call takes the tag of the header, and fails behind it. -/
def OpensBadly (stream : RecordStream) : Prop :=
  stream.opened = false ∧ stream.next.2.opened = true ∧ ∃ failure, stream.next.1 = .error failure

theorem returned_succ (stream : RecordStream) (count : Nat) :
    stream.returned (count + 1) =
      (record? stream.next.1).toList ++ stream.next.2.returned count := by
  rw [returned, answers_succ, List.filterMap_cons]
  rcases record? stream.next.1 with _ | record <;> rfl

theorem opened_after {stream : RecordStream} (opened : stream.opened = true) (count : Nat) :
    (stream.after count).opened = true := by
  induction count generalizing stream with
  | zero => exact opened
  | succ count ih => exact ih (next_of_opened opened).1

theorem record?_eq_none {answer : Except Failure (Option Record)}
    (h : ∀ record, answer ≠ .ok (some record)) : record? answer = none := by
  rcases answer with failure | _ | record
  · rfl
  · rfl
  · exact absurd rfl (h record)

theorem record?_eq_some {answer : Except Failure (Option Record)} {record : Record}
    (h : record? answer = some record) : answer = .ok (some record) := by
  rcases answer with failure | given
  · cases h
  · exact congrArg Except.ok h

/-- An open stream returns no header. -/
theorem returned_of_opened {stream : RecordStream} (opened : stream.opened = true) (count : Nat) :
    ∀ record ∈ stream.returned count, ∀ version, record ≠ .header version := by
  induction count generalizing stream with
  | zero => exact fun record member => nomatch member
  | succ count ih =>
    obtain ⟨stays, noHeader⟩ := next_of_opened opened
    intro record member
    rw [returned_succ, List.mem_append, Option.mem_toList] at member
    rcases member with now | later
    · exact noHeader record (record?_eq_some now)
    · exact ih stays record later

/-- A stream that does not open badly has its header first. -/
theorem headerFirst_returned {stream : RecordStream} (closed : stream.opened = false)
    {count : Nat} (good : ∀ call < count, ¬ (stream.after call).OpensBadly) :
    HeaderFirst (stream.returned count) := by
  induction count generalizing stream with
  | zero => trivial
  | succ count ih =>
    rw [returned_succ]
    rcases next_of_closed closed with ⟨stays, nothing⟩ | ⟨opens, header | ⟨failure, failed⟩⟩
    · rw [record?_eq_none nothing]
      exact ih stays fun call less => good (call + 1) (Nat.succ_lt_succ less)
    · rw [header]
      exact ⟨rfl, returned_of_opened opens count⟩
    · exact absurd ⟨closed, opens, failure, failed⟩ (good 0 (Nat.succ_pos count))

/-- A stream that opens badly returns no header, neither then nor later. -/
theorem returned_of_opensBadly {stream : RecordStream} (closed : stream.opened = false)
    {count : Nat} (bad : ∃ call < count, (stream.after call).OpensBadly) :
    ∀ record ∈ stream.returned count, ∀ version, record ≠ .header version := by
  induction count generalizing stream with
  | zero => exact fun record member => nomatch member
  | succ count ih =>
    obtain ⟨call, less, isClosed, isOpened, failure, failed⟩ := bad
    rw [returned_succ]
    rcases next_of_closed closed with ⟨stays, nothing⟩ | ⟨opens, header | ⟨failure, failed⟩⟩
    · rw [record?_eq_none nothing]
      rcases call with _ | call
      · exact absurd (stays.symm.trans isOpened) Bool.false_ne_true
      · exact ih stays
          ⟨call, Nat.lt_of_succ_lt_succ less, isClosed, isOpened, failure, failed⟩
    · rcases call with _ | call
      · cases header.symm.trans failed
      · exact absurd (isClosed.symm.trans (opened_after opens call)) Bool.false_ne_true
    · rw [failed]
      exact returned_of_opened opens count

/-- **When the header is first.**  The records returned are headed by the header exactly when
there are none, or no call failed behind the tag of the header. -/
theorem headerFirst_returned_iff (source : Source) (count : Nat) :
    HeaderFirst ((start source).returned count) ↔
      (start source).returned count = [] ∨
        ∀ call < count, ¬ ((start source).after call).OpensBadly := by
  constructor
  · intro headed
    by_cases bad : ∃ call < count, ((start source).after call).OpensBadly
    · left
      have noHeader := returned_of_opensBadly rfl bad
      rcases returned : (start source).returned count with _ | ⟨first, rest⟩
      · rfl
      · rw [returned] at headed noHeader
        exact absurd headed.1 (noHeader first List.mem_cons_self _)
    · right
      intro call less opensBadly
      exact bad ⟨call, less, opensBadly⟩
  · rintro (none_returned | good)
    · rw [none_returned]
      trivial
    · exact headerFirst_returned rfl good

/-- A caller who stops at the first failure has the header first. -/
theorem headerFirst_returned_of_no_failure (source : Source) {count : Nat}
    (h : ∀ call < count, ∀ failure, ((start source).after call).next.1 ≠ .error failure) :
    HeaderFirst ((start source).returned count) :=
  headerFirst_returned rfl fun call less ⟨_, _, failure, failed⟩ => h call less failure failed

/-! ## 4.  A stream with a bad header -/

/-- A wrong magic number is reported, and the stream is open behind it. -/
theorem Holds.next_badMagic {stream : RecordStream} {word : UInt16} {unread : Bytes}
    (bad : word ≠ Record.magic)
    (holds : Holds stream false (Tag.header :: (Bytes.bigEndian 2 word.toNat ++ unread))) :
    stream.next.1 = .error (.badMagic word.toNat) ∧ Holds stream.next.2 true unread := by
  obtain ⟨source, supply, answer, isOpen, left⟩ := holds.next_cons ⟨fun _ => rfl, fun _ => rfl⟩
  obtain ⟨read, behind⟩ := Prod.mk.inj ((Reading.Reads.word word).whole source unread _ supply)
  rw [show Record.body Tag.header = Record.headerBody from rfl, Record.headerBody,
    Reading.outcome_bind_ok (Prod.ext read rfl)] at answer left
  rw [if_pos bad] at answer left
  exact ⟨answer, .of_supply isOpen (left.trans behind)⟩

/-- **What comes behind a bad header is accepted.** -/
theorem returned_behind_badMagic {word : UInt16} (bad : word ≠ Record.magic) {record : Record}
    {bytes : Bytes} (encoded : record.encode = .ok bytes) (readable : record.Readable)
    (noHeader : ∀ version, record ≠ .header version) (schedule : Schedule) :
    (start (.start (Tag.header :: (Bytes.bigEndian 2 word.toNat ++ bytes)) none schedule)).returned
      2 = [record.normal] := by
  have holds : Holds (start (.start (Tag.header :: (Bytes.bigEndian 2 word.toNat ++ bytes)) none
      schedule)) false (Tag.header :: (Bytes.bigEndian 2 word.toNat ++ (bytes ++ []))) := by
    rw [List.append_nil]
    exact ⟨rfl, rfl, rfl⟩
  obtain ⟨refused, after⟩ := holds.next_badMagic bad
  obtain ⟨accepted, -⟩ := after.next_whole encoded readable (Record.legal_of_ne_header noHeader)
  rw [returned_succ, refused, returned_succ, accepted]
  rfl

/-- A sign of life behind a header with a wrong magic number. -/
theorem not_headerFirst_of_badMagic :
    ¬ HeaderFirst ((start (.ofBytes [0x01, 0xC0, 0xC1, 0x13])).returned 2) := by
  have accepted : (start (.ofBytes [0x01, 0xC0, 0xC1, 0x13])).returned 2 = [.heartbeat] :=
    returned_behind_badMagic (by decide : (0xC0C1 : UInt16) ≠ Record.magic)
      (rfl : Record.heartbeat.encode = .ok [0x13]) trivial (fun _ => nofun) .prompt
  rw [accepted]
  rintro ⟨same, -⟩
  cases same

end RecordStream
end CoverageLink
