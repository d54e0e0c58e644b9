import CoverageLink.Proofs.Record.Calls
import CoverageLink.Proofs.Record.RoundTrip

/-!
# Streams that break off

A peer may go away at any moment, and what it has sent by then is a prefix of a stream.
The records that arrived whole must be accepted, and the rest must look like a peer that
went away, not like one that talks nonsense.

## 1.  Calls on a stream without fault

`Holds` says what is left of such a stream.  There are three things a call can find, and
one lemma for each: a whole record (`Holds.next_whole`), a record cut short
(`Holds.next_cut`), and nothing (`Holds.next_nil`).  The first two rest on the same fact,
that the octets behind a tag spell the record.

## 2.  The first octets of a stream

`WholeWithin` counts the parts of a stream that its first octets contain, and `Boundary`
says whether these octets end with a part.  `Follows` is the law: a call for each whole
part, one for the way the stream ends, and nothing ever after.  It is proved by induction
on the records (`Holds.follows`), one lemma for each way the first record can have arrived:
not at all, in part, or completely.

## 3.  Streams of this version

A stream is written by putting its header in front of the encodings of its records.
`answers_of_truncated` is the law for its first octets.  All of them are a special case,
in which nothing is cut: `records_round_trip`.
-/

namespace CoverageLink

open Record (ownHeader streamHeader)
open Wire (Reading Schedule Source Supply)

theorem Record.tag_ne_header {record : Record} (h : ∀ version, record ≠ .header version) :
    record.tag ≠ Tag.header := by
  intro same
  cases record with
  | header version => exact h version rfl
  | pull request =>
    obtain ⟨kind, known⟩ := request
    cases kind <;> cases same
  | sessionInfo _ => cases same
  | executionData _ => cases same
  | heartbeat => cases same
  | file _ => cases same
  | projectInfo _ => cases same
  | ok => cases same
  | dump _ _ => cases same

/-- On an open stream a record is legal unless it is a header. -/
theorem Record.legal_of_ne_header {record : Record} (h : ∀ version, record ≠ .header version) :
    record.tag = Tag.header ↔ true = false :=
  iff_of_false (tag_ne_header h) Bool.noConfusion

namespace RecordStream

/-! ## 1.  Calls on a stream without fault -/

/-- What is left of a stream that never fails to deliver. -/
structure Holds (stream : RecordStream) (opened : Bool) (unread : Bytes) : Prop where
  opened : stream.opened = opened
  unread : stream.source.unread = unread
  sound : stream.source.fault = none

namespace Holds

variable {stream : RecordStream} {opened : Bool} {unread : Bytes}

theorem supply (holds : Holds stream opened unread) :
    stream.source.supply = ⟨unread, stream.source.consumed, none⟩ := by
  rw [Source.supply, holds.unread, holds.sound]

theorem of_supply {consumed : Nat} (h : stream.opened = opened)
    (h' : stream.source.supply = ⟨unread, consumed, none⟩) : Holds stream opened unread :=
  ⟨h, congrArg Supply.unread h', congrArg Supply.fault h'⟩

/-- A stream that has ended says so, and is not changed by it. -/
theorem next_nil (holds : Holds stream opened []) :
    stream.next.1 = .ok none ∧ Holds stream.next.2 opened [] := by
  have ended := Reading.outcome_tag?_nil holds.supply
  obtain ⟨nothing, left⟩ := Prod.mk.inj ended
  rw [next_eq]
  generalize Reading.tag?.runOn stream.source = answer at nothing left ⊢
  obtain ⟨result, source⟩ := answer
  simp only at nothing left
  rw [nothing]
  exact ⟨rfl, .of_supply holds.opened left⟩

/-- **A tag is there.**  If it is one the stream may have, the answer is what the reader of the
body makes of the octets behind it. -/
theorem next_cons {tag : UInt8} (holds : Holds stream opened (tag :: unread))
    (legal : tag = Tag.header ↔ opened = false) :
    ∃ source : Source,
      source.supply = ⟨unread, stream.source.consumed + 1, none⟩ ∧
        stream.next.1 = ((Record.body tag).outcome source).1.map some ∧
        stream.next.2.opened = true ∧
        stream.next.2.source.supply = ((Record.body tag).outcome source).2 := by
  have tagged := Reading.outcome_tag?_cons holds.supply
  obtain ⟨found, left⟩ := Prod.mk.inj tagged
  rw [next_eq, holds.opened]
  generalize Reading.tag?.runOn stream.source = answer at found left ⊢
  obtain ⟨result, source⟩ := answer
  simp only at found left
  rw [found]
  refine ⟨source, left, ?_⟩
  have expected : ¬ (opened = false ∧ tag ≠ Tag.header) := fun ⟨closed, other⟩ =>
    other (legal.mpr closed)
  have single : ¬ (opened = true ∧ tag = Tag.header) := fun ⟨isOpen, header⟩ =>
    Bool.false_ne_true ((legal.mp header).symm.trans isOpen)
  simp only
  rw [if_neg expected, if_neg single]
  exact ⟨rfl, rfl, rfl⟩

variable {record : Record} {bytes : Bytes}

/-- **A whole record** is answered with, and the stream goes on behind it. -/
theorem next_whole (encoded : record.encode = .ok bytes) (readable : record.Readable)
    (legal : record.tag = Tag.header ↔ opened = false)
    (holds : Holds stream opened (bytes ++ unread)) :
    stream.next.1 = .ok (some record.normal) ∧ Holds stream.next.2 true unread := by
  obtain ⟨payload, rfl, reads⟩ := Record.reads_encode encoded readable
  obtain ⟨source, supply, answer, isOpen, left⟩ := next_cons holds legal
  rw [reads.whole source unread _ supply] at answer left
  exact ⟨answer, .of_supply isOpen left⟩

/-- **A record cut short** is the end of the input, and nothing is left behind it. -/
theorem next_cut {part missing : Bytes} (encoded : record.encode = .ok (part ++ missing))
    (readable : record.Readable) (legal : record.tag = Tag.header ↔ opened = false)
    (begun : part ≠ []) (absent : missing ≠ []) (holds : Holds stream opened part) :
    (∃ failure : Failure, failure.kind = .unexpectedEof ∧ stream.next.1 = .error failure) ∧
      Holds stream.next.2 true [] := by
  obtain ⟨payload, tagged, reads⟩ := Record.reads_encode encoded readable
  rcases part with _ | ⟨tag, part⟩
  · exact absurd rfl begun
  · obtain ⟨rfl, rfl⟩ := List.cons.inj tagged
    obtain ⟨source, supply, answer, isOpen, left⟩ := next_cons holds legal
    obtain ⟨failure, eof, cut⟩ := reads.cut source part missing _ absent rfl supply
    rw [cut] at answer left
    exact ⟨⟨failure, eof, answer⟩, .of_supply isOpen left⟩

/-- A stream that has ended answers nothing, however often it is asked. -/
theorem answers_nil (holds : Holds stream opened []) (count : Nat) :
    stream.answers count = List.replicate count (.ok none) := by
  induction count generalizing stream with
  | zero => rfl
  | succ count ih =>
    obtain ⟨nothing, after⟩ := holds.next_nil
    rw [answers_succ, nothing, ih after, List.replicate_succ]

end Holds

/-! ## 2.  The first octets of a stream -/

/-- So many parts of a stream lie completely inside its first `size` octets. -/
structure WholeWithin (parts : List Bytes) (size count : Nat) : Prop where
  listed : count ≤ parts.length
  inside : (parts.take count).flatten.length ≤ size
  beyond : count < parts.length → size < (parts.take (count + 1)).flatten.length

/-- The first `size` octets of a stream end where a part ends, or where the first one begins. -/
def Boundary (parts : List Bytes) (size : Nat) : Prop :=
  ∃ count, size = (parts.take count).flatten.length

theorem length_flatten_take_succ (part : Bytes) (rest : List Bytes) (count : Nat) :
    ((part :: rest).take (count + 1)).flatten.length =
      part.length + (rest.take count).flatten.length := by
  rw [List.take_succ_cons, List.flatten_cons, List.length_append]

namespace WholeWithin

variable {part : Bytes} {rest : List Bytes} {size count : Nat}

theorem zero (cut : size < part.length) : WholeWithin (part :: rest) size 0 := by
  refine ⟨Nat.zero_le _, Nat.zero_le _, fun _ => ?_⟩
  rw [length_flatten_take_succ, List.take_zero]
  exact cut

theorem succ (fits : part.length ≤ size) (h : WholeWithin rest (size - part.length) count) :
    WholeWithin (part :: rest) size (count + 1) := by
  obtain ⟨listed, inside, beyond⟩ := h
  refine ⟨Nat.succ_le_succ listed, ?_, fun more => ?_⟩
  · rw [length_flatten_take_succ]
    omega
  · have := beyond (Nat.lt_of_succ_lt_succ more)
    rw [length_flatten_take_succ]
    omega

/-- All octets of a stream contain all of its parts. -/
theorem eq_length {parts : List Bytes} (h : WholeWithin parts parts.flatten.length count) :
    count = parts.length := by
  rcases Nat.lt_or_eq_of_le h.listed with more | all
  · have beyond := h.beyond more
    have split := congrArg (fun parts => parts.flatten.length)
      (List.take_append_drop (count + 1) parts)
    simp only [List.flatten_append, List.length_append] at split
    omega
  · exact all

end WholeWithin

namespace Boundary

variable {part : Bytes} {rest : List Bytes} {size : Nat}

theorem zero (parts : List Bytes) : Boundary parts 0 := ⟨0, rfl⟩

/-- Behind a part the boundaries are those of the rest. -/
theorem cons_iff (fits : part.length ≤ size) :
    Boundary (part :: rest) size ↔ Boundary rest (size - part.length) := by
  constructor
  · rintro ⟨_ | count, h⟩
    · rw [List.take_zero] at h
      exact ⟨0, by rw [h]; exact Nat.zero_sub _⟩
    · rw [length_flatten_take_succ] at h
      exact ⟨count, by omega⟩
  · rintro ⟨count, h⟩
    refine ⟨count + 1, ?_⟩
    rw [length_flatten_take_succ]
    omega

/-- Inside the first part there is no boundary. -/
theorem not_of_lt (begun : size ≠ 0) (cut : size < part.length) :
    ¬ Boundary (part :: rest) size := by
  rintro ⟨_ | count, h⟩
  · exact begun h
  · rw [length_flatten_take_succ] at h
    omega

end Boundary

/-- Records written one behind the other on a stream that is open or not: the first one opens
the stream if need be, and no other one is a header. -/
inductive Written : (opened : Bool) → List Record → List Bytes → Prop
  | nil (opened : Bool) : Written opened [] []
  | cons {opened : Bool} {record : Record} {records : List Record} {bytes : Bytes}
      {parts : List Bytes} (encoded : record.encode = .ok bytes) (readable : record.Readable)
      (legal : record.tag = Tag.header ↔ opened = false) (rest : Written true records parts) :
      Written opened (record :: records) (bytes :: parts)

namespace Written

theorem of_mapM {records : List Record} {parts : List Bytes}
    (encoded : records.mapM Record.encode = .ok parts)
    (h : ∀ record ∈ records, record.Readable ∧ ∀ version, record ≠ .header version) :
    Written true records parts := by
  induction records generalizing parts with
  | nil =>
    cases encoded
    exact .nil true
  | cons record records ih =>
    rw [List.mapM_cons] at encoded
    rcases first : record.encode with failure | bytes
    · rw [first] at encoded
      cases encoded
    · rcases others : records.mapM Record.encode with failure | rest
      · rw [first, others] at encoded
        cases encoded
      · rw [first, others] at encoded
        cases encoded
        obtain ⟨readable, noHeader⟩ := h record List.mem_cons_self
        exact .cons first readable (Record.legal_of_ne_header noHeader)
          (ih others fun other member => h other (List.mem_cons_of_mem record member))

/-- A stream is opened by its header. -/
theorem opening {records : List Record} {parts : List Bytes} (h : Written true records parts) :
    Written false (ownHeader :: records) (streamHeader :: parts) :=
  .cons Record.encode_ownHeader rfl ⟨fun _ => rfl, fun _ => rfl⟩ h

theorem length_eq {opened : Bool} {records : List Record} {parts : List Bytes}
    (h : Written opened records parts) : parts.length = records.length := by
  induction h with
  | nil => rfl
  | cons _ _ _ _ ih => rw [List.length_cons, List.length_cons, ih]

end Written

/-- What a stream answers of which the first `size` octets arrived: `count` records, then how
it ended, then nothing. -/
structure Follows (stream : RecordStream) (records : List Record) (parts : List Bytes)
    (size count : Nat) (ending : Except Failure (Option Record)) : Prop where
  within : WholeWithin parts size count
  ended : Boundary parts size → ending = .ok none
  cut : ¬ Boundary parts size →
    ∃ failure : Failure, failure.kind = .unexpectedEof ∧ ending = .error failure
  answers : ∀ further, stream.answers (count + 1 + further) =
    ((records.map Record.normal).take count).map (fun record => .ok (some record)) ++
      ending :: List.replicate further (.ok none)

section

variable {stream : RecordStream} {opened : Bool} {record : Record} {records : List Record}
  {bytes : Bytes} {parts : List Bytes} {size count : Nat} {ending : Except Failure (Option Record)}

/-- Nothing of the stream arrived. -/
theorem Holds.follows_nil (holds : Holds stream opened []) (within : WholeWithin parts 0 0) :
    Follows stream records parts 0 0 (.ok none) where
  within := within
  ended _ := rfl
  cut off := absurd (Boundary.zero parts) off
  answers further := by
    rw [Nat.zero_add, Nat.add_comm, holds.answers_nil, List.replicate_succ]
    rfl

/-- Something of the first record arrived, but not all of it. -/
theorem Holds.follows_cut (encoded : record.encode = .ok bytes) (readable : record.Readable)
    (legal : record.tag = Tag.header ↔ opened = false) (begun : size ≠ 0)
    (cut : size < bytes.length) (holds : Holds stream opened (bytes.take size)) :
    ∃ ending, Follows stream (record :: records) (bytes :: parts) size 0 ending := by
  have part_ne_nil : bytes.take size ≠ [] := by
    rw [Ne, List.take_eq_nil_iff]
    rintro (none_taken | rfl)
    · exact begun none_taken
    · exact absurd cut (Nat.not_lt_zero size)
  have missing_ne_nil : bytes.drop size ≠ [] := by
    rw [Ne, List.drop_eq_nil_iff]
    exact Nat.not_le_of_lt cut
  rw [← List.take_append_drop size bytes] at encoded
  obtain ⟨⟨failure, eof, answer⟩, after⟩ :=
    holds.next_cut encoded readable legal part_ne_nil missing_ne_nil
  refine ⟨.error failure, .zero cut, fun boundary => ?_, fun _ => ⟨failure, eof, rfl⟩,
    fun further => ?_⟩
  · exact absurd boundary (Boundary.not_of_lt begun cut)
  · rw [Nat.zero_add, Nat.add_comm, answers_succ, answer, after.answers_nil]
    rfl

/-- All of the first record arrived. -/
theorem Follows.cons (fits : bytes.length ≤ size)
    (answer : stream.next.1 = .ok (some record.normal))
    (h : Follows stream.next.2 records parts (size - bytes.length) count ending) :
    Follows stream (record :: records) (bytes :: parts) size (count + 1) ending where
  within := h.within.succ fits
  ended boundary := h.ended ((Boundary.cons_iff fits).mp boundary)
  cut off := h.cut fun boundary => off ((Boundary.cons_iff fits).mpr boundary)
  answers further := by
    rw [show count + 1 + 1 + further = (count + 1 + further) + 1 by omega, answers_succ, answer,
      h.answers further]
    rfl

/-- **The first octets of a stream.** -/
theorem Holds.follows (written : Written opened records parts) (fits : size ≤ parts.flatten.length)
    (holds : Holds stream opened (parts.flatten.take size)) :
    ∃ count ending, Follows stream records parts size count ending := by
  induction written generalizing stream size with
  | nil opened =>
    have nothing : size = 0 := Nat.eq_zero_of_le_zero fits
    subst nothing
    exact ⟨0, .ok none, holds.follows_nil ⟨Nat.le_refl 0, Nat.le_refl 0, fun more => nomatch more⟩⟩
  | @cons opened record records bytes parts encoded readable legal rest ih =>
    rw [List.flatten_cons] at holds
    rw [List.flatten_cons, List.length_append] at fits
    rcases Nat.lt_or_ge size bytes.length with cut | whole
    · rw [List.take_append_of_le_length (Nat.le_of_lt cut)] at holds
      by_cases begun : size = 0
      · subst begun
        exact ⟨0, .ok none, holds.follows_nil (.zero cut)⟩
      · exact ⟨0, holds.follows_cut encoded readable legal begun cut⟩
    · rw [List.take_append, List.take_of_length_le whole] at holds
      obtain ⟨answer, after⟩ := holds.next_whole encoded readable legal
      obtain ⟨count, ending, follows⟩ := ih (by omega) after
      exact ⟨count + 1, ending, follows.cons whole answer⟩

end

/-! ## 3.  Streams of this version -/

variable {records : List Record} {encodings : List Bytes}

/-- A stream of this version, of which the first octets arrive. -/
theorem exists_follows_of_mapM (schedule : Schedule)
    (encoded : records.mapM Record.encode = .ok encodings)
    (h : ∀ record ∈ records, record.Readable ∧ ∀ version, record ≠ .header version)
    {size : Nat} (fits : size ≤ (streamHeader ++ encodings.flatten).length) :
    ∃ count ending,
      Follows (start (.start ((streamHeader ++ encodings.flatten).take size) none schedule))
        (ownHeader :: records) (streamHeader :: encodings) size count ending :=
  Holds.follows (Written.of_mapM encoded h).opening fits ⟨rfl, rfl, rfl⟩

/-- **Truncation.**  Of a stream that breaks off, the records that arrived completely are
answered with, in order and in their normal form.  Then the stream has ended if it broke off
between two records, and otherwise the end of the input is reported.  Afterwards there is
nothing more. -/
theorem answers_of_truncated (schedule : Schedule)
    (encoded : records.mapM Record.encode = .ok encodings)
    (h : ∀ record ∈ records, record.Readable ∧ ∀ version, record ≠ .header version)
    {size : Nat} (fits : size ≤ (streamHeader ++ encodings.flatten).length) :
    ∃ count ending, WholeWithin (streamHeader :: encodings) size count ∧
      (Boundary (streamHeader :: encodings) size → ending = .ok none) ∧
      (¬ Boundary (streamHeader :: encodings) size →
        ∃ failure : Failure, failure.kind = .unexpectedEof ∧ ending = .error failure) ∧
      ∀ further,
        (start (.start ((streamHeader ++ encodings.flatten).take size) none schedule)).answers
            (count + 1 + further) =
          ((ownHeader :: records.map Record.normal).take count).map
              (fun record => .ok (some record)) ++
            ending :: List.replicate further (.ok none) := by
  obtain ⟨count, ending, follows⟩ := exists_follows_of_mapM schedule encoded h fits
  exact ⟨count, ending, follows.within, follows.ended, follows.cut, follows.answers⟩

/-- A dump command of which one octet is missing. -/
theorem answers_of_truncated_dump :
    ∃ count ending, WholeWithin [streamHeader, [0x20], [0x40, 1, 0]] 8 count ∧
      (Boundary [streamHeader, [0x20], [0x40, 1, 0]] 8 → ending = .ok none) ∧
      (¬ Boundary [streamHeader, [0x20], [0x40, 1, 0]] 8 →
        ∃ failure : Failure, failure.kind = .unexpectedEof ∧ ending = .error failure) ∧
      ∀ further,
        (start (.start [0x01, 0xC0, 0xC0, 0x10, 0x07, 0x20, 0x40, 1] none .prompt)).answers
            (count + 1 + further) =
          ([ownHeader, .ok, .dump true false].take count).map
              (fun record => .ok (some record)) ++
            ending :: List.replicate further (.ok none) := by
  have encoded : [Record.ok, .dump true false].mapM Record.encode =
      .ok [[0x20], [0x40, 1, 0]] := rfl
  exact answers_of_truncated .prompt encoded (by simp [Record.Readable]) (by decide)

/-- The tag and the body of a record that was written give its normal form, and whatever is
behind it is left. -/
theorem runOn_body_of_encode {record : Record} {bytes rest : Bytes} {source : Source}
    (encoded : record.encode = .ok bytes) (readable : record.Readable)
    (unread : source.unread = bytes ++ rest) (sound : source.fault = none) :
    ∃ tagged left : Source,
      Reading.tag?.runOn source = (.ok (some record.tag), tagged) ∧
        (Record.body record.tag).runOn tagged = (.ok record.normal, left) ∧
        left.unread = rest := by
  obtain ⟨payload, rfl, reads⟩ := Record.reads_encode encoded readable
  have supply : source.supply = ⟨record.tag :: (payload ++ rest), source.consumed, none⟩ := by
    rw [Source.supply, unread, sound, List.cons_append]
  obtain ⟨found, behind⟩ := Prod.mk.inj (Reading.outcome_tag?_cons supply)
  obtain ⟨read, left⟩ := Prod.mk.inj (reads.whole _ rest _ behind)
  exact ⟨_, _, Prod.ext found rfl, Prod.ext read rfl, congrArg Supply.unread left⟩

/-- A stream that arrives completely answers with the header, with each of its records, and
with the end. -/
theorem answers_of_whole (schedule : Schedule)
    (encoded : records.mapM Record.encode = .ok encodings)
    (h : ∀ record ∈ records, record.Readable ∧ ∀ version, record ≠ .header version) :
    (start (.start (streamHeader ++ encodings.flatten) none schedule)).answers
        (records.length + 2) =
      (ownHeader :: records.map Record.normal).map (fun record => .ok (some record)) ++
        [.ok none] := by
  obtain ⟨count, ending, follows⟩ := exists_follows_of_mapM schedule encoded h (Nat.le_refl _)
  have all : count = (streamHeader :: encodings).length := follows.within.eq_length
  have boundary :
      Boundary (streamHeader :: encodings) (streamHeader ++ encodings.flatten).length :=
    ⟨count, by rw [all, List.take_length, List.flatten_cons]⟩
  have length := (Written.of_mapM encoded h).length_eq
  have answers := follows.answers 0
  rw [follows.ended boundary, List.take_length, all, List.length_cons, length,
    List.take_of_length_le (by simp)] at answers
  exact answers

/-- **Round trip.**  Every record that can be written is read back in its normal form, one by
one in front of any octets, and as a stream behind a header. -/
theorem records_round_trip :
    (∀ (record : Record) (bytes rest : Bytes) (source : Source), record.encode = .ok bytes →
      record.Readable → source.unread = bytes ++ rest → source.fault = none →
        ∃ tagged left : Source,
          Reading.tag?.runOn source = (.ok (some record.tag), tagged) ∧
            (Record.body record.tag).runOn tagged = (.ok record.normal, left) ∧
            left.unread = rest) ∧
    (∀ (records : List Record) (encodings : List Bytes) (schedule : Schedule),
      records.mapM Record.encode = .ok encodings →
      (∀ record ∈ records, record.Readable ∧ ∀ version, record ≠ .header version) →
        (start (.start (streamHeader ++ encodings.flatten) none schedule)).answers
            (records.length + 2) =
          (ownHeader :: records.map Record.normal).map (fun record => .ok (some record)) ++
            [.ok none]) := by
  constructor
  · intro record bytes rest source encoded readable unread sound
    exact runOn_body_of_encode encoded readable unread sound
  · intro records encodings schedule encoded h
    exact answers_of_whole schedule encoded h

/-- Identifiers with a separator in them come back as two, and the last time of all as the last
one of the wire. -/
theorem records_round_trip_of_clamped :
    (∃ tagged left : Source,
      Reading.tag?.runOn (.ofBytes [0x16, 3, 97, 124, 98, 0x20]) =
          (.ok (some Tag.pullClasses), tagged) ∧
        (Record.body Tag.pullClasses).runOn tagged =
          (.ok (.pull ⟨.classes, ⟨["a", "b"], by decide⟩⟩), left) ∧
        left.unread = [0x20]) ∧
    (start (.start [0x01, 0xC0, 0xC0, 0x10, 0x07, 0x10, 0, 1, 97, 127, 255, 255, 255, 255, 255,
        255, 255, 0, 0, 0, 0, 0, 0, 0, 1] none .prompt)).answers 3 =
      [.ok (some ownHeader), .ok (some (.sessionInfo ⟨"a", ⟨0x7FFFFFFFFFFFFFFF⟩, ⟨1⟩⟩)),
        .ok none] := by
  constructor
  · exact records_round_trip.1 (.pull ⟨.classes, ⟨["a|b"], by decide⟩⟩) [0x16, 3, 97, 124, 98] [0x20] _
      rfl trivial rfl rfl
  · exact records_round_trip.2 [.sessionInfo ⟨"a", ⟨0xFFFFFFFFFFFFFFFF⟩, ⟨1⟩⟩]
      [[0x10, 0, 1, 97, 127, 255, 255, 255, 255, 255, 255, 255, 0, 0, 0, 0, 0, 0, 0, 1]] .prompt
      rfl (by simp [Record.Readable])

end RecordStream
end CoverageLink
