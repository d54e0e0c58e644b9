import CoverageLink.Proofs.Record.Truncation

/-!
# Reading a stream to its end

`RecordStream.readAll` counts down a limit that it never reaches: a call that gives a record has
taken the tag of that record (`length_unread_next`), so there are at most as many of them as octets.
`readAll_eq` is the equation without the limit.

Of a stream that arrives whole, all records are read in their normal form (`readAll_of_whole`).

A conversation goes on until somebody acknowledges.  `RecordStream.commands` are the records up to
there, or up to the end of the stream or a record that cannot be read if that comes first, and
`RecordStream.ending` says how the conversation ends.
-/

namespace CoverageLink

open Wire (Reading Source Supply)

namespace Wire

/-- A request that succeeds gives what it takes. -/
theorem Supply.take_eq_ok {supply left : Supply} {want : Nat} {bytes : Bytes}
    (h : supply.take want = (.ok bytes, left)) :
    bytes = supply.unread.take want ∧ left = supply.skip bytes.length := by
  have given : supply.give want = (.ok bytes, left) := by
    unfold take at h
    split at h
    · exact h
    · split at h
      · exact h
      · cases h
  obtain ⟨same, rest⟩ := Prod.mk.inj given
  obtain rfl := Except.ok.inj same
  exact ⟨rfl, rest.symm⟩

namespace Reading

/-- A tag that was read was there. -/
theorem length_unread_tag? {source behind : Source} {tag : UInt8}
    (h : tag?.runOn source = (.ok (some tag), behind)) :
    behind.unread.length < source.unread.length := by
  have tagged := outcome_tag? source
  rw [outcome, h] at tagged
  obtain ⟨given, left⟩ := Prod.mk.inj tagged
  rcases taken : source.supply.take 1 with ⟨failure | bytes, supply⟩
  · rw [taken] at given
    cases given
  · rw [taken] at given left
    obtain ⟨front, skipped⟩ := Supply.take_eq_ok taken
    have unread : behind.unread = source.unread.drop bytes.length :=
      congrArg Supply.unread (left.trans skipped)
    have there : bytes ≠ [] := by
      rintro rfl
      cases given
    have some_taken := List.length_pos_iff.2 there
    have enough : bytes.length ≤ source.unread.length := by
      rw [front]
      exact List.length_take_le' 1 source.unread
    rw [unread, List.length_drop]
    omega

/-- A reader that only takes leaves no more than there was. -/
theorem Takes.length_unread_le {α : Type} {reader : Reading α} (h : reader.Takes)
    (source : Source) : (reader.runOn source).2.unread.length ≤ source.unread.length := by
  obtain ⟨count, left⟩ := h source
  have unread : (reader.runOn source).2.unread = source.unread.drop count :=
    congrArg Supply.unread left
  rw [unread, List.length_drop]
  omega

end Reading
end Wire

namespace RecordStream

/-! ## The limit -/

/-- **A call that gives a record takes something**: its tag, and whatever the body takes. -/
theorem length_unread_next {stream rest : RecordStream} {record : Record}
    (h : stream.next = (.ok (some record), rest)) :
    rest.source.unread.length < stream.source.unread.length := by
  rw [next_eq] at h
  rcases run : Reading.tag?.runOn stream.source with ⟨failure | _ | tag, behind⟩
  · rw [run] at h
    cases h
  · rw [run] at h
    cases h
  · rw [run] at h
    simp only at h
    split at h
    · cases h
    · split at h
      · cases h
      · obtain ⟨-, rfl⟩ := Prod.mk.inj h
        exact Nat.lt_of_le_of_lt
          ((Reading.hereditary_takes.body tag).length_unread_le behind)
          (Reading.length_unread_tag? run)

/-- The records that were read before come first. -/
theorem readAll_go_seen (limit : Nat) (seen : List Record) (stream : RecordStream) :
    readAll.go limit seen stream =
      (seen.reverse ++ (readAll.go limit [] stream).1, (readAll.go limit [] stream).2) := by
  induction limit generalizing seen stream with
  | zero => simp [readAll.go]
  | succ limit ih =>
    rw [readAll.go, readAll.go]
    rcases stream.next with ⟨failure | _ | record, rest⟩
    · simp
    · simp
    · simp only
      rw [ih (record :: seen), ih [record]]
      simp

/-- One limit is as good as another if both are high enough. -/
theorem readAll_go_eq {limit other : Nat} (seen : List Record) {stream : RecordStream}
    (enough : stream.source.unread.length < limit) (enough' : stream.source.unread.length < other) :
    readAll.go limit seen stream = readAll.go other seen stream := by
  induction limit generalizing other seen stream with
  | zero => omega
  | succ limit ih =>
    obtain ⟨other, rfl⟩ : ∃ less, other = less + 1 := ⟨other - 1, by omega⟩
    rw [readAll.go, readAll.go]
    rcases answer : stream.next with ⟨failure | _ | record, rest⟩
    · rfl
    · rfl
    · have less := length_unread_next answer
      exact ih (record :: seen) (by omega) (by omega)

/-- **Reading to the end**, call by call. -/
theorem readAll_eq (stream : RecordStream) :
    stream.readAll =
      match stream.next with
      | (.ok (some record), rest) => (record :: rest.readAll.1, rest.readAll.2)
      | (.ok none, _) => ([], none)
      | (.error failure, _) => ([], some failure) := by
  rw [readAll, readAll.go]
  rcases answer : stream.next with ⟨failure | _ | record, rest⟩
  · rfl
  · rfl
  · simp only
    rw [readAll_go_seen, readAll_go_eq [] (length_unread_next answer) (Nat.lt_succ_self _)]
    rfl

/-! ## Whole streams -/

/-- **Whole records are read**, and what comes behind them is read from there on. -/
theorem Holds.readAll_append {stream : RecordStream} {opened : Bool} {records : List Record}
    {parts : List Bytes} {rest : Bytes} (written : Written opened records parts)
    (holds : Holds stream opened (parts.flatten ++ rest)) :
    ∃ behind : RecordStream, Holds behind (opened || !records.isEmpty) rest ∧
      stream.readAll =
        (records.map Record.normal ++ behind.readAll.1, behind.readAll.2) := by
  induction written generalizing stream with
  | nil opened => exact ⟨stream, by simpa using holds, rfl⟩
  | cons encoded readable legal others ih =>
    rw [List.flatten_cons, List.append_assoc] at holds
    obtain ⟨answer, after⟩ := holds.next_whole encoded readable legal
    obtain ⟨behind, left, read⟩ := ih after
    refine ⟨behind, by simpa using left, ?_⟩
    rw [readAll_eq]
    rcases given : stream.next with ⟨result, next⟩
    rw [given] at answer read
    obtain rfl : result = _ := answer
    simp only
    rw [read, List.map_cons, List.cons_append]

theorem Holds.readAll_nil {stream : RecordStream} {opened : Bool}
    (holds : Holds stream opened []) : stream.readAll = ([], none) := by
  have ended := holds.next_nil.1
  rw [readAll_eq]
  rcases given : stream.next with ⟨answer, rest⟩
  rw [given] at ended
  obtain rfl : answer = .ok none := ended
  rfl

/-- A record cut short is the end of the input. -/
theorem Holds.readAll_cut {stream : RecordStream} {opened : Bool} {record : Record}
    {part missing : Bytes} (encoded : record.encode = .ok (part ++ missing))
    (readable : record.Readable) (legal : record.tag = Tag.header ↔ opened = false)
    (begun : part ≠ []) (absent : missing ≠ []) (holds : Holds stream opened part) :
    ∃ failure : Failure, failure.kind = .unexpectedEof ∧ stream.readAll = ([], some failure) := by
  obtain ⟨⟨failure, eof, answer⟩, -⟩ := holds.next_cut encoded readable legal begun absent
  refine ⟨failure, eof, ?_⟩
  rw [readAll_eq]
  rcases given : stream.next with ⟨result, rest⟩
  rw [given] at answer
  obtain rfl : result = _ := answer
  rfl

theorem Holds.readAll {stream : RecordStream} {opened : Bool} {records : List Record}
    {parts : List Bytes} (written : Written opened records parts)
    (holds : Holds stream opened parts.flatten) :
    stream.readAll = (records.map Record.normal, none) := by
  rw [← List.append_nil parts.flatten] at holds
  obtain ⟨behind, left, read⟩ := holds.readAll_append written
  rw [read, left.readAll_nil, List.append_nil]

/-- **A stream that arrives whole** gives its header and the normal forms of its records. -/
theorem readAll_of_whole {records : List Record} {encodings : List Bytes}
    (schedule : Wire.Schedule) (encoded : records.mapM Record.encode = .ok encodings)
    (h : ∀ record ∈ records, record.Readable ∧ ∀ version, record ≠ .header version) :
    (start (.start (Record.streamHeader ++ encodings.flatten) none schedule)).readAll =
      (Record.ownHeader :: records.map Record.normal, none) := by
  have holds : Holds (start (.start (Record.streamHeader ++ encodings.flatten) none schedule)) false
      (Record.streamHeader :: encodings).flatten := ⟨rfl, rfl, rfl⟩
  exact holds.readAll (Written.of_mapM encoded h).opening

/-! ## Conversations -/

/-- The records before an acknowledgement, or before the end of the stream or a record that cannot
be read. -/
def commands (stream : RecordStream) : List Record :=
  stream.readAll.1.takeWhile fun record => record ≠ .ok

/-- How a conversation ends: well, unless a record before the first acknowledgement cannot be
read. -/
def ending (stream : RecordStream) : Except Failure Unit :=
  if Record.ok ∈ stream.readAll.1 then .ok ()
  else
    match stream.readAll.2 with
    | none => .ok ()
    | some failure => .error failure

/-- **A conversation, one record at a time.** -/
theorem conversation_eq (stream : RecordStream) :
    (stream.commands, stream.ending) =
      match stream.next with
      | (.ok (some record), rest) =>
        if record = .ok then ([], .ok ()) else (record :: rest.commands, rest.ending)
      | (.ok none, _) => ([], .ok ())
      | (.error failure, _) => ([], .error failure) := by
  unfold commands ending
  rw [readAll_eq]
  rcases stream.next with ⟨failure | _ | record, rest⟩
  · rfl
  · rfl
  · by_cases acknowledged : record = .ok
    · simp [acknowledged]
    · simp [acknowledged, Ne.symm acknowledged]

end RecordStream
end CoverageLink
