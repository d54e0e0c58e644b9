import CoverageLink.Proofs.Record.Bodies
import CoverageLink.Record.Stream

/-!
# Calls on a stream of records

A stream is asked for its next record again and again, also after it has failed.  `calls`
is the list of what it answers, each with the number of octets taken so far, and
`answers` is that list without the numbers.

`next_eq` says all that one call can do: five outcomes, told apart by what the tag is and
whether the header was seen.  Every later statement about calls starts from it.

The theorem of this file is that the transport does not matter.  A call is a function of
the supply of the source and of whether the header was seen (`Alike.next`), so any two
schedules for the same octets and the same fault give the same calls.
-/

namespace CoverageLink

open Wire (Source Reading Schedule Supply)

/-! ## Calls -/

namespace RecordStream

/-- What the first `count` calls answer, each with the number of octets taken after it. -/
def calls : (count : Nat) → RecordStream → List (Except Failure (Option Record) × Nat)
  | 0, _ => []
  | count + 1, stream =>
    (stream.next.1, stream.next.2.source.consumed) :: calls count stream.next.2

/-- What the first `count` calls answer. -/
def answers (stream : RecordStream) (count : Nat) : List (Except Failure (Option Record)) :=
  (stream.calls count).map Prod.fst

theorem calls_succ (stream : RecordStream) (count : Nat) :
    stream.calls (count + 1) =
      (stream.next.1, stream.next.2.source.consumed) :: stream.next.2.calls count := rfl

theorem answers_succ (stream : RecordStream) (count : Nat) :
    stream.answers (count + 1) = stream.next.1 :: stream.next.2.answers count := rfl

/-- **One call.**  Once a tag has passed both checks the stream is open, whatever becomes of
the body. -/
theorem next_eq (stream : RecordStream) :
    stream.next =
      match Reading.tag?.runOn stream.source with
      | (.error failure, source) => (.error failure, ⟨source, stream.opened⟩)
      | (.ok none, source) => (.ok none, ⟨source, stream.opened⟩)
      | (.ok (some tag), source) =>
        if stream.opened = false ∧ tag ≠ Tag.header then
          (.error (.missingHeader tag.toNat), ⟨source, stream.opened⟩)
        else if stream.opened = true ∧ tag = Tag.header then
          (.error .duplicateHeader, ⟨source, stream.opened⟩)
        else
          (((Record.body tag).runOn source).1.map some,
            ⟨((Record.body tag).runOn source).2, true⟩) := by
  obtain ⟨source, opened⟩ := stream
  unfold next nextTag reading
  rcases Reading.tag?.runOn source with ⟨failure | tag, rest⟩
  · rfl
  · rcases tag with _ | tag
    · rfl
    · by_cases header : tag = Tag.header <;> cases opened <;>
        simp [header, body, reading, Except.map]

/-! ## The transport does not matter -/

/-- Streams of which a reader can tell the same. -/
structure Alike (stream other : RecordStream) : Prop where
  supply : stream.source.supply = other.source.supply
  opened : stream.opened = other.opened

namespace Alike

variable {stream other : RecordStream}

/-- **Alike streams answer a call alike, and are alike after it.** -/
theorem next (alike : Alike stream other) :
    stream.next.1 = other.next.1 ∧ Alike stream.next.2 other.next.2 := by
  obtain ⟨supply, opened⟩ := alike
  have tags := Reading.Uniform.tag? stream.source other.source supply
  unfold Reading.outcome at tags
  rw [next_eq stream, next_eq other, ← opened]
  generalize Reading.tag?.runOn stream.source = here at tags ⊢
  generalize Reading.tag?.runOn other.source = there at tags ⊢
  obtain ⟨result, source⟩ := here
  obtain ⟨result', source'⟩ := there
  obtain ⟨rfl, left⟩ := Prod.mk.inj tags
  match result with
  | .error failure => exact ⟨rfl, left, rfl⟩
  | .ok none => exact ⟨rfl, left, rfl⟩
  | .ok (some tag) =>
    simp only
    split
    · exact ⟨rfl, left, rfl⟩
    · split
      · exact ⟨rfl, left, rfl⟩
      · have bodies := Reading.hereditary_uniform.body tag source source' left
        obtain ⟨same, rest⟩ := Prod.mk.inj bodies
        exact ⟨congrArg (Except.map some) same, rest, rfl⟩

theorem calls (alike : Alike stream other) (count : Nat) :
    stream.calls count = other.calls count := by
  induction count generalizing stream other with
  | zero => rfl
  | succ count ih =>
    obtain ⟨answer, after⟩ := alike.next
    have taken : stream.next.2.source.consumed = other.next.2.source.consumed :=
      congrArg Supply.consumed after.supply
    rw [calls_succ, calls_succ, answer, taken, ih after]

end Alike

/-- **Fragmentation does not matter.**  Two transports for the same octets and with the same
fault may divide and interrupt their deliveries as they like: any number of calls, those after
a failure included, give the same answers, and take the same number of octets each. -/
theorem calls_eq_of_schedules (bytes : Bytes) (fault : Option (Nat × Failure))
    (schedule other : Schedule) (count : Nat) :
    (start (.start bytes fault schedule)).calls count =
      (start (.start bytes fault other)).calls count := by
  have alike : Alike (start (.start bytes fault schedule)) (start (.start bytes fault other)) :=
    ⟨rfl, rfl⟩
  exact alike.calls count

end RecordStream
end CoverageLink
