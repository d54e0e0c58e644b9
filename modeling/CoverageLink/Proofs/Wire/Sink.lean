import CoverageLink.Wire.Sink

/-!
# What a transport has taken

A sink takes what it is offered in portions of its own choosing, until its capacity is
reached.  Whoever writes a whole string is told whether all of it was taken, and a string
that was not is the last one of which anything was.

## 1.  One string

`Sink.Grown` says what a sink has become by taking some octets.  `writeAll_cases` is all
that a caller can know about `writeAll`: everything was taken, or a part was and the sink
turns writes away from then on.

## 2.  Many strings

`Sink.Took` compares what the sink holds with all that it was offered: it holds a prefix,
and a proper one only if it is full.  A full sink stays full and takes nothing, which is
why the law survives any number of failed writes (`Took.writeAll`).  For a sink that was
empty in the beginning the prefix is known exactly: it is as long as the capacity allows
(`Took.bytes_eq`).  Without a capacity nothing is ever turned away (`writePieces_of_unlimited`).
-/

namespace CoverageLink
namespace Wire
namespace Sink

/-! ## 1.  One string -/

/-- A sink that took these octets and changed in nothing but the number of its writes. -/
structure Grown (sink : Sink) (taken : Bytes) (after : Sink) : Prop where
  bytes : after.bytes = sink.bytes ++ taken
  count : after.count = sink.count + taken.length
  capacity : after.capacity = sink.capacity
  flushes : after.flushes = sink.flushes
  flushFault : after.flushFault = sink.flushFault

namespace Grown

variable {sink middle after : Sink} {taken more : Bytes}

theorem refl (sink : Sink) : Grown sink [] sink :=
  ⟨(List.append_nil _).symm, rfl, rfl, rfl, rfl⟩

theorem take (sink : Sink) (taken : Bytes) : Grown sink taken (sink.take taken) :=
  ⟨bytes_take sink taken, rfl, rfl, rfl, rfl⟩

theorem trans (h : Grown sink taken middle) (h' : Grown middle more after) :
    Grown sink (taken ++ more) after where
  bytes := by rw [h'.bytes, h.bytes, List.append_assoc]
  count := by rw [h'.count, h.count, List.length_append, Nat.add_assoc]
  capacity := h'.capacity.trans h.capacity
  flushes := h'.flushes.trans h.flushes
  flushFault := h'.flushFault.trans h.flushFault

end Grown

/-- **Writing a string.**  All of it is taken, or a part of it, and then the sink is full. -/
theorem writeAll_cases (sink : Sink) (bytes : Bytes) :
    ((sink.writeAll bytes).1 = .ok () ∧ Grown sink bytes (sink.writeAll bytes).2) ∨
      ∃ taken left refusal, left ≠ [] ∧ bytes = taken ++ left ∧
        (sink.writeAll bytes).1 = .error refusal.failure ∧
        Grown sink taken (sink.writeAll bytes).2 ∧
        (sink.writeAll bytes).2.refusal? = some refusal := by
  fun_induction writeAll sink bytes with
  | case1 sink => exact .inl ⟨rfl, .refl sink⟩
  | case2 sink first others refusal full =>
    exact .inr ⟨[], first :: others, refusal, List.cons_ne_nil _ _, rfl, rfl,
      ⟨(List.append_nil _).symm, rfl, rfl, rfl, rfl⟩, full⟩
  | case3 sink first others room parts ih =>
    have split : parts.1 ++ parts.2 = first :: others := sink.divide_append (first :: others)
    have begun := Grown.take sink parts.1
    rcases ih with ⟨ok, grown⟩ | ⟨taken, left, refusal, some_left, rest, failed, grown, full⟩
    · have whole := begun.trans grown
      rw [split] at whole
      exact .inl ⟨ok, whole⟩
    · refine .inr ⟨parts.1 ++ taken, left, refusal, some_left, ?_, failed, begun.trans grown, full⟩
      rw [List.append_assoc, ← rest, split]

/-- A full sink takes nothing. -/
theorem writeAll_of_refusal? {sink : Sink} {refusal : Refusal} (full : sink.refusal? = some refusal)
    (bytes : Bytes) : Grown sink [] (sink.writeAll bytes).2 := by
  rw [writeAll.eq_def]
  rcases bytes with _ | ⟨first, others⟩
  · exact .refl sink
  · simp only
    split
    · exact ⟨(List.append_nil _).symm, rfl, rfl, rfl, rfl⟩
    · rename_i room
      cases full.symm.trans room

/-- A sink that was shut turns writes away. -/
theorem refusal?_shut (sink : Sink) :
    sink.shut.refusal? = some (.fails (.host .brokenPipe)) :=
  if_pos (Nat.le_refl sink.count)

/-! ## 2.  Many strings -/

/-- A write never goes beyond the capacity. -/
theorem length_divide_le {sink : Sink} {limit : Nat} {refusal : Refusal}
    (h : sink.capacity = some (limit, refusal)) (bytes : Bytes) :
    (sink.divide bytes).1.length ≤ limit - sink.count := by
  unfold divide room
  rw [h]
  rcases sink.most sink.writes with _ | most
  · exact List.length_take_le _ _
  · exact Nat.le_trans (List.length_take_le _ _) (Nat.min_le_right _ _)

theorem count_writeAll_le {sink : Sink} {limit : Nat} {refusal : Refusal}
    (h : sink.capacity = some (limit, refusal)) (room : sink.count ≤ limit) (bytes : Bytes) :
    (sink.writeAll bytes).2.count ≤ limit := by
  fun_induction writeAll sink bytes with
  | case1 sink => exact room
  | case2 sink first others refused full => exact room
  | case3 sink first others open_ parts ih =>
    refine ih h ?_
    have : parts.1.length ≤ limit - sink.count := length_divide_le h (first :: others)
    show sink.count + parts.1.length ≤ limit
    omega

/-- What is taken in all of these octets, if they are offered to a new sink. -/
def admits (sink : Sink) (bytes : Bytes) : Bytes :=
  match sink.capacity with
  | none => bytes
  | some (limit, _) => bytes.take limit

/-- What the sink holds of all that it was offered. -/
structure Took (sink : Sink) (offered : Bytes) : Prop where
  begun : sink.bytes <+: offered
  /-- Something is missing only if the sink is full. -/
  full : sink.bytes ≠ offered → ∃ refusal, sink.refusal? = some refusal
  counted : sink.count = sink.bytes.length
  within : ∀ limit refusal, sink.capacity = some (limit, refusal) → sink.count ≤ limit

theorem refusal?_eq_some {sink : Sink} {refusal : Refusal} (h : sink.refusal? = some refusal) :
    ∃ limit, sink.capacity = some (limit, refusal) ∧ limit ≤ sink.count := by
  obtain ⟨⟨limit, other⟩, capacity, refused⟩ := Option.bind_eq_some_iff.mp h
  simp only at refused
  by_cases reached : limit ≤ sink.count
  · rw [if_pos reached] at refused
    cases refused
    exact ⟨limit, capacity, reached⟩
  · rw [if_neg reached] at refused
    cases refused

namespace Grown

variable {sink after : Sink} {taken : Bytes}

/-- A sink that was full and took nothing is full. -/
theorem refusal?_of_nil (h : Grown sink [] after) : after.refusal? = sink.refusal? := by
  unfold refusal?
  rw [h.capacity, h.count, List.length_nil, Nat.add_zero]

end Grown

namespace Took

variable {sink : Sink} {offered : Bytes}

/-- **What was offered before and is offered now.** -/
theorem writeAll (h : Took sink offered) (bytes : Bytes) :
    Took (sink.writeAll bytes).2 (offered ++ bytes) := by
  have counted {taken : Bytes} (grown : Grown sink taken (sink.writeAll bytes).2) :
      (sink.writeAll bytes).2.count = (sink.writeAll bytes).2.bytes.length := by
    rw [grown.count, grown.bytes, List.length_append, h.counted]
  have within {taken : Bytes} (grown : Grown sink taken (sink.writeAll bytes).2) (limit : Nat)
      (refusal : Refusal) (capacity : (sink.writeAll bytes).2.capacity = some (limit, refusal)) :
      (sink.writeAll bytes).2.count ≤ limit := by
    rw [grown.capacity] at capacity
    exact count_writeAll_le capacity (h.within limit refusal capacity) bytes
  by_cases whole : sink.bytes = offered
  · rcases sink.writeAll_cases bytes with
      ⟨-, grown⟩ | ⟨taken, left, refusal, -, split, -, grown, full⟩
    · have all : (sink.writeAll bytes).2.bytes = offered ++ bytes := by rw [grown.bytes, whole]
      exact ⟨⟨[], by rw [all, List.append_nil]⟩, fun missing => absurd all missing,
        counted grown, within grown⟩
    · refine ⟨⟨left, ?_⟩, fun _ => ⟨refusal, full⟩, counted grown, within grown⟩
      rw [grown.bytes, whole, split, List.append_assoc]
  · obtain ⟨refusal, full⟩ := h.full whole
    have grown := writeAll_of_refusal? full bytes
    refine ⟨?_, fun _ => ⟨refusal, grown.refusal?_of_nil.trans full⟩, counted grown, within grown⟩
    rw [grown.bytes, List.append_nil]
    exact h.begun.trans (List.prefix_append offered bytes)

/-- **How much a sink holds** is decided by its capacity alone. -/
theorem bytes_eq (h : Took sink offered) : sink.bytes = sink.admits offered := by
  unfold admits
  by_cases whole : sink.bytes = offered
  · rcases capacity : sink.capacity with _ | ⟨limit, refusal⟩
    · exact whole
    · have := h.within limit refusal capacity
      rw [h.counted, whole] at this
      simp only
      rw [whole, List.take_of_length_le this]
  · obtain ⟨refusal, full⟩ := h.full whole
    obtain ⟨limit, capacity, reached⟩ := refusal?_eq_some full
    have within := h.within limit refusal capacity
    have length : sink.bytes.length = limit := by
      rw [← h.counted]
      exact Nat.le_antisymm within reached
    rw [capacity]
    simp only
    rw [← length]
    exact List.prefix_iff_eq_take.mp h.begun

end Took

/-- **A sink without a limit takes every string**, though not at once. -/
theorem writeAll_of_unlimited {sink : Sink} (free : sink.capacity = none) (bytes : Bytes) :
    (sink.writeAll bytes).1 = .ok () ∧ Grown sink bytes (sink.writeAll bytes).2 := by
  rcases sink.writeAll_cases bytes with written | ⟨taken, left, refusal, -, -, -, grown, full⟩
  · exact written
  · obtain ⟨limit, capacity, -⟩ := refusal?_eq_some full
    cases (grown.capacity.trans free).symm.trans capacity

theorem writePieces_of_unlimited {sink : Sink} (free : sink.capacity = none)
    (pieces : List Bytes) :
    (sink.writePieces pieces).1 = .ok () ∧
      Grown sink pieces.flatten (sink.writePieces pieces).2 := by
  induction pieces generalizing sink with
  | nil => exact ⟨rfl, .refl sink⟩
  | cons piece pieces ih =>
    obtain ⟨written, grown⟩ := writeAll_of_unlimited free piece
    rw [writePieces]
    generalize sink.writeAll piece = call at written grown
    obtain ⟨result, after⟩ := call
    cases written
    obtain ⟨all, further⟩ := ih (grown.capacity.trans free)
    exact ⟨all, grown.trans further⟩

/-- Whether the flush of this number, counted from one, succeeds. -/
def Passes (sink : Sink) (number : Nat) : Prop :=
  ∀ first failure, sink.flushFault = some (first, failure) → number < first

theorem passes_congr {sink other : Sink} (same : other.flushFault = sink.flushFault)
    (number : Nat) : other.Passes number ↔ sink.Passes number := by
  unfold Passes
  rw [same]

/-- A flush is counted, and succeeds until flushes begin to fail. -/
theorem flush_cases (sink : Sink) :
    sink.flush.2 = { sink with flushes := sink.flushes + 1 } ∧
      ((sink.flush.1 = .ok () ∧ sink.Passes (sink.flushes + 1)) ∨
        ((∃ failure, sink.flush.1 = .error failure) ∧ ¬ sink.Passes (sink.flushes + 1))) := by
  unfold flush Passes
  rcases fault : sink.flushFault with _ | ⟨first, failure⟩
  · exact ⟨rfl, .inl ⟨rfl, fun _ _ => nofun⟩⟩
  · simp only
    split
    · rename_i reached
      refine ⟨rfl, .inr ⟨⟨failure, rfl⟩, fun passes => ?_⟩⟩
      exact absurd (passes first failure rfl) (Nat.not_lt.mpr reached)
    · rename_i before
      refine ⟨rfl, .inl ⟨rfl, fun other _ same => ?_⟩⟩
      cases same
      exact Nat.lt_of_not_le before

end Sink
end Wire
end CoverageLink
