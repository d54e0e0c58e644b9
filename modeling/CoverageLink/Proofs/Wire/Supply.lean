import CoverageLink.Wire.Field

/-!
# What a transport supplies

A source carries a schedule, and no reader should be able to tell which.  This file says
what a reader *can* tell: the octets still to come, how many were handed out, and where
and how reads begin to fail.  That is the `Supply` of a source, and everything a reader
does is a function of it.

## 1.  The primitives

A delivery is unfolded once (`Source.readThrough_eq`): the interrupted reads before it
leave no trace.  `Supply.take` then says in one step what a whole run of deliveries does,
and `Source.gatherOnto_eq_take` proves it of every schedule.  The induction is on the
octets still wanted; what carries it is `Supply.take_add`, which cuts a request in two
wherever a delivery happened to end.

## 2.  Readers

`Reading.Uniform` is the property of a reader to be such a function: two sources with the
same supply give the same result and are left with the same supply.  It holds of the
primitives by section 1 and passes through sequencing.
-/

namespace CoverageLink
namespace Wire

/-! ## 1.  The primitives -/

/-- What a source has to give, however it divides it. -/
structure Supply where
  /-- The octets not handed out yet. -/
  unread : Bytes
  /-- The number of octets handed out. -/
  consumed : Nat
  /-- The offset from which on reads fail, and how. -/
  fault : Option (Nat × Failure)

/-- The supply of a source. -/
def Source.supply (source : Source) : Supply := ⟨source.unread, source.consumed, source.fault⟩

namespace Supply

/-- The supply after so many octets were handed out. -/
def skip (supply : Supply) (count : Nat) : Supply :=
  { supply with unread := supply.unread.drop count, consumed := supply.consumed + count }

/-- A request that meets no fault: as many octets as there are, up to `want`. -/
def give (supply : Supply) (want : Nat) : Except Failure Bytes × Supply :=
  (.ok (supply.unread.take want), supply.skip (supply.unread.take want).length)

/-- A request for `want` octets.  It fails when it goes beyond the offset of the fault, unless
the stream ends before that offset; the octets up to the offset are lost then. -/
def take (supply : Supply) (want : Nat) : Except Failure Bytes × Supply :=
  match supply.fault with
  | none => supply.give want
  | some (offset, failure) =>
    if want ≤ offset - supply.consumed ∨ supply.unread.length < offset - supply.consumed then
      supply.give want
    else (.error failure, supply.skip (offset - supply.consumed))

@[simp] theorem skip_zero (supply : Supply) : supply.skip 0 = supply := rfl

theorem skip_skip (supply : Supply) (first second : Nat) :
    (supply.skip first).skip second = supply.skip (first + second) := by
  simp only [skip, List.drop_drop, Nat.add_assoc]

theorem take_of_fault_none {supply : Supply} (clear : supply.fault = none) (want : Nat) :
    supply.take want = supply.give want := by
  rw [take, clear]

@[simp] theorem take_zero (supply : Supply) : supply.take 0 = (.ok [], supply) := by
  unfold take
  split
  · rfl
  · rw [if_pos (Or.inl (Nat.zero_le _))]
    rfl

/-- Nothing comes of an exhausted supply, unless its fault has been reached. -/
theorem take_nil {supply : Supply} (ended : supply.unread = [])
    (clear : ∀ offset failure, supply.fault = some (offset, failure) →
      supply.consumed < offset) (want : Nat) :
    supply.take want = (.ok [], supply) := by
  have none_given : supply.give want = (.ok [], supply) := by
    rw [give, ended, List.take_nil, List.length_nil, skip_zero]
  unfold take
  split
  · exact none_given
  · rename_i offset failure h
    have := clear offset failure h
    rw [if_pos (Or.inr (by rw [ended, List.length_nil]; omega)), none_given]

/-- **A request cut in two.**  The first part must be there, and before the fault. -/
theorem take_add (supply : Supply) {first : Nat} (there : first ≤ supply.unread.length)
    (clear : ∀ offset failure, supply.fault = some (offset, failure) →
      supply.consumed + first ≤ offset) (second : Nat) :
    supply.take (first + second) =
      (((supply.skip first).take second).1.map (supply.unread.take first ++ ·),
        ((supply.skip first).take second).2) := by
  have given : supply.give (first + second) =
      (((supply.skip first).give second).1.map (supply.unread.take first ++ ·),
        ((supply.skip first).give second).2) := by
    rw [give, give, skip_skip, List.take_add, List.length_append, List.length_take,
      Nat.min_eq_left there]
    rfl
  unfold take
  rw [show (supply.skip first).fault = supply.fault from rfl,
    show (supply.skip first).consumed = supply.consumed + first from rfl,
    show (supply.skip first).unread = supply.unread.drop first from rfl, List.length_drop]
  split
  · exact given
  · rename_i offset failure h
    have := clear offset failure h
    by_cases reached : first + second ≤ offset - supply.consumed ∨
        supply.unread.length < offset - supply.consumed
    · rw [if_pos reached, if_pos (by omega), given]
    · rw [if_neg reached, if_neg (by omega), skip_skip,
        show first + (offset - (supply.consumed + first)) = offset - supply.consumed by omega]
      rfl

end Supply

namespace Source

theorem readThrough_of_interrupted {source rest : Source} {want : Nat}
    (h : source.read want = (.interrupted, rest)) :
    source.readThrough want = rest.readThrough want := by
  rw [readThrough]
  split <;> rename_i answer <;> cases h.symm.trans answer
  rfl

theorem readThrough_of_failed {source rest : Source} {want : Nat} {failure : Failure}
    (h : source.read want = (.failed failure, rest)) :
    source.readThrough want = (.error failure, rest) := by
  rw [readThrough]
  split <;> rename_i answer <;> cases h.symm.trans answer
  rfl

theorem readThrough_of_given {source rest : Source} {want : Nat} {bytes : Bytes}
    (h : source.read want = (.given bytes, rest)) :
    source.readThrough want = (.ok bytes, rest) := by
  rw [readThrough]
  split <;> rename_i answer <;> cases h.symm.trans answer
  rfl

/-- **One delivery.**  The interrupted reads before it make no difference. -/
theorem readThrough_eq (source : Source) (want : Nat) :
    source.readThrough want =
      match source.failing? with
      | some failure => (.error failure, source.advance 0)
      | none =>
        (.ok (source.unread.take (source.portion want)),
          source.advance (source.unread.take (source.portion want)).length) := by
  generalize h : source.pending = pending
  induction pending generalizing source with
  | zero =>
    rcases failing : source.failing? with _ | failure
    · refine readThrough_of_given ?_
      rw [read, h]
      simp only [failing]
    · refine readThrough_of_failed ?_
      rw [read, h]
      simp only [failing]
  | succ pending ih =>
    have interrupted : source.read want = (.interrupted, { source with pending }) := by
      rw [read, h]
    rw [readThrough_of_interrupted interrupted]
    exact ih { source with pending } rfl

@[simp] theorem supply_advance (source : Source) (count : Nat) :
    (source.advance count).supply = source.supply.skip count := rfl

theorem failing?_eq_some {source : Source} {failure : Failure}
    (h : source.failing? = some failure) :
    ∃ offset, source.fault = some (offset, failure) ∧ offset ≤ source.consumed := by
  obtain ⟨⟨offset, other⟩, fault, reported⟩ := Option.bind_eq_some_iff.mp h
  simp only at reported
  by_cases reached : offset ≤ source.consumed
  · rw [if_pos reached] at reported
    cases reported
    exact ⟨offset, fault, reached⟩
  · rw [if_neg reached] at reported
    cases reported

theorem lt_of_failing?_eq_none {source : Source} (h : source.failing? = none) (offset : Nat)
    (failure : Failure) (fault : source.fault = some (offset, failure)) :
    source.consumed < offset := by
  rcases Nat.lt_or_ge source.consumed offset with before | reached
  · exact before
  · rw [failing?, fault, Option.bind_some] at h
    simp only [if_pos reached] at h
    cases h

theorem portion_le (source : Source) (want : Nat) : source.portion want ≤ want := by
  unfold portion
  rcases source.schedule.most source.deliveries with _ | most <;>
    rcases source.fault with _ | ⟨offset, failure⟩ <;> simp only <;> omega

theorem portion_le_offset {source : Source} {offset : Nat} {failure : Failure}
    (fault : source.fault = some (offset, failure)) (want : Nat) :
    source.portion want ≤ offset - source.consumed := by
  unfold portion
  rw [fault]
  exact Nat.min_le_right _ _

/-- A delivery that does not fail may give something. -/
theorem portion_pos {source : Source} (h : source.failing? = none) {want : Nat}
    (wanted : 0 < want) : 0 < source.portion want := by
  have clear := lt_of_failing?_eq_none h
  unfold portion
  rcases fault : source.fault with _ | ⟨offset, failure⟩
  · rcases source.schedule.most source.deliveries with _ | most <;> simp only <;> omega
  · have := clear offset failure fault
    rcases source.schedule.most source.deliveries with _ | most <;> simp only <;> omega

/-- What one delivery does to a request: it fails with it, it ends it, or it begins it. -/
inductive Delivers (source : Source) (want : Nat) : Except Failure Bytes × Source → Prop
  | failed (failure : Failure) (rest : Source)
      (h : source.supply.take want = (.error failure, rest.supply)) :
      Delivers source want (.error failure, rest)
  | ended (rest : Source) (h : source.supply.take want = (.ok [], rest.supply)) :
      Delivers source want (.ok [], rest)
  | given (first : UInt8) (others : Bytes) (rest : Source) (less : others.length < want)
      (h : source.supply.take want =
        ((rest.supply.take (want - (others.length + 1))).1.map (first :: others ++ ·),
          (rest.supply.take (want - (others.length + 1))).2)) :
      Delivers source want (.ok (first :: others), rest)

theorem delivers_of_failing? {source : Source} {failure : Failure}
    (failing : source.failing? = some failure) {want : Nat} (wanted : 0 < want) :
    Delivers source want (.error failure, source.advance 0) := by
  obtain ⟨offset, fault, reached⟩ := failing?_eq_some failing
  refine .failed failure _ ?_
  have at_fault : offset - source.supply.consumed = 0 := Nat.sub_eq_zero_of_le reached
  rw [Supply.take, show source.supply.fault = some (offset, failure) from fault]
  simp only
  rw [at_fault, if_neg (by omega), supply_advance]

/-- **One delivery.**  It ends somewhere inside the request, and what is left of the request is
a request again. -/
theorem delivers_readThrough (source : Source) {want : Nat} (wanted : 0 < want) :
    Delivers source want (source.readThrough want) := by
  rw [readThrough_eq]
  rcases failing : source.failing? with _ | failure
  · have clear := lt_of_failing?_eq_none failing
    have le_want := source.portion_le want
    simp only
    rcases given : source.unread.take (source.portion want) with _ | ⟨first, others⟩
    · have ended : source.unread = [] := by
        rcases List.take_eq_nil_iff.mp given with h | h
        · exact absurd h (Nat.ne_of_gt (portion_pos failing wanted))
        · exact h
      exact .ended _ (Supply.take_nil ended clear want)
    · have length_given := congrArg List.length given
      rw [List.length_take, List.length_cons] at length_given
      have before (offset : Nat) (failure : Failure)
          (fault : source.fault = some (offset, failure)) :
          source.consumed + (others.length + 1) ≤ offset := by
        have := portion_le_offset fault want
        have := clear offset failure fault
        omega
      have delivered : source.supply.unread.take (others.length + 1) = first :: others := by
        rw [← given, ← length_given]
        exact List.take_eq_take_min.symm
      have there : others.length + 1 ≤ source.unread.length := by omega
      have cut := source.supply.take_add there before (want - (others.length + 1))
      rw [Nat.add_sub_cancel' (by omega), delivered] at cut
      exact .given first others _ (by omega) cut
  · exact delivers_of_failing? failing wanted

/-- **Every schedule gathers the same.**  Whatever the deliveries, together they do what one
request to the supply does. -/
theorem gatherOnto_eq_take (source : Source) (taken : Bytes) (want : Nat) :
    (source.gatherOnto taken want).1 =
        (source.supply.take want).1.map (taken.reverse ++ ·) ∧
      (source.gatherOnto taken want).2.supply = (source.supply.take want).2 := by
  induction want using Nat.strongRecOn generalizing source taken with
  | ind want ih =>
    match want with
    | 0 =>
      rw [gatherOnto, Supply.take_zero]
      exact ⟨by simp [Except.map], rfl⟩
    | less + 1 =>
      rw [gatherOnto]
      have delivery := source.delivers_readThrough (Nat.succ_pos less)
      generalize source.readThrough (less + 1) = answer at delivery ⊢
      cases delivery with
      | failed failure rest h =>
        rw [h]
        exact ⟨rfl, rfl⟩
      | ended rest h =>
        rw [h]
        exact ⟨by simp [Except.map], rfl⟩
      | given first others rest fits h =>
        rw [show less + 1 - (others.length + 1) = less - others.length by omega] at h
        obtain ⟨result, left⟩ :=
          ih (less - others.length) (by omega) rest ((first :: others).reverseAux taken)
        simp only
        rw [h, result, left, List.reverseAux_eq, List.reverse_append, List.reverse_reverse]
        refine ⟨?_, rfl⟩
        rcases (rest.supply.take (less - others.length)).1 with failure | bytes
        · rfl
        · simp [Except.map]

theorem gather_eq_take (source : Source) (want : Nat) :
    (source.gather want).1 = (source.supply.take want).1 ∧
      (source.gather want).2.supply = (source.supply.take want).2 := by
  obtain ⟨result, left⟩ := source.gatherOnto_eq_take [] want
  refine ⟨?_, left⟩
  rw [gather, result]
  rcases (source.supply.take want).1 with failure | bytes <;> rfl

/-- One octet is gathered in one delivery. -/
theorem next?_eq_gather (source : Source) :
    source.next? = ((source.gather 1).1.map List.head?, (source.gather 1).2) := by
  rw [next?, gather, gatherOnto]
  have delivery := source.delivers_readThrough Nat.one_pos
  generalize source.readThrough 1 = answer at delivery ⊢
  cases delivery with
  | failed failure rest h => rfl
  | ended rest h => rfl
  | given first others rest less h =>
    have single : others = [] := List.eq_nil_of_length_eq_zero (by omega)
    rw [single]
    simp [gatherOnto, Except.map]

end Source

/-! ## 2.  Readers -/

namespace Supply

/-- A request that may not come up short; `short` is the failure when only so many octets came. -/
def takeAll (supply : Supply) (want : Nat) (short : Nat → Failure) :
    Except Failure Bytes × Supply :=
  match supply.take want with
  | (.error failure, left) => (.error failure, left)
  | (.ok bytes, left) =>
    if bytes.length < want then (.error (short bytes.length), left) else (.ok bytes, left)

end Supply

namespace Reading

variable {α β : Type}

/-- What a reader makes of a source: its result and the supply it leaves. -/
def outcome (reader : Reading α) (source : Source) : Except Failure α × Supply :=
  ((reader.runOn source).1, (reader.runOn source).2.supply)

/-- A reader whose outcome is a function of the supply. -/
def Uniform (reader : Reading α) : Prop :=
  ∀ source other : Source, source.supply = other.supply →
    reader.outcome source = reader.outcome other

theorem runOn_bind (reader : Reading α) (next : α → Reading β) (source : Source) :
    (reader >>= next).runOn source =
      match reader.runOn source with
      | (.ok value, rest) => (next value).runOn rest
      | (.error failure, rest) => (.error failure, rest) := by
  show (match reader source with | (result, rest) => ExceptT.bindCont next result rest) = _
  unfold runOn
  rcases reader source with ⟨failure | value, rest⟩ <;> rfl

@[simp] theorem outcome_pure (value : α) (source : Source) :
    (pure value : Reading α).outcome source = (.ok value, source.supply) := rfl

@[simp] theorem outcome_throw (failure : Failure) (source : Source) :
    (throw failure : Reading α).outcome source = (.error failure, source.supply) := rfl

theorem outcome_bind_ok {reader : Reading α} {source rest : Source} {value : α}
    (h : reader.runOn source = (.ok value, rest)) (next : α → Reading β) :
    (reader >>= next).outcome source = (next value).outcome rest := by
  unfold outcome
  rw [runOn_bind, h]

theorem outcome_bind_error {reader : Reading α} {source rest : Source} {failure : Failure}
    (h : reader.runOn source = (.error failure, rest)) (next : α → Reading β) :
    (reader >>= next).outcome source = (.error failure, rest.supply) := by
  unfold outcome
  rw [runOn_bind, h]

theorem outcome_tag? (source : Source) :
    tag?.outcome source =
      ((source.supply.take 1).1.map List.head?, (source.supply.take 1).2) := by
  obtain ⟨result, left⟩ := source.gather_eq_take 1
  show (source.next?.1, source.next?.2.supply) = _
  rw [source.next?_eq_gather, result, left]

theorem outcome_tag?_nil {source : Source} {consumed : Nat}
    (h : source.supply = ⟨[], consumed, none⟩) :
    tag?.outcome source = (.ok none, ⟨[], consumed, none⟩) := by
  rw [outcome_tag?, h, Supply.take_of_fault_none rfl]
  rfl

theorem outcome_tag?_cons {source : Source} {tag : UInt8} {rest : Bytes} {consumed : Nat}
    (h : source.supply = ⟨tag :: rest, consumed, none⟩) :
    tag?.outcome source = (.ok (some tag), ⟨rest, consumed + 1, none⟩) := by
  rw [outcome_tag?, h, Supply.take_of_fault_none rfl]
  rfl

theorem outcome_exactly (width : Nat) (source : Source) :
    (exactly width).outcome source = source.supply.takeAll width fun _ => .endOfInput := by
  obtain ⟨result, left⟩ := source.gather_eq_take width
  unfold outcome runOn exactly Supply.takeAll
  generalize source.gather width = gathered at result left
  generalize source.supply.take width = taken at result left
  rcases gathered with ⟨failure | bytes, rest⟩ <;> rcases taken with ⟨_, _⟩ <;>
    cases result <;> cases left
  · rfl
  · simp only
    split <;> rfl

theorem outcome_fully (length : Nat) (source : Source) :
    (fully length).outcome source =
      source.supply.takeAll length fun got => .cutShort got length := by
  obtain ⟨result, left⟩ := source.gather_eq_take length
  unfold outcome runOn fully Supply.takeAll
  generalize source.gather length = gathered at result left
  generalize source.supply.take length = taken at result left
  rcases gathered with ⟨failure | bytes, rest⟩ <;> rcases taken with ⟨_, _⟩ <;>
    cases result <;> cases left
  · rfl
  · simp only
    split <;> rfl

namespace Uniform

theorem of_outcome {reader : Reading α} (of_supply : Supply → Except Failure α × Supply)
    (h : ∀ source, reader.outcome source = of_supply source.supply) : reader.Uniform := by
  intro source other same
  rw [h source, h other, same]

theorem pure (value : α) : (Pure.pure value : Reading α).Uniform :=
  of_outcome _ (outcome_pure value)

theorem throw (failure : Failure) : (MonadExcept.throw failure : Reading α).Uniform :=
  of_outcome _ (outcome_throw failure)

/-- What follows a uniform reader starts from the same supply on both sides. -/
theorem bind {reader : Reading α} {next : α → Reading β} (h : reader.Uniform)
    (each : ∀ value, (next value).Uniform) : (reader >>= next).Uniform := by
  intro source other same
  have first := h source other same
  unfold outcome at first
  rcases here : reader.runOn source with ⟨failure | value, rest⟩ <;>
    rcases there : reader.runOn other with ⟨failure' | value', rest'⟩ <;>
    rw [here, there] at first <;> simp only [Prod.mk.injEq] at first <;>
    obtain ⟨result, left⟩ := first <;> cases result
  · rw [outcome_bind_error here, outcome_bind_error there, left]
  · rw [outcome_bind_ok here, outcome_bind_ok there]
    exact each value rest rest' left

theorem tag? : Reading.tag?.Uniform :=
  of_outcome (fun supply => ((supply.take 1).1.map List.head?, (supply.take 1).2)) outcome_tag?

theorem exactly (width : Nat) : (Reading.exactly width).Uniform :=
  of_outcome (fun supply => supply.takeAll width _) (outcome_exactly width)

theorem fully (length : Nat) : (Reading.fully length).Uniform :=
  of_outcome (fun supply => supply.takeAll length _) (outcome_fully length)

end Uniform
end Reading
end Wire
end CoverageLink
