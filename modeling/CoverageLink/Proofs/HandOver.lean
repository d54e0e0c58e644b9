import CoverageLink.Failure
import CoverageLink.Probes

/-!
# Handing things over, one after the other

Files go to a receiver, records to a stream, and what reports go to is up to whoever asks for
them.  All of them are handed over one after the other until one is not taken, and what these
passages have in common is stated here once: how they are put together, and what may be left out.
-/

namespace CoverageLink

variable {α β σ : Type}

/-- Hands things to a receiver, one after the other, until it fails. -/
def handOver (receive : α → σ → Except Failure Unit × σ) : List α → σ → Except Failure Unit × σ
  | [], state => (.ok (), state)
  | item :: items, state =>
    match receive item state with
    | (.ok (), state) => handOver receive items state
    | (.error failure, state) => (.error failure, state)

/-- What comes later is handed over if all that comes earlier was taken. -/
theorem handOver_append (receive : α → σ → Except Failure Unit × σ) (first second : List α)
    (state : σ) :
    handOver receive (first ++ second) state =
      match handOver receive first state with
      | (.ok (), state) => handOver receive second state
      | (.error failure, state) => (.error failure, state) := by
  induction first generalizing state with
  | nil => rfl
  | cons item items ih =>
    simp only [List.cons_append, handOver]
    rcases receive item state with ⟨_ | _, state⟩
    · rfl
    · exact ih state

theorem handOver_singleton (receive : α → σ → Except Failure Unit × σ) (item : α) (state : σ) :
    handOver receive [item] state = receive item state := by
  rw [handOver]
  rcases receive item state with ⟨_ | _, state⟩ <;> rfl

theorem handOver_map (receive : α → σ → Except Failure Unit × σ) (f : β → α) (items : List β)
    (state : σ) :
    handOver receive (items.map f) state = handOver (fun item => receive (f item)) items state := by
  induction items generalizing state with
  | nil => rfl
  | cons item items ih =>
    simp only [List.map_cons, handOver]
    rcases receive (f item) state with ⟨_ | _, state⟩
    · rfl
    · exact ih state

/-- **What every thing that is taken keeps holds at the end**, and if something is not taken, what it
leaves is left. -/
theorem handOver_induction (receive : α → σ → Except Failure Unit × σ) (items : List α)
    (kept : List α → σ → Prop) (left : σ → Prop) {state : σ} (start : kept [] state)
    (taken : ∀ done item rest state after, items = done ++ item :: rest → kept done state →
      receive item state = (.ok (), after) → kept (done ++ [item]) after)
    (refused : ∀ done item rest state failure after, items = done ++ item :: rest →
      kept done state → receive item state = (.error failure, after) → left after) :
    (∃ after, handOver receive items state = (.ok (), after) ∧ kept items after) ∨
      ∃ failure after, handOver receive items state = (.error failure, after) ∧ left after := by
  have general (done rest : List α) (state : σ) (split : items = done ++ rest)
      (holds : kept done state) :
      (∃ after, handOver receive rest state = (.ok (), after) ∧ kept items after) ∨
        ∃ failure after, handOver receive rest state = (.error failure, after) ∧ left after := by
    induction rest generalizing done state with
    | nil =>
      rw [List.append_nil] at split
      exact .inl ⟨state, rfl, split ▸ holds⟩
    | cons item rest ih =>
      rw [handOver]
      rcases received : receive item state with ⟨failure | _, after⟩
      · exact .inr ⟨failure, after, rfl,
          refused done item rest state failure after split holds received⟩
      · refine ih (done ++ [item]) after ?_ (taken done item rest state after split holds received)
        rw [split, List.append_assoc, List.singleton_append]
  exact general [] items state rfl start

/-- **The end at a failure.**  All that comes before the thing that is not taken was taken, and nothing
comes after it. -/
theorem handOver_eq_error_iff {receive : α → σ → Except Failure Unit × σ} {items : List α}
    {state after : σ} {failure : Failure} :
    handOver receive items state = (.error failure, after) ↔
      ∃ done item rest middle, items = done ++ item :: rest ∧
        handOver receive done state = (.ok (), middle) ∧
        receive item middle = (.error failure, after) := by
  constructor
  · intro failed
    induction items generalizing state with
    | nil => cases failed
    | cons item items ih =>
      rw [handOver] at failed
      rcases received : receive item state with ⟨other | _, next⟩
      · rw [received] at failed
        exact ⟨[], item, items, state, rfl, rfl, received.trans failed⟩
      · rw [received] at failed
        obtain ⟨done, last, rest, middle, split, taken, refused⟩ := ih failed
        refine ⟨item :: done, last, rest, middle, by rw [split, List.cons_append], ?_, refused⟩
        rw [handOver, received]
        exact taken
  · rintro ⟨done, item, rest, middle, rfl, taken, refused⟩
    rw [handOver_append, taken]
    show handOver receive (item :: rest) middle = _
    rw [handOver, refused]

/-- Receivers that do the same with these things. -/
theorem handOver_congr {receive other : α → σ → Except Failure Unit × σ} {items : List α}
    (same : ∀ item ∈ items, receive item = other item) (state : σ) :
    handOver receive items state = handOver other items state := by
  induction items generalizing state with
  | nil => rfl
  | cons item items ih =>
    rw [handOver, handOver, same item List.mem_cons_self]
    rcases other item state with ⟨_ | _, state⟩
    · rfl
    · exact ih (fun later hlater => same later (List.mem_cons_of_mem _ hlater)) state

/-- What a receiver takes without doing anything can be left out. -/
theorem handOver_filter {receive : α → σ → Except Failure Unit × σ} {wanted : α → Bool}
    (skips : ∀ item, wanted item = false → ∀ state, receive item state = (.ok (), state))
    (items : List α) (state : σ) :
    handOver receive items state = handOver receive (items.filter wanted) state := by
  induction items generalizing state with
  | nil => rfl
  | cons item items ih =>
    rw [List.filter_cons, handOver]
    cases asked : wanted item with
    | false =>
      rw [skips item asked]
      exact ih state
    | true =>
      rw [if_pos rfl, handOver]
      rcases receive item state with ⟨_ | _, state⟩
      · rfl
      · exact ih state

/-- A receiver that never fails takes everything. -/
theorem handOver_of_unfailing (take : α → σ → σ) (items : List α) (state : σ) :
    handOver (fun item state => (.ok (), take item state)) items state =
      (.ok (), items.foldl (fun state item => take item state) state) := by
  induction items generalizing state with
  | nil => rfl
  | cons item items ih => exact ih _

/-- The records of a report are handed over. -/
theorem Probes.deliver_eq_handOver (receive : Record → σ → Except Failure Unit × σ)
    (records : List Record) (state : σ) :
    deliver receive records state = handOver receive records state := by
  induction records generalizing state with
  | nil => rfl
  | cons record records ih =>
    rw [deliver, handOver]
    rcases receive record state with ⟨_ | _, state⟩
    · rfl
    · exact ih state

/-- A receiver that does not fail is given the whole report, whatever it does with it. -/
theorem Probes.collect_of_unfailing (probes : Probes) (resets : Bool) (visit : Record → σ → σ)
    (state : σ) :
    probes.collect resets (fun record state => (.ok (), visit record state)) state =
      (.ok (), (probes.take resets).2,
        (probes.take resets).1.records.foldl (fun state record => visit record state) state) := by
  rcases taken : probes.take resets with ⟨report, left⟩
  simp only [Probes.collect, taken, Probes.deliver_eq_handOver, handOver_of_unfailing]

end CoverageLink
