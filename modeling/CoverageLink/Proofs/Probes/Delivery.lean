import CoverageLink.Link.RecordWriter
import CoverageLink.Proofs.Probes.History

/-!
# Dumps that are not delivered

A report is taken before any of it is delivered, and if the dump was asked to reset, the probes are
cleared at the moment the report is taken.  A receiver that fails comes too late: nothing is put
back.  So a dump that failed did no harm unless it was asked to reset, and if it was, then what it
had to report is gone.

## 1.  Programs with a receiver

A run is a history, as it is for a receiver that never fails, and the receiver has no say in what
becomes of the probes (`Reporting.usage_after`).  What it decides is whether a dump counts as
delivered (`Reporting.Delivers`).

## 2.  Where a passage is left

A probe that was passed is still set, or something has cleared it since, and what did so first is an
operation of the history (`exists_clears_of_not_passed`).  As long as it is set, a report shows it
(`shows_of_passed`).

## 3.  The account of a passage

`dump_accounts` is for every receiver and every history.
-/

namespace CoverageLink
namespace Probes

/-- A probe of a class is set in a report. -/
def Report.Shows (report : Report) (id : Int64) (index : Nat) : Prop :=
  ∃ data ∈ report.classes, data.id = id ∧ data.probes[index]? = some true

open Operation

/-! ## 1.  Programs with a receiver -/

/-- A program that has just started, and the receiver that its dumps go to. -/
structure Reporting (σ : Type) where
  session : String
  clock : WallClock
  receive : Record → σ → Except Failure Unit × σ
  /-- How the receiver begins. -/
  state : σ

namespace Reporting

variable {σ : Type} (program : Reporting σ)

/-- Carries out an operation; what a dump reports is delivered, as far as that is possible. -/
def carryOut : Operation → Usage × σ → Usage × σ
  | .collect resets, (usage, state) =>
    let (_, probes, state) := usage.probes.collect resets program.receive state
    ({ usage with probes }, state)
  | operation, (usage, state) => (operation.perform usage, state)

/-- The program and its receiver after a history. -/
def after (history : List Operation) : Usage × σ :=
  history.foldl (fun reached operation => program.carryOut operation reached)
    (.begun program.session program.clock, program.state)

/-- The dump that is made after a history. -/
def dump (history : List Operation) (resets : Bool) : Except Failure Unit × Probes × σ :=
  (program.after history).1.probes.collect resets program.receive (program.after history).2

/-- What that dump has to report. -/
def report (history : List Operation) (resets : Bool) : Report :=
  ((program.after history).1.probes.take resets).1

/-- The dump that is made after a history succeeds, and it reports that a probe was passed. -/
def Delivers (history : List Operation) (resets : Bool) (id : Int64) (index : Nat) : Prop :=
  (program.dump history resets).1 = .ok () ∧ (program.report history resets).Shows id index

/-- **The receiver has no say** in what becomes of the probes. -/
theorem usage_after (history : List Operation) :
    (program.after history).1 =
      performAll history (.begun program.session program.clock) := by
  have general (history : List Operation) (usage : Usage) (state : σ) :
      (history.foldl (fun reached operation => program.carryOut operation reached)
        (usage, state)).1 = performAll history usage := by
    induction history generalizing usage state with
    | nil => rfl
    | cons operation rest ih =>
      have step : (program.carryOut operation (usage, state)).1 = operation.perform usage := by
        cases operation <;> rfl
      rw [performAll, List.foldl_cons, List.foldl_cons, ← step]
      exact ih _ _
  exact general history _ _

end Reporting

/-! ## 2.  Where a passage is left -/

namespace Operation

variable {history before after : List Operation} {id : Int64} {index handle : Nat}

/-- What was passed through a handle is still passed unless something has cleared it since. -/
theorem exists_clears_of_not_passed (held : (handles before)[handle]? = some id)
    (gone : ¬ Passed (before ++ hit handle index :: after) id index) :
    ∃ between last rest, after = between ++ last :: rest ∧ last.clears = true ∧
      Passed (before ++ hit handle index :: between) id index := by
  rcases found : after.find? clears with _ | last
  · refine absurd ⟨before, handle, after, rfl, held, fun later member => ?_⟩ gone
    simpa using List.find?_eq_none.1 found later member
  · obtain ⟨clearing, between, rest, split, kept⟩ := List.find?_eq_some_iff_append.1 found
    refine ⟨between, last, rest, split, clearing, before, handle, between, rfl, held,
      fun later member => ?_⟩
    simpa using kept later member

/-- The first registration of a class stays. -/
theorem registration?_append {name : String} {count : Nat}
    (registered : registration? id before = some (name, count)) (rest : List Operation) :
    registration? id (before ++ rest) = some (name, count) := by
  rw [registration?, List.findSome?_append, ← registration?, registered, Option.some_or]

end Operation

variable {σ : Type} {program : Reporting σ} {history : List Operation} {id : Int64} {index : Nat}

/-- **What is passed is reported**, if the class has such a probe. -/
theorem Reporting.shows_of_passed {name : String} {count : Nat}
    (registered : registration? id history = some (name, count)) (inside : index < count)
    (passed : Passed history id index) (resets : Bool) :
    (program.report history resets).Shows id index := by
  have shows := (Tells.performAll program.session program.clock history).classes
  rw [← program.usage_after] at shows
  obtain ⟨entry, there, rfl⟩ := (shows.registered id).2 passed.mem_handles
  have first := Option.some.inj (registered.symm.trans (shows.first entry there))
  obtain ⟨rfl, rfl⟩ := Prod.mk.inj first
  exact ⟨entry.data, List.mem_map_of_mem there, rfl,
    (shows.passed entry there index).2 ⟨inside, passed⟩⟩

/-! ## 3.  The account of a passage -/

namespace Operation

/-- **What becomes of a passage when dumps may fail.**  A dump that fails leaves the probes and the
beginning of the session alone unless it was asked to reset; then it leaves them as a dump does that
succeeds.  So a dump that succeeds reports each passage, whatever failed before, with three
exceptions: an earlier dump has delivered it, it was reset, or a dump that was asked to reset took
it up and failed. -/
theorem dump_accounts :
    (∀ {σ : Type} (probes after : Probes) (resets : Bool)
      (receive : Record → σ → Except Failure Unit × σ) (state left : σ) (failure : Failure),
      probes.collect resets receive state = (.error failure, after, left) →
        after.session = probes.session ∧
        (resets = false → after.classes = probes.classes ∧ after.start = probes.start) ∧
        (resets = true → after.classes = probes.classes.map ProbedClass.cleared ∧
          after.start = (probes.take true).1.info.dump)) ∧
    ∀ {σ : Type} (program : Reporting σ) (history before after : List Operation) (resets : Bool)
      (handle index : Nat) (id : Int64) (name : String) (count : Nat),
      (program.dump history resets).1 = .ok () →
      history = before ++ hit handle index :: after →
      (handles before)[handle]? = some id → registration? id before = some (name, count) →
      index < count →
        program.Delivers history resets id index ∨
        ∃ between last rest, after = between ++ last :: rest ∧
          (last = reset ∨
            last = collect true ∧
              (program.Delivers (before ++ hit handle index :: between) true id index ∨
                ∃ failure, (program.dump (before ++ hit handle index :: between) true).1 =
                  .error failure)) := by
  constructor
  · intro σ probes after resets receive state left failure failed
    obtain rfl : (probes.take resets).2 = after :=
      congrArg (fun outcome => outcome.2.1) failed
    cases resets with
    | false => exact ⟨rfl, fun _ => ⟨rfl, rfl⟩, nofun⟩
    | true => exact ⟨rfl, nofun, fun _ => ⟨rfl, rfl⟩⟩
  · intro σ program history before after resets handle index id name count succeeded split held
      registered inside
    subst split
    by_cases passed : Passed (before ++ hit handle index :: after) id index
    · exact .inl ⟨succeeded,
        Reporting.shows_of_passed (registration?_append registered _) inside passed resets⟩
    · obtain ⟨between, last, rest, rfl, clearing, here⟩ :=
        exists_clears_of_not_passed held passed
      refine .inr ⟨between, last, rest, rfl, ?_⟩
      cases last with
      | reset => exact .inl rfl
      | collect =>
        obtain rfl := clearing
        refine .inr ⟨rfl, ?_⟩
        rcases result : (program.dump (before ++ hit handle index :: between) true).1 with
          failure | _
        · exact .inr ⟨failure, rfl⟩
        · exact .inl ⟨result,
            Reporting.shows_of_passed (registration?_append registered _) inside here true⟩
      | _ => cases clearing

/-- Two dumps fail, at the session and at the first class; the third one delivers what was passed
before them, and with a reset the first one would have cleared it. -/
theorem dump_accounts_of_failing_receiver :
    let program : Reporting Nat := ⟨"s", .ticking, fun _ calls =>
      (if calls = 0 ∨ calls = 2 then .error (.host .brokenPipe) else .ok (), calls + 1), 0⟩
    let passed := [register 1 "A" 2, hit 0 1]
    let history := passed ++ [collect false, collect false]
    (program.dump passed true).1 = .error (.host .brokenPipe) ∧
      (program.dump passed true).2.1.classes = [⟨1, "A", [false, false]⟩] ∧
      program.Delivers history true 1 1 := by
  intro program passed history
  have failed : (program.dump passed true).1 = .error (.host .brokenPipe) := rfl
  obtain ⟨-, -, cleared⟩ := dump_accounts.1 _ _ _ _ _ _ _ (Prod.ext failed rfl)
  have succeeded : (program.dump history true).1 = .ok () := rfl
  refine ⟨failed, (cleared rfl).1, ?_⟩
  rcases dump_accounts.2 program history [register 1 "A" 2] [collect false, collect false] true 0 1
    1 "A" 2 succeeded rfl rfl rfl (by decide) with delivered | ⟨between, last, rest, split, lost⟩
  · exact delivered
  · have member : last ∈ [collect false, collect false] :=
      split ▸ List.mem_append_right between List.mem_cons_self
    obtain rfl : last = collect false := by simpa using member
    rcases lost with same | ⟨same, -⟩ <;> cases same

/-- **What a failed dump had to report may be gone.**  The link is broken, so nothing is sent, and
yet the probe is cleared and the session has begun anew; the next dump does not report the probe. -/
theorem cleared_by_failed_dump :
    let probes := ((new "s" .ticking).register 1 "A" 2).hit 1 1
    let broken : Link.RecordWriter :=
      ⟨{ Wire.Sink.open_ with capacity := some (0, .fails (.host .brokenPipe)) }, 0⟩
    let failed := probes.collect true Link.RecordWriter.receive broken
    failed.1 = .error (.host .brokenPipe) ∧ failed.2.2.sink.bytes = [] ∧
      probes.snapshot 1 = [false, true] ∧ failed.2.1.snapshot 1 = [false, false] ∧
      probes.start = ⟨0⟩ ∧ failed.2.1.start = ⟨1⟩ ∧
      (failed.2.1.collect false (fun record taken => (.ok (), taken ++ [record])) []).2.2 =
        [.sessionInfo ⟨"s", ⟨1⟩, ⟨2⟩⟩, .executionData ⟨1, "A", [false, false]⟩] :=
  ⟨by with_unfolding_all rfl, by with_unfolding_all rfl, rfl, rfl, rfl, rfl, rfl⟩

end Operation
end Probes
end CoverageLink
