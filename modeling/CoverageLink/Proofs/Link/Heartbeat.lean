import CoverageLink.Link.Heartbeat

/-!
# Signs of life come in time

A collector takes silence for death, and too many signs of life are a waste: between two records
there is an interval at the most, and in front of a heartbeat there is an interval at least.  Both
are about the last record that was sent, whoever sent it, and the monitor knows it from the clock
alone.

## 1.  The last record

`LastOf` is the latest of a row of times, in whatever order the records were sent.  A clock that is
touched whenever a record is sent shows it (`LastOf.touch`, `LastOf.afterTraffic`).

## 2.  A round

`Monitor.step_cases` says once what a round can be.  What is sent in it is read off its report
(`Round.sent`).  `Waking` is what the monitor relies on when it wakes up: that the clock shows the
last record.  A round keeps that, and the monitor wakes up when the interval since the last record
is over, or earlier (`Waking.step`).  It is not later than that although records are sent while it
waits, because they move the end of the interval away from the end of the wait.

## 3.  All rounds

What a round keeps, rounds keep (`Waking.run`), and what is wanted of a round (`Timely`) follows
from what it relies on (`Waking.timely`).
-/

namespace CoverageLink
namespace Link

/-! ## 1.  The last record -/

/-- A time at which a record was sent, and after which none was. -/
def LastOf (sends : List Nat) (time : Nat) : Prop := time ∈ sends ∧ ∀ sent ∈ sends, sent ≤ time

namespace LastOf

variable {sends : List Nat}

theorem singleton (time : Nat) : LastOf [time] time :=
  ⟨List.mem_singleton_self time, fun _ member => Nat.le_of_eq (List.mem_singleton.1 member)⟩

/-- The clock goes on showing the last record if it is touched when one is sent. -/
theorem touch {clock : SendClock} (shown : LastOf sends clock.last) (now : Nat) :
    LastOf (sends ++ [now]) (clock.touch now).last := by
  obtain ⟨member, latest⟩ := shown
  constructor
  · show max clock.last now ∈ sends ++ [now]
    rcases Nat.le_total clock.last now with le | le
    · rw [Nat.max_eq_right le]
      exact List.mem_append_right _ (List.mem_singleton_self now)
    · rw [Nat.max_eq_left le]
      exact List.mem_append_left _ member
  · intro sent either
    show sent ≤ max clock.last now
    rcases List.mem_append.1 either with earlier | new
    · exact Nat.le_trans (latest sent earlier) (Nat.le_max_left _ _)
    · rw [List.mem_singleton.1 new]
      exact Nat.le_max_right _ _

/-- It does so through a wait, for the records that were sent before it was over. -/
theorem afterTraffic (monitor : Monitor) (span : Nat) (traffic : List Nat)
    (shown : LastOf sends monitor.clock.last) :
    LastOf (sends ++ (traffic.filter (· ≤ span)).map (monitor.now + ·))
      (monitor.afterTraffic span traffic).last := by
  obtain ⟨interval, now, clock⟩ := monitor
  induction traffic generalizing clock sends with
  | nil => rwa [List.filter_nil, List.map_nil, List.append_nil]
  | cons offset traffic ih =>
    by_cases inside : offset ≤ span
    · have further := ih (clock.touch (now + offset)) (shown.touch (now + offset))
      rw [List.filter_cons, if_pos (decide_eq_true inside), List.map_cons, ← List.singleton_append,
        ← List.append_assoc]
      simpa only [Monitor.afterTraffic, List.foldl_cons, if_pos inside] using further
    · have further := ih clock shown
      rw [List.filter_cons, if_neg (by simpa using inside)]
      simpa only [Monitor.afterTraffic, List.foldl_cons, if_neg inside] using further

/-- One of the records that were sent is the last. -/
theorem exists_of_ne_nil : ∀ {sends : List Nat}, sends ≠ [] → ∃ time, LastOf sends time
  | [time], _ => ⟨time, singleton time⟩
  | first :: second :: others, _ => by
    obtain ⟨time, member, latest⟩ := exists_of_ne_nil (List.cons_ne_nil second others)
    rcases Nat.le_total first time with le | le
    · exact ⟨time, List.mem_cons_of_mem _ member, List.forall_mem_cons.2 ⟨le, latest⟩⟩
    · refine ⟨first, List.mem_cons_self, List.forall_mem_cons.2 ⟨Nat.le_refl _, ?_⟩⟩
      intro sent other
      exact Nat.le_trans (latest sent other) le

end LastOf

/-! ## 2.  A round -/

/-- When records are sent in a round that began then: the heartbeat if it did not fail, and what is
sent before the wait is over. -/
def Round.sent (round : Round) (now : Nat) (report : RoundReport) : List Nat :=
  (if report.failure = none then report.beat.toList else []) ++
    match report.wait with
    | none => []
    | some span => (round.traffic.filter (· ≤ span)).map (now + ·)

namespace Monitor

/-- **What a round can be**: the connection is closed, a heartbeat fails, a heartbeat is sent, or
none is due. -/
theorem step_cases (monitor : Monitor) (round : Round) :
    (round.closed = true ∧ monitor.step round = (⟨none, none, none⟩, none)) ∨
    (round.closed = false ∧ monitor.due = true ∧ ∃ failure, round.beat = .fails failure ∧
      monitor.step round = (⟨some monitor.now, some failure, none⟩, none)) ∨
    (round.closed = false ∧ monitor.due = true ∧ ∃ noted, round.beat = .sent noted ∧
      monitor.step round = (⟨some monitor.now, none, some monitor.interval⟩,
        (if noted then { monitor with clock := monitor.clock.touch monitor.now }
          else monitor).wait monitor.interval round)) ∨
    (round.closed = false ∧ monitor.due = false ∧
      monitor.step round =
        (⟨none, none, some (monitor.interval - monitor.clock.elapsed monitor.now)⟩,
          monitor.wait (monitor.interval - monitor.clock.elapsed monitor.now) round)) := by
  unfold step
  cases round.closed with
  | true => exact .inl ⟨rfl, rfl⟩
  | false =>
    cases monitor.due with
    | false => exact .inr (.inr (.inr ⟨rfl, rfl, rfl⟩))
    | true =>
      cases round.beat with
      | fails failure => exact .inr (.inl ⟨rfl, rfl, failure, rfl, rfl⟩)
      | sent noted => exact .inr (.inr (.inl ⟨rfl, rfl, noted, rfl, rfl⟩))

theorem due_iff (monitor : Monitor) :
    monitor.due = true ↔ monitor.interval ≤ monitor.now - monitor.clock.last :=
  decide_eq_true_iff

/-- The monitor goes on after a wait unless it is stopped. -/
theorem wait_cases (monitor : Monitor) (span : Nat) (round : Round) :
    (round.stopped = true ∧ monitor.wait span round = none) ∨
    (round.stopped = false ∧ monitor.wait span round =
      some ⟨monitor.interval, monitor.now + span, monitor.afterTraffic span round.traffic⟩) := by
  unfold wait
  cases round.stopped with
  | true => exact .inl ⟨rfl, rfl⟩
  | false => exact .inr ⟨rfl, rfl⟩

theorem wait_eq_none_iff (monitor : Monitor) (span : Nat) (round : Round) :
    monitor.wait span round = none ↔ round.stopped = true := by
  rcases monitor.wait_cases span round with ⟨stopped, waited⟩ | ⟨stayed, waited⟩
  · exact iff_of_true waited stopped
  · exact iff_of_false (by rw [waited]; nofun) (by rw [stayed]; nofun)

theorem now_of_wait {monitor next : Monitor} {span : Nat} {round : Round}
    (went_on : monitor.wait span round = some next) : next.now = monitor.now + span := by
  rcases monitor.wait_cases span round with ⟨-, waited⟩ | ⟨-, waited⟩
  · exact nomatch waited.symm.trans went_on
  · obtain rfl := Option.some.inj (waited.symm.trans went_on)
    rfl

end Monitor

/-- **What the monitor relies on when it wakes up**, where `sends` are the records sent so far. -/
structure Waking (interval : Nat) (sends : List Nat) (monitor : Monitor) : Prop where
  interval : monitor.interval = interval
  /-- The clock shows the last record. -/
  shown : LastOf sends monitor.clock.last
  past : monitor.clock.last ≤ monitor.now

namespace Waking

variable {interval span : Nat} {sends : List Nat} {monitor next : Monitor} {round : Round}
  {report : RoundReport}

/-- A heartbeat is sent and noted. -/
theorem touch (waking : Waking interval sends monitor) :
    Waking interval (sends ++ [monitor.now])
      { monitor with clock := monitor.clock.touch monitor.now } where
  interval := waking.interval
  shown := waking.shown.touch monitor.now
  past := Nat.max_le.2 ⟨waking.past, Nat.le_refl _⟩

/-- **Through a wait** the clock is kept up with, and if the wait is over within an interval after
the last record, that is so for the last record that was sent meanwhile. -/
theorem wait (waking : Waking interval sends monitor)
    (within : monitor.now + span ≤ monitor.clock.last + interval)
    (went_on : monitor.wait span round = some next) :
    Waking interval (sends ++ (round.traffic.filter (· ≤ span)).map (monitor.now + ·)) next ∧
      next.now ≤ next.clock.last + interval := by
  rcases monitor.wait_cases span round with ⟨-, waited⟩ | ⟨-, waited⟩
  · exact nomatch waited.symm.trans went_on
  obtain rfl := Option.some.inj (waited.symm.trans went_on)
  have shown := waking.shown.afterTraffic monitor span round.traffic
  obtain ⟨member, latest⟩ := id shown
  have earlier := latest _ (List.mem_append_left _ waking.shown.1)
  refine ⟨⟨waking.interval, shown, ?_⟩, Nat.le_trans within (Nat.add_le_add_right earlier _)⟩
  show (monitor.afterTraffic span round.traffic).last ≤ monitor.now + span
  rcases List.mem_append.1 member with before | meanwhile
  · exact Nat.le_trans (waking.shown.2 _ before) (Nat.le_trans waking.past (Nat.le_add_right _ _))
  · obtain ⟨offset, sent, same⟩ := List.mem_map.1 meanwhile
    have inside : offset ≤ span := of_decide_eq_true (List.mem_filter.1 sent).2
    omega

/-- **A round** after which the monitor goes on: it wakes up within an interval after the last
record. -/
theorem step (waking : Waking interval sends monitor) (noted : round.beat ≠ .sent false)
    (went_on : monitor.step round = (report, some next)) :
    Waking interval (sends ++ round.sent monitor.now report) next ∧
      next.now ≤ next.clock.last + interval := by
  obtain ⟨same, shown, past⟩ := id waking
  rcases monitor.step_cases round with ⟨-, stepped⟩ | ⟨-, -, failure, -, stepped⟩ |
    ⟨-, -, notes, beat, stepped⟩ | ⟨-, early, stepped⟩
  · exact nomatch stepped.symm.trans went_on
  · exact nomatch stepped.symm.trans went_on
  · obtain rfl : notes = true := by
      cases notes with
      | true => rfl
      | false => exact absurd beat noted
    obtain ⟨rfl, waited⟩ := Prod.mk.inj (stepped.symm.trans went_on)
    have fresh : monitor.now ≤ (monitor.clock.touch monitor.now).last := Nat.le_max_right _ _
    have kept := waking.touch.wait (Nat.add_le_add fresh (Nat.le_of_eq same)) waited
    rwa [List.append_assoc] at kept
  · obtain ⟨rfl, waited⟩ := Prod.mk.inj (stepped.symm.trans went_on)
    have recent : ¬ monitor.interval ≤ monitor.now - monitor.clock.last := by
      rw [← monitor.due_iff, early]
      exact Bool.false_ne_true
    refine waking.wait ?_ waited
    show monitor.now + (monitor.interval - (monitor.now - monitor.clock.last)) ≤ _
    omega

end Waking

/-! ## 3.  All rounds -/

/-- **A round in time**: what the monitor reports of it and how it goes on, where `sends` are the
records sent before it and the last of them was sent at the time `latest`. -/
structure Timely (interval : Nat) (sends : List Nat) (latest : Nat) (here : Monitor)
    (round : Round) (report : RoundReport) (after : Option Monitor) : Prop where
  last : LastOf sends latest
  /-- A heartbeat is sent, whether that succeeds or not, if and only if the connection is not closed
  and the interval since the last record is over. -/
  beat_iff : ∀ time, report.beat = some time ↔
    round.closed = false ∧ latest + interval ≤ here.now ∧ here.now = time
  /-- The monitor waits for an interval at most, and not for no time at all. -/
  wait : ∀ span, report.wait = some span → 1 ≤ span ∧ span ≤ interval
  /-- While it waits, the last record is never older than an interval. -/
  idle : ∀ span passed, report.wait = some span → passed ≤ span →
    ∃ last, LastOf (sends ++ (round.sent here.now report).filter (· ≤ here.now + passed)) last ∧
      last ≤ here.now + passed ∧ here.now + passed ≤ last + interval
  /-- The monitor ends if the connection is closed, a heartbeat failed or it is stopped, and for no
  other reason. -/
  ends_iff : after = none ↔
    round.closed = true ∨ report.failure.isSome = true ∨ round.stopped = true
  /-- The next round begins when the wait is over. -/
  next : ∀ next, after = some next → ∃ span, report.wait = some span ∧ next.now = here.now + span

namespace Monitor

/-- When records are sent in rounds. -/
def sends (monitor : Monitor) : List Round → List Nat
  | [] => []
  | round :: rest =>
    round.sent monitor.now (monitor.step round).1 ++
      match (monitor.step round).2 with
      | none => []
      | some next => next.sends rest

theorem runFrom_eq (reports : List RoundReport) (monitor : Monitor) (rounds : List Round) :
    monitor.runFrom reports rounds =
      (reports.reverse ++ (monitor.run rounds).1, (monitor.run rounds).2) := by
  induction rounds generalizing reports monitor with
  | nil => exact congrArg (·, some monitor) (List.append_nil _).symm
  | cons round rest ih =>
    rw [run, runFrom, runFrom]
    rcases monitor.step round with ⟨report, _ | next⟩
    · exact congrArg (·, none) (List.reverse_cons ..)
    · show next.runFrom (report :: reports) rest =
        (reports.reverse ++ (next.runFrom [report] rest).1, (next.runFrom [report] rest).2)
      rw [ih (report :: reports), ih [report], List.reverse_cons, List.append_assoc]
      rfl

theorem run_cons (monitor : Monitor) (round : Round) (rest : List Round) :
    monitor.run (round :: rest) =
      match (monitor.step round).2 with
      | none => ([(monitor.step round).1], none)
      | some next => ((monitor.step round).1 :: (next.run rest).1, (next.run rest).2) := by
  rw [run, runFrom]
  rcases monitor.step round with ⟨report, _ | next⟩
  · rfl
  · exact runFrom_eq [report] next rest

/-- **Rounds after rounds** that the monitor survives: what it did, and when records were sent. -/
theorem run_append {earlier : List Round} {reports : List RoundReport} {monitor here : Monitor}
    (ran : monitor.run earlier = (reports, some here)) (later : List Round) :
    monitor.run (earlier ++ later) = (reports ++ (here.run later).1, (here.run later).2) ∧
      monitor.sends (earlier ++ later) = monitor.sends earlier ++ here.sends later := by
  induction earlier generalizing monitor reports with
  | nil =>
    obtain ⟨rfl, same⟩ := Prod.mk.inj ran
    obtain rfl := Option.some.inj same
    exact ⟨rfl, rfl⟩
  | cons round earlier ih =>
    rw [run_cons] at ran
    rw [List.cons_append, run_cons, sends, sends]
    rcases stepped : (monitor.step round).2 with _ | next
    · rw [stepped] at ran
      exact nomatch ran
    · rw [stepped] at ran
      obtain ⟨rfl, survived⟩ := Prod.mk.inj ran
      obtain ⟨further, sent⟩ := ih (Prod.ext rfl survived)
      constructor
      · show (_ :: (next.run (earlier ++ later)).1, (next.run (earlier ++ later)).2) = _
        rw [further]
        rfl
      · show _ ++ next.sends (earlier ++ later) = _ ++ next.sends earlier ++ here.sends later
        rw [sent, List.append_assoc]

end Monitor

namespace Waking

variable {interval : Nat} {sends : List Nat} {start here : Monitor}

/-- **Rounds keep what a round keeps.** -/
theorem run (waking : Waking interval sends start) {rounds : List Round}
    (noted : ∀ round ∈ rounds, round.beat ≠ .sent false) {reports : List RoundReport}
    (ran : start.run rounds = (reports, some here)) :
    Waking interval (sends ++ start.sends rounds) here ∧
      (rounds ≠ [] → here.now ≤ here.clock.last + interval) := by
  induction rounds generalizing start sends reports with
  | nil =>
    obtain rfl := Option.some.inj (Prod.mk.inj ran).2
    rw [Monitor.sends, List.append_nil]
    exact ⟨waking, absurd rfl⟩
  | cons round rest ih =>
    obtain ⟨this, others⟩ := List.forall_mem_cons.1 noted
    rw [Monitor.run_cons] at ran
    rw [Monitor.sends, ← List.append_assoc]
    rcases stepped : (start.step round).2 with _ | next
    · rw [stepped] at ran
      exact nomatch ran
    · rw [stepped] at ran
      obtain ⟨further, soon⟩ := waking.step this (Prod.ext rfl stepped)
      obtain ⟨kept, sooner⟩ := ih further others (Prod.ext rfl (Prod.mk.inj ran).2)
      refine ⟨kept, fun _ => ?_⟩
      cases rest with
      | nil =>
        obtain rfl := Option.some.inj (Prod.mk.inj ran).2
        exact soon
      | cons second rest => exact sooner (List.cons_ne_nil _ _)

/-- At any time in a round one of the records was the last by then: one of those before the round,
or one of those sent in it. -/
theorem exists_last (waking : Waking interval sends here) (round : Round) (report : RoundReport)
    (passed : Nat) :
    ∃ latest, LastOf (sends ++ (round.sent here.now report).filter (· ≤ here.now + passed)) latest ∧
      latest ≤ here.now + passed := by
  obtain ⟨-, shown, past⟩ := waking
  obtain ⟨latest, last⟩ := LastOf.exists_of_ne_nil (List.append_ne_nil_of_left_ne_nil
    (List.ne_nil_of_mem shown.1) ((round.sent here.now report).filter (· ≤ here.now + passed)))
  refine ⟨latest, last, ?_⟩
  rcases List.mem_append.1 last.1 with before | inside
  · exact Nat.le_trans (shown.2 _ before) (Nat.le_trans past (Nat.le_add_right _ _))
  · exact of_decide_eq_true (List.mem_filter.1 inside).2

/-- What the monitor relies on is enough for **a round in time**. -/
theorem timely (waking : Waking interval sends here) (positive : 1 ≤ interval) (round : Round) :
    Timely interval sends here.clock.last here round (here.step round).1 (here.step round).2 := by
  obtain ⟨rfl, shown, past⟩ := id waking
  have due : here.due = true ↔ here.clock.last + here.interval ≤ here.now := by
    rw [here.due_iff]
    omega
  rcases here.step_cases round with ⟨closed, stepped⟩ | ⟨opened, late, failure, -, stepped⟩ |
    ⟨opened, late, notes, -, stepped⟩ | ⟨opened, early, stepped⟩
  · rw [stepped]
    refine ⟨shown, ?_, nofun, nofun, iff_of_true rfl (.inl closed), nofun⟩
    intro time
    exact iff_of_false nofun fun beats => nomatch closed.symm.trans beats.1
  · rw [stepped]
    refine ⟨shown, ?_, nofun, nofun, iff_of_true rfl (.inr (.inl rfl)), nofun⟩
    intro time
    rw [Option.some.injEq]
    exact ⟨fun same => ⟨opened, due.1 late, same⟩, fun beats => beats.2.2⟩
  · rw [stepped]
    refine ⟨shown, ?_, ?_, ?_, ?_, ?_⟩
    · intro time
      rw [Option.some.injEq]
      exact ⟨fun same => ⟨opened, due.1 late, same⟩, fun beats => beats.2.2⟩
    · intro span same
      obtain rfl := Option.some.inj same
      exact ⟨positive, Nat.le_refl _⟩
    · intro span passed same within
      obtain rfl := Option.some.inj same
      obtain ⟨latest, last, before⟩ := waking.exists_last round
        ⟨some here.now, none, some here.interval⟩ passed
      -- the heartbeat itself is one of the records by then
      have beat : here.now ≤ latest := by
        refine last.2 _ (List.mem_append_right _ (List.mem_filter.2 ⟨?_, ?_⟩))
        · exact List.mem_append_left _ (List.mem_singleton_self _)
        · exact decide_eq_true (Nat.le_add_right _ _)
      exact ⟨latest, last, before, Nat.add_le_add beat within⟩
    · rw [Monitor.wait_eq_none_iff, opened]
      exact ⟨fun stopped => .inr (.inr stopped), fun ends =>
        (ends.resolve_left nofun).resolve_left nofun⟩
    · intro next went_on
      refine ⟨here.interval, rfl, (Monitor.now_of_wait went_on).trans ?_⟩
      cases notes <;> rfl
  · rw [stepped]
    have recent : ¬ here.clock.last + here.interval ≤ here.now := by
      rw [← due, early]
      exact Bool.false_ne_true
    have left : here.interval - here.clock.elapsed here.now =
        here.clock.last + here.interval - here.now := by
      show here.interval - (here.now - here.clock.last) = _
      omega
    rw [left]
    refine ⟨shown, ?_, ?_, ?_, ?_, ?_⟩
    · intro time
      exact iff_of_false nofun fun beats => recent beats.2.1
    · intro span same
      obtain rfl := Option.some.inj same
      omega
    · intro span passed same within
      obtain rfl := Option.some.inj same
      obtain ⟨latest, last, before⟩ := waking.exists_last round _ passed
      have earlier := last.2 _ (List.mem_append_left _ shown.1)
      exact ⟨latest, last, before, by omega⟩
    · rw [Monitor.wait_eq_none_iff, opened]
      exact ⟨fun stopped => .inr (.inr stopped), fun ends =>
        (ends.resolve_left nofun).resolve_left nofun⟩
    · intro next went_on
      exact ⟨_, rfl, Monitor.now_of_wait went_on⟩

end Waking

/-- **The law of heartbeats**, for an agent that has been idle for any time when its monitor starts,
and for rounds in which a heartbeat that is sent is noted.  Every round the monitor comes to is in
time, and from the second on a heartbeat is sent exactly an interval after the last record; and when
a round ends the monitor, nothing comes after it. -/
theorem heartbeats_in_time {interval : Nat} (positive : 1 ≤ interval) (last idle : Nat)
    {earlier : List Round} (noted : ∀ round ∈ earlier, round.beat ≠ .sent false)
    (round : Round) (later : List Round) {reports : List RoundReport} {here : Monitor}
    (ran : Monitor.run ⟨interval, last + idle, ⟨last⟩⟩ earlier = (reports, some here)) :
    let start : Monitor := ⟨interval, last + idle, ⟨last⟩⟩
    let report := (here.step round).1
    (∃ latest, Timely interval (last :: start.sends earlier) latest here round report
        (here.step round).2 ∧
      (earlier ≠ [] → report.beat.isSome = true → here.now = latest + interval)) ∧
    start.run (earlier ++ [round]) = (reports ++ [report], (here.step round).2) ∧
    start.sends (earlier ++ [round]) = start.sends earlier ++ round.sent here.now report ∧
    ((here.step round).2 = none →
      start.run (earlier ++ round :: later) = (reports ++ [report], none)) := by
  intro start report
  have begun : Waking interval [last] start :=
    ⟨rfl, LastOf.singleton last, Nat.le_add_right last idle⟩
  obtain ⟨waking, soon⟩ := begun.run noted ran
  have timely := waking.timely positive round
  refine ⟨⟨here.clock.last, timely, ?_⟩, ?_, ?_, ?_⟩
  · intro second beats
    obtain ⟨time, beat⟩ := Option.isSome_iff_exists.1 beats
    exact Nat.le_antisymm (soon second) ((timely.beat_iff time).1 beat).2.1
  · obtain ⟨further, -⟩ := Monitor.run_append ran [round]
    rw [further, Monitor.run_cons]
    cases (here.step round).2 <;> rfl
  · obtain ⟨-, further⟩ := Monitor.run_append ran [round]
    rw [further, Monitor.sends]
    refine congrArg (_ ++ ·) ?_
    cases (here.step round).2 <;> exact List.append_nil _
  · intro ended
    obtain ⟨further, -⟩ := Monitor.run_append ran (round :: later)
    rw [further, Monitor.run_cons, ended]

/-- An agent that has been idle for too long sends a heartbeat at once; a record sent while the
monitor waits puts the next one off, from the time 45 to the time 60. -/
theorem heartbeats_in_time_of_traffic :
    let start : Monitor := ⟨20, 25, ⟨0⟩⟩
    let busy : Round := ⟨false, .sent true, [15], false⟩
    let quiet : Round := ⟨false, .sent true, [], false⟩
    start.sends [busy, quiet] = [25, 40] ∧
    ∃ latest, Timely 20 [0, 25, 40] latest ⟨20, 60, ⟨40⟩⟩ quiet
      ⟨some 60, none, some 20⟩ (some ⟨20, 80, ⟨60⟩⟩) ∧ 60 = latest + 20 := by
  intro start busy quiet
  have sent : start.sends [busy, quiet] = [25, 40] := rfl
  have ran : start.run [busy, quiet] =
      ([⟨some 25, none, some 20⟩, ⟨none, none, some 15⟩], some ⟨20, 60, ⟨40⟩⟩) := rfl
  have noted : ∀ round ∈ [busy, quiet], round.beat ≠ .sent false :=
    List.forall_mem_cons.2 ⟨nofun, List.forall_mem_singleton.2 nofun⟩
  obtain ⟨⟨latest, timely, apart⟩, -⟩ := heartbeats_in_time (by decide) 0 25 noted quiet [] ran
  exact ⟨sent, latest, timely, apart (List.cons_ne_nil _ _) rfl⟩

end Link
end CoverageLink
