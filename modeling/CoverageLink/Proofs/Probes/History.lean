import CoverageLink.Probes
import CoverageLink.Proofs.HandOver

/-!
# What a dump reports, told from the past

The probes of a program are in many hands.  Classes are registered again under a number that is
taken, with another name and another count; probes are passed through handles that were given out
long ago; and there are two ways to clear them.  A dump nevertheless says something simple about
the past, and this file says it without probes: a run is a list of operations, and what was
registered, what was passed and when the session began is read off that list.

## 1.  Histories

`Operation` is what can be done, and `performAll` does it.  A handle is a place in the order of the
registrations, so that the same class may be behind several of them (`handles`).  That a probe was
*passed* is a matter of the operations behind the latest one that clears, but the handle may be
older than that (`Passed`): nobody is detached by a reset.

## 2.  One more operation

Everything in a history is settled by its last operation and what came before
(`append_singleton_eq_iff`), which is what the induction on a run needs.

## 3.  What the probes tell

`Shows` ties the registered classes to the history, and `Tells` everything else as well; both are
kept by every operation.

## 4.  The law of a dump

`collect_reports` is for every run and every receiver that does not fail.
-/

namespace CoverageLink

/-- A class that is placed among others joins them if its number is not taken. -/
theorem ProbedClass.mem_place_iff {entry other : ProbedClass} {classes : List ProbedClass}
    (ordered : Ordered classes) :
    other ∈ place entry classes ↔
      other ∈ classes ∨ other = entry ∧ ∀ held ∈ classes, held.id ≠ entry.id := by
  induction classes with
  | nil => simp [place]
  | cons first rest ih =>
    obtain ⟨least, tail⟩ := List.pairwise_cons.1 ordered
    unfold place
    split
    · rename_i before
      have free : ∀ held ∈ first :: rest, held.id ≠ entry.id := by
        intro held member same
        rcases List.mem_cons.1 member with rfl | member
        · exact Int64.ne_of_lt before same.symm
        · exact Int64.ne_of_lt (Int64.lt_trans before (least held member)) same.symm
      rw [List.mem_cons, or_comm, and_iff_left free]
    · rename_i notBefore
      split
      · rename_i after
        rw [List.mem_cons, ih tail, List.mem_cons, or_assoc, List.forall_mem_cons,
          and_iff_right (Int64.ne_of_lt after)]
      · rename_i notAfter
        have taken : first.id = entry.id :=
          Int64.le_antisymm (Int64.not_lt.1 notBefore) (Int64.not_lt.1 notAfter)
        simp [taken]

namespace Probes

/-! ## 1.  Histories -/

/-- What is done to the probes of a program. -/
inductive Operation
  /-- A class is registered, and whoever does it is given the next handle. -/
  | register (id : Int64) (name : String) (count : Nat)
  /-- A probe is passed, through one of the handles. -/
  | hit (handle index : Nat)
  | rename (session : String)
  | reset
  | collect (resets : Bool)

/-- Probes in use. -/
structure Usage where
  probes : Probes
  /-- The class behind each handle that was given out. -/
  handles : List Int64

namespace Usage

/-- The probes of a program that has just started. -/
def begun (session : String) (clock : WallClock) : Usage := ⟨.new session clock, []⟩

end Usage

namespace Operation

/-- Carries out an operation.  Nothing is passed through a handle that was not given out. -/
def perform : Operation → Usage → Usage
  | register id name count, usage =>
    ⟨usage.probes.register id name count, usage.handles ++ [id]⟩
  | hit handle index, usage =>
    match usage.handles[handle]? with
    | some id => { usage with probes := usage.probes.hit id index }
    | none => usage
  | rename session, usage => { usage with probes := usage.probes.rename session }
  | reset, usage => { usage with probes := usage.probes.reset }
  | collect resets, usage => { usage with probes := (usage.probes.take resets).2 }

/-- Carries out one operation after the other. -/
def performAll (history : List Operation) (usage : Usage) : Usage :=
  history.foldl (fun usage operation => operation.perform usage) usage

/-- Whether an operation clears the probes. -/
def clears : Operation → Bool
  | reset => true
  | collect resets => resets
  | _ => false

/-- Whether an operation reads the clock. -/
def readsClock : Operation → Bool
  | reset => true
  | collect _ => true
  | _ => false

/-- The class that an operation registers. -/
def registered? : Operation → Option Int64
  | register id _ _ => some id
  | _ => none

/-- The name and the number of probes that an operation registers a class with. -/
def asks? (id : Int64) : Operation → Option (String × Nat)
  | register other name count => if other = id then some (name, count) else none
  | _ => none

/-- The name that an operation gives to the session. -/
def renames? : Operation → Option String
  | rename session => some session
  | _ => none

/-- The classes behind the handles that were given out. -/
def handles (history : List Operation) : List Int64 := history.filterMap registered?

/-- The name and the number of probes that a class was first registered with. -/
def registration? (id : Int64) (history : List Operation) : Option (String × Nat) :=
  history.findSome? (asks? id)

/-- The name of a session that began with another one: the latest that was given to it. -/
def sessionName (first : String) (history : List Operation) : String :=
  (history.reverse.findSome? renames?).getD first

/-- How often the clock was read. -/
def readings (history : List Operation) : Nat := history.countP readsClock

/-- **A probe of a class was passed** since the probes were last cleared, through any handle of the
class that there was by then. -/
def Passed (history : List Operation) (id : Int64) (index : Nat) : Prop :=
  ∃ before handle after, history = before ++ hit handle index :: after ∧
    (handles before)[handle]? = some id ∧ ∀ later ∈ after, later.clears = false

/-! ## 2.  One more operation -/

variable {history before after : List Operation} {operation last : Operation} {id : Int64}
  {index : Nat}

/-- An operation in a history is the last one, or it is in the history before that. -/
theorem append_singleton_eq_iff :
    history ++ [last] = before ++ operation :: after ↔
      (before = history ∧ operation = last ∧ after = []) ∨
        ∃ middle, history = before ++ operation :: middle ∧ after = middle ++ [last] := by
  rcases List.eq_nil_or_concat after with rfl | ⟨middle, newest, rfl⟩
  · rw [List.append_singleton_inj]
    constructor
    · rintro ⟨rfl, rfl⟩
      exact .inl ⟨rfl, rfl, rfl⟩
    · rintro (⟨rfl, rfl, -⟩ | ⟨middle, -, none⟩)
      · exact ⟨rfl, rfl⟩
      · simp at none
  · have regrouped : before ++ operation :: (middle ++ [newest]) =
        (before ++ operation :: middle) ++ [newest] := by simp
    rw [List.concat_eq_append, regrouped, List.append_singleton_inj]
    constructor
    · rintro ⟨rfl, rfl⟩
      exact .inr ⟨middle, rfl, rfl⟩
    · rintro (⟨-, -, none⟩ | ⟨other, rfl, same⟩)
      · simp at none
      · obtain ⟨rfl, rfl⟩ := List.append_singleton_inj.1 same
        exact ⟨rfl, rfl⟩

theorem performAll_append_singleton (history : List Operation) (last : Operation) (usage : Usage) :
    performAll (history ++ [last]) usage = last.perform (performAll history usage) := by
  rw [performAll, List.foldl_append]
  rfl

theorem handles_append_singleton (history : List Operation) (last : Operation) :
    handles (history ++ [last]) = handles history ++ last.registered?.toList := by
  rw [handles, List.filterMap_append]
  cases last <;> rfl

theorem registration?_append_singleton (history : List Operation) (last : Operation) (id : Int64) :
    registration? id (history ++ [last]) = (registration? id history).or (last.asks? id) := by
  rw [registration?, List.findSome?_append, List.findSome?_singleton]
  rfl

theorem sessionName_append_singleton (first : String) (history : List Operation)
    (last : Operation) :
    sessionName first (history ++ [last]) = last.renames?.getD (sessionName first history) := by
  rw [sessionName, List.reverse_append, List.reverse_singleton, List.singleton_append,
    List.findSome?_cons]
  cases last <;> rfl

theorem readings_append_singleton (history : List Operation) (last : Operation) :
    readings (history ++ [last]) = readings history + if last.readsClock then 1 else 0 := by
  rw [readings, List.countP_append, List.countP_singleton]
  rfl

/-- A class was registered exactly if somebody was given a handle of it. -/
theorem registration?_eq_none_iff : registration? id history = none ↔ id ∉ handles history := by
  have one (operation : Operation) :
      operation.asks? id = none ↔ operation.registered? ≠ some id := by
    cases operation <;> simp [asks?, registered?]
  rw [registration?, List.findSome?_eq_none_iff, handles, List.mem_filterMap]
  simp only [one, not_exists, not_and, ne_eq]

/-- What was passed has a handle. -/
theorem Passed.mem_handles (passed : Passed history id index) : id ∈ handles history := by
  obtain ⟨before, handle, after, rfl, held, -⟩ := passed
  rw [handles, List.filterMap_append]
  exact List.mem_append_left _ (List.mem_of_getElem? held)

/-- **What was passed in the end** was passed last, or before and not cleared since. -/
theorem passed_append_singleton_iff :
    Passed (history ++ [last]) id index ↔
      (∃ handle, last = hit handle index ∧ (handles history)[handle]? = some id) ∨
        last.clears = false ∧ Passed history id index := by
  constructor
  · rintro ⟨before, handle, after, split, held, kept⟩
    rcases append_singleton_eq_iff.1 split with ⟨rfl, rfl, -⟩ | ⟨middle, rfl, rfl⟩
    · exact .inl ⟨handle, rfl, held⟩
    · refine .inr ⟨kept last (by simp), before, handle, middle, rfl, held, fun later member => ?_⟩
      exact kept later (List.mem_append_left _ member)
  · rintro (⟨handle, rfl, held⟩ | ⟨kept, before, handle, after, rfl, held, earlier⟩)
    · exact ⟨history, handle, [], rfl, held, nofun⟩
    · refine ⟨before, handle, after ++ [last], by simp, held, fun later member => ?_⟩
      rcases List.mem_append.1 member with member | member
      · exact earlier later member
      · exact List.mem_singleton.1 member ▸ kept

/-- An operation that neither passes a probe nor clears them changes nothing about what was
passed. -/
theorem passed_append_singleton_of_idle (kept : last.clears = false)
    (idle : ∀ handle index, last = hit handle index → (handles history)[handle]? = none) :
    Passed (history ++ [last]) id index ↔ Passed history id index := by
  rw [passed_append_singleton_iff, kept]
  constructor
  · rintro (⟨handle, same, held⟩ | ⟨-, passed⟩)
    · cases (idle handle index same).symm.trans held
    · exact passed
  · intro passed
    exact .inr ⟨rfl, passed⟩

/-! ## 3.  What the probes tell -/

variable {classes : List ProbedClass} {session : String} {clock : WallClock} {usage : Usage}

/-- What the registered classes tell of a history. -/
structure Shows (history : List Operation) (classes : List ProbedClass) : Prop where
  registered : ∀ id, (∃ entry ∈ classes, entry.id = id) ↔ id ∈ handles history
  first : ∀ entry ∈ classes,
    registration? entry.id history = some (entry.name, entry.probes.length)
  passed : ∀ entry ∈ classes, ∀ index, entry.probes[index]? = some true ↔
    index < entry.probes.length ∧ Passed history entry.id index

namespace Shows

theorem nil : Shows [] [] := ⟨fun id => by simp [handles], nofun, nofun⟩

/-- A change of every class by an operation that registers none: only what was passed is to be
looked at. -/
theorem map (shows : Shows history classes) (none_registered : last.registered? = none)
    {change : ProbedClass → ProbedClass} (id : ∀ entry, (change entry).id = entry.id)
    (name : ∀ entry, (change entry).name = entry.name)
    (count : ∀ entry, (change entry).probes.length = entry.probes.length)
    (passed : ∀ entry ∈ classes, ∀ index, (change entry).probes[index]? = some true ↔
      index < entry.probes.length ∧ Passed (history ++ [last]) entry.id index) :
    Shows (history ++ [last]) (classes.map change) := by
  have none_asked (id : Int64) : last.asks? id = none := by
    cases last with
    | register => cases none_registered
    | _ => rfl
  refine ⟨fun wanted => ?_, fun entry member => ?_, fun entry member index => ?_⟩
  · rw [handles_append_singleton, none_registered, Option.toList_none, List.append_nil,
      ← shows.registered]
    constructor
    · rintro ⟨_, member, same⟩
      obtain ⟨entry, there, rfl⟩ := List.mem_map.1 member
      exact ⟨entry, there, (id entry).symm.trans same⟩
    · rintro ⟨entry, there, same⟩
      exact ⟨change entry, List.mem_map_of_mem there, (id entry).trans same⟩
  · obtain ⟨entry, there, rfl⟩ := List.mem_map.1 member
    rw [registration?_append_singleton, none_asked, Option.or_none, id, name, count,
      shows.first entry there]
  · obtain ⟨entry, there, rfl⟩ := List.mem_map.1 member
    rw [id, count]
    exact passed entry there index

/-- An operation that neither registers a class nor passes or clears probes changes nothing. -/
theorem idle (shows : Shows history classes) (none_registered : last.registered? = none)
    (same : ∀ id index, Passed (history ++ [last]) id index ↔ Passed history id index) :
    Shows (history ++ [last]) classes := by
  have unchanged : Shows (history ++ [last]) (classes.map fun entry => entry) := by
    refine shows.map none_registered (fun _ => rfl) (fun _ => rfl) (fun _ => rfl) ?_
    intro entry member index
    rw [same]
    exact shows.passed entry member index
  rwa [List.map_id'] at unchanged

/-- An operation that clears the probes leaves nothing passed. -/
theorem clear (shows : Shows history classes) (none_registered : last.registered? = none)
    (clears : last.clears = true) :
    Shows (history ++ [last]) (classes.map ProbedClass.cleared) := by
  refine shows.map none_registered (fun _ => rfl) (fun _ => rfl) (fun _ => by simp)
    fun entry member index => ?_
  have unset : entry.cleared.probes[index]? ≠ some true := by
    show (entry.probes.map fun _ => false)[index]? ≠ some true
    rw [List.getElem?_map]
    cases entry.probes[index]? <;> simp
  have unpassed : ¬ Passed (history ++ [last]) entry.id index := by
    rw [passed_append_singleton_iff, clears]
    rintro (⟨handle, rfl, -⟩ | ⟨kept, -⟩)
    · cases clears
    · cases kept
  exact iff_of_false unset fun passed => unpassed passed.2

/-- A probe is passed through a handle. -/
theorem hit (shows : Shows history classes) {handle : Nat} {held : Int64}
    (there : (handles history)[handle]? = some held) (index : Nat) :
    Shows (history ++ [.hit handle index])
      (classes.map fun entry => if entry.id = held then entry.hit index else entry) := by
  refine shows.map rfl (fun entry => by split <;> rfl) (fun entry => by split <;> rfl)
    (fun entry => by split <;> simp) fun entry member other => ?_
  have before := shows.passed entry member other
  have now : Passed (history ++ [Operation.hit handle index]) entry.id other ↔
      (other = index ∧ entry.id = held) ∨ Passed history entry.id other := by
    rw [passed_append_singleton_iff]
    constructor
    · rintro (⟨_, same, found⟩ | ⟨-, passed⟩)
      · obtain ⟨rfl, rfl⟩ := Operation.hit.inj same
        exact .inl ⟨rfl, Option.some.inj (found.symm.trans there)⟩
      · exact .inr passed
    · rintro (⟨rfl, rfl⟩ | passed)
      · exact .inl ⟨handle, rfl, there⟩
      · exact .inr ⟨rfl, passed⟩
  rw [now]
  by_cases own : entry.id = held
  · rw [if_pos own, ProbedClass.hit, List.getElem?_set]
    by_cases same : index = other
    · subst same
      simp [own]
    · have different : other ≠ index := Ne.symm same
      simp [same, different, before]
  · rw [if_neg own]
    simp [own, before]

/-- A class is registered, or it was already. -/
theorem register (shows : Shows history classes) (ordered : ProbedClass.Ordered classes)
    (id : Int64) (name : String) (count : Nat) :
    Shows (history ++ [.register id name count])
      (ProbedClass.place ⟨id, name, List.replicate count false⟩ classes) := by
  have quiet {held : Int64} {index : Nat} :
      Passed (history ++ [Operation.register id name count]) held index ↔
        Passed history held index := passed_append_singleton_of_idle rfl nofun
  -- the numbers that are taken have handles
  have free_iff : (∀ held ∈ classes, held.id ≠ id) ↔ id ∉ handles history := by
    rw [← shows.registered]
    simp
  refine ⟨fun wanted => ?_, fun entry member => ?_, fun entry member index => ?_⟩
  · rw [handles_append_singleton, List.mem_append, ← shows.registered]
    simp only [ProbedClass.mem_place_iff ordered, registered?, Option.toList_some,
      List.mem_singleton]
    constructor
    · rintro ⟨entry, there | ⟨rfl, -⟩, rfl⟩
      · exact .inl ⟨entry, there, rfl⟩
      · exact .inr rfl
    · rintro (⟨entry, there, same⟩ | rfl)
      · exact ⟨entry, .inl there, same⟩
      · by_cases taken : ∃ held ∈ classes, held.id = wanted
        · obtain ⟨entry, there, same⟩ := taken
          exact ⟨entry, .inl there, same⟩
        · exact ⟨_, .inr ⟨rfl, fun held there same => taken ⟨held, there, same⟩⟩, rfl⟩
  · rw [registration?_append_singleton]
    rcases (ProbedClass.mem_place_iff ordered).1 member with there | ⟨rfl, free⟩
    · rw [shows.first entry there, Option.some_or]
    · have unknown := registration?_eq_none_iff.2 (free_iff.1 free)
      simp [unknown, asks?]
  · rw [quiet]
    rcases (ProbedClass.mem_place_iff ordered).1 member with there | ⟨rfl, free⟩
    · exact shows.passed entry there index
    · have unset : (List.replicate count false)[index]? ≠ some true := by
        simp [List.getElem?_replicate]
      exact iff_of_false unset fun passed => free_iff.1 free passed.2.mem_handles

end Shows

/-- The beginning of what a history leaves to be reported: the time that was read by the latest
operation that clears, or by the first reading of all. -/
structure BeganAt (clock : WallClock) (history : List Operation) (start : Timestamp) : Prop where
  cleared : ∀ before operation after, history = before ++ operation :: after →
    operation.clears = true → (∀ later ∈ after, later.clears = false) →
      start = clock.reading (clock.taken + 1 + readings before)
  uncleared : (∀ operation ∈ history, operation.clears = false) → start = clock.now

namespace BeganAt

variable {start : Timestamp}

theorem keep (began : BeganAt clock history start) (kept : last.clears = false) :
    BeganAt clock (history ++ [last]) start where
  cleared := by
    intro before operation after split clears none_later
    rcases append_singleton_eq_iff.1 split with ⟨-, rfl, -⟩ | ⟨middle, rfl, rfl⟩
    · cases kept.symm.trans clears
    · exact began.cleared before operation middle rfl clears fun later member =>
        none_later later (List.mem_append_left _ member)
  uncleared := fun none_clears =>
    began.uncleared fun operation member => none_clears operation (List.mem_append_left _ member)

theorem clear (history : List Operation) (clears : last.clears = true) :
    BeganAt clock (history ++ [last]) (clock.reading (clock.taken + 1 + readings history)) where
  cleared := by
    intro before operation after split _ none_later
    rcases append_singleton_eq_iff.1 split with ⟨rfl, -, -⟩ | ⟨middle, -, rfl⟩
    · rfl
    · have kept := none_later last (by simp)
      cases kept.symm.trans clears
  uncleared := by
    intro none_clears
    have kept := none_clears last (by simp)
    cases kept.symm.trans clears

end BeganAt

/-- What probes in use tell of a history since a clock was first read. -/
structure Tells (session : String) (clock : WallClock) (history : List Operation) (usage : Usage) :
    Prop where
  handles : usage.handles = handles history
  classes : Shows history usage.probes.classes
  session : usage.probes.session = sessionName session history
  start : BeganAt clock history usage.probes.start
  clock : usage.probes.clock = ⟨clock.reading, clock.taken + 1 + readings history⟩

namespace Tells

theorem begun (session : String) (clock : WallClock) :
    Tells session clock [] (.begun session clock) where
  handles := rfl
  classes := .nil
  session := rfl
  start := ⟨by simp, fun _ => rfl⟩
  clock := rfl

/-- The time that is read next. -/
theorem now (tells : Tells session clock history usage) :
    usage.probes.clock.now = clock.reading (clock.taken + 1 + readings history) := by
  rw [tells.clock]
  rfl

/-- Handles are given out by registering only. -/
theorem handles_kept (tells : Tells session clock history usage)
    (none_registered : last.registered? = none) :
    usage.handles = Operation.handles (history ++ [last]) := by
  rw [handles_append_singleton, none_registered, tells.handles]
  exact (List.append_nil _).symm

/-- The session keeps its name unless it is given another. -/
theorem session_kept (tells : Tells session clock history usage)
    (none_renamed : last.renames? = none) :
    usage.probes.session = sessionName session (history ++ [last]) := by
  rw [sessionName_append_singleton, none_renamed]
  exact tells.session

/-- An operation that does not read the clock. -/
theorem clock_kept (tells : Tells session clock history usage) (unread : last.readsClock = false) :
    usage.probes.clock = ⟨clock.reading, clock.taken + 1 + readings (history ++ [last])⟩ := by
  rw [readings_append_singleton, unread]
  exact tells.clock

/-- An operation that reads the clock. -/
theorem tick (tells : Tells session clock history usage) (read : last.readsClock = true) :
    usage.probes.clock.tick =
      ⟨clock.reading, clock.taken + 1 + readings (history ++ [last])⟩ := by
  rw [readings_append_singleton, read, tells.clock]
  rfl

/-- **The probes are cleared**, by whichever operation. -/
theorem reset (tells : Tells session clock history usage)
    (none_registered : last.registered? = none) (none_renamed : last.renames? = none)
    (clears : last.clears = true) (read : last.readsClock = true) :
    Tells session clock (history ++ [last]) { usage with probes := usage.probes.reset } where
  handles := tells.handles_kept none_registered
  classes := tells.classes.clear none_registered clears
  session := tells.session_kept none_renamed
  start := by
    rw [show Probes.start _ = usage.probes.clock.now from rfl, tells.now]
    exact .clear history clears
  clock := tells.tick read

/-- **Every operation is remembered.** -/
theorem perform (tells : Tells session clock history usage) (last : Operation) :
    Tells session clock (history ++ [last]) (last.perform usage) := by
  cases last with
  | register id name count =>
    refine ⟨?_, tells.classes.register usage.probes.ordered id name count, tells.session_kept rfl,
      tells.start.keep rfl, tells.clock_kept rfl⟩
    rw [handles_append_singleton, ← tells.handles]
    rfl
  | hit handle index =>
    have handles : usage.handles = Operation.handles (history ++ [.hit handle index]) :=
      tells.handles_kept rfl
    have session' : usage.probes.session =
        sessionName session (history ++ [.hit handle index]) := tells.session_kept rfl
    have start : BeganAt clock (history ++ [.hit handle index]) usage.probes.start :=
      tells.start.keep rfl
    have clock' : usage.probes.clock =
        ⟨clock.reading, clock.taken + 1 + readings (history ++ [.hit handle index])⟩ :=
      tells.clock_kept rfl
    rcases held : usage.handles[handle]? with _ | id
    · -- nobody has this handle
      have undone : (Operation.hit handle index).perform usage = usage := by
        simp only [Operation.perform, held]
      rw [undone]
      refine ⟨handles, tells.classes.idle rfl fun id other => ?_, session', start, clock'⟩
      refine passed_append_singleton_of_idle rfl fun found _ same => ?_
      obtain ⟨rfl, -⟩ := Operation.hit.inj same
      rw [← tells.handles]
      exact held
    · have done : (Operation.hit handle index).perform usage =
          { usage with probes := usage.probes.hit id index } := by
        simp only [Operation.perform, held]
      rw [done]
      rw [tells.handles] at held
      exact ⟨handles, tells.classes.hit held index, session', start, clock'⟩
  | rename name =>
    refine ⟨tells.handles_kept rfl, tells.classes.idle rfl fun _ _ => ?_, ?_,
      tells.start.keep rfl, tells.clock_kept rfl⟩
    · exact passed_append_singleton_of_idle rfl nofun
    · rw [sessionName_append_singleton]
      rfl
  | reset => exact tells.reset rfl rfl rfl rfl
  | collect resets =>
    cases resets with
    | true => exact tells.reset rfl rfl rfl rfl
    | false =>
      refine ⟨tells.handles_kept rfl, tells.classes.idle rfl fun _ _ => ?_, tells.session_kept rfl,
        tells.start.keep rfl, tells.tick rfl⟩
      exact passed_append_singleton_of_idle rfl nofun

/-- **Every run is remembered.** -/
theorem performAll (session : String) (clock : WallClock) (history : List Operation) :
    Tells session clock history (Operation.performAll history (.begun session clock)) := by
  have general (rest : List Operation) : ∀ {before : List Operation} {usage : Usage},
      Tells session clock before usage →
        Tells session clock (before ++ rest) (Operation.performAll rest usage) := by
    induction rest with
    | nil =>
      intro before usage tells
      rw [List.append_nil]
      exact tells
    | cons next rest ih =>
      intro before usage tells
      have step := ih (tells.perform next)
      rwa [List.append_assoc, List.singleton_append] at step
  exact general history (begun session clock)

end Tells

/-! ## 4.  The law of a dump -/

/-- **A dump reports what was done.**  Any receiver that does not fail is given the session and then
every class that was ever registered: each once, in the order of the numbers, under the name and
with the count it was first registered with.  A probe is set if it was passed, through whichever
handle of its class, since the probes were last cleared.  The session begins with the clearing, so
a dump that clears ends where the next one begins. -/
theorem collect_reports {σ : Type} (session : String) (clock : WallClock)
    (history : List Operation) (resets : Bool) (visit : Record → σ → σ) (state : σ) :
    ∃ report : Report,
      (performAll history (.begun session clock)).probes.collect resets
          (fun record state => (.ok (), visit record state)) state =
        (.ok (), (performAll (history ++ [.collect resets]) (.begun session clock)).probes,
          (Record.sessionInfo report.info :: report.classes.map .executionData).foldl
            (fun state record => visit record state) state) ∧
      report.info.id = sessionName session history ∧
      BeganAt clock history report.info.start ∧
      report.info.dump = clock.reading (clock.taken + 1 + readings history) ∧
      report.classes.Pairwise (fun first second => first.id < second.id) ∧
      (∀ id, (∃ data ∈ report.classes, data.id = id) ↔ id ∈ handles history) ∧
      (∀ data ∈ report.classes,
        registration? data.id history = some (data.name, data.probes.length)) ∧
      (∀ data ∈ report.classes, ∀ index, data.probes[index]? = some true ↔
        index < data.probes.length ∧ Passed history data.id index) ∧
      ∀ before between, history = before ++ collect true :: between →
        (∀ later ∈ between, later.clears = false) →
          report.info.start =
            ((performAll before (.begun session clock)).probes.take true).1.info.dump := by
  have tells := Tells.performAll session clock history
  refine ⟨((performAll history (.begun session clock)).probes.take resets).1, ?_, tells.session,
    tells.start, tells.now, ?_, ?_, ?_, ?_, ?_⟩
  · rw [performAll_append_singleton]
    exact collect_of_unfailing _ resets visit state
  · exact List.pairwise_map.2 (performAll history (.begun session clock)).probes.ordered
  · intro id
    rw [← tells.classes.registered]
    constructor
    · rintro ⟨_, member, same⟩
      obtain ⟨entry, there, rfl⟩ := List.mem_map.1 member
      exact ⟨entry, there, same⟩
    · rintro ⟨entry, there, same⟩
      exact ⟨entry.data, List.mem_map_of_mem there, same⟩
  · intro data member
    obtain ⟨entry, there, rfl⟩ := List.mem_map.1 member
    exact tells.classes.first entry there
  · intro data member
    obtain ⟨entry, there, rfl⟩ := List.mem_map.1 member
    exact tells.classes.passed entry there
  · intro before between split none_later
    rw [show SessionInfo.dump _ = _ from (Tells.performAll session clock before).now]
    exact tells.start.cleared before (collect true) between split rfl none_later

end Operation
end Probes
end CoverageLink
