import CoverageLink.Record

/-!
# The probes of a running program

An instrumented class has a fixed number of probes; passing one sets it.  Classes are
registered under a number when they are first used, and a second registration under the
same number changes nothing: the first name and the first count stay.  Whoever registered
a class may hit its probes for as long as the program runs --- resetting the probes clears
them but does not detach anyone --- so the number of the class serves as the handle.

## Dumps

A dump reports the session and then every class, in increasing order of the numbers.  It
happens in two steps.  First the report is taken (`Probes.take`), all of it at one moment,
and if the dump was asked to reset, the probes are cleared and the session starts anew at
that same moment.  Then the report is delivered, record by record, to whoever asked for it
(`deliver`); a receiver that fails ends the delivery.

## Time

Nothing here has a clock.  The time of day is read from `WallClock`, which any sequence of
times may stand behind: the `n`-th reading gives the `n`-th of them.
-/

namespace CoverageLink

/-- A source of times of day. -/
structure WallClock where
  /-- The time that the reading of this number gives. -/
  reading : Nat → Timestamp
  /-- The number of readings taken. -/
  taken : Nat

namespace WallClock

/-- A clock that gives consecutive milliseconds from the epoch on. -/
def ticking : WallClock := ⟨fun n => ⟨UInt64.ofNat n⟩, 0⟩

/-- The current time. -/
def now (clock : WallClock) : Timestamp := clock.reading clock.taken

/-- The clock after a reading. -/
def tick (clock : WallClock) : WallClock := { clock with taken := clock.taken + 1 }

end WallClock

/-- A registered class. -/
structure ProbedClass where
  id : Int64
  name : String
  probes : List Bool
  deriving DecidableEq, Repr, Inhabited

namespace ProbedClass

/-- The class as a dump reports it. -/
def data (entry : ProbedClass) : ExecutionData := ⟨entry.id, entry.name, entry.probes⟩

/-- The class with a probe set; a probe it does not have changes nothing. -/
def hit (entry : ProbedClass) (index : Nat) : ProbedClass :=
  { entry with probes := entry.probes.set index true }

/-- The class with no probe set. -/
def cleared (entry : ProbedClass) : ProbedClass :=
  { entry with probes := entry.probes.map fun _ => false }

@[simp] theorem length_probes_hit (entry : ProbedClass) (index : Nat) :
    (entry.hit index).probes.length = entry.probes.length := by simp [hit]

@[simp] theorem length_probes_cleared (entry : ProbedClass) :
    entry.cleared.probes.length = entry.probes.length := by simp [cleared]

end ProbedClass

namespace ProbedClass

/-- A list of classes with one more, at its place; the first class of a number stays. -/
def place (entry : ProbedClass) : List ProbedClass → List ProbedClass
  | [] => [entry]
  | first :: rest =>
    if entry.id < first.id then entry :: first :: rest
    else if first.id < entry.id then first :: place entry rest
    else first :: rest

/-- Whether the numbers of classes are in increasing order, so that no two are the same. -/
def Ordered (classes : List ProbedClass) : Prop := classes.Pairwise fun a b => a.id < b.id

theorem mem_place {entry other : ProbedClass} {classes : List ProbedClass}
    (h : other ∈ place entry classes) : other = entry ∨ other ∈ classes := by
  induction classes with
  | nil => simpa [place] using h
  | cons first rest ih =>
    unfold place at h
    split at h
    · simpa using h
    · split at h
      · rcases List.mem_cons.1 h with rfl | h
        · exact .inr List.mem_cons_self
        · exact (ih h).imp_right (List.mem_cons_of_mem _)
      · exact .inr h

theorem ordered_place (entry : ProbedClass) {classes : List ProbedClass} (h : Ordered classes) :
    Ordered (place entry classes) := by
  induction classes with
  | nil => exact List.pairwise_singleton _ _
  | cons first rest ih =>
    obtain ⟨least, tail⟩ := List.pairwise_cons.1 h
    unfold place
    split
    · rename_i before
      refine List.pairwise_cons.2 ⟨fun other member => ?_, h⟩
      rcases List.mem_cons.1 member with rfl | member
      · exact before
      · exact Int64.lt_trans before (least other member)
    · split
      · rename_i after
        refine List.pairwise_cons.2 ⟨fun other member => ?_, ih tail⟩
        rcases mem_place member with rfl | member
        · exact after
        · exact least other member
      · exact h

/-- A change that keeps the numbers keeps their order. -/
theorem ordered_map {classes : List ProbedClass} (h : Ordered classes)
    {change : ProbedClass → ProbedClass} (keeps : ∀ entry, (change entry).id = entry.id) :
    Ordered (classes.map change) := by
  refine List.pairwise_map.2 (h.imp fun before => ?_)
  rw [keeps, keeps]
  exact before

end ProbedClass

/-- The probes of a program, and the session they belong to. -/
structure Probes where
  session : String
  /-- The beginning of what the next dump covers. -/
  start : Timestamp
  /-- The registered classes. -/
  classes : List ProbedClass
  clock : WallClock
  ordered : ProbedClass.Ordered classes

namespace Probes

/-- The probes of a program that has just started. -/
def new (session : String) (clock : WallClock) : Probes :=
  ⟨session, clock.now, [], clock.tick, .nil⟩

/-- Registers a class, unless its number is taken. -/
def register (probes : Probes) (id : Int64) (name : String) (count : Nat) : Probes :=
  { probes with
    classes := ProbedClass.place ⟨id, name, List.replicate count false⟩ probes.classes
    ordered := ProbedClass.ordered_place _ probes.ordered }

/-- The registered class of a number. -/
def find? (probes : Probes) (id : Int64) : Option ProbedClass :=
  probes.classes.find? fun entry => entry.id = id

/-- Whether each probe of a class is set; nothing for a number that was not registered. -/
def snapshot (probes : Probes) (id : Int64) : List Bool :=
  ((probes.find? id).map ProbedClass.probes).getD []

/-- Sets a probe of a class. -/
def hit (probes : Probes) (id : Int64) (index : Nat) : Probes :=
  { probes with
    classes := probes.classes.map fun entry => if entry.id = id then entry.hit index else entry
    ordered := ProbedClass.ordered_map probes.ordered fun entry => by split <;> rfl }

/-- Gives the session another name. -/
def rename (probes : Probes) (session : String) : Probes := { probes with session }

/-- The number of registered classes. -/
def size (probes : Probes) : Nat := probes.classes.length

/-- Clears every probe; the session starts anew. -/
def reset (probes : Probes) : Probes :=
  { probes with
    start := probes.clock.now
    classes := probes.classes.map ProbedClass.cleared
    clock := probes.clock.tick
    ordered := ProbedClass.ordered_map probes.ordered fun _ => rfl }

/-- What a dump reports: the session, and the data of every class. -/
structure Report where
  info : SessionInfo
  classes : List ExecutionData
  deriving DecidableEq, Repr, Inhabited

/-- Takes a report, and clears the probes at the same moment if asked to. -/
def take (probes : Probes) (resets : Bool) : Report × Probes :=
  let now := probes.clock.now
  let report : Report :=
    ⟨⟨probes.session, probes.start, now⟩, probes.classes.map ProbedClass.data⟩
  (report, if resets then probes.reset else { probes with clock := probes.clock.tick })

/-- The records of a report, in the order of delivery. -/
def Report.records (report : Report) : List Record :=
  .sessionInfo report.info :: report.classes.map .executionData

/-- Delivers records to a receiver, up to the first one it fails on. -/
def deliver {σ : Type} (receive : Record → σ → Except Failure Unit × σ) :
    List Record → σ → Except Failure Unit × σ
  | [], state => (.ok (), state)
  | record :: rest, state =>
    match receive record state with
    | (.ok (), state) => deliver receive rest state
    | (.error failure, state) => (.error failure, state)

/-- Takes a report and delivers it. -/
def collect {σ : Type} (probes : Probes) (resets : Bool)
    (receive : Record → σ → Except Failure Unit × σ) (state : σ) :
    Except Failure Unit × Probes × σ :=
  let (report, probes) := probes.take resets
  let (result, state) := deliver receive report.records state
  (result, probes, state)

end Probes
end CoverageLink
