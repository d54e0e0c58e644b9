import CoverageLink.Text.Pieces

/-!
# Paths

A path is kept as it was written: the pieces of its text between slashes, empty ones
included.  So its text is never lost (a message shows a path exactly as its author wrote
it), and what the pieces *ask for* is a separate question, answered by `Path.steps`.

An empty piece asks for nothing, a dot asks to stay, two dots ask to go up, and every other
piece asks for the entry of that name.  A path whose last piece is empty insists on a folder
(`Path.closed`).
-/

namespace CoverageLink
namespace Files

/-- A path as someone wrote it. -/
structure Path where
  segments : List String
  deriving DecidableEq, Repr, Inhabited

/-- What a piece of a path asks for. -/
inductive Step
  | stay
  | up
  | name (text : String)
  deriving DecidableEq, Repr, Inhabited

namespace Step

/-- Whether a piece asks for nothing or to stay. -/
def isIdle (segment : String) : Bool := segment = "" || segment = "."

/-- The step that a piece asks for. -/
def ofSegment (segment : String) : Step :=
  if isIdle segment then stay
  else if segment = ".." then up
  else name segment

/-- The name that a step asks for, if it asks for one. -/
def name? : Step → Option String
  | name text => some text
  | stay | up => none

end Step

namespace Path

/-- The character between two pieces. -/
def separator : Char := '/'

/-- The path that a text spells. -/
def ofText (text : String) : Path := ⟨Text.pieces separator text⟩

/-- A path as it was written. -/
def text (path : Path) : String := Text.join separator path.segments

/-- What pieces ask for, one after the other. -/
def stepsOf (segments : List String) : List Step :=
  (segments.filter fun segment => !segment.isEmpty).map Step.ofSegment

/-- What the pieces of a path ask for. -/
def steps (path : Path) : List Step := stepsOf path.segments

/-- Whether a path insists that what its last name leads to is a folder. -/
def closed (path : Path) : Bool := path.segments.getLast? = some ""

/-- Whether a path starts at the top of the host's files. -/
def isAbsolute (path : Path) : Bool :=
  match path.segments with
  | "" :: _ :: _ => true
  | _ => false

/-- The pieces of a path, without the empty last one of a closed path. -/
def trunk (path : Path) : List String :=
  if path.closed then path.segments.dropLast else path.segments

/-- The path of an entry of the folder that a path leads to. -/
def child (path : Path) (name : String) : Path := ⟨path.trunk ++ [name]⟩

/-- The path that goes on with several names. -/
def descend (path : Path) : List String → Path
  | [] => path
  | names => ⟨path.trunk ++ names⟩

/-- The path with something appended to its last piece. -/
def extended (path : Path) (ending : String) : Path :=
  match path.segments.getLast? with
  | some last => ⟨path.segments.dropLast ++ [last ++ ending]⟩
  | none => ⟨[ending]⟩

/-- The names that a path asks for, if it asks for at least one and only ever goes down
from where it starts. -/
def names? (path : Path) : Option (List String) :=
  if path.isAbsolute || path.steps.contains .up then none
  else
    match path.steps.filterMap Step.name? with
    | [] => none
    | names => some names

/-- The path of the folder above the one that a path leads to: without the last piece that
asks for something.  There is none if nothing else is asked for. -/
def parent? (path : Path) : Option Path :=
  match path.segments.reverse.dropWhile Step.isIdle with
  | [] => none
  | _ :: above =>
    match above.dropWhile Step.isIdle with
    | [] => none
    | pieces => some ⟨pieces.reverse⟩

/-- The folder above is on the way. -/
theorem exists_of_parent? {path parent : Path} (h : path.parent? = some parent) :
    ∃ last rest, path.segments = parent.segments ++ last :: rest := by
  unfold parent? at h
  split at h
  · simp at h
  · rename_i last above first
    split at h
    · simp at h
    · rename_i pieces _
      obtain rfl := Option.some.inj h
      have outer := List.takeWhile_append_dropWhile (p := Step.isIdle)
        (l := path.segments.reverse)
      have inner := List.takeWhile_append_dropWhile (p := Step.isIdle) (l := above)
      rw [first, ← inner] at outer
      have := congrArg List.reverse outer
      simp only [List.reverse_append, List.reverse_cons, List.reverse_reverse,
        List.append_assoc] at this
      rw [← this]
      cases (above.takeWhile Step.isIdle).reverse with
      | nil => exact ⟨_, _, rfl⟩
      | cons piece pieces => exact ⟨piece, _, rfl⟩

theorem length_parent?_lt {path parent : Path} (h : path.parent? = some parent) :
    parent.segments.length < path.segments.length := by
  obtain ⟨last, rest, eq⟩ := exists_of_parent? h
  simp [eq]

@[simp] theorem descend_singleton (path : Path) (name : String) :
    path.descend [name] = path.child name := rfl

/-- Several names lead to where they lead one after the other. -/
theorem descend_cons {name : String} (h : name ≠ "") (path : Path) (names : List String) :
    path.descend (name :: names) = (path.child name).descend names := by
  cases names with
  | nil => rfl
  | cons => simp [descend, child, trunk, closed, h]

end Path
end Files
end CoverageLink
