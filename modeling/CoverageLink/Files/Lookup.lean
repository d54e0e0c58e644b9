import CoverageLink.Failure
import CoverageLink.Files.Volume

/-!
# Where a path leads

Following a path starts in the top folder and takes one step at a time; a symbolic link on
the way is replaced by the path it holds.  The path leads to an entry (`Place.found`), or to
a name that is free in a folder that exists (`Place.vacant`), or nowhere, and then it is said
why.  A lookup takes along what lies in the folder it has come to (`Whereabouts`), so that a
step looks into one folder only, however deep it is.

Every step but the last must lead to a folder.  What becomes of the last one, if it asks for
a name, is up to what is wanted of it (`Aim`).  A path that ends in a dot or two ends in the
folder that its earlier steps lead to; a path that is closed insists on a folder under its
last name, but such a folder can still be missing.

An absolute path stays inside the volume only if it begins with the volume's home.  Outside
there are folders, and nothing in them has a name: a path that leaves the volume without asking
for a name ends in a folder that counts as the top one, and any other leads nowhere.

A link may lead to links, and to itself.  A lookup follows at most forty of them, which is
also what bounds it: each step either uses up a piece of the path or one of the forty.
-/

namespace CoverageLink
namespace Files

/-- What a path leads to. -/
inductive Place
  | found (location : Location) (entry : Entry)
  /-- A free name; `closed` if the path insisted on a folder. -/
  | vacant (location : Location) (closed : Bool)
  deriving DecidableEq, Repr, Inhabited

/-- What is wanted of the last name of a path. -/
inductive Aim
  /-- What it leads to, through a link as well. -/
  | target
  /-- What it names; a link is followed only if the path is closed. -/
  | entry
  /-- A file, which a closed path cannot lead to; a link is followed. -/
  | file
  /-- The name itself, closed or not. -/
  | name
  deriving DecidableEq, Repr, Inhabited

/-- Whether a link under the last name of a path is followed. -/
def Aim.followsLink (aim : Aim) (closed : Bool) : Bool :=
  match aim with
  | target | file => true
  | entry => closed
  | name => false

/-- Whether something other than a folder will not do under the last name of a path. -/
def Aim.insistsOnFolder (aim : Aim) (closed : Bool) : Bool := closed && aim ≠ .name

/-- A folder that a lookup has come to. -/
structure Whereabouts where
  /-- The names that led there, the last one first. -/
  trail : List String
  /-- What lies in it. -/
  listing : Listing

namespace Whereabouts

/-- Where the folder is. -/
def location (here : Whereabouts) : Location := here.trail.reverse

/-- Where a name in the folder is. -/
def locate (here : Whereabouts) (name : String) : Location := (name :: here.trail).reverse

/-- The folder of a name in the folder. -/
def enter (here : Whereabouts) (name : String) (inside : Listing) : Whereabouts :=
  ⟨name :: here.trail, inside⟩

end Whereabouts

namespace Volume

/-- The folder that names lead to from the top, the last one first. -/
def folderOf (volume : Volume) (trail : List String) : Whereabouts :=
  ⟨trail, volume.listing.descend trail.reverse⟩

/-- The most links a lookup follows. -/
def maxLinks : Nat := 40

/-- The longest name, in octets. -/
def maxName : Nat := 255

/-- The longest path, in octets. -/
def maxPath : Nat := 4095

/-- Where a path starts, if it is read in a folder, and its steps from there.  A path that
starts elsewhere goes up from the top. -/
def departure (volume : Volume) (here : Whereabouts) (path : Path) : Whereabouts × List Step :=
  if volume.home.segments.isPrefixOf path.segments then
    (volume.folderOf [], Path.stepsOf (path.segments.drop volume.home.segments.length))
  else if path.isAbsolute then (volume.folderOf [], .up :: path.steps)
  else (here, path.steps)

/-- What steps above the top folder lead to. -/
def outside (steps : List Step) : Except HostError Place :=
  if steps.all (·.name?.isNone) then .ok (.found [] .folder) else .error .noEntry

/-- Follows the steps of a path from a folder.  `links` is the number of links that may be
followed, and `closed` says whether the path is. -/
def follow (volume : Volume) (aim : Aim) (links : Nat) (here : Whereabouts)
    (steps : List Step) (closed : Bool) : Except HostError Place :=
  match steps with
  | [] => .ok (.found here.location .folder)
  | .stay :: rest => follow volume aim links here rest closed
  | .up :: rest =>
    match here.trail with
    | [] => outside rest
    | _ :: above => follow volume aim links (volume.folderOf above) rest closed
  | .name name :: rest =>
    if rest.isEmpty && closed && aim = .file then .error .isADirectory
    else if maxName < name.utf8ByteSize then .error .nameTooLong
    else
      match here.listing.find? name with
      | none =>
        if rest.isEmpty then .ok (.vacant (here.locate name) closed) else .error .noEntry
      | some (.folder, inside) => follow volume aim links (here.enter name inside) rest closed
      | some (.file number contents, _) =>
        if rest.isEmpty && !aim.insistsOnFolder closed then
          .ok (.found (here.locate name) (.file number contents))
        else .error .notADirectory
      | some (.link target, _) =>
        if rest.isEmpty && !aim.followsLink closed then
          .ok (.found (here.locate name) (.link target))
        else
          match links with
          | 0 => .error .linkLoop
          | links + 1 =>
            let (here, steps) := volume.departure here target
            follow volume aim links here (steps ++ rest)
              (closed || rest.isEmpty && target.closed)
termination_by (links, steps.length)

/-- What a path leads to. -/
def place (volume : Volume) (aim : Aim) (path : Path) : Except Failure Place :=
  let text := path.text
  if text.toList.contains '\x00' then .error .nulInPath
  else if text.isEmpty then .error (.host .noEntry)
  else if maxPath < text.utf8ByteSize then .error (.host .nameTooLong)
  else
    let (here, steps) := volume.departure (volume.folderOf []) path
    match volume.follow aim maxLinks here steps path.closed with
    | .ok place => .ok place
    | .error refusal => .error (.host refusal)

/-- The entry that a path leads to, and where it is, links followed. -/
def entryAt (volume : Volume) (path : Path) : Except Failure (Location × Entry) :=
  match volume.place .target path with
  | .ok (.found location entry) => .ok (location, entry)
  | .ok (.vacant _ _) => .error (.host .noEntry)
  | .error failure => .error failure

/-- Where the folder is that a path leads to. -/
def folderAt (volume : Volume) (path : Path) : Except Failure Location :=
  match volume.entryAt path with
  | .ok (location, .folder) => .ok location
  | .ok _ => .error (.host .notADirectory)
  | .error failure => .error failure

/-- Whether a path leads to a folder. -/
def hasFolder (volume : Volume) (path : Path) : Bool := (volume.folderAt path).toOption.isSome

/-- The contents of the file that a path leads to. -/
def contentsAt (volume : Volume) (path : Path) : Except Failure Bytes :=
  match volume.entryAt path with
  | .ok (_, .file _ contents) => .ok contents
  | .ok _ => .error (.host .isADirectory)
  | .error failure => .error failure

/-- Entering a folder by its name comes to the folder that the names lead to. -/
theorem enter_folderOf {volume : Volume} {trail : List String} {name : String} {entry : Entry}
    {inside : Listing} (h : (volume.folderOf trail).listing.find? name = some (entry, inside)) :
    (volume.folderOf trail).enter name inside = volume.folderOf (name :: trail) := by
  have : (volume.listing.descend trail.reverse).find? name = some (entry, inside) := h
  simp [folderOf, Whereabouts.enter, Listing.descend_append, Listing.descend, this]

theorem follow_nil (volume : Volume) (aim : Aim) (links : Nat) (here : Whereabouts)
    (closed : Bool) :
    volume.follow aim links here [] closed = .ok (.found here.location .folder) := by
  rw [follow]

end Volume
end Files
end CoverageLink
