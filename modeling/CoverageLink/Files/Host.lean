import CoverageLink.Files.Lookup
import CoverageLink.Text.Utf8

/-!
# What a host says about its files

A program that goes through folders does not see them.  It asks the host it runs on, one
question after the other: which names a folder has, what stands under a name, where a link
leads, what is in a file.  Any of these questions may be refused, for reasons that are the
host's alone, and a refusal at one place says nothing about the next.  `Host` is what a host
answers while a program goes through its files; `Host.ofVolume` answers from a volume.

A host does not know about texts.  A name is a string of octets (`HostName`) that need not be
UTF-8, and it is never empty, has no slash in it and is not one of the two names that lead
elsewhere.  Where such a name is shown, a replacement character stands for what is no text.

What a program has come to below a folder is a `Spot`: the path of the folder as it was
written, and the names from there.  A path has a greatest length (`Host.short`), so a walk
that goes down into the folders it finds comes to an end.
-/

namespace CoverageLink
namespace Files

/-- A name that a host has in a folder. -/
structure HostName where
  octets : Bytes
  proper : octets ≠ [] ∧ 0x2F ∉ octets ∧ octets ≠ [0x2E] ∧ octets ≠ [0x2E, 0x2E]
  deriving DecidableEq

namespace HostName

/-- The name of these octets, if they can be a name. -/
def ofOctets? (octets : Bytes) : Option HostName :=
  if proper : octets ≠ [] ∧ 0x2F ∉ octets ∧ octets ≠ [0x2E] ∧ octets ≠ [0x2E, 0x2E] then
    some ⟨octets, proper⟩
  else none

/-- The name that a text spells, if it is one. -/
def ofText? (text : String) : Option HostName := ofOctets? (Utf8.encode text)

/-- The text that a name spells, if it spells one. -/
def text? (name : HostName) : Option String := (Utf8.decode name.octets).toOption

/-- How a name is shown. -/
def shown (name : HostName) : String := Utf8.decodeLossy name.octets

end HostName

/-- What was come to below a folder. -/
structure Spot where
  /-- The folder, as its path was written. -/
  root : Path
  names : List HostName
  deriving DecidableEq

namespace Spot

/-- What has a name in the folder at a spot. -/
def child (spot : Spot) (name : HostName) : Spot := { spot with names := spot.names ++ [name] }

/-- Pieces of a path with a slash between any two. -/
def joined : List Bytes → Bytes
  | [] => []
  | [piece] => piece
  | piece :: pieces => piece ++ 0x2F :: joined pieces

/-- The path of a spot, in octets. -/
def octets (spot : Spot) : Bytes :=
  if spot.names.isEmpty then Utf8.encode spot.root.text
  else joined (spot.root.trunk.map Utf8.encode ++ spot.names.map HostName.octets)

/-- How the path of a spot is shown. -/
def text (spot : Spot) : String := Utf8.decodeLossy spot.octets

/-- The names of a spot, from the folder on, in one text. -/
def relative (spot : Spot) : String :=
  Text.join Path.separator (spot.names.map HostName.shown)

/-- The path of a spot, if all of its names are texts. -/
def path? (spot : Spot) : Option Path :=
  (spot.names.mapM HostName.text?).map spot.root.descend

end Spot

/-- What something is that is not a link. -/
inductive Nature
  | folder
  /-- Anything else, of so many octets. -/
  | other (size : Nat)
  deriving DecidableEq, Repr, Inhabited

/-- What a program asks of a host besides questions, in words that say for what. -/
inductive Chore
  | makeFolders
  /-- To make a scratch file for something. -/
  | makeScratch (purpose : String)
  /-- To copy something into its scratch file. -/
  | copy (purpose : String)
  /-- To go back to the beginning of a scratch file. -/
  | rewind (purpose : String)
  deriving DecidableEq, Repr

/-- What a host answers. -/
structure Host where
  /-- The names in a folder, in any order; one of them may be withheld. -/
  list : Spot → Except Failure (List (Option HostName))
  /-- What stands under a name, unless it is a link. -/
  look : Spot → Except Failure (Option Nature)
  /-- What a spot leads to, links followed. -/
  follow : Spot → Except Failure Nature
  /-- Opens a file, and reads it. -/
  open_ : Spot → Except Failure (Except Failure Bytes)
  /-- What a chore is refused with, if it is. -/
  refusal? : Chore → Option Failure
  /-- A path that is too long leads nowhere. -/
  short : ∀ spot listed, list spot = .ok listed → spot.octets.length ≤ Volume.maxPath

namespace Host

/-- The names of a folder in the order of their octets, without those that are withheld. -/
def names (host : Host) (spot : Spot) : Except Failure (List HostName) :=
  (host.list spot).map fun listed =>
    (listed.filterMap id).mergeSort fun name other => decide (name.octets ≤ other.octets)

/-- Opens a file and reads it, or says why that cannot be done. -/
def load (host : Host) (spot : Spot) : Except String Bytes :=
  match host.open_ spot with
  | .error failure | .ok (.error failure) => .error failure.message
  | .ok (.ok contents) => .ok contents

/-! ## Hosts that answer from a volume -/

section

variable (volume : Volume)

/-- Asks a volume about the path of a spot. -/
def ask {α : Type} (question : Path → Except Failure α) (spot : Spot) : Except Failure α :=
  if Volume.maxPath < spot.octets.length then .error (.host .nameTooLong)
  else
    match spot.path? with
    | some path => question path
    | none => .error (.host .noEntry)

/-- The names in the folder that a path leads to. -/
def listIn (path : Path) : Except Failure (List (Option HostName)) :=
  (volume.folderAt path).map fun top => (volume.namesIn top).map HostName.ofText?

/-- What an entry is, unless it is a link. -/
def natureOf? : Entry → Option Nature
  | .folder => some .folder
  | .file _ contents => some (.other contents.length)
  | .link _ => none

/-- What a path names. -/
def lookAt (path : Path) : Except Failure (Option Nature) :=
  match volume.place .entry path with
  | .ok (.found _ entry) => .ok (natureOf? entry)
  | .ok (.vacant _ _) => .error (.host .noEntry)
  | .error failure => .error failure

/-- What a path leads to. -/
def followTo (path : Path) : Except Failure Nature :=
  (volume.entryAt path).map fun row => (natureOf? row.2).getD .folder

/-- Opens what a path leads to; a folder can be opened, but not read. -/
def openAt (path : Path) : Except Failure (Except Failure Bytes) :=
  (volume.entryAt path).map fun row =>
    match row.2 with
    | .file _ contents => .ok contents
    | _ => .error (.host .isADirectory)

/-- A host on which everything in a volume can be read. -/
def ofVolume : Host where
  list := ask (listIn volume)
  look := ask (lookAt volume)
  follow := ask (followTo volume)
  open_ := ask (openAt volume)
  refusal? _ := none
  short spot listed answered := by
    unfold ask at answered
    split at answered
    · cases answered
    · exact Nat.not_lt.1 ‹_›

end

/-! ## How deep a host goes -/

theorem length_le_joined (pieces : List Bytes) :
    pieces.length ≤ (Spot.joined pieces).length + 1 := by
  fun_induction Spot.joined pieces with
  | case1 => exact Nat.zero_le _
  | case2 piece => simp
  | case3 piece pieces _ ih =>
    simp only [List.length_cons, List.length_append]
    omega

/-- There are no more names in a path than octets, and one. -/
theorem length_names_le (spot : Spot) : spot.names.length ≤ spot.octets.length + 1 := by
  unfold Spot.octets
  split
  · rename_i none_there
    rw [List.isEmpty_iff.1 none_there]
    exact Nat.zero_le _
  · have := length_le_joined (spot.root.trunk.map Utf8.encode ++ spot.names.map HostName.octets)
    rw [List.length_append, List.length_map, List.length_map] at this
    omega

/-- How many more names a path may have. -/
def room (spot : Spot) : Nat := Volume.maxPath + 2 - spot.names.length

/-- There is less room in a folder that was listed than for the folder. -/
theorem room_child_lt {host : Host} {spot : Spot} {names : List HostName}
    (listed : host.names spot = .ok names) (name : HostName) :
    room (spot.child name) < room spot := by
  obtain ⟨answer, answered⟩ : ∃ answer, host.list spot = .ok answer := by
    unfold Host.names at listed
    cases answered : host.list spot with
    | ok answer => exact ⟨answer, rfl⟩
    | error failure => rw [answered] at listed; cases listed
  have long := host.short spot answer answered
  have few := length_names_le spot
  simp only [room, Spot.child, List.length_append, List.length_singleton]
  omega

end Host
end Files
end CoverageLink
