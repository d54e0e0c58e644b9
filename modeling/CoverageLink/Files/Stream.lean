import CoverageLink.Files.Lookup

/-!
# Writing to files

A file is opened under a path and from then on known by its number.  Opening makes the file
if its name is free, and may empty it if it is there (`Opening`).  What is written replaces
what was at the same offset; a gap between the end of the file and the offset is filled
with zeros.  Writing to a file that was deleted in the meantime succeeds and shows nowhere.
-/

namespace CoverageLink
namespace Files

/-- What becomes of the contents of a file that is opened for writing. -/
inductive Opening
  | emptied
  | kept
  deriving DecidableEq, Repr, Inhabited

/-- Octets with others written over them from an offset on. -/
def overwrite (contents : Bytes) (offset : Nat) (bytes : Bytes) : Bytes :=
  contents.take offset ++ List.replicate (offset - contents.length) 0 ++ bytes ++
    contents.drop (offset + bytes.length)

namespace Volume

/-- Opens a file for writing: its number, and how long it is. -/
def openFile (volume : Volume) (opening : Opening) (path : Path) :
    Except Failure (Nat × Nat) × Volume :=
  match volume.place .file path with
  | .error failure => (.error failure, volume)
  | .ok (.vacant location _) => (.ok (volume.made, 0), volume.putFile location)
  | .ok (.found _ (.file number contents)) =>
    match opening with
    | .emptied => (.ok (number, 0), volume.alterFile number fun _ => [])
    | .kept => (.ok (number, contents.length), volume)
  | .ok (.found _ _) => (.error (.host .isADirectory), volume)

/-- Writes to a file from an offset on. -/
def writeAt (volume : Volume) (number offset : Nat) (bytes : Bytes) : Volume :=
  volume.alterFile number fun contents => overwrite contents offset bytes

/-- Writes to the end of a file. -/
def append (volume : Volume) (number : Nat) (bytes : Bytes) : Volume :=
  volume.alterFile number fun contents => contents ++ bytes

/-- Makes a file hold these octets and no others. -/
def putContents (volume : Volume) (path : Path) (bytes : Bytes) : Except Failure Unit × Volume :=
  match volume.openFile .emptied path with
  | (.error failure, volume) => (.error failure, volume)
  | (.ok (number, _), volume) => (.ok (), volume.writeAt number 0 bytes)

/-- Moves a file or link to another name, instead of a file or link that is there. -/
def moveFile (volume : Volume) (source target : Path) : Except Failure Volume :=
  match volume.place .entry source, volume.place .entry target with
  | .error failure, _ => .error failure
  | .ok (.vacant _ _), _ => .error (.host .noEntry)
  | _, .error failure => .error failure
  | .ok (.found _ .folder), _ => .error (.host .isADirectory)
  | _, .ok (.found _ .folder) => .error (.host .isADirectory)
  | _, .ok (.vacant _ true) => .error (.host .notADirectory)
  | .ok (.found old entry), .ok (.vacant new false) | .ok (.found old entry), .ok (.found new _) =>
    .ok (if old = new then volume else (volume.erase old).put new entry)

@[simp] theorem overwrite_nil_zero (bytes : Bytes) : overwrite [] 0 bytes = bytes := by
  simp [overwrite]

end Volume
end Files
end CoverageLink
