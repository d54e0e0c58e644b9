import CoverageLink.Files.Folder
import CoverageLink.Files.Stream

/-!
# Scratch files

A scratch file is made under a name that nothing in its folder has, and is removed by whoever
made it.
-/

namespace CoverageLink
namespace Files
namespace Volume

/-- The names of scratch files, in the order in which they are tried. -/
def scratchName (number : Nat) : String := s!".tmp{number}"

/-- A name of a scratch file that is free in a folder. -/
def freeName? (volume : Volume) (folder : Location) : Option String :=
  ((List.range ((volume.namesIn folder).length + 1)).map scratchName).find? fun name =>
    (volume.at? (folder ++ [name])).isNone

/-- Makes a scratch file in the folder that a path leads to: where it is, and its number. -/
def makeScratch (volume : Volume) (path : Path) : Except Failure (Location × Nat × Volume) :=
  match volume.folderAt path with
  | .error failure => .error failure
  | .ok folder =>
    match volume.freeName? folder with
    | none => .error (.host .fileExists)
    | some name => .ok (folder ++ [name], volume.made, volume.putFile (folder ++ [name]))

theorem freeName?_free {volume : Volume} {folder : Location} {name : String}
    (h : volume.freeName? folder = some name) : volume.at? (folder ++ [name]) = none := by
  have := List.find?_some h
  simpa using this

end Volume
end Files
end CoverageLink
