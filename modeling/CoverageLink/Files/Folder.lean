import CoverageLink.Files.Lookup

/-!
# Making and removing folders and links

A folder is made inside one that exists (`Volume.makeFolder`), under a name: a path that ends
in a dot names nothing new.  `Volume.makeFolders` makes a folder together with the ones above
it that are missing, and is content with one that is there already: it tries the folder
itself first, so that the folders above are only looked at when one of them is missing.
-/

namespace CoverageLink
namespace Files
namespace Volume

/-- Makes a folder where nothing is. -/
def makeFolder (volume : Volume) (path : Path) : Except Failure Volume :=
  match volume.place .name path with
  | .ok (.vacant location _) => .ok (volume.put location .folder)
  | .ok (.found _ _) => .error (.host .fileExists)
  | .error failure => .error failure

/-- Makes a link where nothing is. -/
def makeLink (volume : Volume) (path target : Path) : Except Failure Volume :=
  match volume.place .name path with
  | .ok (.vacant location closed) =>
    if closed then .error (.host .noEntry) else .ok (volume.put location (.link target))
  | .ok (.found _ _) => .error (.host .fileExists)
  | .error failure => .error failure

/-- Makes a folder, or keeps the one that is there. -/
def ensureFolder (volume : Volume) (path : Path) : Except Failure Volume :=
  match volume.makeFolder path with
  | .ok volume => .ok volume
  | .error failure => if volume.hasFolder path then .ok volume else .error failure

/-- Makes a folder, or keeps the one that is there, and does the same with the folder above
if that one is missing.  Reports the volume as far as it got. -/
def makeFoldersAlong (volume : Volume) (path : Path) : Except Failure Unit × Volume :=
  match volume.ensureFolder path with
  | .ok volume => (.ok (), volume)
  | .error (.host .noEntry) =>
    match _h : path.parent? with
    | none => (.error (.host .noEntry), volume)
    | some parent =>
      match makeFoldersAlong volume parent with
      | (.error failure, volume) => (.error failure, volume)
      | (.ok (), volume) =>
        match volume.ensureFolder path with
        | .ok volume => (.ok (), volume)
        | .error failure => (.error failure, volume)
  | .error failure => (.error failure, volume)
termination_by path.segments.length
decreasing_by exact Path.length_parent?_lt _h

/-- Makes a folder and the folders above it, as far as they are missing. -/
def makeFolders (volume : Volume) (path : Path) : Except Failure Unit × Volume :=
  if path.text.isEmpty then (.ok (), volume) else volume.makeFoldersAlong path

/-- Removes what a path names, with everything below it. -/
def removeAll (volume : Volume) (path : Path) : Except Failure Volume :=
  match volume.place .entry path with
  | .ok (.found location _) => .ok (volume.erase location)
  | .ok (.vacant _ _) => .error (.host .noEntry)
  | .error failure => .error failure

end Volume
end Files
end CoverageLink
