import CoverageLink.Artifact.Id
import CoverageLink.Collector.ExecutionFile
import CoverageLink.Collector.Naming
import CoverageLink.Files.Folder
import CoverageLink.KnownIds
import CoverageLink.ProjectInfo

/-!
# Where a collector keeps things

Every project has a folder of its own, two levels below the root of the store: the product,
then the project, each turned into one path component.  Artifacts lie in its subfolder
`classes`, under the names the agent gave them; files of execution data lie beside that.

An agent's name for an artifact is never trusted.  It is taken apart into the names it asks
for, and a name that is absolute, goes up or asks for nothing is refused
(`Files.Path.names?`) before anything is touched.

The store has no memory but the volume: what an agent need not send again
(`ProjectStore.knownIds`) is read off the folder.
-/

namespace CoverageLink
namespace Collector

open Files (Path Volume)

/-- The place of a store. -/
structure Store where
  root : Path
  deriving DecidableEq, Repr, Inhabited

/-- The place of a project in a store. -/
structure ProjectStore where
  folder : Path
  deriving DecidableEq, Repr, Inhabited

namespace ProjectStore

/-- The folder of the artifacts. -/
def classes (project : ProjectStore) : Path := project.folder.child "classes"

/-- The identifiers of everything in the folder of the artifacts that is no folder. -/
def knownIds (project : ProjectStore) (volume : Volume) : Except Failure KnownIds :=
  match volume.folderAt project.classes with
  | .error failure => .error failure
  | .ok top =>
    let names := (volume.below top).filterMap fun row =>
      if row.2 = .folder then none
      else some (Artifact.identifier (Text.join Path.separator row.1))
    .ok (.ofList names)

/-- Stores an artifact under an agent's name: where it was stored, and the volume. -/
def saveFile (project : ProjectStore) (name : String) (contents : Bytes) (volume : Volume) :
    Except Failure Path × Volume :=
  match (Path.ofText name).names? with
  | none => (.error (.refusedName name), volume)
  | some names =>
    match volume.makeFolders (project.classes.descend names.dropLast) with
    | (.error failure, volume) => (.error failure, volume)
    | (.ok (), volume) =>
      let path := project.classes.descend names
      match volume.putContents path contents with
      | (.error failure, volume) => (.error failure, volume)
      | (.ok (), volume) => (.ok path, volume)

/-- Begins a file of execution data. -/
def executionFile (project : ProjectStore) (label : String) (volume : Volume) :
    Except Failure ExecutionFile × Volume :=
  ExecutionFile.create (project.folder.child (component label ++ ".exec")) volume

end ProjectStore

namespace Store

/-- The place of a project; its folders are made if they are missing. -/
def project (store : Store) (info : ProjectInfo) (volume : Volume) :
    Except Failure ProjectStore × Volume :=
  let project : ProjectStore :=
    ⟨(store.root.child (component info.product)).child (component info.project)⟩
  match volume.makeFolders project.classes with
  | (.error failure, volume) => (.error failure, volume)
  | (.ok (), volume) => (.ok project, volume)

end Store

namespace ProjectStore

/-- A refused name leaves everything as it is. -/
theorem saveFile_of_names?_eq_none {project : ProjectStore} {name : String} {contents : Bytes}
    {volume : Volume} (h : (Path.ofText name).names? = none) :
    project.saveFile name contents volume = (.error (.refusedName name), volume) := by
  simp [saveFile, h]

end ProjectStore
end Collector
end CoverageLink
