import CoverageLink.Archive.Directory
import CoverageLink.Artifact.Filter
import CoverageLink.Artifact.Id
import CoverageLink.Files.Host
import CoverageLink.Files.Scratch
import CoverageLink.Log
import CoverageLink.Record
import CoverageLink.Text.Quoted
import CoverageLink.Wire.Field

/-!
# Sending the artifacts a collector does not have

A pass goes over everything an agent has to offer: for a request for all classes, the
archive of the application, and for every request the folder into which the running program
dumps its classes.  Files of a folder are offered in the order of their paths, depth first;
an archive among them is replaced by its members, in the order of its directory, and an
archive among those by its own members, down to a fixed depth.

What is offered (`Walk.offer`) has to pass the filter and must not be known to the collector;
only then is it read.  What cannot be read, is empty or is too large is passed over, and so is
whatever the host refuses on the way: to list a folder, to say what an entry is, to follow a
link, to open an archive, to make, fill or rewind a scratch file.  So nothing on the agent's
side makes a pass fail: the one failure there is comes from the receiver, and it ends the
pass at once.

How octets are read as an archive is a parameter (`Unpacker`), and so is the receiver.  What the
host says about its files is one as well (`Sync.host`); unless it is said otherwise, it answers
from the volume.  A pass changes nothing in the volume but its scratch files, one for every
archive inside an archive, each of which is gone when the pass is past that archive, whatever
the outcome.
-/

namespace CoverageLink
namespace Artifact

open Archive (Member)
open Files (Host Path Spot Volume)

/-- The members of an archive, or none if octets are no archive. -/
abbrev Unpacker := Bytes → Option (List Member)

/-- Takes a file that is sent. -/
abbrev Receiver (σ : Type) := String → Bytes → σ → Except Failure Unit × σ

/-- What a pass over the artifacts works with. -/
structure Sync where
  dumpFolder : Path
  archive : Option Path
  filter : Filter
  /-- The beginnings of names in archives that are never sent. -/
  denied : List String
  /-- Where nested archives are unpacked. -/
  scratch : Path
  /-- What the host says about its files, as long as they are like this. -/
  host : Volume → Host := Host.ofVolume

/-- What became of the artifacts of a pass. -/
structure Tally where
  sent : Nat
  known : Nat
  filtered : Nat
  deriving DecidableEq, Repr, Inhabited

/-- How far a pass has come. -/
structure Pass (σ : Type) where
  tally : Tally
  receiver : σ
  volume : Volume
  /-- What was logged, the last line first. -/
  log : List Log.Line

/-- A part of a pass; it fails only if the receiver does. -/
abbrev Walk (σ : Type) := ExceptT Failure (StateM (Pass σ))

/-- How deep archives may lie in archives, the outermost counted. -/
def maxNesting : Nat := 8

/-- The most octets of a file that is sent. -/
def maxContents : Nat := Wire.maxBlob

/-- Whether a name is that of an archive. -/
def isArchive (name : String) : Bool :=
  let lower := name.toList.map Char.toLower
  [".jar", ".war", ".zip"].any fun ending => ending.toList.isSuffixOf lower

/-- The name of a member without slashes in front. -/
def memberName (name : String) : String := String.ofList (name.toList.dropWhile (· = '/'))

namespace Sync

/-- Whether a name in an archive begins with something that is never sent. -/
def isDenied (sync : Sync) (name : String) : Bool :=
  sync.denied.any fun start => start.toList.isPrefixOf name.toList

/-- What the host says, which cannot tell how many files were made before. -/
def hostOf (sync : Sync) (volume : Volume) : Host := sync.host { volume with made := 0 }

/-- Makes the dump folder unless something is there: the volume as far as that got, and why it
went no further. -/
def provide (sync : Sync) (volume : Volume) : Except Failure Unit × Volume :=
  let host := sync.hostOf volume
  match host.follow ⟨sync.dumpFolder, []⟩, host.refusal? .makeFolders with
  | .ok _, _ => (.ok (), volume)
  | .error _, some failure => (.error failure, volume)
  | .error _, none => volume.makeFolders sync.dumpFolder

end Sync

namespace Walk

variable {σ : Type}

/-- Adds a line to the log. -/
def note (line : Log.Line) : Walk σ Unit :=
  modify fun pass => { pass with log := line :: pass.log }

/-- Counts something. -/
def count (change : Tally → Tally) : Walk σ Unit :=
  modify fun pass => { pass with tally := change pass.tally }

/-- Hands a file to the receiver. -/
def send (receive : Receiver σ) (name : String) (contents : Bytes) : Walk σ Unit := fun pass =>
  let (result, receiver) := receive name contents pass.receiver
  (result, { pass with receiver })

/-- Runs a part of the pass with a scratch file, which is removed in the end. -/
def withScratch (location : Files.Location) (volume : Volume) (part : Walk σ Unit) :
    Walk σ Unit := fun pass =>
  let (result, pass) := part { pass with volume }
  (result, { pass with volume := pass.volume.erase location })

/-- Offers an artifact; `load` gives its contents, or says why it cannot be read. -/
def offer (sync : Sync) (known : KnownIds) (receive : Receiver σ) (name : String)
    (load : Unit → Except String Bytes) : Walk σ Unit := do
  if !sync.filter.accepts name then
    count fun tally => { tally with filtered := tally.filtered + 1 }
  else if known.contains (identifier name) then
    count fun tally => { tally with known := tally.known + 1 }
  else
    match load () with
    | .error reason => note (Log.warn ("Failed to read '" ++ name ++ "': " ++ reason))
    | .ok contents =>
      if contents.isEmpty then pure ()
      else if maxContents < contents.length then
        note (Log.warn ("Skipping '" ++ name ++
          s!"': {maxContents + 1} bytes is too big to send"))
      else
        note (Log.trace ("Sending '" ++ name ++ s!"' ({contents.length} bytes)"))
        send receive name contents
        count fun tally => { tally with sent := tally.sent + 1 }

/-- The scratch copy of an archive in an archive, ready to be read, or what is logged if there
is none. -/
def copied (host : Host) (within : String) (contents : Except Archive.Fault Bytes) :
    Except String Bytes :=
  match host.refusal? (.copy within), contents, host.refusal? (.rewind within) with
  | some failure, _, _ => .error ("Failed to extract " ++ within ++ ": " ++ failure.message)
  | none, .error fault, _ => .error ("Failed to extract " ++ within ++ ": " ++ fault.message)
  | none, .ok _, some failure =>
    .error ("Failed to rewind the scratch copy of " ++ within ++ ": " ++ failure.message)
  | none, .ok contents, none => .ok contents

/-- A new scratch file: where it is, and its number. -/
def scratchFor (sync : Sync) (host : Host) (within : String) (volume : Volume) :
    Except Failure (Files.Location × Nat × Volume) :=
  match host.refusal? (.makeScratch within) with
  | some failure => .error failure
  | none => volume.makeScratch sync.scratch

/-- Goes into an archive in an archive, which is unpacked into a scratch file. -/
def nested (sync : Sync) (host : Host) (within : String)
    (contents : Except Archive.Fault Bytes) (inside : Bytes → Walk σ Unit) : Walk σ Unit := do
  match scratchFor sync host within (← get).volume with
  | .error failure =>
    note (Log.warn ("Not descending into " ++ within ++ ": no scratch file in " ++
      Text.quoted sync.scratch.text ++ ": " ++ failure.message))
  | .ok (location, number, volume) =>
    match copied host within contents with
    | .error reason => withScratch location volume (note (Log.warn reason))
    | .ok contents =>
      withScratch location (volume.put location (.file number contents)) (inside contents)

/-- Looks at a member of an archive.  `descend` goes into the archive that the member holds;
there is none if that would be too deep. -/
def member (sync : Sync) (known : KnownIds) (receive : Receiver σ) (host : Host)
    (label : String) (descend : Option (String → Bytes → Walk σ Unit)) (index : Nat)
    (member : Member) : Walk σ Unit := do
  let name := memberName member.name
  let within := label ++ "!/" ++ name
  match member.obstacle? with
  | some fault =>
    note (Log.warn (s!"Skipping entry #{index} of " ++ label ++ ": " ++ fault.message))
  | none =>
    if member.isFolder || sync.isDenied name then pure ()
    else if isArchive name then
      match descend with
      | none =>
        note (Log.warn ("Not descending into " ++ within ++ ": archives are nested too deep"))
      | some descend => nested sync host within member.contents (descend within)
    else if member.size = 0 then pure ()
    else offer sync known receive name fun _ => member.contents.mapError Archive.Fault.message

/-- Goes through the members of an archive.  `levels` is how many more levels of archives
may be gone into. -/
def archive (sync : Sync) (unpack : Unpacker) (known : KnownIds) (receive : Receiver σ)
    (host : Host) : Nat → String → Bytes → Walk σ Unit
  | levels, label, bytes =>
    match unpack bytes with
    | none =>
      note (Log.warn ("Skipping unreadable archive " ++ label ++ ": " ++
        Archive.Fault.noArchive.message))
    | some members => do
      note (Log.debug ("Walking archive " ++ label ++ s!" ({members.length} entries)"))
      let descend : Option (String → Bytes → Walk σ Unit) :=
        match levels with
        | 0 => none
        | levels + 1 => some (archive sync unpack known receive host levels)
      members.zipIdx.forM fun entry =>
        Walk.member sync known receive host label descend entry.2 entry.1
termination_by levels => levels

/-- Goes through the archive at a spot. -/
def archiveFile (sync : Sync) (unpack : Unpacker) (known : KnownIds) (receive : Receiver σ)
    (host : Host) (spot : Spot) : Walk σ Unit :=
  match host.open_ spot with
  | .error failure =>
    note (Log.warn ("Failed to open archive " ++ Text.quotedOctets spot.octets ++ ": " ++
      failure.message))
  | .ok (.error failure) =>
    note (Log.warn ("Skipping unreadable archive " ++ spot.text ++ ": i/o error: " ++
      failure.message))
  | .ok (.ok contents) =>
    archive sync unpack known receive host (maxNesting - 1) spot.text contents

/-- Looks at a file of a folder, or at what a link in it leads to. -/
def file (sync : Sync) (unpack : Unpacker) (known : KnownIds) (receive : Receiver σ)
    (host : Host) (spot : Spot) (size : Nat) : Walk σ Unit :=
  if size = 0 then pure ()
  else if isArchive spot.relative then archiveFile sync unpack known receive host spot
  else offer sync known receive spot.relative fun _ => host.load spot

/-- Looks at what a folder has; `inside` goes through it if it is a folder.  Links to files are
followed, and links to folders are not. -/
def entry (sync : Sync) (unpack : Unpacker) (known : KnownIds) (receive : Receiver σ)
    (host : Host) (spot : Spot) (inside : Walk σ Unit) : Walk σ Unit :=
  match host.look spot with
  | .error failure =>
    note (Log.warn ("Failed to stat " ++ Text.quotedOctets spot.octets ++ ": " ++
      failure.message))
  | .ok (some .folder) => inside
  | .ok (some (.other size)) => file sync unpack known receive host spot size
  | .ok none =>
    match host.follow spot with
    | .ok (.other size) => file sync unpack known receive host spot size
    | .ok .folder | .error _ => pure ()

/-- Goes through a folder, name by name, and through the folders in it. -/
def folder (sync : Sync) (unpack : Unpacker) (known : KnownIds) (receive : Receiver σ)
    (host : Host) (spot : Spot) : Walk σ Unit :=
  match _listed : host.names spot with
  | .error failure =>
    note (Log.warn ("Failed to list " ++ Text.quotedOctets spot.octets ++ ": " ++
      failure.message))
  | .ok names =>
    names.forM fun name =>
      entry sync unpack known receive host (spot.child name)
        (folder sync unpack known receive host (spot.child name))
termination_by Host.room spot
decreasing_by exact Host.room_child_lt _listed name

/-- Goes through the archive of the application, or the folder that is given as one. -/
def application (sync : Sync) (unpack : Unpacker) (known : KnownIds) (receive : Receiver σ)
    (path : Path) : Walk σ Unit := do
  let host := sync.hostOf (← get).volume
  match host.follow ⟨path, []⟩ with
  | .ok .folder => folder sync unpack known receive host ⟨path, []⟩
  | .ok (.other _) | .error _ => archiveFile sync unpack known receive host ⟨path, []⟩

/-- Makes the dump folder unless something is there. -/
def provideDumpFolder (sync : Sync) : Walk σ Unit := do
  let pass ← get
  let (result, volume) := sync.provide pass.volume
  set { pass with volume }
  match result with
  | .ok () => pure ()
  | .error failure =>
    note (Log.warn ("Failed to create " ++ Text.quoted sync.dumpFolder.text ++ ": " ++
      failure.message))

end Walk

namespace Sync

variable {σ : Type}

/-- A whole pass. -/
def walk (sync : Sync) (unpack : Unpacker) (request : PullRequest) (receive : Receiver σ) :
    Walk σ Unit := do
  match request.kind, sync.archive with
  | .classes, some path => Walk.application sync unpack request.known receive path
  | _, _ => pure ()
  Walk.provideDumpFolder sync
  let host := sync.hostOf (← get).volume
  Walk.folder sync unpack request.known receive host ⟨sync.dumpFolder, []⟩

/-- Sends what a request asks for: the tally unless the receiver failed, and how far the pass
came. -/
def run (sync : Sync) (unpack : Unpacker) (request : PullRequest) (receive : Receiver σ)
    (receiver : σ) (volume : Volume) : Except Failure Tally × Pass σ :=
  let (result, pass) := sync.walk unpack request receive ⟨⟨0, 0, 0⟩, receiver, volume, []⟩
  (result.map fun _ => pass.tally, pass)

end Sync
end Artifact
end CoverageLink
