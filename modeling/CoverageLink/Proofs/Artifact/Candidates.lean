import CoverageLink.Artifact.Sync
import CoverageLink.Proofs.Files.Host
import CoverageLink.Proofs.HandOver

/-!
# What there is to offer

A pass comes across candidates: names, with contents that can be read or not.  Which candidates
there are is a matter of what the host answers alone, and this file says it without a pass: as
lists, by recursion on the levels of archives in archives (`Sync.ofArchive`), and for a folder from
the files that one comes across there (`Files.Host.files`).

## 1.  What becomes of a candidate

The filter looks at the name, the collector's set at the identifier, and what is left is sent
if it has contents that can be sent (`Candidate.sendable?`).  `eligible` is the list of the files
that are sent, and `tallyOf` counts what becomes of the candidates.

## 2.  Where candidates come from

An archive gives the candidates of its members in the order of its directory.  A member is
passed over if it cannot be looked into, is a folder, is denied, or has no contents according to
the directory; a member that is named like an archive gives the candidates in it, and none if it
lies too deep, if it cannot be unpacked, or if the host refuses a scratch file, to fill it or to go
back to its beginning.

A folder gives a candidate for each of its files, under the names that lead there, readable or not;
but a file that is named like an archive gives the candidates in it, and none if it cannot be
opened and read.
-/

namespace CoverageLink
namespace Artifact

open Archive (Member)
open Files (Chore Host Path Spot Volume)

/-- Something that a pass comes across. -/
structure Candidate where
  name : String
  /-- The contents, or why they cannot be read. -/
  contents : Except String Bytes
  deriving Inhabited

/-- A file that is sent: its name and its contents. -/
abbrev Sent := String × Bytes

/-! ## 1.  What becomes of a candidate -/

namespace Candidate

/-- Whether the filter lets a candidate through. -/
def accepted (filter : Filter) (candidate : Candidate) : Bool := filter.accepts candidate.name

/-- Whether the collector has a candidate. -/
def stored (known : KnownIds) (candidate : Candidate) : Bool :=
  known.contains (identifier candidate.name)

/-- The contents of a candidate, if they can be sent: they can be read, and are neither empty nor
too large. -/
def sendable? (candidate : Candidate) : Option Bytes :=
  match candidate.contents with
  | .ok contents =>
    if contents ≠ [] ∧ contents.length ≤ maxContents then some contents else none
  | .error _ => none

/-- The file that is sent for a candidate. -/
def file? (candidate : Candidate) : Option Sent :=
  candidate.sendable?.map fun contents => (candidate.name, contents)

section

variable {name : String} {contents : Bytes}

theorem file?_error (name reason : String) : file? ⟨name, .error reason⟩ = none := rfl

theorem file?_of_empty (empty : contents.isEmpty = true) : file? ⟨name, .ok contents⟩ = none := by
  simp [file?, sendable?, List.isEmpty_iff.1 empty]

theorem file?_of_large (large : maxContents < contents.length) :
    file? ⟨name, .ok contents⟩ = none := by
  simp [file?, sendable?, Nat.not_le.2 large]

theorem file?_of_fits (full : ¬contents.isEmpty = true) (fits : contents.length ≤ maxContents) :
    file? ⟨name, .ok contents⟩ = some (name, contents) := by
  simp [file?, sendable?, fits, mt List.isEmpty_iff.2 full]

end

end Candidate

/-- The files that are sent: for the candidates that pass the filter and that the collector does
not have, as far as they have contents that can be sent. -/
def eligible (filter : Filter) (known : KnownIds) (candidates : List Candidate) : List Sent :=
  (candidates.filter fun candidate =>
    candidate.accepted filter && !candidate.stored known).filterMap Candidate.file?

/-- What becomes of candidates, counted. -/
def tallyOf (filter : Filter) (known : KnownIds) (candidates : List Candidate) : Tally where
  sent := (eligible filter known candidates).length
  known := candidates.countP fun candidate => candidate.accepted filter && candidate.stored known
  filtered := candidates.countP fun candidate => !candidate.accepted filter

namespace Tally

instance : Add Tally where
  add first second :=
    ⟨first.sent + second.sent, first.known + second.known, first.filtered + second.filtered⟩

theorem add_def (first second : Tally) :
    first + second =
      ⟨first.sent + second.sent, first.known + second.known, first.filtered + second.filtered⟩ :=
  rfl

theorem add_assoc (first second third : Tally) :
    first + second + third = first + (second + third) := by
  simp only [add_def, Nat.add_assoc]

theorem zero_add (tally : Tally) : ⟨0, 0, 0⟩ + tally = tally := by
  simp only [add_def, Nat.zero_add]

end Tally

section

variable (filter : Filter) (known : KnownIds)

theorem eligible_append (first second : List Candidate) :
    eligible filter known (first ++ second) =
      eligible filter known first ++ eligible filter known second := by
  simp [eligible]

theorem tallyOf_append (first second : List Candidate) :
    tallyOf filter known (first ++ second) =
      tallyOf filter known first + tallyOf filter known second := by
  simp [tallyOf, Tally.add_def, eligible_append, List.countP_append]

/-- **What is sent can be sent**: it is neither empty nor too large. -/
theorem fits_of_mem_eligible {filter : Filter} {known : KnownIds} {candidates : List Candidate}
    {file : Sent} (h : file ∈ eligible filter known candidates) :
    file.2 ≠ [] ∧ file.2.length ≤ maxContents := by
  obtain ⟨candidate, -, made⟩ := List.mem_filterMap.1 h
  obtain ⟨contents, sendable, rfl⟩ := Option.map_eq_some_iff.1 made
  unfold Candidate.sendable? at sendable
  split at sendable
  · split at sendable
    · rename_i fits
      cases sendable
      exact fits
    · cases sendable
  · cases sendable

theorem contents_ne_nil_of_mem_eligible {filter : Filter} {known : KnownIds}
    {candidates : List Candidate} {file : Sent} (h : file ∈ eligible filter known candidates) :
    file.2 ≠ [] :=
  (fits_of_mem_eligible h).1

variable {filter} (candidate : Candidate)

/-- A candidate that the filter rejects is counted as such, known or not. -/
theorem fate_of_rejected (rejected : candidate.accepted filter = false) :
    eligible filter known [candidate] = [] ∧ tallyOf filter known [candidate] = ⟨0, 0, 1⟩ := by
  simp [tallyOf, eligible, rejected]

/-- An accepted candidate that the collector has is counted as such, readable or not. -/
theorem fate_of_stored (accepted : candidate.accepted filter = true)
    (stored : candidate.stored known = true) :
    eligible filter known [candidate] = [] ∧ tallyOf filter known [candidate] = ⟨0, 1, 0⟩ := by
  simp [tallyOf, eligible, accepted, stored]

/-- Any other candidate is sent if it can be. -/
theorem fate_of_wanted (accepted : candidate.accepted filter = true)
    (wanted : candidate.stored known = false) :
    eligible filter known [candidate] = candidate.file?.toList ∧
      tallyOf filter known [candidate] = ⟨candidate.file?.toList.length, 0, 0⟩ := by
  cases file : candidate.file? <;> simp [tallyOf, eligible, accepted, wanted, file]

end

/-- Hands files to a receiver. -/
def deliver {σ : Type} (receive : Receiver σ) : List Sent → σ → Except Failure Unit × σ :=
  handOver fun file => receive file.1 file.2

/-! ## 2.  Where candidates come from -/

/-- Whether a host gives a scratch file for something, and lets it be filled and read again. -/
def unpacks (host : Host) (within : String) : Bool :=
  [Chore.makeScratch within, .copy within, .rewind within].all fun chore =>
    (host.refusal? chore).isNone

theorem unpacks_iff {host : Host} {within : String} :
    unpacks host within = true ↔ host.refusal? (.makeScratch within) = none ∧
      host.refusal? (.copy within) = none ∧ host.refusal? (.rewind within) = none := by
  simp [unpacks]

namespace Sync

section

variable (sync : Sync) (unpack : Unpacker) (host : Host)

/-- The candidates of a member of an archive.  `descend` gives those of the archive that the
member holds, unless it is not gone into. -/
def ofMember (label : String) (descend : Option (String → Bytes → List Candidate))
    (member : Member) : List Candidate :=
  let name := memberName member.name
  let within := label ++ "!/" ++ name
  if member.obstacle?.isSome || member.isFolder || sync.isDenied name then []
  else if isArchive name then
    match descend with
    | some descend =>
      if unpacks host within then member.contents.toOption.elim [] (descend within) else []
    | none => []
  else if member.size = 0 then []
  else [⟨name, member.contents.mapError Archive.Fault.message⟩]

/-- The candidates of an archive.  `scratch` says whether there is a place to unpack to, and
`levels` how many more levels of archives may be gone into. -/
def ofArchive (scratch : Bool) : (levels : Nat) → (label : String) → Bytes → List Candidate
  | 0, label, bytes => ((unpack bytes).getD []).flatMap (ofMember sync host label none)
  | levels + 1, label, bytes =>
    ((unpack bytes).getD []).flatMap <|
      ofMember sync host label (if scratch then some (ofArchive scratch levels) else none)

/-- The candidates of the archive at a spot. -/
def ofArchiveFile (scratch : Bool) (spot : Spot) : List Candidate :=
  match host.load spot with
  | .ok contents => ofArchive sync unpack host scratch (maxNesting - 1) spot.text contents
  | .error _ => []

/-- The candidates of a file of a folder. -/
def ofFile (scratch : Bool) (spot : Spot) : List Candidate :=
  if isArchive spot.relative then ofArchiveFile sync unpack host scratch spot
  else [⟨spot.relative, host.load spot⟩]

/-- The candidates of a folder and of the folders in it. -/
def ofFolder (scratch : Bool) (spot : Spot) : List Candidate :=
  (host.files spot).flatMap (ofFile sync unpack host scratch)

/-- The candidates of the archive that a path leads to, or of the folder if it leads to one. -/
def ofApplication (scratch : Bool) (path : Path) : List Candidate :=
  if host.follow ⟨path, []⟩ = .ok .folder then ofFolder sync unpack host scratch ⟨path, []⟩
  else ofArchiveFile sync unpack host scratch ⟨path, []⟩

end

section

variable (sync : Sync) (unpack : Unpacker)

/-- The volume with the dump folder, which is made unless something is there. -/
def provided (volume : Volume) : Volume := (sync.provide volume).2

/-- The archive of the application, if a request is for all classes. -/
def applicationFor : PullKind → Option Path
  | .classes => sync.archive
  | .runningClasses => none

/-- **What there is to offer**: for a request for all classes the candidates of the application,
and then those of the dump folder. -/
def candidates (kind : PullKind) (volume : Volume) : List Candidate :=
  let ready := sync.provided volume
  ((sync.applicationFor kind).elim []
      (ofApplication sync unpack (sync.hostOf volume) (volume.hasFolder sync.scratch))) ++
    ofFolder sync unpack (sync.hostOf ready) (ready.hasFolder sync.scratch) ⟨sync.dumpFolder, []⟩

end

end Sync
end Artifact
end CoverageLink
