import CoverageLink.Proofs.Artifact.Candidates
import CoverageLink.Proofs.Files.Scratch

/-!
# A pass offers its candidates

A pass is a walk that counts, logs, makes scratch files and may be ended by its receiver at any
point.  What it comes to is the same as handing the eligible candidates to the receiver one after
the other (`Sync.run_delivers`).

## 1.  Offering

`Walk.Offers` is the law that every part of a pass obeys, for the candidates it comes across: it
delivers the eligible ones until the receiver fails, counts all of them if the receiver does not
fail, and leaves the tree as it was either way.  Parts that come one after the other offer
candidates that come one after the other (`Offers.bind`), and so the law goes through loops
(`Offers.forM`) without a word about failures.

## 2.  Archives

The law for archives in archives is an induction on the levels.  The archive that a member holds is
walked in another volume, with the scratch file in it, so the induction is for all volumes
at once.  There is still a place for scratch files in that one, because no path that led to a folder
leads elsewhere, and when the scratch file is gone the tree is the old one.

## 3.  Folders

A pass asks the host what is under a name before it goes there, and whatever the host refuses is
passed over.  The law for a folder is an induction on the room that is left in its path.

## 4.  The whole pass

`run_delivers` is for every receiver.  `run_of_unfailing` is for one that never fails, and so says
exactly which files are sent and what is counted.

## 5.  Passes without an application

There is nothing to offer then but what is in the dump folder (`candidates_of_dump`), and if no file
there is named like an archive, each of them is a candidate (`ofFolder_of_plain`).

## 6.  The number of files made

Scratch files are numbered through, and a pass leaves that number behind.  Nothing that is offered
depends on it.
-/

namespace CoverageLink
namespace Artifact

open Archive (Member)
open Files (Chore Entry Host HostName Location Path Spot Volume)

namespace Sync

@[simp] theorem hostOf_renumber (sync : Sync) (volume : Volume) (made : Nat) :
    sync.hostOf (volume.renumber made) = sync.hostOf volume :=
  rfl

theorem provide_renumber (sync : Sync) (volume : Volume) (made : Nat) :
    sync.provide (volume.renumber made) =
      ((sync.provide volume).1, (sync.provide volume).2.renumber made) := by
  simp only [provide, hostOf_renumber, Volume.makeFolders_renumber]
  cases (sync.hostOf volume).follow ⟨sync.dumpFolder, []⟩ <;>
    cases (sync.hostOf volume).refusal? .makeFolders <;> rfl

end Sync

namespace Walk

variable {σ : Type}

/-! ## 1.  Offering -/

section

variable {α β : Type}

theorem bind_apply (walk : Walk σ α) (next : α → Walk σ β) (pass : Pass σ) :
    (walk >>= next) pass =
      match walk pass with
      | (.ok value, pass) => next value pass
      | (.error failure, pass) => (.error failure, pass) := by
  simp only [bind, ExceptT.bind, ExceptT.mk, StateT.bind]
  rcases walk pass with ⟨_ | _, _⟩ <;> rfl

end

/-- What a part of a pass has come to that offered these candidates. -/
structure Offered (sync : Sync) (known : KnownIds) (receive : Receiver σ) (volume : Volume)
    (candidates : List Candidate) (pass : Pass σ) (outcome : Except Failure Unit × Pass σ) :
    Prop where
  /-- The receiver was handed the eligible candidates until it failed. -/
  delivered : (outcome.1, outcome.2.receiver) =
    deliver receive (eligible sync.filter known candidates) pass.receiver
  /-- If it did not, all candidates were counted. -/
  counted : outcome.1 = .ok () →
    outcome.2.tally = pass.tally + tallyOf sync.filter known candidates
  /-- The tree is that of the volume. -/
  restored : ∃ made, outcome.2.volume = volume.renumber made

/-- A part of a pass offers these candidates if it goes through this volume. -/
def Offers (sync : Sync) (known : KnownIds) (receive : Receiver σ) (volume : Volume)
    (walk : Walk σ Unit) (candidates : List Candidate) : Prop :=
  ∀ (pass : Pass σ) (made : Nat), pass.volume = volume.renumber made →
    Offered sync known receive volume candidates pass (walk pass)

section

variable {sync : Sync} {known : KnownIds} {receive : Receiver σ} {volume : Volume}

/-- Of two parts the second one goes on where the first one ended, unless the receiver failed.  If
it did, nothing happens to the tree any more. -/
theorem Offered.bind {after : Volume} {walk : Walk σ Unit} {next : Unit → Walk σ Unit}
    {first second : List Candidate} {pass : Pass σ}
    (h : Offered sync known receive volume first pass (walk pass))
    (h' : ∀ middle, walk pass = (.ok (), middle) →
      Offered sync known receive after second middle (next () middle))
    (stays : (walk pass).1 ≠ .ok () → after = volume) :
    Offered sync known receive after (first ++ second) pass ((walk >>= next) pass) := by
  rw [bind_apply]
  generalize walk pass = outcome at h h' stays
  obtain ⟨result, middle⟩ := outcome
  obtain ⟨delivered, counted, restored⟩ := h
  cases result with
  | error failure =>
    obtain rfl := stays nofun
    refine ⟨?_, nofun, restored⟩
    rw [eligible_append, deliver, handOver_append, ← deliver, ← delivered]
  | ok =>
    obtain ⟨delivered', counted', restored'⟩ := h' middle rfl
    refine ⟨?_, fun ok => ?_, restored'⟩
    · rw [eligible_append, deliver, handOver_append, ← deliver, ← delivered]
      exact delivered'
    · rw [counted' ok, counted rfl, tallyOf_append, Tally.add_assoc]

namespace Offers

theorem pure : Offers sync known receive volume (Pure.pure ()) [] :=
  fun _ made same => ⟨rfl, fun _ => rfl, made, same⟩

theorem note (line : Log.Line) : Offers sync known receive volume (note line) [] :=
  fun _ made same => ⟨rfl, fun _ => rfl, made, same⟩

/-- Parts that come one after the other. -/
theorem bind {walk : Walk σ Unit} {next : Unit → Walk σ Unit} {first second : List Candidate}
    (h : Offers sync known receive volume walk first)
    (h' : Offers sync known receive volume (next ()) second) :
    Offers sync known receive volume (walk >>= next) (first ++ second) := by
  intro pass made same
  have offered := h pass made same
  refine offered.bind (fun middle ok => ?_) fun _ => rfl
  obtain ⟨last, restored⟩ := offered.restored
  rw [ok] at restored
  exact h' middle last restored

/-- A loop. -/
theorem forM {α : Type} {items : List α} {part : α → Walk σ Unit} {offered : α → List Candidate}
    (h : ∀ item ∈ items, Offers sync known receive volume (part item) (offered item)) :
    Offers sync known receive volume (items.forM part) (items.flatMap offered) := by
  induction items with
  | nil => exact pure
  | cons item items ih =>
    rw [List.flatMap_cons]
    exact bind (h item List.mem_cons_self) (ih fun other hother =>
      h other (List.mem_cons_of_mem _ hother))

/-- A part that begins with a look at the volume. -/
theorem look {next : Pass σ → Walk σ Unit} {candidates : List Candidate}
    (h : ∀ (pass : Pass σ) (made : Nat), pass.volume = volume.renumber made →
      Offers sync known receive volume (next pass) candidates) :
    Offers sync known receive volume (get >>= next) candidates :=
  fun pass made same => h pass made same pass made same

/-- A part that only counts offers what is counted like that and not sent. -/
theorem count {change : Tally → Tally} {candidates : List Candidate}
    (counted : ∀ tally, change tally = tally + tallyOf sync.filter known candidates)
    (none_sent : eligible sync.filter known candidates = []) :
    Offers sync known receive volume (count change) candidates := by
  intro pass made same
  refine ⟨?_, fun _ => counted pass.tally, made, same⟩
  rw [none_sent]
  rfl

/-- Candidates that are neither sent nor counted are as good as none. -/
theorem of_none {walk : Walk σ Unit} {candidates : List Candidate}
    (h : Offers sync known receive volume walk [])
    (none_sent : eligible sync.filter known candidates = [])
    (none_counted : tallyOf sync.filter known candidates = ⟨0, 0, 0⟩) :
    Offers sync known receive volume walk candidates := by
  intro pass made same
  obtain ⟨delivered, counted, restored⟩ := h pass made same
  refine ⟨?_, fun ok => ?_, restored⟩
  · rw [none_sent]
    exact delivered
  · rw [none_counted]
    exact counted ok

/-- A file is sent and counted. -/
theorem send {line : Log.Line} {name : String} {contents : Bytes} {candidates : List Candidate}
    (sent : eligible sync.filter known candidates = [(name, contents)])
    (counted : tallyOf sync.filter known candidates = ⟨1, 0, 0⟩) :
    Offers sync known receive volume
      (do
        Walk.note line
        Walk.send receive name contents
        Walk.count fun tally => { tally with sent := tally.sent + 1 })
      candidates := by
  intro pass made same
  have noted : (Walk.note line : Walk σ Unit) pass =
      (.ok (), { pass with log := line :: pass.log }) := rfl
  rw [bind_apply, noted]
  simp only
  rw [bind_apply, Walk.send]
  simp only
  have one : deliver receive [(name, contents)] pass.receiver =
      receive name contents pass.receiver := handOver_singleton _ _ _
  rcases received : receive name contents pass.receiver with ⟨result, receiver⟩
  rw [received] at one
  cases result with
  | error failure => exact ⟨by rw [sent, one], fun ok => (by cases ok), made, same⟩
  | ok => exact ⟨by rw [sent, one]; rfl, fun _ => by rw [counted]; rfl, made, same⟩

end Offers

/-- **A candidate is offered**: the filter comes first, then the collector's set, and only then the
contents. -/
theorem offers_offer (name : String) (load : Unit → Except String Bytes) :
    Offers sync known receive volume (offer sync known receive name load) [⟨name, load ()⟩] := by
  unfold offer
  cases accepted : sync.filter.accepts name with
  | false =>
    obtain ⟨files, one⟩ := fate_of_rejected known ⟨name, load ()⟩ accepted
    exact .count (fun tally => by rw [one]) files
  | true =>
    cases stored : known.contains (identifier name) with
    | true =>
      obtain ⟨files, one⟩ := fate_of_stored known ⟨name, load ()⟩ accepted stored
      exact .count (fun tally => by rw [one]) files
    | false =>
      obtain ⟨files, one⟩ := fate_of_wanted known ⟨name, load ()⟩ accepted stored
      cases read : load () with
      | error reason =>
        rw [read, Candidate.file?_error] at one files
        exact .of_none (.note _) files one
      | ok contents =>
        rw [read] at one files
        by_cases empty : contents.isEmpty = true
        · rw [Candidate.file?_of_empty empty] at one files
          simp only [empty]
          exact .of_none .pure files one
        · by_cases large : maxContents < contents.length
          · rw [Candidate.file?_of_large large] at one files
            simp only [empty, large]
            exact .of_none (.note _) files one
          · rw [Candidate.file?_of_fits empty (Nat.not_lt.1 large)] at one files
            simp only [empty, large]
            exact .send files one

/-! ## 2.  Archives -/

/-- A part of a pass with a scratch file offers what it offers in the volume with that file. -/
theorem Offers.withScratch {folder : Location} {name : String} {entry : Entry}
    {part : Walk σ Unit} {candidates : List Candidate}
    (there : volume.at? folder = some .folder) (free : volume.at? (folder ++ [name]) = none)
    (h : Offers sync known receive (volume.put (folder ++ [name]) entry) part candidates)
    (made : Nat) :
    Offers sync known receive volume
      (Walk.withScratch (folder ++ [name]) ((volume.put (folder ++ [name]) entry).renumber made)
        part) candidates := by
  intro pass _ _
  obtain ⟨delivered, counted, last, restored⟩ := h
    { pass with volume := (volume.put (folder ++ [name]) entry).renumber made } made rfl
  refine ⟨delivered, counted, last, ?_⟩
  show Volume.erase (part _).2.volume (folder ++ [name]) = _
  rw [restored, Volume.erase_renumber, Volume.erase_put there free]

/-- A copy is made of what can be read, if the host lets it be made and read again. -/
theorem copied_eq_ok_iff {host : Host} {within : String} {held : Except Archive.Fault Bytes}
    {contents : Bytes} : copied host within held = .ok contents ↔
      host.refusal? (.copy within) = none ∧ host.refusal? (.rewind within) = none ∧
        held = .ok contents := by
  unfold copied
  cases host.refusal? (.copy within) <;> cases held <;> cases host.refusal? (.rewind within) <;>
    simp

/-- There is a scratch file if the host does not refuse it and there is a folder to make it in. -/
theorem scratchFor_cases (sync : Sync) (host : Host) (within : String) (volume : Volume) :
    (∃ failure, scratchFor sync host within volume = .error failure ∧
      ¬(volume.hasFolder sync.scratch = true ∧ host.refusal? (.makeScratch within) = none)) ∨
    ∃ folder name, volume.folderAt sync.scratch = .ok folder ∧
      volume.at? (folder ++ [name]) = none ∧ host.refusal? (.makeScratch within) = none ∧
      scratchFor sync host within volume =
        .ok (folder ++ [name], volume.made, volume.putFile (folder ++ [name])) := by
  unfold scratchFor
  cases refused : host.refusal? (.makeScratch within) with
  | some failure => exact .inl ⟨failure, rfl, fun made => by cases made.2⟩
  | none =>
    cases there : volume.folderAt sync.scratch with
    | error failure =>
      refine .inl ⟨failure, Volume.makeScratch_of_error there, fun made => ?_⟩
      rw [Volume.hasFolder, there] at made
      cases made.1
    | ok folder =>
      obtain ⟨name, free, scratched⟩ := Volume.makeScratch_of_folderAt there
      exact .inr ⟨folder, name, rfl, free, rfl, scratched⟩

/-- An archive in an archive is gone into if there is a place to unpack it to and the host lets it
be unpacked. -/
theorem offers_nested (host : Host) (within : String) (held : Except Archive.Fault Bytes)
    {inside : Bytes → Walk σ Unit} {inner : Bytes → List Candidate}
    (deeper : ∀ (other : Volume) (contents : Bytes), other.hasFolder sync.scratch = true →
      Offers sync known receive other (inside contents) (inner contents)) :
    Offers sync known receive volume (nested sync host within held inside)
      (if volume.hasFolder sync.scratch ∧ unpacks host within then
        held.toOption.elim [] inner else []) := by
  refine .look fun pass made same => ?_
  rw [same]
  rcases scratchFor_cases sync host within (volume.renumber made) with
    ⟨failure, failed, refused⟩ | ⟨folder, name, there, free, given, scratched⟩
  · rw [failed, if_neg fun both => refused ⟨?_, (unpacks_iff.1 both.2).1⟩]
    · exact .note _
    · rw [Volume.hasFolder_renumber]
      exact both.1
  replace free : volume.at? (folder ++ [name]) = none := free
  rw [Volume.folderAt_renumber] at there
  have folder_there := Volume.at?_of_folderAt there
  rw [scratched]
  simp only [Volume.made_renumber]
  cases copied_one : copied host within held with
  | error reason =>
    have nothing : (if volume.hasFolder sync.scratch ∧ unpacks host within then
        held.toOption.elim [] inner else []) = [] := by
      split
      · rename_i both
        obtain ⟨-, copies, rewinds⟩ := unpacks_iff.1 both.2
        cases held with
        | error fault => rfl
        | ok contents =>
          cases copied_one.symm.trans (copied_eq_ok_iff.2 ⟨copies, rewinds, rfl⟩)
      · rfl
    rw [nothing]
    exact Offers.withScratch folder_there free (.note _) (made + 1)
  | ok contents =>
    obtain ⟨copies, rewinds, rfl⟩ := copied_eq_ok_iff.1 copied_one
    have all : volume.hasFolder sync.scratch = true ∧ unpacks host within = true := by
      rw [Volume.hasFolder, there]
      exact ⟨rfl, unpacks_iff.2 ⟨given, copies, rewinds⟩⟩
    rw [if_pos all]
    simp only
    rw [Volume.put_putFile]
    have still := Volume.hasFolder_put there free (.file made contents)
    exact Offers.withScratch folder_there free (deeper _ contents still) (made + 1)

theorem offers_member (host : Host) (label : String)
    {descend : Option (String → Bytes → Walk σ Unit)}
    (inner : String → Bytes → List Candidate)
    (deeper : ∀ go ∈ descend, ∀ (other : Volume) (label : String) (contents : Bytes),
      other.hasFolder sync.scratch = true →
        Offers sync known receive other (go label contents) (inner label contents))
    (index : Nat) (member : Member) :
    Offers sync known receive volume
      (Walk.member sync known receive host label descend index member)
      (sync.ofMember host label
        (if descend.isSome && volume.hasFolder sync.scratch then some inner else none) member) := by
  unfold Walk.member Sync.ofMember
  cases member.obstacle? with
  | some fault => exact .note _
  | none =>
    by_cases skipped : (member.isFolder || sync.isDenied (memberName member.name)) = true
    · simp only [skipped, Option.isSome_none, Bool.false_or, if_true]
      exact .pure
    simp only [skipped, Option.isSome_none, Bool.false_or, Bool.false_eq_true, if_false]
    by_cases archive : isArchive (memberName member.name) = true
    · simp only [archive, if_true]
      cases descend with
      | none => exact .note _
      | some go =>
        let within := label ++ "!/" ++ memberName member.name
        have nested : Offers sync known receive volume
            (Walk.nested sync host within member.contents (go within))
            (if volume.hasFolder sync.scratch ∧ unpacks host within then
              member.contents.toOption.elim [] (inner within) else []) :=
          offers_nested host within member.contents fun other contents =>
            deeper go rfl other within contents
        cases there : volume.hasFolder sync.scratch <;> simpa [there, within] using nested
    · simp only [archive, Bool.false_eq_true, if_false]
      by_cases empty : member.size = 0
      · rw [if_pos empty, if_pos empty]
        exact .pure
      · rw [if_neg empty, if_neg empty]
        exact offers_offer _ _

/-- The members of an archive, each with its number. -/
theorem offers_members {part : Nat → Member → Walk σ Unit} {offered : Member → List Candidate}
    (h : ∀ index member, Offers sync known receive volume (part index member) (offered member))
    (members : List Member) :
    Offers sync known receive volume (members.zipIdx.forM fun entry => part entry.2 entry.1)
      (members.flatMap offered) := by
  have all := Offers.forM fun (entry : Member × Nat) (_ : entry ∈ members.zipIdx) =>
    h entry.2 entry.1
  have numbered :
      members.zipIdx.flatMap (fun entry => offered entry.1) = members.flatMap offered := by
    rw [← List.flatMap_map, List.zipIdx_map_fst]
  rwa [numbered] at all

/-- **Archives in archives.**  What lies deeper is walked in a volume with one more scratch file, so
this is for all volumes at once. -/
theorem offers_archive (unpack : Unpacker) (host : Host) (levels : Nat) (volume : Volume)
    (label : String) (bytes : Bytes) :
    Offers sync known receive volume (archive sync unpack known receive host levels label bytes)
      (sync.ofArchive unpack host (volume.hasFolder sync.scratch) levels label bytes) := by
  induction levels generalizing volume label bytes with
  | zero =>
    rw [archive, Sync.ofArchive]
    cases unpack bytes with
    | none => exact .note _
    | some members =>
      have shallow : ∀ index member, Offers sync known receive volume
          (Walk.member sync known receive host label none index member)
          (sync.ofMember host label none member) :=
        offers_member host label (fun _ _ => []) (fun _ h => by cases h)
      exact .bind (.note _) (offers_members shallow members)
  | succ levels ih =>
    rw [archive, Sync.ofArchive]
    cases unpack bytes with
    | none => exact .note _
    | some members =>
      have deeper : ∀ go ∈ some (archive sync unpack known receive host levels),
          ∀ (other : Volume) (label : String) (contents : Bytes),
            other.hasFolder sync.scratch = true →
              Offers sync known receive other (go label contents)
                (sync.ofArchive unpack host true levels label contents) := by
        intro go same other label contents there
        obtain rfl := Option.mem_some.1 same
        rw [← there]
        exact ih other label contents
      have nested : ∀ index member, Offers sync known receive volume
          (Walk.member sync known receive host label
            (some (archive sync unpack known receive host levels)) index member)
          (sync.ofMember host label
            (if volume.hasFolder sync.scratch then
              some (sync.ofArchive unpack host (volume.hasFolder sync.scratch) levels)
            else none) member) := by
        intro index member
        have general : Offers sync known receive volume _ _ :=
          offers_member host label _ deeper index member
        cases there : volume.hasFolder sync.scratch with
        | true => simpa [there] using general
        | false => simpa [there] using general
      exact .bind (.note _) (offers_members nested members)

theorem offers_archiveFile (unpack : Unpacker) (host : Host) (spot : Spot) :
    Offers sync known receive volume (archiveFile sync unpack known receive host spot)
      (sync.ofArchiveFile unpack host (volume.hasFolder sync.scratch) spot) := by
  unfold archiveFile Sync.ofArchiveFile Host.load
  rcases host.open_ spot with failure | failure | contents
  · exact .note _
  · exact .note _
  · exact offers_archive unpack host _ volume _ contents

/-! ## 3.  Folders -/

theorem offers_file (unpack : Unpacker) (host : Host) (spot : Spot) {size : Nat}
    (full : size ≠ 0) :
    Offers sync known receive volume (file sync unpack known receive host spot size)
      (sync.ofFile unpack host (volume.hasFolder sync.scratch) spot) := by
  unfold file Sync.ofFile
  rw [if_neg full]
  by_cases nested : isArchive spot.relative = true
  · rw [if_pos nested, if_pos nested]
    exact offers_archiveFile unpack host spot
  · rw [if_neg nested, if_neg nested]
    exact offers_offer _ _

/-- What has no contents is passed over. -/
theorem file_zero (unpack : Unpacker) (host : Host) (spot : Spot) :
    file sync unpack known receive host spot 0 = pure () := by
  rw [file, if_pos rfl]

/-- Whatever stands under a name of a folder: a file or a link to one, a folder, or something that
is passed over. -/
theorem offers_entry (unpack : Unpacker) (host : Host) (spot : Spot) {inside : Walk σ Unit}
    {files : List Spot}
    (within : Offers sync known receive volume inside
      (files.flatMap (sync.ofFile unpack host (volume.hasFolder sync.scratch)))) :
    Offers sync known receive volume (entry sync unpack known receive host spot inside)
      ((host.filesAt spot files).flatMap
        (sync.ofFile unpack host (volume.hasFolder sync.scratch))) := by
  have other (size : Nat) : Offers sync known receive volume
      (file sync unpack known receive host spot size)
      ((if decide (size ≠ 0) then [spot] else []).flatMap
        (sync.ofFile unpack host (volume.hasFolder sync.scratch))) := by
    by_cases full : size = 0
    · rw [full, file_zero]
      exact .pure
    · simpa [full] using offers_file unpack host spot full
  unfold entry Host.filesAt Host.holdsFile
  rcases host.look spot with failure | _ | _ | size
  · exact .note _
  · rcases host.follow spot with failure | _ | size
    · exact .pure
    · exact .pure
    · exact other size
  · exact within
  · exact other size

/-- **A folder** offers its files, and those of the folders in it. -/
theorem offers_folder (unpack : Unpacker) (host : Host) (spot : Spot) :
    Offers sync known receive volume (folder sync unpack known receive host spot)
      (sync.ofFolder unpack host (volume.hasFolder sync.scratch) spot) := by
  unfold Sync.ofFolder
  induction spot using host.induction with
  | step spot ih =>
    rw [folder]
    split
    · rename_i refused
      rw [Host.files_of_error refused]
      exact .note _
    · rename_i names listed
      rw [Host.files_of_ok listed, List.flatMap_assoc]
      exact .forM fun name _ => offers_entry unpack host (spot.child name) (ih names listed name)

/-! ## 4.  The whole pass -/

theorem offers_application (unpack : Unpacker) (path : Path) :
    Offers sync known receive volume (application sync unpack known receive path)
      (sync.ofApplication unpack (sync.hostOf volume) (volume.hasFolder sync.scratch) path) := by
  refine .look fun pass made same => ?_
  simp only [same, Sync.hostOf_renumber]
  unfold Sync.ofApplication
  rcases (sync.hostOf volume).follow ⟨path, []⟩ with failure | _ | size
  · exact offers_archiveFile unpack _ _
  · exact offers_folder unpack _ _
  · exact offers_archiveFile unpack _ _

/-- The dump folder is made, and nothing is offered. -/
theorem offered_provideDumpFolder {pass : Pass σ} {made : Nat}
    (same : pass.volume = volume.renumber made) :
    Offered sync known receive (sync.provided volume) [] pass (provideDumpFolder sync pass) := by
  have looked : (get : Walk σ (Pass σ)) pass = (.ok pass, pass) := rfl
  rw [provideDumpFolder, bind_apply, looked]
  simp only [same, Sync.provide_renumber]
  rw [Sync.provided]
  cases (sync.provide volume).1 <;> exact ⟨rfl, fun _ => rfl, made, rfl⟩

end

end Walk

namespace Sync

variable {σ : Type}

/-- A pass goes through the application, if that is asked for, and then through the dump folder. -/
theorem walk_eq (sync : Sync) (unpack : Unpacker) (request : PullRequest) (receive : Receiver σ) :
    sync.walk unpack request receive =
      ((sync.applicationFor request.kind).elim (pure ())
          (Walk.application sync unpack request.known receive) >>= fun _ =>
        Walk.provideDumpFolder sync >>= fun _ => get >>= fun pass =>
          Walk.folder sync unpack request.known receive (sync.hostOf pass.volume)
            ⟨sync.dumpFolder, []⟩) := by
  unfold walk applicationFor
  cases request.kind with
  | runningClasses => rfl
  | classes => cases sync.archive <;> rfl

theorem offers_application (sync : Sync) (unpack : Unpacker) (request : PullRequest)
    (receive : Receiver σ) (volume : Volume) :
    Walk.Offers sync request.known receive volume
      ((sync.applicationFor request.kind).elim (pure ())
        (Walk.application sync unpack request.known receive))
      ((sync.applicationFor request.kind).elim []
        (sync.ofApplication unpack (sync.hostOf volume) (volume.hasFolder sync.scratch))) := by
  cases sync.applicationFor request.kind with
  | none => exact .pure
  | some path => exact Walk.offers_application unpack path

theorem offers_dumpFolder (sync : Sync) (unpack : Unpacker) (request : PullRequest)
    (receive : Receiver σ) (volume : Volume) :
    Walk.Offers sync request.known receive volume
      (get >>= fun pass => Walk.folder sync unpack request.known receive
        (sync.hostOf pass.volume) ⟨sync.dumpFolder, []⟩)
      (sync.ofFolder unpack (sync.hostOf volume) (volume.hasFolder sync.scratch)
        ⟨sync.dumpFolder, []⟩) := by
  refine .look fun pass made same => ?_
  rw [same, hostOf_renumber]
  exact Walk.offers_folder unpack _ _

/-- What a whole pass has come to: it offered all candidates, and the tree is that of the volume
with the dump folder, unless the receiver failed before that was made. -/
theorem walk_offered (sync : Sync) (unpack : Unpacker) (request : PullRequest)
    (receive : Receiver σ) (pass : Pass σ) :
    ∃ after, (after = sync.provided pass.volume ∨
        after = pass.volume ∧ (sync.walk unpack request receive pass).1 ≠ .ok ()) ∧
      Walk.Offered sync request.known receive after
        (sync.candidates unpack request.kind pass.volume) pass
        (sync.walk unpack request receive pass) := by
  have started :=
    sync.offers_application unpack request receive pass.volume pass pass.volume.made rfl
  rw [walk_eq, candidates]
  by_cases ok : ((sync.applicationFor request.kind).elim (pure ())
      (Walk.application sync unpack request.known receive) pass).1 = .ok ()
  · refine ⟨sync.provided pass.volume, .inl rfl,
      started.bind (fun middle there => ?_) fun failed => absurd ok failed⟩
    obtain ⟨made, restored⟩ := started.restored
    rw [there] at restored
    have provided : Walk.Offered sync request.known receive (sync.provided pass.volume) [] middle
        (Walk.provideDumpFolder sync middle) := Walk.offered_provideDumpFolder restored
    refine provided.bind (fun ready there => ?_) fun _ => rfl
    obtain ⟨last, placed⟩ := provided.restored
    rw [there] at placed
    exact sync.offers_dumpFolder unpack request receive _ ready last placed
  · refine ⟨pass.volume, .inr ⟨rfl, ?_⟩,
      started.bind (fun middle there => absurd (by rw [there]) ok) fun _ => rfl⟩
    rw [Walk.bind_apply]
    generalize (sync.applicationFor request.kind).elim (pure ())
      (Walk.application sync unpack request.known receive) pass = outcome at ok
    obtain ⟨failure | _, middle⟩ := outcome
    · exact nofun
    · exact absurd rfl ok

/-- **A pass, for every receiver.**  It hands the eligible candidates to the receiver until that
fails, and if it does not, what is reported is what became of all candidates. -/
theorem run_delivers (sync : Sync) (unpack : Unpacker) (request : PullRequest)
    (receive : Receiver σ) (receiver : σ) (volume : Volume) :
    let candidates := sync.candidates unpack request.kind volume
    let delivered := deliver receive (eligible sync.filter request.known candidates) receiver
    let outcome := sync.run unpack request receive receiver volume
    outcome.1 = delivered.1.map (fun _ => tallyOf sync.filter request.known candidates) ∧
      outcome.2.receiver = delivered.2 := by
  intro candidates delivered
  obtain ⟨after, -, handed, counted, -⟩ :=
    sync.walk_offered unpack request receive ⟨⟨0, 0, 0⟩, receiver, volume, []⟩
  unfold run
  generalize sync.walk unpack request receive ⟨⟨0, 0, 0⟩, receiver, volume, []⟩ = outcome
    at handed counted
  obtain ⟨result, pass⟩ := outcome
  rw [← show (result, pass.receiver) = delivered from handed]
  refine ⟨?_, rfl⟩
  cases result with
  | error failure => rfl
  | ok =>
    have tally : pass.tally = ⟨0, 0, 0⟩ + tallyOf sync.filter request.known candidates :=
      counted rfl
    show Except.ok pass.tally = Except.ok _
    rw [tally, Tally.zero_add]

/-- A pass that the receiver did not end leaves the volume with the dump folder. -/
theorem volume_of_run (sync : Sync) (unpack : Unpacker) (request : PullRequest)
    (receive : Receiver σ) (receiver : σ) (volume : Volume) {tally : Tally}
    (ok : (sync.run unpack request receive receiver volume).1 = .ok tally) :
    ∃ made, (sync.run unpack request receive receiver volume).2.volume =
      (sync.provided volume).renumber made := by
  obtain ⟨after, whence, -, -, made, restored⟩ :=
    sync.walk_offered unpack request receive ⟨⟨0, 0, 0⟩, receiver, volume, []⟩
  refine ⟨made, restored.trans ?_⟩
  rcases whence with rfl | ⟨-, failed⟩
  · rfl
  · unfold run at ok
    generalize sync.walk unpack request receive ⟨⟨0, 0, 0⟩, receiver, volume, []⟩ = outcome
      at ok failed
    obtain ⟨failure | _, pass⟩ := outcome
    · cases ok
    · exact absurd rfl failed

section

variable {sync : Sync} {tree : Volume}

/-- A dump folder that is there is not made. -/
theorem provided_of_follow {nature : Files.Nature}
    (dump : (sync.hostOf tree).follow ⟨sync.dumpFolder, []⟩ = .ok nature) :
    sync.provided tree = tree := by
  rw [provided, provide, dump]

/-- Without an application there is nothing to offer but what is in the dump folder. -/
theorem candidates_of_dump (unpack : Unpacker) (kind : PullKind)
    (alone : sync.applicationFor kind = none) {nature : Files.Nature}
    (dump : (sync.hostOf tree).follow ⟨sync.dumpFolder, []⟩ = .ok nature) :
    sync.candidates unpack kind tree = sync.ofFolder unpack (sync.hostOf tree)
      (tree.hasFolder sync.scratch) ⟨sync.dumpFolder, []⟩ := by
  rw [candidates, alone, provided_of_follow dump, Option.elim_none, List.nil_append]

/-- In a folder without archives there is a candidate for every file. -/
theorem ofFolder_of_plain (unpack : Unpacker) {host : Host} (scratch : Bool) {spot : Spot}
    (plain : ∀ file ∈ host.files spot, isArchive file.relative = false) :
    sync.ofFolder unpack host scratch spot =
      (host.files spot).map fun file => ⟨file.relative, host.load file⟩ := by
  rw [ofFolder, List.map_eq_flatMap]
  refine List.flatMap_congr fun file member => ?_
  rw [ofFile, plain file member]
  rfl

/-- A dump folder that is the top of its volume, on a host that shows everything in the volume:
there is a candidate for every file that has contents, in the order of the table. -/
theorem candidates_of_legible (unpack : Unpacker) (kind : PullKind)
    (alone : sync.applicationFor kind = none) (legible : tree.Legible)
    (home : tree.home = sync.dumpFolder)
    (names : (sync.hostOf tree).names = (Host.ofVolume tree).names)
    (look : (sync.hostOf tree).look = (Host.ofVolume tree).look)
    (follow : (sync.hostOf tree).follow = (Host.ofVolume tree).follow)
    (plain : ∀ row ∈ tree.entries, isArchive (Text.join Path.separator row.1) = false) :
    sync.candidates unpack kind tree =
      (tree.entries.filter fun row => row.2.isFull).map fun row =>
        ⟨Text.join Path.separator row.1,
          (sync.hostOf tree).load (Spot.ofTexts sync.dumpFolder row.1)⟩ := by
  have dump : (sync.hostOf tree).follow ⟨sync.dumpFolder, []⟩ = .ok .folder := by
    rw [follow, ← home]
    exact Host.follow_home legible
  have files : (sync.hostOf tree).files ⟨sync.dumpFolder, []⟩ =
      (tree.entries.filter fun row => row.2.isFull).map fun row =>
        Spot.ofTexts sync.dumpFolder row.1 := by
    rw [Host.files_congr names look follow, ← home]
    exact Host.files_ofVolume legible
  have named {row : Location × Entry} (member : row ∈ tree.entries.filter fun row => row.2.isFull) :
      (Spot.ofTexts sync.dumpFolder row.1).relative = Text.join Path.separator row.1 :=
    Spot.relative_ofTexts (legible.ordinary row (List.mem_of_mem_filter member)) _
  rw [candidates_of_dump unpack kind alone dump, ofFolder_of_plain, files, List.map_map]
  · exact List.map_congr_left fun row member => by rw [Function.comp_apply, named member]
  · rw [files]
    refine List.forall_mem_map.2 fun row member => ?_
    rw [named member]
    exact plain row (List.mem_of_mem_filter member)

/-- If the host lets every file be read, in whatever order it lists the folders, the candidates are
those files of the table that have contents. -/
theorem candidates_of_table (unpack : Unpacker) (kind : PullKind)
    (alone : sync.applicationFor kind = none) (legible : tree.Legible)
    (home : tree.home = sync.dumpFolder)
    (asked : (sync.hostOf tree).Rearranges (Host.ofVolume tree))
    (plain : ∀ row ∈ tree.entries, isArchive (Text.join Path.separator row.1) = false) :
    sync.candidates unpack kind tree =
      (tree.entries.filter fun row => row.2.isFull).map fun row =>
        ⟨Text.join Path.separator row.1, .ok row.2.contents⟩ := by
  rw [candidates_of_legible unpack kind alone legible home asked.names_eq asked.look asked.follow
    plain, asked.load_eq, ← home]
  refine List.map_congr_left fun row member => ?_
  obtain ⟨there, full⟩ := List.mem_filter.1 member
  rw [Host.load_of_isFull legible there full]

end

/-! ## 6.  The number of files made -/

@[simp] theorem provided_renumber (sync : Sync) (volume : Volume) (made : Nat) :
    sync.provided (volume.renumber made) = (sync.provided volume).renumber made := by
  rw [provided, provide_renumber]
  rfl

/-- What there is to offer does not depend on how many files were made. -/
theorem candidates_renumber (sync : Sync) (unpack : Unpacker) (kind : PullKind) (volume : Volume)
    (made : Nat) :
    sync.candidates unpack kind (volume.renumber made) = sync.candidates unpack kind volume := by
  simp only [candidates, provided_renumber, hostOf_renumber, Volume.hasFolder_renumber]

end Sync
end Artifact
end CoverageLink
