import CoverageLink.Proofs.Artifact.Sync
import CoverageLink.Proofs.Collector.Stored

/-!
# One pass is enough

An agent sends what the collector does not know, and the collector stores it.  If everything is
stored, the next pass over the same files sends nothing.  This couples two walks on two machines:
that of the agent through its dump folder, and that of the collector through its store, which meet
in the identifiers.

## 1.  What a folder without archives offers

The names of candidates are made of the names in the folder, so they are spelled plainly, and all
of them have contents that can be sent (`Sync.plain_of_mem_ofFolder`).

## 2.  What was sent is known

Files are stored one after the other.  What an earlier one left in the store is still there at the
end (`Settled`), so the collector knows what it knew before and everything that it was sent.

## 3.  The next pass

The collector finds nothing behind a link, because it does not follow links when it lists what it
has, and what it stores through a link to a folder is sent again at every pass
(`resent_through_link`).  If no link is on the way of what is sent, the next pass counts all of that
as known (`sync_converges`).
-/

namespace CoverageLink

open Files (Host HostName Location Ordinary Path Spot Volume)

/-! ## 1.  What a folder without archives offers -/

namespace Artifact

/-- A candidate that was found in a folder at ordinary names and can be sent. -/
structure Candidate.Plain (candidate : Candidate) : Prop where
  spelled : PlainlySpelled candidate.name
  sendable : ∃ file, candidate.file? = some file

/-- A host on which all files that come up below a spot are called by texts, are not named like
archives, and can be read and sent.  A file that has no contents does not come up. -/
structure Sendable (host : Host) (spot : Spot) : Prop where
  texts : ∀ file ∈ host.files spot, ∀ name ∈ file.names, name.IsText
  plain : ∀ file ∈ host.files spot, isArchive file.relative = false
  read : ∀ file ∈ host.files spot, ∃ contents, host.load file = .ok contents ∧ contents ≠ [] ∧
    contents.length ≤ maxContents

/-- In a volume that is so for every folder in which nothing is named like an archive or is too
large. -/
theorem sendable_ofVolume {volume : Volume} {path : Path}
    (plain : ∀ file ∈ (Host.ofVolume volume).files ⟨path, []⟩, isArchive file.relative = false)
    (fits : ∀ file ∈ (Host.ofVolume volume).files ⟨path, []⟩, ∀ contents,
      (Host.ofVolume volume).load file = .ok contents → contents.length ≤ maxContents) :
    Sendable (Host.ofVolume volume) ⟨path, []⟩ where
  texts file member name there := by
    obtain ⟨-, -, first, names, further, known⟩ := Host.exists_names_of_mem_files member
    rw [further] at there
    obtain ⟨above, listed, answered, one⟩ := known name there
    exact Host.isText_of_mem_names answered one
  plain := plain
  read file member := by
    obtain ⟨contents, read, full⟩ := Host.exists_load_of_mem_files member
    exact ⟨contents, read, full, fits file member contents read⟩

/-- If everything can be asked for by its names, it is enough to look at the table. -/
theorem sendable_of_legible {volume : Volume} (legible : volume.Legible)
    (plain : ∀ row ∈ volume.entries, isArchive (Text.join Path.separator row.1) = false)
    (fits : ∀ row ∈ volume.entries, row.2.contents.length ≤ maxContents) :
    Sendable (Host.ofVolume volume) ⟨volume.home, []⟩ := by
  have files : (Host.ofVolume volume).files ⟨volume.home, []⟩ = _ := Host.files_ofVolume legible
  refine sendable_ofVolume ?_ ?_ <;> rw [files] <;>
    refine List.forall_mem_map.2 fun row member => ?_
  · have there := List.mem_of_mem_filter member
    rw [Spot.relative_ofTexts (legible.ordinary row there)]
    exact plain row there
  · intro contents read
    obtain ⟨there, full⟩ := List.mem_filter.1 member
    obtain rfl := Except.ok.inj ((Host.load_of_isFull legible there full).symm.trans read)
    exact fits row there

namespace Sync

variable {sync : Sync} {tree : Volume}

/-- **A folder without archives offers plain candidates**, if everything in it can be sent. -/
theorem plain_of_mem_ofFolder (unpack : Unpacker) {host : Host} (scratch : Bool) {spot : Spot}
    (sendable : Sendable host spot) :
    ∀ candidate ∈ sync.ofFolder unpack host scratch spot, candidate.Plain := by
  rw [ofFolder_of_plain unpack scratch sendable.plain]
  refine List.forall_mem_map.2 fun file member => ?_
  obtain ⟨-, -, name, names, further, -⟩ := Host.exists_names_of_mem_files member
  obtain ⟨contents, read, full, fits⟩ := sendable.read file member
  have ordinary : ∀ text ∈ file.names.map HostName.shown, Ordinary text :=
    List.forall_mem_map.2 fun name there => (sendable.texts file member name there).ordinary_shown
  refine ⟨plainlySpelled_join ordinary ?_, (file.relative, contents), ?_⟩
  · rw [further]
    simp
  · rw [read]
    exact Candidate.file?_of_fits (mt List.isEmpty_iff.1 full) fits

/-- Without an application it does not matter which files were asked for. -/
theorem candidates_of_alone (unpack : Unpacker) (alone : sync.archive = none)
    {nature : Files.Nature}
    (dump : (sync.hostOf tree).follow ⟨sync.dumpFolder, []⟩ = .ok nature) (kind : PullKind) :
    sync.candidates unpack kind tree = sync.ofFolder unpack (sync.hostOf tree)
      (tree.hasFolder sync.scratch) ⟨sync.dumpFolder, []⟩ := by
  refine candidates_of_dump unpack kind ?_ dump
  cases kind <;> simp [applicationFor, alone]

end Sync

section

variable {filter : Filter} {later : KnownIds} {candidate : Candidate}
  {candidates : List Candidate}

theorem fate_of_settled_singleton (known : KnownIds) (plain : candidate.Plain)
    (settled : candidate.accepted filter = true → candidate.stored later = true) :
    eligible filter later [candidate] = [] ∧
      tallyOf filter later [candidate] =
        ⟨0, (tallyOf filter known [candidate]).known + (tallyOf filter known [candidate]).sent,
          (tallyOf filter known [candidate]).filtered⟩ := by
  cases accepted : candidate.accepted filter with
  | false =>
    rw [(fate_of_rejected known candidate accepted).2]
    exact fate_of_rejected later candidate accepted
  | true =>
    have now := fate_of_stored later candidate accepted (settled accepted)
    cases stored : candidate.stored known with
    | true =>
      rw [(fate_of_stored known candidate accepted stored).2]
      exact now
    | false =>
      obtain ⟨file, sent⟩ := plain.sendable
      rw [(fate_of_wanted known candidate accepted stored).2, sent]
      exact now

/-- **Nothing is left to send** if every candidate that passes the filter is known: what would have
been sent is counted as known instead. -/
theorem fate_of_settled (known : KnownIds) (plain : ∀ candidate ∈ candidates, candidate.Plain)
    (settled : ∀ candidate ∈ candidates, candidate.accepted filter = true →
      candidate.stored later = true) :
    eligible filter later candidates = [] ∧
      tallyOf filter later candidates =
        ⟨0, (tallyOf filter known candidates).known + (tallyOf filter known candidates).sent,
          (tallyOf filter known candidates).filtered⟩ := by
  induction candidates with
  | nil => exact ⟨rfl, rfl⟩
  | cons candidate rest ih =>
    obtain ⟨none_first, first⟩ := fate_of_settled_singleton known
      (plain candidate List.mem_cons_self) (settled candidate List.mem_cons_self)
    obtain ⟨none_rest, counted⟩ := ih
      (fun other member => plain other (List.mem_cons_of_mem _ member))
      (fun other member => settled other (List.mem_cons_of_mem _ member))
    rw [← List.singleton_append, eligible_append, none_first, none_rest, tallyOf_append, first,
      counted, tallyOf_append]
    refine ⟨rfl, ?_⟩
    simp only [Tally.add_def, Tally.mk.injEq, and_true, true_and]
    omega

end

end Artifact

/-! ## 2.  What was sent is known -/

namespace Collector

open Artifact (Candidate Receiver Sent Sync Tally eligible identifier)
open Files.Volume (Changes)

namespace ProjectStore

/-- Stores what is received. -/
def storing (project : ProjectStore) : Receiver Volume := fun name contents volume =>
  match project.saveFile name contents volume with
  | (.ok _, after) => (.ok (), after)
  | (.error failure, after) => (.error failure, after)

variable {project : ProjectStore} {store volume after tree : Volume} {top home : Location}
  {known : KnownIds}

theorem exists_of_storing {name : String} {contents : Bytes}
    (stored : project.storing name contents volume = (.ok (), after)) :
    ∃ path, project.saveFile name contents volume = (.ok path, after) := by
  unfold storing at stored
  rcases saved : project.saveFile name contents volume with ⟨failure | path, last⟩ <;>
    rw [saved] at stored
  · cases stored
  · cases stored
    exact ⟨path, rfl⟩

/-- A store that has grown, and has these files. -/
structure Settled (top : Location) (store : Volume) (files : List Sent) (volume : Volume) :
    Prop where
  grown : Changes (fun _ => True) store volume
  held : ∀ file ∈ files, ∃ names, (Path.ofText file.1).names? = some names ∧
    ∃ entry, volume.at? (top ++ names) = some entry ∧ entry ≠ .folder

namespace Settled

variable {files : List Sent}

/-- **One more file is stored**, and the earlier ones stay. -/
theorem store_file (settled : Settled top store files volume)
    (placed : store.home.isAbsolute = true ∨ store.home.segments.length ≤ 1)
    (there : store.folderAt project.classes = .ok top) {file : Sent}
    (straight : ∀ names, (Path.ofText file.1).names? = some names → store.Straight top names)
    (stored : project.storing file.1 file.2 volume = (.ok (), after)) :
    Settled top store (files ++ [file]) after := by
  obtain ⟨grown, held⟩ := settled
  obtain ⟨path, saved⟩ := exists_of_storing stored
  have changes := changes_of_saveFile saved
  refine ⟨grown.trans changes, fun other member => ?_⟩
  rcases List.mem_append.1 member with earlier | last
  · obtain ⟨names, asked, there⟩ := held other earlier
    exact ⟨names, asked, changes.keeps.exists_file there⟩
  · obtain rfl := List.mem_singleton.1 last
    obtain ⟨⟨names, asked, -⟩, -⟩ := contentsAt_of_saveFile saved
    rw [← grown.keeps.home] at placed
    exact ⟨names, asked, exists_entry_of_saveFile placed (grown.keeps.folderAt there) asked
      (grown.straight (straight names asked)) saved⟩

/-- **All of the files are stored**, one after the other. -/
theorem of_deliver (placed : store.home.isAbsolute = true ∨ store.home.segments.length ≤ 1)
    (there : store.folderAt project.classes = .ok top)
    (straight : ∀ file ∈ files, ∀ names, (Path.ofText file.1).names? = some names →
      store.Straight top names)
    (stored : Artifact.deliver project.storing files store = (.ok (), after)) :
    Settled top store files after := by
  have start : Settled top store [] store := ⟨.refl store, nofun⟩
  have taken (done : List Sent) (file : Sent) (rest : List Sent) (state last : Volume)
      (split : files = done ++ file :: rest) (settled : Settled top store done state)
      (ok : project.storing file.1 file.2 state = (.ok (), last)) :
      Settled top store (done ++ [file]) last := by
    refine settled.store_file placed there (straight file ?_) ok
    rw [split]
    exact List.mem_append_right _ List.mem_cons_self
  rcases handOver_induction (fun file : Sent => project.storing file.1 file.2) files
    (Settled top store) (fun _ => True) start taken (fun _ _ _ _ _ _ _ _ _ => trivial) with
    ⟨last, all, settled⟩ | ⟨failure, last, failed, -⟩
  · cases stored.symm.trans all
    exact settled
  · cases stored.symm.trans failed

/-- **The collector knows what it knew before, and what was stored**, if that is spelled plainly. -/
theorem exists_knownIds (settled : Settled top store files volume)
    (there : store.folderAt project.classes = .ok top)
    (listed : project.knownIds store = .ok known) :
    ∃ later, project.knownIds volume = .ok later ∧
      (∀ id, known.contains id = true → later.contains id = true) ∧
      ∀ file ∈ files, Artifact.PlainlySpelled file.1 →
        later.contains (identifier file.1) = true := by
  obtain ⟨known', listed', before⟩ := ProjectStore.exists_knownIds there
  obtain rfl := Except.ok.inj (listed.symm.trans listed')
  obtain ⟨later, now, elements⟩ :=
    ProjectStore.exists_knownIds (settled.grown.keeps.folderAt there)
  simp only [KnownIds.contains, List.contains_iff_mem]
  refine ⟨later, now, fun id member => ?_, fun file member plain => ?_⟩
  · obtain ⟨names, entry, some_names, held, file, same⟩ := (before id).1 member
    obtain ⟨entry, held, file⟩ := settled.grown.keeps.exists_file ⟨entry, held, file⟩
    exact (elements id).2 ⟨names, entry, some_names, held, file, same⟩
  · obtain ⟨names, asked, entry, held, kept⟩ := settled.held file member
    have some_names := Path.ne_nil_of_names? asked
    exact (elements _).2 ⟨names, entry, some_names, held, kept,
      (Artifact.identifier_eq_iff asked).2 (.inl plain)⟩

end Settled

/-! ## 3.  The next pass -/

section

variable {sync : Sync} {tally : Tally} {later : KnownIds}

/-- A candidate that passes the filter was known, or its file was sent and is known now. -/
theorem stored_of_sent {candidates : List Candidate} {candidate : Candidate}
    (plain : candidate.Plain) (member : candidate ∈ candidates)
    (grown : ∀ id, known.contains id = true → later.contains id = true)
    (sent : ∀ file ∈ eligible sync.filter known candidates, Artifact.PlainlySpelled file.1 →
      later.contains (identifier file.1) = true)
    (accepted : candidate.accepted sync.filter = true) : candidate.stored later = true := by
  cases stored : candidate.stored known with
  | true => exact grown _ stored
  | false =>
    obtain ⟨file, made⟩ := plain.sendable
    have offered : file ∈ eligible sync.filter known candidates := by
      refine List.mem_filterMap.2 ⟨candidate, List.mem_filter.2 ⟨member, ?_⟩, made⟩
      rw [accepted, stored]
      rfl
    have named : file.1 = candidate.name := by
      obtain ⟨contents, -, rfl⟩ := Option.map_eq_some_iff.1 made
      rfl
    rw [Candidate.stored, ← named]
    refine sent file offered ?_
    rw [named]
    exact plain.spelled

/-- **The next pass sends nothing.**

An agent has a dump folder without archives, in which every file can be sent, and no application.
It sends what the collector does not know, and the collector stores all of it; no link is on the
way of what it is sent.  When it goes through the same folder again, with what the collector knows
by then, it sends nothing to anyone; it rejects what it rejected before, and counts as known what
was known before and what was sent. -/
theorem sync_converges (unpack : Artifact.Unpacker) (kind kind' : PullKind)
    (alone : sync.archive = none) {nature : Files.Nature}
    (dump : (sync.hostOf tree).follow ⟨sync.dumpFolder, []⟩ = .ok nature)
    (sendable : Artifact.Sendable (sync.hostOf tree) ⟨sync.dumpFolder, []⟩)
    (placed : store.home.isAbsolute = true ∨ store.home.segments.length ≤ 1)
    (there : store.folderAt project.classes = .ok top) (listed : project.knownIds store = .ok known)
    (straight : ∀ file ∈ eligible sync.filter known (sync.candidates unpack kind tree), ∀ names,
      (Path.ofText file.1).names? = some names → store.Straight top names)
    (saved : (sync.run unpack ⟨kind, known⟩ project.storing store tree).1 = .ok tally) :
    let first := sync.run unpack ⟨kind, known⟩ project.storing store tree
    ∃ later, project.knownIds first.2.receiver = .ok later ∧
      (∃ made, first.2.volume = tree.renumber made) ∧
      ∀ {σ : Type} (receive : Receiver σ) (receiver : σ),
        let second := sync.run unpack ⟨kind', later⟩ receive receiver first.2.volume
        second.1 = .ok ⟨0, tally.known + tally.sent, tally.filtered⟩ ∧
          second.2.receiver = receiver := by
  intro first
  obtain ⟨reported, received⟩ := sync.run_delivers unpack ⟨kind, known⟩ project.storing store tree
  obtain ⟨made, volume⟩ :=
    sync.volume_of_run unpack ⟨kind, known⟩ project.storing store tree saved
  rw [Artifact.Sync.provided_of_follow dump] at volume
  have offered := Artifact.Sync.candidates_of_alone unpack alone dump
  -- everything was stored
  rcases delivered : Artifact.deliver project.storing
      (eligible sync.filter known (sync.candidates unpack kind tree)) store with
    ⟨failure | _, after⟩ <;> rw [saved] at reported <;>
    simp only [delivered] at reported received
  · cases reported
  have tally_eq : tally = Artifact.tallyOf sync.filter known (sync.candidates unpack kind tree) :=
    Except.ok.inj reported
  have settled := Settled.of_deliver placed there straight delivered
  obtain ⟨later, now, grown, sent⟩ := settled.exists_knownIds there listed
  have plain : ∀ candidate ∈ sync.candidates unpack kind tree, candidate.Plain := by
    rw [offered kind]
    exact Artifact.Sync.plain_of_mem_ofFolder unpack _ sendable
  have known_now (candidate : Candidate) (member : candidate ∈ sync.candidates unpack kind tree) :
      candidate.accepted sync.filter = true → candidate.stored later = true :=
    stored_of_sent (plain candidate member) member grown sent
  obtain ⟨none_sent, counted⟩ := Artifact.fate_of_settled known plain known_now
  rw [← tally_eq] at counted
  rw [← show first.2.receiver = after from received] at now
  refine ⟨later, now, ⟨made, volume⟩, fun receive receiver => ?_⟩
  -- and the same is come across again
  have same : sync.candidates unpack kind' first.2.volume = sync.candidates unpack kind tree := by
    rw [volume, Artifact.Sync.candidates_renumber, offered kind', offered kind]
  have outcome := sync.run_delivers unpack ⟨kind', later⟩ receive receiver first.2.volume
  simp only [same, none_sent, counted] at outcome
  exact outcome

/-- A class is sent once. -/
theorem sync_converges_of_class :
    let project := Store.folderOf ⟨⟨["", "store"]⟩⟩ ⟨"a", "b", "", "", "", ""⟩
    let store := (Volume.empty project.folder).put ["classes"] .folder
    let tree := (Volume.empty ⟨["", "dump"]⟩).put ["A.class"] (.file 0 [1])
    let sync : Sync :=
      ⟨⟨["", "dump"]⟩, none, ⟨⟨[fun _ => true]⟩, ⟨[]⟩⟩, [], ⟨["", "tmp"]⟩, .ofVolume⟩
    let first := sync.run (fun _ => none) ⟨.classes, .empty⟩ project.storing store tree
    project.knownIds store = .ok .empty ∧ first.1 = .ok ⟨1, 0, 0⟩ ∧
      ∃ later, project.knownIds first.2.receiver = .ok later ∧
        (sync.run (fun _ => none) ⟨.classes, later⟩ project.storing first.2.receiver
          first.2.volume).1 = .ok ⟨0, 1, 0⟩ := by
  intro project store tree sync first
  have classes : Volume.Followable project.classes := by decide +kernel
  have there : store.folderAt project.classes = .ok ["classes"] := (project_of_empty classes).2
  have listed : project.knownIds store = .ok .empty := by
    rw [knownIds, there]
    rfl
  have legible : tree.Legible :=
    ⟨⟨[""], "dump", rfl, by decide⟩, by decide +kernel, by decide +kernel, by decide +kernel,
      by decide +kernel, by decide +kernel⟩
  have answers : sync.hostOf tree = Host.ofVolume tree := Host.ofVolume_renumber tree 0
  have dump : (sync.hostOf tree).follow ⟨sync.dumpFolder, []⟩ = .ok .folder := by
    rw [answers]
    exact Host.follow_home legible
  have plain : ∀ row ∈ tree.entries,
      Artifact.isArchive (Text.join Path.separator row.1) = false := by decide +kernel
  have sendable : Artifact.Sendable (sync.hostOf tree) ⟨sync.dumpFolder, []⟩ := by
    rw [answers]
    exact Artifact.sendable_of_legible legible plain (by decide +kernel)
  have offered : sync.candidates (fun _ => none) .classes tree = [⟨"A.class", .ok [1]⟩] := by
    have asked : (sync.hostOf tree).Rearranges (Host.ofVolume tree) := answers ▸ .refl _
    rw [Artifact.Sync.candidates_of_table _ .classes rfl legible rfl asked plain]
    rfl
  have sent : eligible sync.filter .empty [⟨"A.class", .ok [1]⟩] = [("A.class", [1])] := by
    decide +kernel
  have asked : (Path.ofText "A.class").names? = some ["A.class"] := by decide +kernel
  obtain ⟨path, after, saved⟩ : ∃ path after, project.saveFile "A.class" [1] store =
      (.ok path, after) :=
    ⟨_, _, saveFile_of_free rfl rfl classes asked (by decide) (by decide +kernel) rfl [1]⟩
  have stored : Artifact.deliver project.storing [("A.class", [1])] store = (.ok (), after) := by
    rw [Artifact.deliver, handOver_singleton, storing, saved]
  have went : first.1 = .ok ⟨1, 0, 0⟩ := by
    have outcome := (sync.run_delivers (fun _ => none) ⟨.classes, .empty⟩ project.storing store
      tree).1
    simp only [offered, sent, stored] at outcome
    exact outcome
  obtain ⟨later, now, -, next⟩ := sync_converges (fun _ => none) .classes .classes rfl dump sendable
    (.inl (by decide +kernel)) there listed
    (by
      rw [offered, sent]
      intro file member names same
      obtain rfl := List.mem_singleton.1 member
      obtain rfl := Option.some.inj (asked.symm.trans same)
      exact store.straight_singleton _ _)
    went
  exact ⟨listed, went, later, now, (next project.storing first.2.receiver).1⟩

/-- What lies behind a link to a folder beside that of the artifacts is stored in that folder. -/
theorem saveFile_through_link {root : Store} {info : ProjectInfo} (link other file : String)
    (target : Path) (home : volume.home = (root.folderOf info).folder)
    (classes : volume.at? ["classes"] = some .folder)
    (linked : volume.at? ["classes", link] = some (.link target))
    (beside : volume.at? [other] = some .folder) (free : volume.at? [other, file] = none)
    (origin : volume.origin ["classes"] target = ["classes"])
    (route : volume.route target = [.up, .name other]) (loose : target.closed = false)
    (short : link.utf8ByteSize ≤ Volume.maxName ∧ other.utf8ByteSize ≤ Volume.maxName ∧
      file.utf8ByteSize ≤ Volume.maxName)
    (followable : Volume.Followable ((root.folderOf info).classes.descend [link]) ∧
      Volume.Followable ((root.folderOf info).classes.descend [link, file]))
    {name : String} (asked : (Path.ofText name).names? = some [link, file]) (contents : Bytes) :
    ∃ path, (root.folderOf info).saveFile name contents volume =
      (.ok path, (volume.putFile [other, file]).writeAt volume.made 0 contents) := by
  have ordinary := Path.ordinary_of_names? asked
  have proper {names : List String} (within : ∀ name ∈ names, name ∈ [link, file]) :
      ∀ name ∈ "classes" :: names, Files.Step.ofSegment name = .name name := by
    intro name member
    rcases List.mem_cons.1 member with rfl | member
    · decide
    · exact (ordinary name (within name member)).ofSegment
  -- the lookup goes up from the folder of the artifacts, into the other one
  have through {aim : Files.Aim} {rest : List Files.Step} {place : Files.Place} {links : Nat}
      (passes : Volume.Passes aim link rest false)
      (followed : rest = [] → aim.followsLink false = true)
      (onward : volume.Leads aim links [] (.name other :: rest) false place) :
      volume.Leads aim (links + 1) ["classes"] (.name link :: rest) false place := by
    refine .through passes linked followed ?_
    rw [origin, route, loose, Bool.and_false, Bool.or_false]
    exact .up onward
  have folder : volume.folderAt ((root.folderOf info).classes.descend [link]) = .ok [other] := by
    obtain ⟨ready, -⟩ := followable
    rw [descend_classes] at ready
    rw [Volume.folderAt_eq_ok_iff, Volume.entryAt_eq_ok_iff, descend_classes]
    refine (Volume.place_descend_iff home (root.endsInName_folder info) (List.cons_ne_nil _ _)
      (proper (by simp)) ready).2 (.folder ⟨by simp, by decide⟩ classes ?_)
    exact through ⟨by simp, short.1⟩ (fun _ => rfl) (.folder ⟨by simp, short.2.1⟩ beside .here)
  have led : volume.place .file ((root.folderOf info).classes.descend [link, file]) =
      .ok (.vacant [other, file] false) := by
    obtain ⟨-, ready⟩ := followable
    rw [descend_classes] at ready ⊢
    refine (Volume.place_descend_iff home (root.endsInName_folder info) (List.cons_ne_nil _ _)
      (proper (by simp)) ready).2 (.folder ⟨by simp, by decide⟩ classes ?_)
    exact through ⟨by simp, short.1⟩ nofun
      (.folder ⟨by simp, short.2.1⟩ beside (.free ⟨by simp, short.2.2⟩ free))
  exact ⟨_, saveFile_of_vacant asked folder led contents⟩

/-- A class that is stored through a link to a folder is sent again. -/
theorem resent_through_link :
    let project := Store.folderOf ⟨⟨["", "store"]⟩⟩ ⟨"a", "b", "", "", "", ""⟩
    let store := (((Volume.empty project.folder).put ["classes"] .folder).put ["classes", "link"]
      (.link ⟨["..", "other"]⟩)).put ["other"] .folder
    let tree := ((Volume.empty ⟨["", "dump"]⟩).put ["link"] .folder).put ["link", "A.class"]
      (.file 0 [1])
    let sync : Sync :=
      ⟨⟨["", "dump"]⟩, none, ⟨⟨[fun _ => true]⟩, ⟨[]⟩⟩, [], ⟨["", "tmp"]⟩, .ofVolume⟩
    let known := KnownIds.ofList ["link"]
    let first := sync.run (fun _ => none) ⟨.classes, known⟩ project.storing store tree
    let second := sync.run (fun _ => none) ⟨.classes, known⟩
      (fun name contents sent => (.ok (), sent ++ [(name, contents)])) [] first.2.volume
    (sync.hostOf tree).follow ⟨sync.dumpFolder, []⟩ = .ok .folder ∧
      Artifact.Sendable (sync.hostOf tree) ⟨sync.dumpFolder, []⟩ ∧
      project.knownIds store = .ok known ∧ first.1 = .ok ⟨1, 0, 0⟩ ∧
      project.knownIds first.2.receiver = .ok known ∧
      second.1 = .ok ⟨1, 0, 0⟩ ∧ second.2.receiver = [("link/A.class", [1])] := by
  intro project store tree sync known first second
  have classes : Volume.Followable project.classes := by decide +kernel
  have listed {volume : Volume} (home : volume.home = project.folder)
      (there : volume.at? ["classes"] = some .folder)
      (row : volume.below ["classes"] = [(["link"], .link ⟨["..", "other"]⟩)]) :
      project.knownIds volume = .ok known := by
    have named : identifier "link" = "link" := by decide +kernel
    have there : volume.folderAt project.classes = .ok ["classes"] :=
      (project_of_classes home there classes).2
    simp [knownIds, there, row, named, known]
  have rows : tree.entries = [(["link"], .folder), (["link", "A.class"], .file 0 [1])] := rfl
  have legible : tree.Legible :=
    ⟨⟨[""], "dump", rfl, by decide⟩, by decide +kernel, by decide +kernel, by decide +kernel,
      by decide +kernel, by decide +kernel⟩
  have answers : sync.hostOf tree = Host.ofVolume tree := Host.ofVolume_renumber tree 0
  have dump : (sync.hostOf tree).follow ⟨sync.dumpFolder, []⟩ = .ok .folder := by
    rw [answers]
    exact Host.follow_home legible
  have plain : ∀ row ∈ tree.entries,
      Artifact.isArchive (Text.join Path.separator row.1) = false := by decide +kernel
  have sendable : Artifact.Sendable (sync.hostOf tree) ⟨sync.dumpFolder, []⟩ := by
    rw [answers]
    exact Artifact.sendable_of_legible legible plain (by decide +kernel)
  have offered : sync.candidates (fun _ => none) .classes tree = [⟨"link/A.class", .ok [1]⟩] := by
    have asked : (sync.hostOf tree).Rearranges (Host.ofVolume tree) := answers ▸ .refl _
    have joined : Text.join Path.separator ["link", "A.class"] = "link/A.class" := by
      decide +kernel
    rw [Artifact.Sync.candidates_of_table _ .classes rfl legible rfl asked plain, rows]
    simp [Files.Entry.isFull, Files.Entry.contents, joined]
  have sent : eligible sync.filter known [⟨"link/A.class", .ok [1]⟩] =
      [("link/A.class", [1])] := by
    decide +kernel
  have asked : (Path.ofText "link/A.class").names? = some ["link", "A.class"] := by decide +kernel
  have home : store.home = project.folder := rfl
  obtain ⟨path, saved⟩ := saveFile_through_link "link" "other" "A.class" ⟨["..", "other"]⟩ home
    rfl rfl rfl rfl (by decide +kernel) (by decide +kernel) rfl (by decide) (by decide +kernel)
    asked [1]
  have stored : Artifact.deliver project.storing [("link/A.class", [1])] store =
      (.ok (), (store.putFile ["other", "A.class"]).writeAt store.made 0 [1]) := by
    rw [Artifact.deliver, handOver_singleton, storing, saved]
  obtain ⟨reported, received⟩ :=
    sync.run_delivers (fun _ => none) ⟨.classes, known⟩ project.storing store tree
  simp only [offered, sent, stored] at reported received
  obtain ⟨made, volume⟩ := sync.volume_of_run (fun _ => none) ⟨.classes, known⟩ project.storing
    store tree reported
  rw [Artifact.Sync.provided_of_follow dump] at volume
  have again : sync.candidates (fun _ => none) .classes first.2.volume =
      [⟨"link/A.class", .ok [1]⟩] := by
    rw [volume, Artifact.Sync.candidates_renumber, offered]
  have next := sync.run_delivers (fun _ => none) ⟨.classes, known⟩
    (fun name contents sent => (.ok (), sent ++ [(name, contents)])) [] first.2.volume
  simp only [again, sent] at next
  refine ⟨dump, sendable, listed rfl rfl rfl, reported, ?_, next⟩
  rw [show first.2.receiver = _ from received]
  exact listed rfl rfl rfl

end

end ProjectStore
end Collector
end CoverageLink
