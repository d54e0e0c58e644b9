import CoverageLink.Proofs.Artifact.Identifier
import CoverageLink.Proofs.Artifact.Refusal

/-!
# The order in which a folder is sent

The files of a folder are sent in the order of their paths, which are compared name by name, and
names octet by octet.  That is another order than that of the texts, since there are characters
before the separator.

## 1.  Names in order

`components` is what the name of a file is compared by.

## 2.  Candidates in order

In a folder without archives there is a candidate for every file, under the names that lead to it,
and the files of a folder come in the order of these names (`Sync.pairwise_candidates`).

## 3.  Hosts that list in another order

A host lists the names of a folder in any order it likes, and a pass sorts them.  So there is the
same on offer, with archives or without (`Sync.candidates_of_rearranges`).

## 4.  The order of a pass

What the receiver is handed is the beginning of what there is to send, up to where it fails
(`deliver_recording_begins`), so it comes in the same order (`Sync.running_classes_in_order`).
-/

namespace CoverageLink
namespace Artifact

open Files (Host HostName Ordinary Path Spot Volume)

/-! ## 1.  Names in order -/

/-- The names that a path is made of, in octets. -/
def components (name : String) : List Bytes :=
  (Text.pieces Path.separator name).map Utf8.encode

theorem components_join {names : List String} (ordinary : ∀ name ∈ names, Ordinary name)
    (some_names : names ≠ []) :
    components (Text.join Path.separator names) = names.map Utf8.encode := by
  rw [components, pieces_join_of_ordinary ordinary some_names]

/-- What a file is compared by are the names that lead to it. -/
theorem components_relative {spot : Spot} (texts : ∀ name ∈ spot.names, name.IsText)
    (some_names : spot.names ≠ []) : components spot.relative = spot.names.map HostName.octets := by
  have ordinary : ∀ text ∈ spot.names.map HostName.shown, Ordinary text :=
    List.forall_mem_map.2 fun name member => (texts name member).ordinary_shown
  rw [Spot.relative, components_join ordinary (mt List.map_eq_nil_iff.1 some_names), List.map_map]
  exact List.map_congr_left fun name member => (texts name member).encode_shown

/-- Files in order have different names. -/
theorem nodup_of_pairwise {files : List Sent}
    (h : files.Pairwise fun file other => components file.1 < components other.1) :
    (files.map Prod.fst).Nodup := by
  refine List.pairwise_map.2 (h.imp fun {file other} less same => ?_)
  rw [same] at less
  exact List.lt_irrefl _ less

/-! ## 2.  Candidates in order -/

namespace Sync

variable {sync : Sync}

/-- **A folder without archives offers its files in order.** -/
theorem pairwise_candidates (unpack : Unpacker) {host : Host} (scratch : Bool) {spot : Spot}
    (distinct : host.Distinct)
    (texts : ∀ file ∈ host.files spot, ∀ name ∈ file.names, name.IsText)
    (plain : ∀ file ∈ host.files spot, isArchive file.relative = false) :
    (sync.ofFolder unpack host scratch spot).Pairwise fun candidate other =>
      components candidate.name < components other.name := by
  have compared {file : Spot} (member : file ∈ host.files spot) :
      components file.relative = file.names.map HostName.octets := by
    obtain ⟨-, -, name, names, further, -⟩ := Host.exists_names_of_mem_files member
    refine components_relative (texts file member) ?_
    rw [further]
    exact List.append_ne_nil_of_right_ne_nil _ (List.cons_ne_nil name names)
  rw [ofFolder_of_plain unpack scratch plain]
  refine List.pairwise_map.2 ((distinct.pairwise_files spot).imp_of_mem ?_)
  intro file other member member' less
  rwa [compared member, compared member']

end Sync

/-- What is sent for candidates in order is in order. -/
theorem pairwise_eligible {filter : Filter} (known : KnownIds) {candidates : List Candidate}
    (h : candidates.Pairwise fun candidate other =>
      components candidate.name < components other.name) :
    (eligible filter known candidates).Pairwise fun file other =>
      components file.1 < components other.1 := by
  have named {candidate : Candidate} {file : Sent} (made : candidate.file? = some file) :
      file.1 = candidate.name := by
    obtain ⟨contents, -, rfl⟩ := Option.map_eq_some_iff.1 made
    rfl
  refine (h.filter _).filterMap _ fun candidate other less file made file' made' => ?_
  rw [named made, named made']
  exact less

/-! ## 3.  Hosts that list in another order -/

namespace Sync

variable {sync : Sync} {unpack : Unpacker} {host other : Host}

theorem unpacks_congr (refusal : host.refusal? = other.refusal?) :
    unpacks host = unpacks other := by
  funext within
  rw [unpacks, unpacks, refusal]

/-- What an archive gives depends on what may be unpacked, and on what is denied. -/
theorem ofArchive_congr (again : Sync) (denied : sync.denied = again.denied)
    (refusal : host.refusal? = other.refusal?) (scratch : Bool) :
    sync.ofArchive unpack host scratch = again.ofArchive unpack other scratch := by
  have denies : sync.isDenied = again.isDenied := by
    funext name
    rw [isDenied, isDenied, denied]
  have member : sync.ofMember host = again.ofMember other := by
    funext label descend member
    unfold ofMember
    rw [denies, unpacks_congr refusal]
  funext levels
  induction levels with
  | zero =>
    funext label bytes
    rw [ofArchive, ofArchive, member]
  | succ levels ih =>
    funext label bytes
    rw [ofArchive, ofArchive, member, ih]

/-- The same pass on another host. -/
def onHost (sync : Sync) (host : Volume → Host) : Sync := { sync with host }

/-- **What there is to offer does not depend on the order in which the host lists.** -/
theorem candidates_of_rearranges {change : Volume → Host}
    (rearranges : ∀ volume, (sync.host volume).Rearranges (change volume)) (kind : PullKind)
    (tree : Volume) :
    sync.candidates unpack kind tree = (sync.onHost change).candidates unpack kind tree := by
  have asked (volume : Volume) :
      (sync.hostOf volume).Rearranges ((sync.onHost change).hostOf volume) :=
    rearranges { volume with made := 0 }
  have archives (volume : Volume) (scratch : Bool) :
      sync.ofArchive unpack (sync.hostOf volume) scratch =
        (sync.onHost change).ofArchive unpack ((sync.onHost change).hostOf volume) scratch :=
    ofArchive_congr (sync.onHost change) (show _ = sync.denied from rfl).symm
      (asked volume).refusal? scratch
  have file (volume : Volume) (scratch : Bool) :
      sync.ofArchiveFile unpack (sync.hostOf volume) scratch =
        (sync.onHost change).ofArchiveFile unpack ((sync.onHost change).hostOf volume) scratch := by
    funext spot
    rw [ofArchiveFile, ofArchiveFile, (asked volume).load_eq, archives]
  have folder (volume : Volume) (scratch : Bool) :
      sync.ofFolder unpack (sync.hostOf volume) scratch =
        (sync.onHost change).ofFolder unpack ((sync.onHost change).hostOf volume) scratch := by
    funext spot
    rw [ofFolder, ofFolder, (asked volume).files_eq]
    refine List.flatMap_congr fun other _ => ?_
    rw [ofFile, ofFile, file, (asked volume).load_eq]
  have application (volume : Volume) (scratch : Bool) :
      sync.ofApplication unpack (sync.hostOf volume) scratch =
        (sync.onHost change).ofApplication unpack ((sync.onHost change).hostOf volume) scratch := by
    funext path
    rw [ofApplication, ofApplication, (asked volume).follow, folder, file]
  have provided : sync.provided tree = (sync.onHost change).provided tree := by
    simp only [Sync.provided, provide, (asked tree).follow, (asked tree).refusal?]
    rfl
  rw [candidates, candidates, ← provided, application, folder]
  rfl

end Sync

/-! ## 4.  The order of a pass -/

/-- A receiver with a list is handed the beginning of what there is. -/
theorem deliver_recording_begins (reply : List Sent → Sent → Except Failure Unit)
    (files handed : List Sent) :
    ∃ first, first <+: files ∧
      (deliver (recording reply) files handed).2 = handed ++ first := by
  induction files generalizing handed with
  | nil => exact ⟨[], List.nil_prefix, (List.append_nil _).symm⟩
  | cons file files ih =>
    rw [deliver, handOver, recording]
    rcases reply handed (file.1, file.2) with failure | _
    · exact ⟨[file], List.prefix_append [file] files, rfl⟩
    · obtain ⟨first, starts, noted⟩ := ih (handed ++ [file])
      refine ⟨file :: first, List.cons_prefix_cons.2 ⟨rfl, starts⟩, ?_⟩
      rw [List.append_assoc] at noted
      exact noted

namespace Sync

/-- **A request for the running classes sends them in the order of their paths**, whatever the
filter, the collector's set and the receiver.  So no file is sent twice.  The order in which the
host lists the folders has no influence on it: where the host lists them in another order, the pass
sends the same. -/
theorem running_classes_in_order (sync : Sync) (unpack : Unpacker) (known : KnownIds)
    (tree : Volume) (distinct : (sync.hostOf (sync.provided tree)).Distinct)
    (texts : ∀ file ∈ (sync.hostOf (sync.provided tree)).files ⟨sync.dumpFolder, []⟩,
      ∀ name ∈ file.names, name.IsText)
    (plain : ∀ file ∈ (sync.hostOf (sync.provided tree)).files ⟨sync.dumpFolder, []⟩,
      isArchive file.relative = false)
    (reply : List Sent → Sent → Except Failure Unit) :
    let outcome := sync.run unpack ⟨.runningClasses, known⟩ (recording reply) [] tree
    let sent := outcome.2.receiver
    (sent.Pairwise fun file other => components file.1 < components other.1) ∧
      (sent.map Prod.fst).Nodup ∧
      ∀ change : Volume → Host, (∀ volume, (sync.host volume).Rearranges (change volume)) →
        let again := (sync.onHost change).run unpack ⟨.runningClasses, known⟩
          (recording reply) [] tree
        again.1 = outcome.1 ∧ again.2.receiver = sent := by
  intro outcome sent
  have delivered := sync.run_delivers unpack ⟨.runningClasses, known⟩ (recording reply) [] tree
  obtain ⟨first, starts, noted⟩ := deliver_recording_begins reply
    (eligible sync.filter known (sync.candidates unpack .runningClasses tree)) []
  have offered : sync.candidates unpack .runningClasses tree = sync.ofFolder unpack _ _ _ := rfl
  have ordered : sent.Pairwise fun file other => components file.1 < components other.1 := by
    rw [show sent = first from delivered.2.trans noted]
    refine (pairwise_eligible known ?_).sublist starts.sublist
    rw [offered]
    exact pairwise_candidates unpack _ distinct texts plain
  refine ⟨ordered, nodup_of_pairwise ordered, fun change rearranges => ?_⟩
  intro again
  have redelivered := (sync.onHost change).run_delivers unpack ⟨.runningClasses, known⟩
    (recording reply) [] tree
  rw [← candidates_of_rearranges rearranges] at redelivered
  exact ⟨redelivered.1.trans delivered.1.symm, redelivered.2.trans delivered.2.symm⟩

/-- A folder comes before a file whose name goes on with a hyphen, though as texts their paths are
in the other order, and so does the host list them. -/
theorem running_classes_in_order_of_hyphen :
    let host (tree : Volume) := (Host.ofVolume tree).reversed
    let sync : Sync := ⟨⟨["", "dump"]⟩, none, ⟨⟨[fun _ => true]⟩, ⟨[]⟩⟩, [], ⟨["", "tmp"]⟩, host⟩
    let tree := (((Volume.empty ⟨["", "dump"]⟩).put ["a"] .folder).put ["a", "B.class"]
      (.file 0 [1])).put ["a-b.class"] (.file 1 [2])
    let outcome := sync.run (fun _ => none) ⟨.runningClasses, .empty⟩ (recording fun _ _ => .ok ())
      [] tree
    let again := (sync.onHost Host.ofVolume).run (fun _ => none)
      ⟨.runningClasses, .empty⟩ (recording fun _ _ => .ok ()) [] tree
    "a-b.class" < "a/B.class" ∧ outcome.1 = .ok ⟨2, 0, 0⟩ ∧
      outcome.2.receiver = [("a/B.class", [1]), ("a-b.class", [2])] ∧
      again.1 = outcome.1 ∧ again.2.receiver = outcome.2.receiver := by
  intro host sync tree outcome again
  have rows : tree.entries = [(["a"], .folder), (["a", "B.class"], .file 0 [1]),
    (["a-b.class"], .file 1 [2])] := rfl
  have joined : Text.join Path.separator ["a", "B.class"] = "a/B.class" ∧
      Text.join Path.separator ["a-b.class"] = "a-b.class" := by decide +kernel
  have legible : tree.Legible :=
    ⟨⟨[""], "dump", rfl, by decide⟩, by decide +kernel, by decide +kernel, by decide +kernel,
      by decide +kernel, by decide +kernel⟩
  have plain : ∀ row ∈ tree.entries, isArchive (Text.join Path.separator row.1) = false := by
    decide +kernel
  have answers : sync.hostOf tree = (Host.ofVolume tree).reversed := by
    show (Host.ofVolume (tree.renumber 0)).reversed = _
    rw [Host.ofVolume_renumber]
  have same := (Host.ofVolume tree).rearranges_reversed
  have dump : (sync.hostOf tree).follow ⟨sync.dumpFolder, []⟩ = .ok .folder := by
    rw [answers, same.follow]
    exact Host.follow_home legible
  have files : (sync.hostOf tree).files ⟨sync.dumpFolder, []⟩ =
      (tree.entries.filter fun row => row.2.isFull).map fun row =>
        Spot.ofTexts sync.dumpFolder row.1 := by
    rw [answers, same.files_eq]
    exact Host.files_ofVolume legible
  obtain ⟨-, -, rearranged⟩ := sync.running_classes_in_order (fun _ => none) .empty tree
    (by rw [provided_of_follow dump, answers]; exact same.distinct (Host.distinct_ofVolume tree))
    (by
      rw [provided_of_follow dump, files]
      exact List.forall_mem_map.2 fun row _ name => Spot.isText_of_mem_ofTexts)
    (by
      rw [provided_of_follow dump, files]
      refine List.forall_mem_map.2 fun row member => ?_
      have row_there := List.mem_of_mem_filter member
      rw [Spot.relative_ofTexts (legible.ordinary row row_there)]
      exact plain row row_there)
    (fun _ _ => .ok ())
  obtain ⟨ended, told⟩ := rearranged Host.ofVolume fun volume =>
    (Host.ofVolume volume).rearranges_reversed
  have offered : sync.candidates (fun _ => none) .runningClasses tree =
      [⟨"a/B.class", .ok [1]⟩, ⟨"a-b.class", .ok [2]⟩] := by
    rw [candidates_of_table _ .runningClasses rfl legible rfl (answers ▸ same) plain, rows]
    simp [Files.Entry.isFull, Files.Entry.contents, joined]
  have counted : tallyOf sync.filter .empty [⟨"a/B.class", .ok [1]⟩, ⟨"a-b.class", .ok [2]⟩] =
      ⟨2, 0, 0⟩ := by decide +kernel
  have sent : eligible sync.filter .empty [⟨"a/B.class", .ok [1]⟩, ⟨"a-b.class", .ok [2]⟩] =
      [("a/B.class", [1]), ("a-b.class", [2])] := by decide +kernel
  obtain ⟨reported, handed⟩ := sync.run_delivers (fun _ => none) ⟨.runningClasses, .empty⟩
    (recording fun _ _ => .ok ()) [] tree
  rw [offered, sent] at reported handed
  rw [counted] at reported
  exact ⟨by decide +kernel, reported, handed, ended, told⟩

end Sync
end Artifact
end CoverageLink
