import CoverageLink.Files.Host
import CoverageLink.Proofs.Collector.Naming
import CoverageLink.Proofs.Text.Utf8
import Mathlib.Data.List.Perm.Basic
import Mathlib.Data.List.Sort

/-!
# The files that a host lets one come across

A walk through the folders of a host comes across files, in a certain order, and which ones these
are depends on nothing but what the host answers.

## 1.  Going down

There is less and less room in a path, so what is said of a spot may be derived from what is said of
the spots in it (`Host.induction`).  `Host.files` is defined that way: the files in a folder and in
the folders below it, links to files included, as far as the host says what they are, and without
those that have no contents.

## 2.  The order of a folder

The names of a folder come in the order of their octets, and so the files below it come in the order
of the names that lead to them, if no folder has a name twice (`Host.Distinct.pairwise_files`).

## 3.  The order in which a host lists

A host lists the names of a folder in any order it likes.  Whoever sorts them does not notice
(`Rearranges.files_eq`).

## 4.  Names that are texts

A name that is a text is an ordinary component of a path, and the other way round.

## 5.  Hosts that answer from a volume

Whatever comes up in a volume can be read (`Host.exists_load_of_mem_files`).  If everything in a
volume can be asked for by its names and there are no links, what one comes across are the files in
the table of the volume, in the order of the table (`Host.files_ofVolume`).
-/

namespace CoverageLink
namespace Files

theorem HostName.eq_of_octets {name other : HostName} (same : name.octets = other.octets) :
    name = other := by
  cases name
  cases other
  cases same
  rfl

namespace Host

variable {host : Host} {spot : Spot} {names : List HostName}

/-! ## 1.  Going down -/

/-- What holds of a spot if it holds of everything that is listed there, holds of every spot. -/
theorem induction (host : Host) {motive : Spot → Prop}
    (step : ∀ spot, (∀ names, host.names spot = .ok names → ∀ name, motive (spot.child name)) →
      motive spot) (spot : Spot) : motive spot := by
  generalize left : room spot = room
  induction room using Nat.strong_induction_on generalizing spot with
  | _ room ih =>
    exact step spot fun names listed name => ih _ (left ▸ room_child_lt listed name) _ rfl

/-- Whether something is a file that has contents, or a link to one. -/
def holdsFile (host : Host) (spot : Spot) : Bool :=
  match host.look spot with
  | .ok (some (.other size)) => size ≠ 0
  | .ok none =>
    match host.follow spot with
    | .ok (.other size) => size ≠ 0
    | .ok .folder | .error _ => false
  | .ok (some .folder) | .error _ => false

/-- The files at a spot; `inside` are those that are in it if it is a folder. -/
def filesAt (host : Host) (spot : Spot) (inside : List Spot) : List Spot :=
  if host.look spot = .ok (some .folder) then inside
  else if host.holdsFile spot then [spot]
  else []

/-- The files in a folder and in the folders below it. -/
def files (host : Host) (spot : Spot) : List Spot :=
  match _listed : host.names spot with
  | .error _ => []
  | .ok names =>
    names.flatMap fun name => host.filesAt (spot.child name) (files host (spot.child name))
termination_by room spot
decreasing_by exact room_child_lt _listed name

/-- The same host, which does not let some files be opened. -/
def barring (host : Host) (barred : Spot → Bool) : Host :=
  { host with
    open_ := fun spot =>
      if barred spot then .error (.host .permissionDenied) else host.open_ spot }

theorem load_barring (host : Host) (barred : Spot → Bool) (spot : Spot) :
    (host.barring barred).load spot =
      if barred spot then .error (Failure.host .permissionDenied).message else host.load spot := by
  cases closed : barred spot <;> simp [barring, load, closed]

theorem files_of_error {failure : Failure} (refused : host.names spot = .error failure) :
    host.files spot = [] := by
  rw [files]
  split
  · rfl
  · rename_i listed
    cases listed.symm.trans refused

theorem files_of_ok (listed : host.names spot = .ok names) :
    host.files spot = names.flatMap fun name =>
      host.filesAt (spot.child name) (host.files (spot.child name)) := by
  rw [files]
  split
  · rename_i refused
    cases refused.symm.trans listed
  · rename_i same
    cases same.symm.trans listed
    rfl

/-- What is at a spot is what is in it, if that is a folder, or the spot itself. -/
theorem mem_filesAt {inside : List Spot} {file : Spot} (member : file ∈ host.filesAt spot inside) :
    file ∈ inside ∨ file = spot ∧ host.holdsFile spot = true := by
  unfold filesAt at member
  split at member
  · exact .inl member
  · split at member
    · exact .inr ⟨List.mem_singleton.1 member, ‹_›⟩
    · cases member

/-- **How a file comes up in a folder.**  The host has listed all the names that lead there, and it
says that there is a file that has contents, or a link to one. -/
theorem exists_names_of_mem_files {file : Spot} (member : file ∈ host.files spot) :
    file.root = spot.root ∧ host.holdsFile file = true ∧
      ∃ name names, file.names = spot.names ++ name :: names ∧
        ∀ next ∈ name :: names, ∃ above listed, host.names above = .ok listed ∧ next ∈ listed := by
  induction spot using host.induction with
  | step spot ih =>
    rcases listed : host.names spot with failure | names
    · rw [files_of_error listed] at member
      cases member
    · rw [files_of_ok listed] at member
      obtain ⟨name, one, member⟩ := List.mem_flatMap.1 member
      have own : ∃ above listed, host.names above = .ok listed ∧ name ∈ listed :=
        ⟨spot, names, listed, one⟩
      rcases mem_filesAt member with inside | ⟨rfl, holds⟩
      · obtain ⟨root, holds, next, others, further, known⟩ := ih names listed name inside
        refine ⟨root, holds, name, next :: others, ?_, List.forall_mem_cons.2 ⟨own, known⟩⟩
        rw [further, Spot.child, List.append_assoc, List.singleton_append]
      · exact ⟨rfl, holds, name, [], rfl, List.forall_mem_singleton.2 own⟩

/-- Files under a name of a folder have that name. -/
theorem exists_names_of_mem_filesAt {name : HostName} {file : Spot}
    (member : file ∈ host.filesAt (spot.child name) (host.files (spot.child name))) :
    ∃ rest, file.names = spot.names ++ name :: rest := by
  rcases mem_filesAt member with inside | ⟨rfl, -⟩
  · obtain ⟨-, -, next, others, further, -⟩ := exists_names_of_mem_files inside
    refine ⟨next :: others, ?_⟩
    rw [further, Spot.child, List.append_assoc, List.singleton_append]
  · exact ⟨[], rfl⟩

/-! ## 2.  The order of a folder -/

/-- Names in the order of their octets are determined by which they are. -/
theorem eq_of_perm {others : List HostName}
    (ordered : names.Pairwise fun name other => name.octets ≤ other.octets)
    (ordered' : others.Pairwise fun name other => name.octets ≤ other.octets)
    (same : names.Perm others) : names = others :=
  same.eq_of_pairwise
    (fun _ _ _ _ le ge => HostName.eq_of_octets (List.le_antisymm le ge)) ordered ordered'

/-- **The names of a folder** are those that the host lists, in the order of their octets. -/
theorem names_eq_ok_iff : host.names spot = .ok names ↔
    ∃ listed, host.list spot = .ok listed ∧ names.Perm (listed.filterMap id) ∧
      names.Pairwise fun name other => name.octets ≤ other.octets := by
  let before (name other : HostName) : Bool := decide (name.octets ≤ other.octets)
  have sorted (given : List HostName) :
      (given.mergeSort before).Pairwise fun name other => name.octets ≤ other.octets := by
    refine (List.pairwise_mergeSort ?_ ?_ given).imp of_decide_eq_true
    · intro name other third le le'
      exact decide_eq_true (List.le_trans (of_decide_eq_true le) (of_decide_eq_true le'))
    · intro name other
      simpa [before] using List.le_total name.octets other.octets
  unfold Host.names
  cases host.list spot with
  | error failure => simp [Except.map]
  | ok listed =>
    simp only [Except.map, Except.ok.injEq, exists_eq_left']
    constructor
    · rintro rfl
      exact ⟨List.mergeSort_perm _ _, sorted _⟩
    · rintro ⟨same, ordered⟩
      exact eq_of_perm (sorted _) ordered ((List.mergeSort_perm _ _).trans same.symm)

theorem pairwise_names (listed : host.names spot = .ok names) :
    names.Pairwise fun name other => name.octets ≤ other.octets :=
  (names_eq_ok_iff.1 listed).choose_spec.2.2

/-- No folder has a name twice. -/
def Distinct (host : Host) : Prop :=
  ∀ spot listed, host.list spot = .ok listed → (listed.filterMap id).Nodup

theorem Distinct.pairwise_names (distinct : host.Distinct) (listed : host.names spot = .ok names) :
    names.Pairwise fun name other => name.octets < other.octets := by
  obtain ⟨answer, answered, same, ordered⟩ := names_eq_ok_iff.1 listed
  have different : names.Nodup := same.nodup_iff.2 (distinct spot answer answered)
  refine (ordered.and different).imp fun {name other} ⟨le, ne⟩ => ?_
  exact (List.le_iff_lt_or_eq.1 le).resolve_right fun same => ne (HostName.eq_of_octets same)

/-- **The files below a folder come in the order of the names that lead to them.** -/
theorem Distinct.pairwise_files (distinct : host.Distinct) (spot : Spot) :
    (host.files spot).Pairwise fun file other =>
      file.names.map HostName.octets < other.names.map HostName.octets := by
  induction spot using host.induction with
  | step spot ih =>
    rcases listed : host.names spot with failure | names
    · rw [files_of_error listed]
      exact .nil
    rw [files_of_ok listed, List.pairwise_flatMap]
    constructor
    · intro name _
      unfold filesAt
      split
      · exact ih names listed name
      · split
        · exact List.pairwise_singleton _ _
        · exact .nil
    · refine (distinct.pairwise_names listed).imp ?_
      intro name other less file member file' member'
      obtain ⟨rest, further⟩ := exists_names_of_mem_filesAt member
      obtain ⟨rest', further'⟩ := exists_names_of_mem_filesAt member'
      rw [further, further', List.map_append, List.map_append]
      exact List.append_left_lt (.rel less)

/-- Files in the order of their names are determined by which they are. -/
theorem eq_of_mem_iff {files others : List Spot}
    (ordered : files.Pairwise fun file other =>
      file.names.map HostName.octets < other.names.map HostName.octets)
    (ordered' : others.Pairwise fun file other =>
      file.names.map HostName.octets < other.names.map HostName.octets)
    (same : ∀ file, file ∈ files ↔ file ∈ others) : files = others := by
  have different {files : List Spot} (ordered : files.Pairwise fun file other =>
      file.names.map HostName.octets < other.names.map HostName.octets) : files.Nodup := by
    refine ordered.imp fun {file other} less same => ?_
    rw [same] at less
    exact List.lt_irrefl _ less
  refine List.Perm.eq_of_pairwise (fun file other _ _ less more => ?_) ordered ordered'
    ((List.perm_ext_iff_of_nodup (different ordered) (different ordered')).2 same)
  exact absurd more (List.lt_asymm less)

/-! ## 3.  The order in which a host lists -/

/-- What comes up depends on the names of the folders, and on what stands under them. -/
theorem files_congr {other : Host} (names : host.names = other.names)
    (look : host.look = other.look) (follow : host.follow = other.follow) :
    host.files = other.files := by
  have holds : host.holdsFile = other.holdsFile := by
    funext spot
    rw [holdsFile, holdsFile, look, follow]
  funext spot
  induction spot using host.induction with
  | step spot ih =>
    rcases listed : host.names spot with failure | found
    · rw [files_of_error listed, files_of_error (names ▸ listed)]
    · rw [files_of_ok listed, files_of_ok (names ▸ listed)]
      refine List.flatMap_congr fun name _ => ?_
      rw [ih found listed name, filesAt, filesAt, look, holds]

/-- Two hosts that differ in the order in which they list their folders, if at all. -/
structure Rearranges (host other : Host) : Prop where
  list : ∀ spot, host.list spot = other.list spot ∨ ∃ listed listed',
    host.list spot = .ok listed ∧ other.list spot = .ok listed' ∧ listed.Perm listed'
  look : host.look = other.look
  follow : host.follow = other.follow
  open_ : host.open_ = other.open_
  refusal? : host.refusal? = other.refusal?

namespace Rearranges

variable {other : Host}

theorem refl (host : Host) : host.Rearranges host := ⟨fun _ => .inl rfl, rfl, rfl, rfl, rfl⟩

/-- **Whoever sorts the names of a folder does not notice how they were listed.** -/
theorem names_eq (h : host.Rearranges other) : host.names = other.names := by
  funext spot
  rcases h.list spot with same | ⟨listed, listed', first, second, perm⟩
  · rw [Host.names, Host.names, same]
  · obtain ⟨names, sorted⟩ : ∃ names, host.names spot = .ok names := by
      rw [Host.names, first]
      exact ⟨_, rfl⟩
    obtain ⟨answer, answered, same, ordered⟩ := names_eq_ok_iff.1 sorted
    cases first.symm.trans answered
    rw [sorted, names_eq_ok_iff.2 ⟨listed', second, same.trans (perm.filterMap id), ordered⟩]

theorem files_eq (h : host.Rearranges other) : host.files = other.files :=
  files_congr h.names_eq h.look h.follow

theorem distinct (h : host.Rearranges other) (distinct : other.Distinct) : host.Distinct := by
  intro spot listed answered
  rcases h.list spot with same | ⟨first, second, told, told', perm⟩
  · exact distinct spot listed (same ▸ answered)
  · cases told.symm.trans answered
    exact (perm.filterMap id).nodup_iff.2 (distinct spot second told')

theorem load_eq (h : host.Rearranges other) : host.load = other.load := by
  funext spot
  rw [load, load, h.open_]

end Rearranges

/-- The same host, listing every folder from behind. -/
def reversed (host : Host) : Host :=
  { host with
    list := fun spot => (host.list spot).map List.reverse
    short := by
      intro spot listed answered
      cases told : host.list spot with
      | error failure => rw [told] at answered; cases answered
      | ok answer => exact host.short spot answer told }

theorem list_reversed (host : Host) (spot : Spot) :
    host.reversed.list spot = (host.list spot).map List.reverse :=
  rfl

theorem rearranges_reversed (host : Host) : host.reversed.Rearranges host where
  list spot := by
    rw [list_reversed]
    cases host.list spot with
    | error failure => exact .inl rfl
    | ok listed => exact .inr ⟨listed.reverse, listed, rfl, rfl, listed.reverse_perm⟩
  look := rfl
  follow := rfl
  open_ := rfl
  refusal? := rfl

end Host

/-! ## 4.  Names that are texts -/

namespace HostName

variable {name : HostName}

/-- Whether a name spells a text. -/
def IsText (name : HostName) : Prop := ∃ text, Utf8.encode text = name.octets

/-- A name that spells a text is shown as that text. -/
theorem IsText.encode_shown (h : name.IsText) : Utf8.encode name.shown = name.octets := by
  obtain ⟨text, spelled⟩ := h
  rw [shown, ← spelled, Utf8.decodeLossy_encode]

/-- A slash in a text is an octet of its own, and that octet is in nothing else. -/
theorem mem_encode_iff {text : String} :
    0x2F ∈ Utf8.encode text ↔ Path.separator ∈ text.toList := by
  refine List.mem_flatMap.trans ⟨?_, fun member => ⟨Path.separator, member, by decide⟩⟩
  rintro ⟨c, member, octet⟩
  rwa [← Utf8.eq_of_mem_utf8EncodeChar (by decide : Path.separator.toNat < 0x80) octet]

/-- The text of a name is an ordinary component of a path. -/
theorem IsText.ordinary_shown (h : name.IsText) : Ordinary name.shown := by
  obtain ⟨some_octets, no_slash, not_dot, not_dots⟩ := name.proper
  rw [← h.encode_shown] at some_octets no_slash not_dot not_dots
  exact ⟨fun same => some_octets (by rw [same]; rfl), fun same => not_dot (by rw [same]; rfl),
    fun same => not_dots (by rw [same]; rfl),
    fun member => no_slash (mem_encode_iff.2 member)⟩

theorem eq_encode_of_ofText? {text : String} (spelled : ofText? text = some name) :
    name.octets = Utf8.encode text := by
  unfold ofText? ofOctets? at spelled
  split at spelled
  · cases spelled
    rfl
  · cases spelled

/-- **An ordinary component of a path is a name.** -/
theorem exists_ofText? {text : String} (ordinary : Ordinary text) :
    ∃ name, ofText? text = some name ∧ name.octets = Utf8.encode text := by
  have same (other : String) (octets : Utf8.encode text = Utf8.encode other) : text = other := by
    have decoded := Utf8.decode_encode text
    rw [octets, Utf8.decode_encode] at decoded
    exact (Except.ok.inj decoded).symm
  have proper : Utf8.encode text ≠ [] ∧ 0x2F ∉ Utf8.encode text ∧ Utf8.encode text ≠ [0x2E] ∧
      Utf8.encode text ≠ [0x2E, 0x2E] :=
    ⟨fun octets => ordinary.nonempty (same "" octets),
      mt mem_encode_iff.1 ordinary.no_separator,
      fun octets => ordinary.not_dot (same "." octets),
      fun octets => ordinary.not_dots (same ".." octets)⟩
  exact ⟨⟨_, proper⟩, dif_pos proper, rfl⟩

end HostName

/-! ## 5.  Hosts that answer from a volume -/

namespace Spot

/-- What texts lead to. -/
def ofTexts (root : Path) (texts : List String) : Spot := ⟨root, texts.filterMap HostName.ofText?⟩

variable {root : Path} {texts : List String}

theorem isText_of_mem_ofTexts {name : HostName} (member : name ∈ (ofTexts root texts).names) :
    name.IsText := by
  obtain ⟨text, -, spelled⟩ := List.mem_filterMap.1 member
  exact ⟨text, (HostName.eq_encode_of_ofText? spelled).symm⟩

theorem joined_cons {piece : Bytes} {pieces : List Bytes} (more : pieces ≠ []) :
    joined (piece :: pieces) = piece ++ 0x2F :: joined pieces := by
  obtain ⟨next, others, rfl⟩ := List.exists_cons_of_ne_nil more
  rfl

theorem child_ofTexts {text : String} {name : HostName}
    (spelled : HostName.ofText? text = some name) :
    (ofTexts root texts).child name = ofTexts root (texts ++ [text]) := by
  rw [ofTexts, ofTexts, child, List.filterMap_append, List.filterMap_cons_some spelled,
    List.filterMap_nil]

section

variable (ordinary : ∀ text ∈ texts, Ordinary text)
include ordinary

theorem map_octets_ofTexts (root : Path) :
    (ofTexts root texts).names.map HostName.octets = texts.map Utf8.encode := by
  rw [ofTexts]
  induction texts with
  | nil => rfl
  | cons text texts ih =>
    obtain ⟨name, spelled, octets⟩ := HostName.exists_ofText? (ordinary text List.mem_cons_self)
    rw [List.filterMap_cons_some spelled, List.map_cons, List.map_cons, octets,
      ih fun other member => ordinary other (List.mem_cons_of_mem _ member)]

/-- What texts lead to has these texts for a name. -/
theorem relative_ofTexts (root : Path) :
    (ofTexts root texts).relative = Text.join Path.separator texts := by
  have shown : (ofTexts root texts).names.map HostName.shown = texts := by
    have undone : Utf8.decodeLossy ∘ Utf8.encode = id := funext Utf8.decodeLossy_encode
    have octets := congrArg (List.map Utf8.decodeLossy) (map_octets_ofTexts ordinary root)
    rwa [List.map_map, List.map_map, undone, List.map_id] at octets
  rw [relative, shown]

theorem path?_ofTexts (root : Path) : (ofTexts root texts).path? = some (root.descend texts) := by
  have read : (texts.filterMap HostName.ofText?).mapM HostName.text? = some texts := by
    induction texts with
    | nil => rfl
    | cons text texts ih =>
      obtain ⟨name, spelled, octets⟩ := HostName.exists_ofText? (ordinary text List.mem_cons_self)
      have decoded : name.text? = some text := by
        rw [HostName.text?, octets, Utf8.decode_encode]
        rfl
      rw [List.filterMap_cons_some spelled, List.mapM_cons, decoded,
        ih fun other member => ordinary other (List.mem_cons_of_mem _ member)]
      rfl
  rw [path?, ofTexts, read]
  rfl

/-- The path of what texts lead to is that of the folder, going on with these texts. -/
theorem octets_ofTexts (root : Path) :
    (ofTexts root texts).octets = Utf8.encode (root.descend texts).text := by
  have line (pieces : List String) :
      joined (pieces.map Utf8.encode) = Utf8.encode (Text.join Path.separator pieces) := by
    induction pieces with
    | nil => rfl
    | cons piece pieces ih =>
      by_cases last : pieces = []
      · rw [last]
        rfl
      · have more : pieces.map Utf8.encode ≠ [] := mt List.map_eq_nil_iff.1 last
        have slash : String.utf8EncodeChar Path.separator = [0x2F] := by decide
        rw [Text.join_cons _ _ last, List.map_cons, joined_cons more, ih]
        simp [Utf8.encode, slash]
  have named := map_octets_ofTexts ordinary root
  rcases texts with _ | ⟨text, texts⟩
  · rfl
  · have some_names : (ofTexts root (text :: texts)).names.isEmpty = false := by
      obtain ⟨name, spelled, -⟩ := HostName.exists_ofText? (ordinary text List.mem_cons_self)
      rw [ofTexts, List.filterMap_cons_some spelled]
      rfl
    rw [octets, some_names, named, ← List.map_append, line]
    rfl

end

end Spot

/-- What is in an entry, if it is a file. -/
def Entry.contents : Entry → Bytes
  | .file _ contents => contents
  | .folder | .link _ => []

/-- Whether an entry is a file that has contents. -/
def Entry.isFull (entry : Entry) : Bool := !entry.contents.isEmpty

/-- A volume that can be gone through: everything in it can be asked for by its names, and there
are no links. -/
structure Volume.Legible (volume : Volume) : Prop where
  ends : volume.home.EndsInName
  home : Volume.Followable volume.home
  ordinary : ∀ row ∈ volume.entries, ∀ name ∈ row.1, Ordinary name
  short : ∀ row ∈ volume.entries, ∀ name ∈ row.1, name.utf8ByteSize ≤ Volume.maxName
  followable : ∀ row ∈ volume.entries, Volume.Followable (volume.home.descend row.1)
  unlinked : ∀ row ∈ volume.entries, (Host.natureOf? row.2).isSome = true

namespace Volume

variable {volume : Volume} {names : Location} {entry : Entry}

theorem mem_namesIn_iff {top : Location} {name : String} :
    name ∈ volume.namesIn top ↔ ∃ entry, volume.at? (top ++ [name]) = some entry := by
  rw [at?_append_singleton]
  constructor
  · intro member
    obtain ⟨entry, inside, found⟩ := Listing.exists_find?_of_mem_names member
    exact ⟨entry, by rw [found]; rfl⟩
  · rintro ⟨entry, there⟩
    obtain ⟨⟨held, inside⟩, found, -⟩ := Option.map_eq_some_iff.1 there
    exact Listing.mem_names_of_find? found

theorem mem_entries (there : volume.at? names = some entry) (some_names : names ≠ []) :
    (names, entry) ∈ volume.entries :=
  show (names, entry) ∈ volume.below [] from mem_below_iff.2 ⟨some_names, there⟩

/-- Everything is found under its names. -/
theorem Legible.place (legible : volume.Legible) (row : (names, entry) ∈ volume.entries)
    (aim : Aim) : volume.place aim (volume.home.descend names) = .ok (.found names entry) := by
  obtain ⟨some_names, there⟩ := mem_below_iff.1 (show (names, entry) ∈ volume.below [] from row)
  have straight := legible.unlinked _ row
  refine place_of_at? legible.ends some_names (fun name member => ?_) (legible.short _ row)
    (legible.followable _ row) there ?_
  · exact (legible.ordinary _ row name member).ofSegment
  · rintro target rfl
    cases straight

end Volume

namespace Host

variable {volume : Volume} {names : Location} {entry : Entry}

/-- What a volume answers, it answers to a path that is not too long. -/
theorem ask_eq_ok_iff {α : Type} {question : Path → Except Failure α} {spot : Spot} {answer : α} :
    ask question spot = .ok answer ↔
      spot.octets.length ≤ Volume.maxPath ∧
        ∃ path, spot.path? = some path ∧ question path = .ok answer := by
  unfold ask
  split
  · rename_i long
    exact iff_of_false (fun answered => by cases answered) fun short => Nat.not_lt.2 short.1 long
  · rename_i short
    cases spot.path? with
    | none => simp
    | some path => simp [Nat.not_lt.1 short]

theorem listIn_eq_ok_iff {path : Path} {listed : List (Option HostName)} :
    listIn volume path = .ok listed ↔
      ∃ top, volume.folderAt path = .ok top ∧
        listed = (volume.namesIn top).map HostName.ofText? := by
  unfold listIn
  cases volume.folderAt path <;> simp [Except.map, eq_comm]

/-- All names in a volume are texts. -/
theorem isText_of_mem_names {spot : Spot} {listed : List HostName}
    (answered : (ofVolume volume).names spot = .ok listed) {name : HostName}
    (member : name ∈ listed) : name.IsText := by
  obtain ⟨given, asked, same, -⟩ := names_eq_ok_iff.1 answered
  obtain ⟨-, path, -, told⟩ := ask_eq_ok_iff.1 asked
  obtain ⟨top, -, rfl⟩ := listIn_eq_ok_iff.1 told
  have among := same.mem_iff.1 member
  rw [List.filterMap_map] at among
  obtain ⟨text, -, spelled⟩ := List.mem_filterMap.1 among
  exact ⟨text, (HostName.eq_encode_of_ofText? spelled).symm⟩

theorem entryAt_of_lookAt {path : Path} {size : Nat}
    (looked : lookAt volume path = .ok (some (.other size))) :
    ∃ location number contents, volume.entryAt path = .ok (location, .file number contents) ∧
      contents.length = size := by
  unfold lookAt at looked
  rcases named : volume.place .entry path with failure | ⟨location, entry⟩ | ⟨location, closed⟩ <;>
    rw [named] at looked
  · cases looked
  · cases entry with
    | file number contents =>
      cases looked
      exact ⟨location, number, contents, Volume.entryAt_of_place named, rfl⟩
    | folder => cases looked
    | link target => cases looked
  · cases looked

theorem entryAt_of_followTo {path : Path} {size : Nat}
    (followed : followTo volume path = .ok (.other size)) :
    ∃ location number contents, volume.entryAt path = .ok (location, .file number contents) ∧
      contents.length = size := by
  unfold followTo at followed
  rcases found : volume.entryAt path with failure | ⟨location, entry⟩ <;> rw [found] at followed
  · cases followed
  · cases entry with
    | file number contents =>
      cases followed
      exact ⟨location, number, contents, rfl, rfl⟩
    | folder => cases followed
    | link target => cases followed

/-- **What comes up in a volume can be read**, and has contents. -/
theorem exists_load_of_mem_files {spot file : Spot} (member : file ∈ (ofVolume volume).files spot) :
    ∃ contents, (ofVolume volume).load file = .ok contents ∧ contents ≠ [] := by
  have holds := (exists_names_of_mem_files member).2.1
  obtain ⟨short, path, called, location, number, contents, found, full⟩ :
      file.octets.length ≤ Volume.maxPath ∧ ∃ path, file.path? = some path ∧
        ∃ location number contents, volume.entryAt path = .ok (location, .file number contents) ∧
          contents.length ≠ 0 := by
    unfold holdsFile at holds
    rcases looked : (ofVolume volume).look file with failure | _ | _ | size <;>
      rw [looked] at holds
    · cases holds
    · rcases followed : (ofVolume volume).follow file with failure | _ | size <;>
        simp only [followed, decide_eq_true_eq] at holds
      · cases holds
      · cases holds
      · obtain ⟨short, path, called, told⟩ := ask_eq_ok_iff.1 followed
        obtain ⟨location, number, contents, found, rfl⟩ := entryAt_of_followTo told
        exact ⟨short, path, called, location, number, contents, found, holds⟩
    · cases holds
    · obtain ⟨short, path, called, told⟩ := ask_eq_ok_iff.1 looked
      obtain ⟨location, number, contents, found, rfl⟩ := entryAt_of_lookAt told
      exact ⟨short, path, called, location, number, contents, found, by simpa using holds⟩
  have opened : (ofVolume volume).open_ file = .ok (.ok contents) := by
    refine ask_eq_ok_iff.2 ⟨short, path, called, ?_⟩
    rw [openAt, found]
    rfl
  refine ⟨contents, ?_, mt List.length_eq_zero_iff.2 full⟩
  rw [load, opened]

theorem ask_ofTexts {α : Type} (question : Path → Except Failure α) {root : Path}
    (ordinary : ∀ name ∈ names, Ordinary name)
    (followable : Volume.Followable (root.descend names)) :
    ask question (Spot.ofTexts root names) = question (root.descend names) := by
  have short := followable.short
  rw [← Utf8.length_encode, ← Spot.octets_ofTexts ordinary] at short
  rw [ask, if_neg (Nat.not_lt.2 short), Spot.path?_ofTexts ordinary]

theorem ask_root {α : Type} (question : Path → Except Failure α) {path : Path}
    (followable : Volume.Followable path) : ask question ⟨path, []⟩ = question path :=
  have none_there : ∀ name ∈ ([] : Location), Ordinary name := fun _ member => by cases member
  ask_ofTexts question none_there followable

/-- What a path leads to, as it was written. -/
theorem follow_of_entryAt {path : Path} (found : volume.entryAt path = .ok (names, entry)) :
    (ofVolume volume).follow ⟨path, []⟩ = .ok ((natureOf? entry).getD .folder) := by
  have followable := (Volume.place_eq_ok_iff.1 (Volume.entryAt_eq_ok_iff.1 found)).1
  show ask _ _ = _
  rw [ask_root _ followable, followTo, found]
  rfl

theorem load_of_entryAt {path : Path} {number : Nat} {contents : Bytes}
    (found : volume.entryAt path = .ok (names, .file number contents)) :
    (ofVolume volume).load ⟨path, []⟩ = .ok contents := by
  have followable := (Volume.place_eq_ok_iff.1 (Volume.entryAt_eq_ok_iff.1 found)).1
  have opened : (ofVolume volume).open_ ⟨path, []⟩ = .ok (.ok contents) := by
    show ask _ _ = _
    rw [ask_root _ followable, openAt, found]
    rfl
  rw [load, opened]

/-- The names of a folder are in order in a volume. -/
theorem names_of_list {spot : Spot}
    (listed : (ofVolume volume).list spot = .ok ((volume.namesIn names).map HostName.ofText?)) :
    (ofVolume volume).names spot = .ok ((volume.namesIn names).filterMap HostName.ofText?) := by
  refine names_eq_ok_iff.2 ⟨_, listed, ?_, ?_⟩
  · rw [List.filterMap_map]
    exact List.Perm.refl _
  · refine (volume.pairwise_namesIn names).filterMap _ ?_
    intro text other less name spelled name' spelled'
    rw [HostName.eq_encode_of_ofText? spelled, HostName.eq_encode_of_ofText? spelled']
    exact List.le_of_lt less

theorem names_of_folderAt {path : Path} (led : volume.folderAt path = .ok names) :
    (ofVolume volume).names ⟨path, []⟩ =
      .ok ((volume.namesIn names).filterMap HostName.ofText?) := by
  have entry := Volume.folderAt_eq_ok_iff.1 led
  have followable := (Volume.place_eq_ok_iff.1 (Volume.entryAt_eq_ok_iff.1 entry)).1
  exact names_of_list ((ask_root _ followable).trans (listIn_eq_ok_iff.2 ⟨names, led, rfl⟩))

section

variable (legible : volume.Legible)
include legible

theorem ask_of_row {α : Type} (question : Path → Except Failure α)
    (row : (names, entry) ∈ volume.entries) :
    ask question (Spot.ofTexts volume.home names) = question (volume.home.descend names) :=
  ask_ofTexts question (legible.ordinary _ row) (legible.followable _ row)

theorem look_ofVolume (row : (names, entry) ∈ volume.entries) :
    (ofVolume volume).look (Spot.ofTexts volume.home names) = .ok (natureOf? entry) := by
  show ask _ _ = _
  rw [ask_of_row legible _ row, lookAt, legible.place row]

theorem load_ofVolume {number : Nat} {contents : Bytes}
    (row : (names, .file number contents) ∈ volume.entries) :
    (ofVolume volume).load (Spot.ofTexts volume.home names) = .ok contents := by
  have opened : (ofVolume volume).open_ (Spot.ofTexts volume.home names) = .ok (.ok contents) := by
    show ask _ _ = _
    rw [ask_of_row legible _ row, openAt, Volume.entryAt, legible.place row]
    rfl
  rw [load, opened]

/-- What is in the table can be read. -/
theorem load_of_isFull {row : Location × Entry} (member : row ∈ volume.entries)
    (full : row.2.isFull = true) :
    (ofVolume volume).load (Spot.ofTexts volume.home row.1) = .ok row.2.contents := by
  obtain ⟨names, entry⟩ := row
  cases entry with
  | file number contents => exact load_ofVolume legible member
  | folder => cases full
  | link target => cases full

theorem follow_home : (ofVolume volume).follow ⟨volume.home, []⟩ = .ok .folder :=
  follow_of_entryAt (Volume.folderAt_eq_ok_iff.1 (Volume.folderAt_home legible.home))

/-- The names in a folder are those that the volume has there. -/
theorem list_ofVolume (there : volume.at? names = some .folder) :
    (ofVolume volume).list (Spot.ofTexts volume.home names) =
      .ok ((volume.namesIn names).map HostName.ofText?) := by
  show ask _ _ = _
  by_cases top : names = []
  · subst top
    refine (ask_root _ legible.home).trans ?_
    exact listIn_eq_ok_iff.2 ⟨[], Volume.folderAt_home legible.home, rfl⟩
  · have row := Volume.mem_entries there top
    rw [ask_of_row legible _ row]
    refine listIn_eq_ok_iff.2 ⟨names, ?_, rfl⟩
    rw [Volume.folderAt, Volume.entryAt, legible.place row]

theorem names_ofVolume (there : volume.at? names = some .folder) :
    (ofVolume volume).names (Spot.ofTexts volume.home names) =
      .ok ((volume.namesIn names).filterMap HostName.ofText?) :=
  names_of_list (list_ofVolume legible there)

/-- What comes up at an entry: what is in it, or the entry itself if it is a file with
contents. -/
theorem filesAt_ofVolume (row : (names, entry) ∈ volume.entries) (inside : List Spot) :
    (ofVolume volume).filesAt (Spot.ofTexts volume.home names) inside =
      if entry = .folder then inside
      else if entry.isFull then [Spot.ofTexts volume.home names]
      else [] := by
  have straight := legible.unlinked _ row
  rw [filesAt, holdsFile, look_ofVolume legible row]
  cases entry with
  | folder => rfl
  | file number contents => cases contents <;> rfl
  | link target => cases straight

/-- What comes up under a name of a folder comes up in the folder. -/
theorem mem_files_of_at? {top : Location} {name : String} (there : volume.at? top = some .folder)
    (held : volume.at? (top ++ [name]) = some entry) {spot : Spot}
    (member : spot ∈ (ofVolume volume).filesAt (Spot.ofTexts volume.home (top ++ [name]))
      ((ofVolume volume).files (Spot.ofTexts volume.home (top ++ [name])))) :
    spot ∈ (ofVolume volume).files (Spot.ofTexts volume.home top) := by
  have row := Volume.mem_entries held (by simp)
  obtain ⟨hosted, spelled, -⟩ := HostName.exists_ofText? (legible.ordinary _ row name (by simp))
  have listed : name ∈ volume.namesIn top := Volume.mem_namesIn_iff.2 ⟨entry, held⟩
  rw [files_of_ok (names_ofVolume legible there), List.mem_flatMap]
  refine ⟨hosted, List.mem_filterMap.2 ⟨name, listed, spelled⟩, ?_⟩
  rwa [Spot.child_ofTexts spelled]

/-- **A file comes up in a folder of a volume exactly if it lies below it** and has contents. -/
theorem mem_files_ofVolume {top : Location} (there : volume.at? top = some .folder)
    {spot : Spot} :
    spot ∈ (ofVolume volume).files (Spot.ofTexts volume.home top) ↔
      ∃ names entry, (names, entry) ∈ volume.below top ∧ entry.isFull = true ∧
        spot = Spot.ofTexts volume.home (top ++ names) := by
  constructor
  · intro member
    generalize start : Spot.ofTexts volume.home top = folder at member
    induction folder using (ofVolume volume).induction generalizing top with
    | step folder ih =>
      subst start
      have listed := names_ofVolume legible there
      rw [files_of_ok listed] at member
      obtain ⟨hosted, one, member⟩ := List.mem_flatMap.1 member
      obtain ⟨name, held, spelled⟩ := List.mem_filterMap.1 one
      obtain ⟨entry, found⟩ := Volume.mem_namesIn_iff.1 held
      have row := Volume.mem_entries found (by simp)
      have child : (Spot.ofTexts volume.home top).child hosted =
          Spot.ofTexts volume.home (top ++ [name]) := Spot.child_ofTexts spelled
      rw [child, filesAt_ofVolume legible row] at member
      split at member
      · rename_i folder
        obtain ⟨names, last, below, full, rfl⟩ :=
          ih _ listed hosted (folder ▸ found) child.symm (child ▸ member)
        refine ⟨name :: names, last, Volume.mem_below_iff.2 ⟨by simp, ?_⟩, full, by simp⟩
        simpa using (Volume.mem_below_iff.1 below).2
      · split at member
        · rename_i full
          obtain rfl := List.mem_singleton.1 member
          exact ⟨[name], entry, Volume.mem_below_iff.2 ⟨by simp, found⟩, full, rfl⟩
        · cases member
  · rintro ⟨names, entry, below, full, rfl⟩
    obtain ⟨some_names, found⟩ := Volume.mem_below_iff.1 below
    clear below
    induction names generalizing top with
    | nil => exact absurd rfl some_names
    | cons name names ih =>
      by_cases last : names = []
      · subst last
        refine mem_files_of_at? legible there found ?_
        have file : entry ≠ .folder := by
          rintro rfl
          cases full
        rw [filesAt_ofVolume legible (Volume.mem_entries found (by simp)), if_neg file,
          if_pos full]
        exact List.mem_singleton_self _
      · rw [← List.singleton_append, ← List.append_assoc] at found ⊢
        have above := Volume.folder_above_names last found
        refine mem_files_of_at? legible there above ?_
        rw [filesAt_ofVolume legible (Volume.mem_entries above (by simp)), if_pos rfl]
        exact ih above last found

end

/-- No folder of a volume has a name twice. -/
theorem distinct_ofVolume (volume : Volume) : (ofVolume volume).Distinct := by
  intro spot listed answered
  obtain ⟨-, path, -, told⟩ := ask_eq_ok_iff.1 answered
  obtain ⟨top, -, rfl⟩ := listIn_eq_ok_iff.1 told
  rw [List.filterMap_map]
  refine (volume.pairwise_namesIn top).filterMap _ ?_
  rintro text other less name spelled name' spelled' rfl
  rw [← HostName.eq_encode_of_ofText? spelled, ← HostName.eq_encode_of_ofText? spelled'] at less
  exact List.lt_irrefl _ less

/-- **A host that answers from a volume** comes across the files of the volume that have contents,
in the order of its table. -/
theorem files_ofVolume (legible : volume.Legible) :
    (ofVolume volume).files ⟨volume.home, []⟩ =
      (volume.entries.filter fun row => row.2.isFull).map fun row =>
        Spot.ofTexts volume.home row.1 := by
  have octets {row : Location × Entry} (member : row ∈ volume.entries) :
      (Spot.ofTexts volume.home row.1).names.map HostName.octets = row.1.map Utf8.encode :=
    Spot.map_octets_ofTexts (legible.ordinary row member) _
  have ordered : ((volume.entries.filter fun row => row.2.isFull).map fun row =>
      Spot.ofTexts volume.home row.1).Pairwise fun file other =>
        file.names.map HostName.octets < other.names.map HostName.octets := by
    refine List.pairwise_map.2 (((volume.pairwise_below []).filter _).imp_of_mem ?_)
    intro row other member member' less
    rw [octets (List.mem_of_mem_filter member), octets (List.mem_of_mem_filter member')]
    exact Utf8.map_encode_lt less
  have same (spot : Spot) : spot ∈ (ofVolume volume).files ⟨volume.home, []⟩ ↔
      spot ∈ (volume.entries.filter fun row => row.2.isFull).map fun row =>
        Spot.ofTexts volume.home row.1 := by
    refine (mem_files_ofVolume legible volume.at?_nil).trans ?_
    rw [List.mem_map]
    constructor
    · rintro ⟨names, entry, row, full, rfl⟩
      exact ⟨(names, entry), List.mem_filter.2 ⟨row, full⟩, rfl⟩
    · rintro ⟨row, member, rfl⟩
      obtain ⟨member, full⟩ := List.mem_filter.1 member
      exact ⟨row.1, row.2, member, full, rfl⟩
  exact eq_of_mem_iff ((distinct_ofVolume volume).pairwise_files _) ordered same

/-- What a host answers from a volume does not depend on how many files were made there. -/
theorem ofVolume_renumber (volume : Volume) (made : Nat) :
    ofVolume (volume.renumber made) = ofVolume volume := by
  have listed : listIn (volume.renumber made) = listIn volume := by
    funext path
    simp [listIn, Volume.namesIn]
  have looked : lookAt (volume.renumber made) = lookAt volume := by
    funext path
    simp [lookAt]
  have followed : followTo (volume.renumber made) = followTo volume := by
    funext path
    simp [followTo]
  have opened : openAt (volume.renumber made) = openAt volume := by
    funext path
    simp [openAt]
  simp only [ofVolume, listed, looked, followed, opened]

end Host

end Files
end CoverageLink
