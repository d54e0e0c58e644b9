import CoverageLink.Proofs.Artifact.Refusal

/-!
# How deep a pass goes into archives

An archive may hold archives, and nothing keeps it from holding itself: what octets are as an
archive is up to whoever reads them.  So a pass goes down a fixed number of levels and no further,
and it cleans up behind itself on every way back.

## 1.  Places

A place is the row of numbers of the members that lead into an archive (`Sync.archiveAt?`).  There
are places of every length, and the same archive may lie at many of them.

## 2.  What is offered

Whatever a walk offers is a member of an archive at a place that is no longer than there were levels
(`Sync.exists_place_of_mem_ofArchive`).

## 3.  What there is to open

`Sync.openings` lists the archives to open in the order in which that happens.  No place occurs
twice in it, and each one is short, so there are only so many (`Sync.length_openings_le`).

## 4.  What the log says was opened

The log has a line for every archive that was opened, or could not be.  `Walk.Opens` is the law for
these lines: whatever the receiver does, they are a part of those of the archives to open, in this
order.  Everything else that is logged begins with other words, so only lines of one kind are
looked at.

## 5.  The bound

`Walk.archive_bounded` is what all of this comes to, for the levels that a pass has.
-/

namespace CoverageLink
namespace Artifact

open Archive (Member)
open Files (Host Location Volume)

/-! ## 1.  Places -/

/-- The numbers of the members that lead into an archive, from the outermost one on. -/
abbrev Place := List Nat

/-- An archive, and what the log calls it. -/
abbrev Labelled := String × Bytes

namespace Sync

variable (sync : Sync) (unpack : Unpacker)

/-- Whether a member is passed over, whatever the ending of its name. -/
def passesOver (member : Member) : Bool :=
  member.obstacle?.isSome || member.isFolder || sync.isDenied (memberName member.name)

/-- The archive that a member holds, if the member is gone into. -/
def inner? (member : Member) : Option Bytes :=
  if !sync.passesOver member && isArchive (memberName member.name) then member.contents.toOption
  else none

/-- The candidate that a member is by itself. -/
def candidate? (member : Member) : Option Candidate :=
  if sync.passesOver member || isArchive (memberName member.name) || member.size = 0 then none
  else some ⟨memberName member.name, member.contents.mapError Archive.Fault.message⟩

/-- What the log calls the archive in a member of another one. -/
def within (label : String) (member : Member) : String := label ++ "!/" ++ memberName member.name

/-- The archive at a place, however deep that is. -/
def archiveAt? : Place → Labelled → Option Labelled
  | [], archive => some archive
  | index :: place, (label, bytes) => do
    let members ← unpack bytes
    let member ← members[index]?
    let inner ← sync.inner? member
    archiveAt? place (within label member, inner)

/-! ## 2.  What is offered -/

/-- A member gives itself, or what is in the archive that it holds. -/
theorem ofMember_eq (host : Host) (label : String)
    (descend : Option (String → Bytes → List Candidate)) (member : Member) :
    sync.ofMember host label descend member =
      (sync.candidate? member).toList ++ (descend.elim [] fun descend =>
        if unpacks host (within label member) then
          (sync.inner? member).elim [] (descend (within label member))
        else []) := by
  unfold ofMember candidate? inner? passesOver within
  by_cases passed : (member.obstacle?.isSome || member.isFolder ||
      sync.isDenied (memberName member.name)) = true
  · rw [if_pos passed]
    cases descend <;> simp [passed]
  · rw [if_neg passed]
    by_cases nested : isArchive (memberName member.name) = true
    · rw [if_pos nested]
      cases descend with
      | none => simp [nested]
      | some descend => simp [passed, nested]
    · rw [if_neg nested]
      by_cases empty : member.size = 0
      · cases descend <;> simp [nested, empty]
      · cases descend <;> simp [passed, nested, empty]

variable {sync unpack}

/-- A member that gives something gives itself, or goes into what it holds. -/
theorem mem_ofMember {host : Host} {label : String}
    {descend : Option (String → Bytes → List Candidate)} {member : Member}
    {candidate : Candidate} (member_of : candidate ∈ sync.ofMember host label descend member) :
    sync.candidate? member = some candidate ∨
      ∃ go ∈ descend, ∃ inner, sync.inner? member = some inner ∧
        candidate ∈ go (within label member) inner := by
  rw [ofMember_eq, List.mem_append] at member_of
  rcases member_of with itself | further
  · exact .inl (Option.mem_toList.1 itself)
  · rcases descend with _ | go
    · cases further
    · rw [Option.elim_some] at further
      split at further
      · rcases held : sync.inner? member with _ | inner
        · rw [held] at further
          cases further
        · rw [held] at further
          exact .inr ⟨go, rfl, inner, rfl, further⟩
      · cases further

/-- A candidate that is a member of the archive at a place. -/
def LiesAt (sync : Sync) (unpack : Unpacker) (archive : Labelled) (candidate : Candidate)
    (place : Place) : Prop :=
  ∃ label bytes members member, sync.archiveAt? unpack place archive = some (label, bytes) ∧
    unpack bytes = some members ∧ member ∈ members ∧ sync.candidate? member = some candidate

/-- What lies at a place of an archive in a member lies at a longer place. -/
theorem LiesAt.deeper {label : String} {bytes inner : Bytes} {members : List Member}
    {member : Member} {candidate : Candidate} {place : Place} (read : unpack bytes = some members)
    (held : member ∈ members) (holds : sync.inner? member = some inner)
    (lies : LiesAt sync unpack (within label member, inner) candidate place) :
    ∃ index, LiesAt sync unpack (label, bytes) candidate (index :: place) := by
  obtain ⟨index, found⟩ := List.mem_iff_getElem?.1 held
  obtain ⟨last, archive, others, other, there, rest⟩ := lies
  refine ⟨index, last, archive, others, other, ?_, rest⟩
  simp only [archiveAt?, read, found, holds, Option.bind_eq_bind, Option.bind_some]
  exact there

/-- **Whatever is offered lies at a place that is short enough.** -/
theorem exists_place_of_mem_ofArchive {host : Host} {scratch : Bool} {levels : Nat}
    {archive : Labelled} {candidate : Candidate}
    (member : candidate ∈ sync.ofArchive unpack host scratch levels archive.1 archive.2) :
    ∃ place, place.length ≤ levels ∧ LiesAt sync unpack archive candidate place := by
  obtain ⟨label, bytes⟩ := archive
  induction levels generalizing label bytes with
  | zero =>
    rw [ofArchive, List.mem_flatMap] at member
    obtain ⟨member, held, offered⟩ := member
    rcases read : unpack bytes with _ | members <;> rw [read] at held
    · cases held
    rcases mem_ofMember offered with itself | ⟨go, nowhere, -⟩
    · exact ⟨[], Nat.le_refl _, label, bytes, members, member, rfl, read, held, itself⟩
    · cases nowhere
  | succ levels ih =>
    rw [ofArchive, List.mem_flatMap] at member
    obtain ⟨member, held, offered⟩ := member
    rcases read : unpack bytes with _ | members <;> rw [read] at held
    · cases held
    rcases mem_ofMember offered with itself | ⟨go, there, inner, holds, further⟩
    · exact ⟨[], Nat.zero_le _, label, bytes, members, member, rfl, read, held, itself⟩
    · cases scratch with
      | false => cases there
      | true =>
        obtain rfl := Option.some.inj there
        obtain ⟨place, short, lies⟩ := ih (within label member) inner further
        obtain ⟨index, lies⟩ := lies.deeper read held holds
        exact ⟨index :: place, Nat.succ_le_succ short, lies⟩

/-! ## 3.  What there is to open -/

/-- The archives to open, and where they lie: each before those in it, and these in the order of the
members that hold them. -/
def openings (sync : Sync) (unpack : Unpacker) : (levels : Nat) → Labelled → List (Place × Labelled)
  | 0, archive => [([], archive)]
  | levels + 1, archive =>
    ([], archive) :: ((unpack archive.2).getD []).zipIdx.flatMap fun entry =>
      (sync.inner? entry.1).elim [] fun inner =>
        (openings sync unpack levels (within archive.1 entry.1, inner)).map
          fun row => (entry.2 :: row.1, row.2)

/-- What there is to open in a member begins with the number of the member. -/
theorem mem_openings_below {levels : Nat} {archive : Labelled} {row : Place × Labelled}
    {entry : Member × Nat}
    (member : row ∈ (sync.inner? entry.1).elim [] fun inner =>
      (sync.openings unpack levels (within archive.1 entry.1, inner)).map
        fun row => (entry.2 :: row.1, row.2)) :
    ∃ inner deeper, sync.inner? entry.1 = some inner ∧
      deeper ∈ sync.openings unpack levels (within archive.1 entry.1, inner) ∧
      (entry.2 :: deeper.1, deeper.2) = row := by
  rcases holds : sync.inner? entry.1 with _ | inner
  · rw [holds] at member
    cases member
  · rw [holds] at member
    obtain ⟨deeper, opened, same⟩ := List.mem_map.1 member
    exact ⟨inner, deeper, rfl, opened, same⟩

/-- An archive to open is that of its place, and the place is short enough. -/
theorem of_mem_openings {levels : Nat} {archive : Labelled} {row : Place × Labelled}
    (member : row ∈ sync.openings unpack levels archive) :
    row.1.length ≤ levels ∧ sync.archiveAt? unpack row.1 archive = some row.2 := by
  induction levels generalizing archive row with
  | zero =>
    obtain rfl := List.mem_singleton.1 member
    exact ⟨Nat.le_refl _, rfl⟩
  | succ levels ih =>
    rcases List.mem_cons.1 member with rfl | member
    · exact ⟨Nat.zero_le _, rfl⟩
    · obtain ⟨⟨member, index⟩, listed, opened⟩ := List.mem_flatMap.1 member
      obtain ⟨inner, deeper, holds, further, rfl⟩ := mem_openings_below opened
      obtain ⟨short, there⟩ := ih further
      refine ⟨Nat.succ_le_succ short, ?_⟩
      have found := List.mk_mem_zipIdx_iff_getElem?.1 listed
      obtain ⟨label, bytes⟩ := archive
      rcases read : unpack bytes with _ | members <;> simp only [read] at found
      · cases found
      · rw [Option.getD_some] at found
        simp only [archiveAt?, read, found, holds, Option.bind_eq_bind, Option.bind_some]
        exact there

/-- **No place is gone to twice**: they come in lexicographic order. -/
theorem pairwise_openings (levels : Nat) (archive : Labelled) :
    (sync.openings unpack levels archive).Pairwise fun row other => row.1 < other.1 := by
  induction levels generalizing archive with
  | zero => exact List.pairwise_singleton _ _
  | succ levels ih =>
    rw [openings, List.pairwise_cons]
    constructor
    · intro row member
      obtain ⟨⟨member, index⟩, -, opened⟩ := List.mem_flatMap.1 member
      obtain ⟨inner, deeper, -, -, rfl⟩ := mem_openings_below opened
      exact List.Lex.nil
    · rw [List.pairwise_flatMap]
      constructor
      · rintro ⟨member, index⟩ -
        rcases sync.inner? member with _ | inner
        · exact .nil
        · exact List.pairwise_map.2 ((ih _).imp fun before => List.Lex.cons before)
      · have numbered : (((unpack archive.2).getD []).zipIdx.map Prod.snd).Pairwise (· < ·) := by
          rw [List.zipIdx_map_snd]
          exact List.pairwise_lt_range'
        refine (List.pairwise_map.1 numbered).imp fun earlier row opened other opened' => ?_
        obtain ⟨inner, deeper, -, -, rfl⟩ := mem_openings_below opened
        obtain ⟨inner', deeper', -, -, rfl⟩ := mem_openings_below opened'
        exact List.Lex.rel earlier

/-- The most archives there are to open if none has more members than this. -/
def mostOpenings (width : Nat) : (levels : Nat) → Nat
  | 0 => 1
  | levels + 1 => width * mostOpenings width levels + 1

/-- A list that is put together from short ones. -/
theorem length_flatMap_le {α β : Type} {items : List α} {f : α → List β} {most : Nat}
    (short : ∀ item ∈ items, (f item).length ≤ most) :
    (items.flatMap f).length ≤ items.length * most := by
  induction items with
  | nil => exact Nat.zero_le _
  | cons item items ih =>
    have first := short item List.mem_cons_self
    have others := ih fun other there => short other (List.mem_cons_of_mem _ there)
    rw [List.flatMap_cons, List.length_append, List.length_cons, Nat.succ_mul]
    omega

/-- **There are only so many archives to open.** -/
theorem length_openings_le {width : Nat}
    (narrow : ∀ bytes members, unpack bytes = some members → members.length ≤ width)
    (levels : Nat) (archive : Labelled) :
    (sync.openings unpack levels archive).length ≤ mostOpenings width levels := by
  induction levels generalizing archive with
  | zero => exact Nat.le_refl _
  | succ levels ih =>
    have inside : ∀ entry ∈ ((unpack archive.2).getD []).zipIdx,
        ((sync.inner? entry.1).elim [] fun inner =>
          (sync.openings unpack levels (within archive.1 entry.1, inner)).map
            fun row => (entry.2 :: row.1, row.2)).length ≤ mostOpenings width levels := by
      intro entry _
      rcases sync.inner? entry.1 with _ | inner
      · exact Nat.zero_le _
      · rw [Option.elim_some, List.length_map]
        exact ih _
    have few : ((unpack archive.2).getD []).length ≤ width := by
      rcases read : unpack archive.2 with _ | members
      · exact Nat.zero_le _
      · exact narrow _ _ read
    have all := length_flatMap_le inside
    rw [List.length_zipIdx] at all
    rw [openings, List.length_cons, mostOpenings]
    exact Nat.succ_le_succ (Nat.le_trans all (Nat.mul_le_mul_right _ few))

end Sync

/-! ## 4.  What the log says was opened -/

/-- How a line about opening an archive begins: it could not be read, or it is gone through. -/
def openingWords : List String := ["Skipping unreadable archive ", "Walking archive "]

/-- Whether a line is about opening an archive. -/
def isOpening (line : Log.Line) : Bool :=
  openingWords.any fun words => words.toList.isPrefixOf line.text.toList

/-- The lines about opening archives, the first one first. -/
def openingsIn (log : List Log.Line) : List Log.Line := (log.filter isOpening).reverse

/-- The line about opening an archive. -/
def openingLine (unpack : Unpacker) (archive : Labelled) : Log.Line :=
  match unpack archive.2 with
  | none => Log.warn ("Skipping unreadable archive " ++ archive.1 ++ ": " ++
      Archive.Fault.noArchive.message)
  | some members => Log.debug ("Walking archive " ++ archive.1 ++ s!" ({members.length} entries)")

/-- A line that begins with other words is about something else. -/
theorem isOpening_of_begins {line : Log.Line} (words : String)
    (begins : words.toList <+: line.text.toList)
    (other : openingWords.all (fun start =>
      !start.toList.isPrefixOf words.toList && !words.toList.isPrefixOf start.toList) = true) :
    isOpening line = false := by
  rw [isOpening, List.any_eq_false]
  intro start listed opens
  have apart := List.all_eq_true.1 other start listed
  rw [Bool.and_eq_true, Bool.not_eq_true', Bool.not_eq_true'] at apart
  rcases List.prefix_or_prefix_of_prefix (List.isPrefixOf_iff_prefix.1 opens) begins with
    shorter | longer
  · rw [List.isPrefixOf_iff_prefix.2 shorter] at apart
    cases apart.1
  · rw [List.isPrefixOf_iff_prefix.2 longer] at apart
    cases apart.2

/-- A line about opening an archive is taken for one. -/
theorem isOpening_openingLine (unpack : Unpacker) (archive : Labelled) :
    isOpening (openingLine unpack archive) = true := by
  rw [isOpening, List.any_eq_true]
  unfold openingLine
  rcases unpack archive.2 with _ | members
  · refine ⟨"Skipping unreadable archive ", by simp [openingWords], ?_⟩
    rw [List.isPrefixOf_iff_prefix]
    simp [Log.warn, String.toList_append]
  · refine ⟨"Walking archive ", by simp [openingWords], ?_⟩
    rw [List.isPrefixOf_iff_prefix]
    simp [Log.debug, String.toList_append]

namespace Walk

variable {σ α β : Type}

/-- What a part of a pass logs about opening archives is a part of these lines, in this order. -/
def Opens (walk : Walk σ α) (lines : List Log.Line) : Prop :=
  ∀ pass, ∃ added, (walk pass).2.log = added ++ pass.log ∧ (openingsIn added).Sublist lines

namespace Opens

/-- A part that logs nothing. -/
theorem of_silent {walk : Walk σ α} (silent : ∀ pass, (walk pass).2.log = pass.log) :
    Opens walk [] :=
  fun pass => ⟨[], silent pass, .slnil⟩

theorem pure (value : α) : Opens (Pure.pure value : Walk σ α) [] := of_silent fun _ => rfl

theorem note (line : Log.Line) : Opens (Walk.note line : Walk σ Unit) [line] := by
  intro pass
  refine ⟨[line], rfl, ?_⟩
  rw [openingsIn, ← List.reverse_sublist, List.reverse_reverse]
  exact List.filter_sublist

theorem note_other {line : Log.Line} (other : isOpening line = false) :
    Opens (Walk.note line : Walk σ Unit) [] := by
  intro pass
  refine ⟨[line], rfl, ?_⟩
  rw [openingsIn, List.filter_cons_of_neg (by rw [other]; exact Bool.false_ne_true)]
  exact .slnil

theorem mono {walk : Walk σ α} {lines more : List Log.Line} (h : Opens walk lines)
    (part : lines.Sublist more) : Opens walk more := by
  intro pass
  obtain ⟨added, logged, opened⟩ := h pass
  exact ⟨added, logged, opened.trans part⟩

/-- Parts that come one after the other, if the second one is gone on to. -/
theorem bind {walk : Walk σ α} {next : α → Walk σ β} {first second : List Log.Line}
    (h : Opens walk first) (h' : ∀ value, Opens (next value) second) :
    Opens (walk >>= next) (first ++ second) := by
  intro pass
  obtain ⟨added, logged, opened⟩ := h pass
  rw [bind_apply]
  generalize walk pass = outcome at logged
  obtain ⟨failure | value, middle⟩ := outcome
  · exact ⟨added, logged, opened.trans (List.sublist_append_left _ _)⟩
  · obtain ⟨further, logged', opened'⟩ := h' value middle
    refine ⟨further ++ added, ?_, ?_⟩
    · rw [List.append_assoc, ← show middle.log = added ++ pass.log from logged]
      exact logged'
    · rw [openingsIn, List.filter_append, List.reverse_append]
      exact opened.append opened'

/-- A part that begins with something else. -/
theorem after {walk : Walk σ α} {next : α → Walk σ β} {lines : List Log.Line} (h : Opens walk [])
    (h' : ∀ value, Opens (next value) lines) : Opens (walk >>= next) lines :=
  bind h h'

/-- A loop. -/
theorem forM {items : List β} {part : β → Walk σ Unit} {lines : β → List Log.Line}
    (h : ∀ item ∈ items, Opens (part item) (lines item)) :
    Opens (items.forM part) (items.flatMap lines) := by
  induction items with
  | nil => exact pure ()
  | cons item items ih =>
    rw [List.flatMap_cons]
    exact bind (h item List.mem_cons_self) fun _ => ih fun other there =>
      h other (List.mem_cons_of_mem _ there)

theorem withScratch {location : Location} {volume : Volume} {part : Walk σ Unit}
    {lines : List Log.Line} (h : Opens part lines) :
    Opens (Walk.withScratch location volume part) lines :=
  fun pass => h { pass with volume }

end Opens

section

variable {sync : Sync} {unpack : Unpacker} {known : KnownIds} {receive : Receiver σ}

/-- Nothing is opened to offer something. -/
theorem opens_offer (name : String) (load : Unit → Except String Bytes) :
    Opens (offer sync known receive name load) [] := by
  unfold offer
  split
  · exact .of_silent fun _ => rfl
  split
  · exact .of_silent fun _ => rfl
  split
  · exact .note_other (isOpening_of_begins "Failed to read '" (by simp [Log.warn]) (by decide))
  split
  · exact .pure ()
  split
  · exact .note_other (isOpening_of_begins "Skipping '" (by simp [Log.warn]) (by decide))
  · refine .after (.note_other ?_) fun _ => ?_
    · exact isOpening_of_begins "Sending '" (by simp [Log.trace]) (by decide)
    · exact .after (.of_silent fun _ => rfl) fun _ => .of_silent fun _ => rfl

/-- What is logged about a copy that could not be made is no line about opening. -/
theorem isOpening_of_copied_eq_error {host : Host} {within : String}
    {held : Except Archive.Fault Bytes} {reason : String}
    (failed : copied host within held = .error reason) : isOpening (Log.warn reason) = false := by
  unfold copied at failed
  split at failed <;> cases failed
  · refine isOpening_of_begins "Failed to extract " ?_ (by decide)
    simp [Log.warn, String.toList_append]
  · refine isOpening_of_begins "Failed to extract " ?_ (by decide)
    simp [Log.warn, String.toList_append]
  · refine isOpening_of_begins "Failed to rewind the scratch copy of " ?_ (by decide)
    simp [Log.warn, String.toList_append]

/-- An archive in an archive is opened if its contents can be read. -/
theorem opens_nested (host : Host) (within : String) (held : Except Archive.Fault Bytes)
    {go : Bytes → Walk σ Unit} (inside : Bytes → List Log.Line)
    (deeper : ∀ contents, Opens (go contents) (inside contents)) :
    Opens (nested sync host within held go) (held.toOption.elim [] inside) := by
  have nothing {walk : Walk σ Unit} (h : Opens walk []) : Opens walk _ :=
    h.mono (List.nil_sublist (held.toOption.elim [] inside))
  refine .after (.of_silent fun _ => rfl) fun pass => ?_
  cases scratchFor sync host within pass.volume with
  | error failure =>
    refine nothing (.note_other (isOpening_of_begins "Not descending into " ?_ (by decide)))
    simp [Log.warn, String.toList_append]
  | ok scratch =>
    simp only
    cases read : copied host within held with
    | error reason =>
      exact nothing (.withScratch (.note_other (isOpening_of_copied_eq_error read)))
    | ok contents =>
      obtain ⟨-, -, rfl⟩ := copied_eq_ok_iff.1 read
      exact .withScratch (deeper contents)

/-- A member is opened if it is gone into. -/
theorem opens_member (host : Host) {descend : Option (String → Bytes → Walk σ Unit)}
    (inside : String → Bytes → List Log.Line)
    (deeper : ∀ go ∈ descend, ∀ label bytes, Opens (go label bytes) (inside label bytes))
    (label : String) (index : Nat) (member : Member) :
    Opens (Walk.member sync known receive host label descend index member)
      ((sync.inner? member).elim [] (inside (Sync.within label member))) := by
  have nothing {walk : Walk σ Unit} (h : Opens walk []) : Opens walk _ :=
    h.mono (List.nil_sublist ((sync.inner? member).elim [] (inside (Sync.within label member))))
  unfold Walk.member
  cases obstacle : member.obstacle? with
  | some fault =>
    refine nothing (.note_other (isOpening_of_begins "Skipping entry #" ?_ (by decide)))
    simp [Log.warn, String.toList_append, toString]
  | none =>
    by_cases skipped : (member.isFolder || sync.isDenied (memberName member.name)) = true
    · simp only [skipped, if_true]
      exact nothing (.pure ())
    simp only [skipped, Bool.false_eq_true, if_false]
    by_cases archive : isArchive (memberName member.name) = true
    · simp only [archive, if_true]
      cases descend with
      | none =>
        refine nothing (.note_other (isOpening_of_begins "Not descending into " ?_ (by decide)))
        simp [Log.warn, String.toList_append]
      | some go =>
        have holds : sync.inner? member = member.contents.toOption := by
          simp [Sync.inner?, Sync.passesOver, obstacle, skipped, archive]
        rw [holds]
        exact opens_nested host _ member.contents _ (deeper go rfl _)
    · simp only [archive, Bool.false_eq_true, if_false]
      by_cases empty : member.size = 0
      · rw [if_pos empty]
        exact nothing (.pure ())
      · rw [if_neg empty]
        exact nothing (opens_offer _ _)

/-- **What is opened, on all levels.** -/
theorem opens_archive (host : Host) (levels : Nat) (archive : Labelled) :
    Opens (Walk.archive sync unpack known receive host levels archive.1 archive.2)
      ((sync.openings unpack levels archive).map fun row => openingLine unpack row.2) := by
  induction levels generalizing archive with
  | zero =>
    rw [Walk.archive, Sync.openings, List.map_singleton, openingLine]
    cases unpack archive.2 with
    | none => exact .note _
    | some members =>
      have shallow (entry : Member × Nat) :
          Opens (Walk.member sync known receive host archive.1 none entry.2 entry.1) [] := by
        have opened :
            Opens (Walk.member sync known receive host archive.1 none entry.2 entry.1) _ :=
          opens_member host (fun _ _ => []) (fun _ h => by cases h) archive.1 entry.2 entry.1
        generalize sync.inner? entry.1 = held at opened
        cases held <;> exact opened
      have loop := Opens.forM fun entry (_ : entry ∈ members.zipIdx) => shallow entry
      rw [List.flatMap_eq_nil_iff.2 fun _ _ => rfl] at loop
      exact .bind (.note _) fun _ => loop
  | succ levels ih =>
    rw [Walk.archive, Sync.openings, List.map_cons, openingLine]
    cases unpack archive.2 with
    | none => exact .note _
    | some members =>
      have deeper : ∀ go ∈ some (Walk.archive sync unpack known receive host levels),
          ∀ label bytes, Opens (go label bytes)
            ((sync.openings unpack levels (label, bytes)).map fun row =>
              openingLine unpack row.2) := by
        intro go same label bytes
        obtain rfl := Option.mem_some.1 same
        exact ih (label, bytes)
      refine .bind (.note _) fun _ => ?_
      rw [List.map_flatMap]
      refine .forM fun entry _ => ?_
      have opened : Opens
          (Walk.member sync known receive host archive.1
            (some (Walk.archive sync unpack known receive host levels)) entry.2 entry.1) _ :=
        opens_member host _ deeper archive.1 entry.2 entry.1
      generalize sync.inner? entry.1 = held at opened
      cases held with
      | none => exact opened
      | some inner =>
        rw [Option.elim_some, List.map_map]
        exact opened

end

/-! ## 5.  The bound -/

/-- **Archives in archives, whatever octets are as an archive and whatever the receiver does.**
What the receiver is handed are members of archives that lie less than `maxNesting` archives deep.
No archive is opened that lies deeper, and none twice on the same way; there are only so many even
if archives hold themselves.  However the walk ends, the tree is as before. -/
theorem archive_bounded (sync : Sync) (unpack : Unpacker) (known : KnownIds) (receive : Receiver σ)
    (host : Host) (archive : Labelled) (pass : Pass σ) :
    let outcome :=
      Walk.archive sync unpack known receive host (maxNesting - 1) archive.1 archive.2 pass
    let offered := sync.ofArchive unpack host (pass.volume.hasFolder sync.scratch)
      (maxNesting - 1) archive.1 archive.2
    let openings := sync.openings unpack (maxNesting - 1) archive
    ((outcome.1, outcome.2.receiver) =
        deliver receive (eligible sync.filter known offered) pass.receiver ∧
      ∀ candidate ∈ offered, ∃ place, place.length < maxNesting ∧
        Sync.LiesAt sync unpack archive candidate place) ∧
      ((∃ added, outcome.2.log = added ++ pass.log ∧
          (openingsIn added).Sublist (openings.map fun row => openingLine unpack row.2)) ∧
        (∀ row ∈ openings, row.1.length < maxNesting ∧
          sync.archiveAt? unpack row.1 archive = some row.2 ∧
          isOpening (openingLine unpack row.2) = true) ∧
        (openings.Pairwise fun row other => row.1 < other.1) ∧
        ∀ width, (∀ bytes members, unpack bytes = some members → members.length ≤ width) →
          openings.length ≤ Sync.mostOpenings width (maxNesting - 1)) ∧
      outcome.2.volume.entries = pass.volume.entries := by
  intro outcome offered openings
  have short {length : Nat} (h : length ≤ maxNesting - 1) : length < maxNesting :=
    Nat.lt_of_le_of_lt h (by decide)
  have result : Offered sync known receive pass.volume offered pass outcome :=
    offers_archive unpack host (maxNesting - 1) pass.volume archive.1 archive.2 pass
      pass.volume.made rfl
  refine ⟨⟨result.delivered, fun candidate member => ?_⟩,
    ⟨opens_archive host (maxNesting - 1) archive pass, fun row member => ?_,
      Sync.pairwise_openings _ _, fun width narrow => Sync.length_openings_le narrow _ _⟩, ?_⟩
  · obtain ⟨place, near, lies⟩ := Sync.exists_place_of_mem_ofArchive member
    exact ⟨place, short near, lies⟩
  · obtain ⟨near, there⟩ := Sync.of_mem_openings member
    exact ⟨short near, there, isOpening_openingLine unpack row.2⟩
  · obtain ⟨made, restored⟩ := result.restored
    rw [restored]
    rfl

/-- An archive of two members, the first of which is the archive itself: it is opened eight times,
and so the class in it is sent eight times, the innermost one first. -/
theorem archive_bounded_of_itself :
    let sync : Sync :=
      ⟨⟨["", "dump"]⟩, none, ⟨⟨[fun _ => true]⟩, ⟨[]⟩⟩, [], ⟨["", "tmp"]⟩, .ofVolume⟩
    let unpack : Unpacker := fun _ => some [.ofContents "a.zip" [1], .ofContents "A.class" [2]]
    let volume := Volume.empty ⟨["", "tmp"]⟩
    let outcome := Walk.archive sync unpack .empty (recording fun _ _ => .ok ())
      (sync.hostOf volume) (maxNesting - 1) "a.zip" [1] ⟨⟨0, 0, 0⟩, [], volume, []⟩
    let openings := sync.openings unpack (maxNesting - 1) ("a.zip", [1])
    openings.length = 8 ∧ openings.length ≤ Sync.mostOpenings 2 (maxNesting - 1) ∧
      outcome.1 = .ok () ∧ outcome.2.receiver = List.replicate 8 ("A.class", [2]) ∧
      outcome.2.volume.entries = [] := by
  intro sync unpack volume outcome openings
  have there : volume.folderAt sync.scratch = .ok [] := Volume.folderAt_home (by decide +kernel)
  have scratch : volume.hasFolder sync.scratch = true := by rw [Volume.hasFolder, there]; rfl
  obtain ⟨⟨delivered, -⟩, ⟨-, -, -, few⟩, clean⟩ := archive_bounded sync unpack .empty
    (recording fun _ _ => .ok ()) (sync.hostOf volume) ("a.zip", [1])
    ⟨⟨0, 0, 0⟩, [], volume, []⟩
  have sent : eligible sync.filter .empty (sync.ofArchive unpack (sync.hostOf volume) true
      (maxNesting - 1) "a.zip" [1]) = List.replicate 8 ("A.class", [2]) := by decide +kernel
  rw [scratch, sent] at delivered
  have handed := Prod.mk.inj delivered
  exact ⟨by decide +kernel, few 2 fun _ _ same => (by cases same; decide), handed.1, handed.2,
    clean⟩

end Walk
end Artifact
end CoverageLink
