import CoverageLink.Proofs.Artifact.Identifier
import CoverageLink.Proofs.Artifact.Refusal
import CoverageLink.Proofs.KnownIds

/-!
# Which artifacts share an identifier

There are two kinds of identifiers, hashes and paths, and nothing tells them apart.  Two dumped
classes with the same hash are meant to share an identifier, because they are the same class.  But
a file may also lie at the top of the tree under a name that is the hash of some class, and then it
shares that one's identifier (`identifier_shared_iff`): who has the class never gets the file.
There are no other cases.

## 1.  File names with a hash

`Hashed` says what the file name of a dumped class looks like, without looking for anything in it.
It is found out by cutting the name at the last dot before the ending, and that is no loss,
because there is no dot in a hash (`hashOf?_toList_iff`).

## 2.  Paths

A path of ordinary names has the hash of its last name (`hashIn?_join`) and is determined by the
names (`join_eq_join_iff`).  A text without a slash is a path of one name, itself
(`join_eq_iff_of_not_mem`).

## 3.  Shared identifiers

A hash is no path of several names and has no hash itself, so it is the identifier of the classes
that have it and of one file more (`identifier_eq_hash_iff`).  The rest is a matter of which of two
paths has a hash.
-/

namespace CoverageLink
namespace Artifact

open Files (Ordinary Path)

/-! ## 1.  File names with a hash -/

/-- The file name of a dumped class: its name, the hash, and the ending of classes. -/
structure Hashed (fileName hash : String) : Prop where
  spelled : ∃ name, name ≠ "" ∧ fileName = name ++ "." ++ hash ++ ".class"
  nonempty : hash ≠ ""
  hex : ∀ c ∈ hash.toList, isHexDigit c = true

theorem dropEnding?_eq_some_iff {ending text stem : List Char} :
    dropEnding? ending text = some stem ↔ text = stem ++ ending := by
  unfold dropEnding?
  constructor
  · intro dropped
    split at dropped
    · rename_i ends
      obtain ⟨front, rfl⟩ := List.isSuffixOf_iff_suffix.1 ends
      obtain rfl := Option.some.inj dropped
      simp
    · cases dropped
  · rintro rfl
    rw [if_pos (List.isSuffixOf_iff_suffix.2 (List.suffix_append stem ending))]
    simp

/-- **The last separator** is the one with none behind it. -/
theorem splitLast?_eq_some_iff {separator : Char} {text before after : List Char} :
    splitLast? separator text = some (before, after) ↔
      text = before ++ separator :: after ∧ separator ∉ after := by
  have split_at (before after : List Char) (last : separator ∉ after) :
      splitLast? separator (before ++ separator :: after) = some (before, after) := by
    have behind : behindLast separator (before ++ separator :: after) = after := by
      rw [behindLast_append_cons, behindLast_of_not_mem last]
    have within : (before ++ separator :: after).contains separator = true := by simp
    have front : (before ++ separator :: after).length - after.length - 1 = before.length := by
      rw [List.length_append, List.length_cons]
      omega
    rw [splitLast?, if_pos within, behind]
    simp only [front, List.take_left]
  constructor
  · intro found
    have within : separator ∈ text.reverse := by
      unfold splitLast? at found
      split at found
      · simpa using ‹text.contains separator = true›
      · cases found
    -- the last separator is the first one from behind
    obtain ⟨behind, front, reversed, last⟩ := List.eq_append_cons_of_mem within
    have whole : text = front.reverse ++ separator :: behind.reverse := by
      rw [← List.reverse_reverse text, reversed]
      simp
    have last' : separator ∉ behind.reverse := fun member => last (List.mem_reverse.1 member)
    rw [whole, split_at _ _ last', Option.some.injEq, Prod.mk.injEq] at found
    obtain ⟨rfl, rfl⟩ := found
    exact ⟨whole, last'⟩
  · rintro ⟨rfl, last⟩
    exact split_at before after last

/-- **A hash is found** in a file name exactly if that is the name of a dumped class. -/
theorem hashOf?_toList_iff {fileName hash : String} :
    hashOf? fileName.toList = some hash.toList ↔ Hashed fileName hash := by
  have ending : classEnding = ".class".toList := rfl
  simp only [hashOf?, Option.bind_eq_bind, Option.bind_eq_some_iff, Prod.exists,
    dropEnding?_eq_some_iff, splitLast?_eq_some_iff]
  constructor
  · rintro ⟨stem, ends, name, digits, ⟨rfl, -⟩, found⟩
    split at found
    · rename_i fine
      obtain rfl := Option.some.inj found
      simp only [Bool.and_eq_true, Bool.not_eq_true', List.isEmpty_eq_false_iff, List.all_eq_true]
        at fine
      obtain ⟨⟨named, full⟩, hex⟩ := fine
      refine ⟨⟨String.ofList name, by simpa using named, String.toList_inj.1 ?_⟩, ?_, hex⟩
      · rw [ends, ending]
        simp
      · intro empty
        exact full (by rw [empty]; rfl)
    · cases found
  · rintro ⟨⟨name, named, rfl⟩, full, hex⟩
    have no_dot : '.' ∉ hash.toList := fun member => by
      have digit := hex '.' member
      revert digit
      decide
    refine ⟨name.toList ++ '.' :: hash.toList, by simp [ending], name.toList, hash.toList,
      ⟨rfl, no_dot⟩, if_pos ?_⟩
    simp only [Bool.and_eq_true, Bool.not_eq_true', List.isEmpty_eq_false_iff, List.all_eq_true]
    exact ⟨⟨by simpa using named, by simpa using full⟩, hex⟩

instance (fileName hash : String) : Decidable (Hashed fileName hash) :=
  decidable_of_iff _ hashOf?_toList_iff

/-- A hash is not itself the file name of a dumped class. -/
theorem Hashed.hash_unhashed {fileName hash : String} (hashed : Hashed fileName hash)
    (other : String) : ¬ Hashed hash other := by
  rintro ⟨⟨name, -, spelled⟩, -, -⟩
  have dot : '.' ∈ hash.toList := by
    rw [spelled]
    simp
  have digit := hashed.hex '.' dot
  revert digit
  decide

theorem Hashed.no_separator {fileName hash : String} (hashed : Hashed fileName hash) :
    Path.separator ∉ hash.toList := by
  intro member
  have digit := hashed.hex Path.separator member
  revert digit
  decide

/-- A file name has one hash at most. -/
theorem Hashed.unique {fileName hash other : String} (hashed : Hashed fileName hash)
    (hashed' : Hashed fileName other) : hash = other := by
  have found := hashOf?_toList_iff.2 hashed
  rw [hashOf?_toList_iff.2 hashed'] at found
  exact String.toList_inj.1 (Option.some.inj found).symm

/-! ## 2.  Paths -/

variable {folders others : List String} {file other : String}

/-- Ordinary names can be told from the path that they are joined to. -/
theorem join_eq_join_iff (ordinary : ∀ name ∈ folders ++ [file], Ordinary name)
    (ordinary' : ∀ name ∈ others ++ [other], Ordinary name) :
    Text.join Path.separator (folders ++ [file]) = Text.join Path.separator (others ++ [other]) ↔
      folders = others ∧ file = other := by
  constructor
  · intro same
    have names := congrArg (Text.pieces Path.separator) same
    rw [pieces_join_of_ordinary ordinary (by simp), pieces_join_of_ordinary ordinary' (by simp)]
      at names
    obtain ⟨same_folders, same_file⟩ := List.append_inj' names rfl
    exact ⟨same_folders, List.singleton_inj.1 same_file⟩
  · rintro ⟨rfl, rfl⟩
    rfl

/-- A text without a slash is a path of one name. -/
theorem join_eq_iff_of_not_mem (ordinary : ∀ name ∈ others ++ [other], Ordinary name)
    {text : String} (whole : Path.separator ∉ text.toList) :
    Text.join Path.separator (others ++ [other]) = text ↔ others = [] ∧ other = text := by
  constructor
  · intro same
    have names := congrArg (Text.pieces Path.separator) same
    rw [pieces_join_of_ordinary ordinary (by simp), Text.pieces_of_not_mem whole] at names
    obtain ⟨same_others, same_other⟩ := List.append_inj' (names.trans (List.nil_append _).symm) rfl
    exact ⟨same_others, List.singleton_inj.1 same_other⟩
  · rintro ⟨rfl, rfl⟩
    rfl

/-- **A path has the hash of its last name.** -/
theorem hashIn?_join (ordinary : ∀ name ∈ folders ++ [file], Ordinary name) :
    hashIn? (Text.join Path.separator (folders ++ [file])) = hashOf? file.toList := by
  have last := getLast?_pieces Path.separator (Text.join Path.separator (folders ++ [file]))
  rw [pieces_join_of_ordinary ordinary (by simp), List.getLast?_concat, Option.some.injEq] at last
  rw [hashIn?, ← String.toList_ofList (l := behindLast _ _), ← last]

/-- The identifier of a dumped class is its hash. -/
theorem identifier_of_hashed (ordinary : ∀ name ∈ folders ++ [file], Ordinary name) {hash : String}
    (hashed : Hashed file hash) :
    identifier (Text.join Path.separator (folders ++ [file])) = hash := by
  rw [identifier_eq, hashIn?_join ordinary, hashOf?_toList_iff.2 hashed, Option.map_some,
    Option.getD_some, String.ofList_toList]

/-- The identifier of anything else is its path. -/
theorem identifier_of_unhashed (ordinary : ∀ name ∈ folders ++ [file], Ordinary name)
    (unhashed : ∀ hash, ¬ Hashed file hash) :
    identifier (Text.join Path.separator (folders ++ [file])) =
      Text.join Path.separator (folders ++ [file]) := by
  rw [identifier_eq, hashIn?_join ordinary]
  rcases found : hashOf? file.toList with _ | hash
  · rfl
  · rw [← String.toList_ofList (l := hash)] at found
    exact absurd (hashOf?_toList_iff.1 found) (unhashed _)

/-! ## 3.  Shared identifiers -/

/-- What two different artifacts have in common that share an identifier: they are dumped classes
with the same hash, or one of them is a dumped class, and the other one lies at the top under the
name that is the hash. -/
def Shared (folders : List String) (file : String) (others : List String) (other : String) : Prop :=
  (∃ hash, Hashed file hash ∧ Hashed other hash) ∨
    (Hashed file other ∧ others = []) ∨ (Hashed other file ∧ folders = [])

/-- The hash of a dumped class is the identifier of the classes with the same hash, and of the file
at the top that has it for a name. -/
theorem identifier_eq_hash_iff (ordinary : ∀ name ∈ others ++ [other], Ordinary name)
    {hash : String} (hashed : Hashed file hash) :
    identifier (Text.join Path.separator (others ++ [other])) = hash ↔
      Hashed other hash ∨ (others = [] ∧ other = hash) := by
  by_cases hashed' : ∃ hash', Hashed other hash'
  · obtain ⟨hash', hashed'⟩ := hashed'
    rw [identifier_of_hashed ordinary hashed']
    constructor
    · rintro rfl
      exact .inl hashed'
    · rintro (same | ⟨-, rfl⟩)
      · exact hashed'.unique same
      · exact absurd hashed' (hashed.hash_unhashed hash')
  · rw [identifier_of_unhashed ordinary (not_exists.1 hashed'),
      join_eq_iff_of_not_mem ordinary hashed.no_separator]
    exact (or_iff_right fun same => hashed' ⟨hash, same⟩).symm

theorem shared_comm : Shared folders file others other ↔ Shared others other folders file :=
  or_congr (exists_congr fun _ => and_comm) or_comm

/-- What shares its identifier with a dumped class, the class itself included. -/
theorem eq_or_shared_iff_of_hashed {hash : String} (hashed : Hashed file hash) :
    (folders = others ∧ file = other) ∨ Shared folders file others other ↔
      Hashed other hash ∨ (others = [] ∧ other = hash) := by
  constructor
  · rintro (⟨-, rfl⟩ | ⟨both, left, right⟩ | ⟨lone, top⟩ | ⟨lone, -⟩)
    · exact .inl hashed
    · exact .inl (hashed.unique left ▸ right)
    · exact .inr ⟨top, lone.unique hashed⟩
    · exact absurd hashed (lone.hash_unhashed hash)
  · rintro (same | ⟨top, rfl⟩)
    · exact .inr (.inl ⟨hash, hashed, same⟩)
    · exact .inr (.inr (.inl ⟨hashed, top⟩))

/-- **Two paths share an identifier** if they are the same, or as `Shared` says. -/
theorem identifier_eq_identifier_iff (ordinary : ∀ name ∈ folders ++ [file], Ordinary name)
    (ordinary' : ∀ name ∈ others ++ [other], Ordinary name) :
    identifier (Text.join Path.separator (folders ++ [file])) =
        identifier (Text.join Path.separator (others ++ [other])) ↔
      (folders = others ∧ file = other) ∨ Shared folders file others other := by
  by_cases hashed : ∃ hash, Hashed file hash
  · obtain ⟨hash, hashed⟩ := hashed
    rw [identifier_of_hashed ordinary hashed, eq_comm, identifier_eq_hash_iff ordinary' hashed,
      eq_or_shared_iff_of_hashed hashed]
  by_cases hashed' : ∃ hash, Hashed other hash
  · obtain ⟨hash, hashed'⟩ := hashed'
    have mirrored : (folders = others ∧ file = other) ∨ Shared folders file others other ↔
        (others = folders ∧ other = file) ∨ Shared others other folders file :=
      or_congr (and_congr eq_comm eq_comm) shared_comm
    rw [identifier_of_hashed ordinary' hashed', identifier_eq_hash_iff ordinary hashed', mirrored,
      eq_or_shared_iff_of_hashed hashed']
  · have unhashed := not_exists.1 hashed
    have unhashed' := not_exists.1 hashed'
    rw [identifier_of_unhashed ordinary unhashed, identifier_of_unhashed ordinary' unhashed',
      join_eq_join_iff ordinary ordinary']
    refine (or_iff_left ?_).symm
    rintro (⟨both, left, -⟩ | ⟨lone, -⟩ | ⟨lone, -⟩)
    · exact unhashed both left
    · exact unhashed other lone
    · exact unhashed' file lone

/-- A receiver that never fails has got what is eligible. -/
theorem Walk.receiver_offer (sync : Sync) (known : KnownIds) (name : String)
    (load : Unit → Except String Bytes) (pass : Pass (List Sent)) :
    (offer sync known (recording fun _ _ => .ok ()) name load pass).2.receiver =
      pass.receiver ++ eligible sync.filter known [⟨name, load ()⟩] := by
  refine (congrArg Prod.snd (offered_offer _ _ _ name load pass).delivered).trans ?_
  rw [deliver_recording_of_taken (fun _ _ _ => rfl) (Nat.lt_succ_self _)]

/-- **Knowing one artifact** keeps another one from being sent exactly if the two share an
identifier: they are dumped classes with the same hash, or one is a dumped class and the other one a
file at the top whose name is that hash.  Any two others have identifiers of their own. -/
theorem identifier_shared_iff (ordinary : ∀ name ∈ folders ++ [file], Ordinary name)
    (ordinary' : ∀ name ∈ others ++ [other], Ordinary name) :
    let path := Text.join Path.separator (folders ++ [file])
    let path' := Text.join Path.separator (others ++ [other])
    (identifier path = identifier path' ↔ path = path' ∨ Shared folders file others other) ∧
    ∀ (sync : Sync) (contents : Bytes) (pass : Pass (List Sent)),
      sync.filter.accepts path' = true → contents ≠ [] → contents.length ≤ maxContents →
        ((Walk.offer sync (.ofList [identifier path]) (recording fun _ _ => .ok ()) path'
            (fun _ => .ok contents) pass).2.receiver = pass.receiver ↔
          path = path' ∨ Shared folders file others other) := by
  intro path path'
  have shared := identifier_eq_identifier_iff ordinary ordinary'
  rw [← join_eq_join_iff ordinary ordinary'] at shared
  refine ⟨shared, fun sync contents pass accepted full fits => ?_⟩
  rw [← shared, Walk.receiver_offer, List.append_right_eq_self]
  rcases stored : (KnownIds.ofList [identifier path]).contains (identifier path') with _ | _
  · have sent := (fate_of_wanted _ ⟨path', .ok contents⟩ accepted stored).1
    rw [Candidate.file?_of_fits (by simpa using full) fits] at sent
    rw [sent]
    refine iff_of_false (List.cons_ne_nil _ _) fun same => ?_
    rw [KnownIds.contains, same, List.contains_eq_mem, decide_eq_false_iff_not] at stored
    exact stored (KnownIds.mem_ofList.2 (List.mem_singleton_self _))
  · have unsent := (fate_of_stored _ ⟨path', .ok contents⟩ accepted stored).1
    rw [KnownIds.contains, List.contains_iff_mem, KnownIds.mem_ofList, List.mem_singleton] at stored
    exact iff_of_true unsent stored.symm

/-- A class in a folder and a file at the top: who has the class is not sent the file. -/
theorem identifier_shared_iff_of_top_file :
    let path := Text.join Path.separator (["com", "app"] ++ ["Foo.3f2a9c.class"])
    let path' := Text.join Path.separator ([] ++ ["3f2a9c"])
    (∀ name ∈ ["com", "app"] ++ ["Foo.3f2a9c.class"], Ordinary name) ∧
      (∀ name ∈ [] ++ ["3f2a9c"], Ordinary name) ∧
      path ≠ path' ∧ identifier path = identifier path' ∧
      ∀ (sync : Sync) (pass : Pass (List Sent)), sync.filter.accepts path' = true →
        (Walk.offer sync (.ofList [identifier path]) (recording fun _ _ => .ok ()) path'
          (fun _ => .ok [1]) pass).2.receiver = pass.receiver := by
  intro path path'
  have ordinary : ∀ name ∈ ["com", "app"] ++ ["Foo.3f2a9c.class"], Ordinary name := by decide
  have ordinary' : ∀ name ∈ [] ++ ["3f2a9c"], Ordinary name := by decide
  have hashed : Hashed "Foo.3f2a9c.class" "3f2a9c" := by decide
  have shared : Shared ["com", "app"] "Foo.3f2a9c.class" [] "3f2a9c" := .inr (.inl ⟨hashed, rfl⟩)
  have differ : path ≠ path' := by decide
  obtain ⟨identified, known⟩ := identifier_shared_iff ordinary ordinary'
  refine ⟨ordinary, ordinary', differ, identified.2 (.inr shared),
    fun sync pass accepted => ?_⟩
  exact (known sync [1] pass accepted (by decide) (by decide)).2 (.inr shared)

/-- It is not only dumped classes that share an identifier. -/
theorem not_only_hashed_share :
    ¬ ∀ (folders others : List String) (file other : String),
      (∀ name ∈ folders ++ [file], Ordinary name) → (∀ name ∈ others ++ [other], Ordinary name) →
      Text.join Path.separator (folders ++ [file]) ≠
        Text.join Path.separator (others ++ [other]) →
      identifier (Text.join Path.separator (folders ++ [file])) =
        identifier (Text.join Path.separator (others ++ [other])) →
      ∃ hash, Hashed file hash ∧ Hashed other hash := by
  intro only
  have hashed : Hashed "Foo.3f2a9c.class" "3f2a9c" := by decide
  obtain ⟨hash, -, other⟩ := only ["com", "app"] [] "Foo.3f2a9c.class" "3f2a9c" (by decide)
    (by decide) (by decide) (by decide +kernel)
  exact hashed.hash_unhashed hash other

end Artifact
end CoverageLink
