import CoverageLink.Files.Scratch
import CoverageLink.Proofs.Files.Lookup

/-!
# A scratch file comes and goes

A scratch file can be made wherever there is a folder (`makeScratch_of_folderAt`): as many names
are tried as the folder has, and one more, and no two of them are the same.  While it is there,
every path that led to an entry still leads to that entry (`extends_put`), and when it is erased
the tree is what it was (`erase_put`).
-/

namespace CoverageLink
namespace Files

namespace Listing

/-- A file that replaces what was put somewhere could have been put there at once. -/
theorem put_put_file (listing : Listing) (location : Location) (first : Entry) (number : Nat)
    (contents : Bytes) :
    (listing.put first location).put (.file number contents) location =
      listing.put (.file number contents) location := by
  induction location generalizing listing with
  | nil => rfl
  | cons name names ih =>
    by_cases last : names = []
    · subst last
      exact set_set listing name first _ _ _
    · have found : (listing.put first (name :: names)).find? name =
          some (.folder, (listing.descend [name]).put first names) := by
        rw [put_cons _ _ _ last, find?_set, if_pos rfl]
      rw [put_cons _ _ _ last, descend_cons_of_find? found, descend_nil, ih,
        put_cons _ _ _ last, set_set, put_cons _ _ _ last]

end Listing

namespace Volume

/-! ## A free name -/

theorem scratchName_inj {first second : Nat} (h : scratchName first = scratchName second) :
    first = second := by
  have digits : first.repr = second.repr := by simpa [scratchName, toString] using h
  have value (n : Nat) : Nat.ofDigitChars 10 n.repr.toList 0 = n := by
    rw [Nat.repr, String.toList_ofList]
    exact Nat.ofDigitChars_toDigits (by omega) (by omega)
  rw [← value first, digits, value]

/-- **There is always a free name**: more names are tried than the folder has. -/
theorem exists_freeName? (volume : Volume) (folder : Location) :
    ∃ name, volume.freeName? folder = some name := by
  cases free : volume.freeName? folder with
  | some name => exact ⟨name, rfl⟩
  | none =>
    have taken := List.find?_eq_none.1 free
    let tried := (List.range ((volume.namesIn folder).length + 1)).map scratchName
    have different : tried.Nodup :=
      List.pairwise_map.2 (List.nodup_range.imp fun ne same => ne (scratchName_inj same))
    have held : tried ⊆ volume.namesIn folder := by
      intro name hname
      have there := taken name hname
      rw [at?_append_singleton] at there
      cases found : (volume.listing.descend folder).find? name with
      | none => simp [found] at there
      | some row => exact Listing.mem_names_of_find? found
    have := different.length_le_of_subset held
    simp only [tried, List.length_map, List.length_range] at this
    omega

/-! ## The tree with a scratch file -/

variable {volume : Volume} {folder : Location} {name : String}

theorem exists_folder (there : volume.at? folder = some .folder) :
    folder = [] ∨ volume.listing.at? folder = some .folder := by
  rw [at?] at there
  split at there
  · exact .inl ‹_›
  · exact .inr there

theorem find?_eq_none (free : volume.at? (folder ++ [name]) = none) :
    (volume.listing.descend folder).find? name = none := by
  rwa [at?_append_singleton, Option.map_eq_none_iff] at free

/-- Nothing that was there is missing when a free name of a folder has been given away. -/
theorem extends_put (there : volume.at? folder = some .folder)
    (free : volume.at? (folder ++ [name]) = none) (entry : Entry) :
    volume.Extends (volume.put (folder ++ [name]) entry) where
  home := rfl
  at? := by
    intro location held found
    rw [at?] at found ⊢
    by_cases top : location = []
    · rwa [if_pos top] at found ⊢
    · rw [if_neg top] at found ⊢
      exact Listing.at?_put_of_some volume.grounded (exists_folder there) (find?_eq_none free)
        entry found

/-- The folder that a path leads to is still there when something was put into it. -/
theorem hasFolder_put {path : Path} (there : volume.folderAt path = .ok folder)
    (free : volume.at? (folder ++ [name]) = none) (entry : Entry) :
    (volume.put (folder ++ [name]) entry).hasFolder path = true := by
  have more := extends_put (at?_of_folderAt there) free entry
  rw [hasFolder, more.folderAt there]
  rfl

/-- An entry that was put under a free name of a folder and is erased leaves no trace. -/
theorem erase_put (there : volume.at? folder = some .folder)
    (free : volume.at? (folder ++ [name]) = none) (entry : Entry) :
    (volume.put (folder ++ [name]) entry).erase (folder ++ [name]) = volume :=
  eq_renumber rfl
    (Listing.erase_put volume.ordered volume.grounded (exists_folder there) (find?_eq_none free)
      entry)

/-- A scratch file that is written to is a file with these contents. -/
theorem put_putFile (location : Location) (number : Nat) (contents : Bytes) :
    (volume.putFile location).put location (.file number contents) =
      (volume.put location (.file number contents)).renumber (volume.made + 1) :=
  eq_renumber rfl (Listing.put_put_file volume.listing location _ number contents)

/-! ## Making scratch files -/

theorem makeScratch_of_folderAt {path : Path} (h : volume.folderAt path = .ok folder) :
    ∃ name, volume.at? (folder ++ [name]) = none ∧
      volume.makeScratch path =
        .ok (folder ++ [name], volume.made, volume.putFile (folder ++ [name])) := by
  obtain ⟨name, free⟩ := volume.exists_freeName? folder
  refine ⟨name, freeName?_free free, ?_⟩
  rw [makeScratch, h]
  simp only
  rw [free]

theorem makeScratch_of_error {path : Path} {failure : Failure}
    (h : volume.folderAt path = .error failure) : volume.makeScratch path = .error failure := by
  rw [makeScratch, h]

end Volume
end Files
end CoverageLink
