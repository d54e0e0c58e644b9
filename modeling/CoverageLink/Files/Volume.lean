import CoverageLink.Files.Listing

/-!
# A volume of files

What the programs of this library store and look at lies in one volume: folders, files and
symbolic links below a top folder, which is kept as its listing.  Read from the top on, the
listing is a table from locations to entries (`Volume.entries`), in increasing order of the
locations: a folder comes right before everything below it, and going through the table is a
walk through the tree, every folder in the order of its names.

A file has a number besides its contents.  A writer holds on to the number, not to the
place: a file that was moved is still written to, and a file that was deleted no longer
shows what is written.

The order of the names is part of the type (`Volume.ordered`), and so is that every entry lies
in a folder (`Volume.grounded`).
-/

namespace CoverageLink
namespace Files

/-- A top folder and everything below it. -/
structure Volume where
  /-- Where the host has the top folder: relative paths start there. -/
  home : Path
  /-- What lies in the top folder. -/
  listing : Listing
  /-- The number of files made so far. -/
  made : Nat
  ordered : listing.Ordered
  grounded : listing.Grounded

namespace Volume

/-- A volume without entries. -/
def empty (home : Path) : Volume := ⟨home, .nil, 0, Listing.ordered_nil, Listing.grounded_nil⟩

instance : Inhabited Volume := ⟨empty (.ofText "/")⟩

/-! ## Looking -/

/-- The table of the entries, in increasing order of their locations. -/
def entries (volume : Volume) : List (Location × Entry) := volume.listing.rows

/-- The entry at a location; the top is a folder. -/
def at? (volume : Volume) (location : Location) : Option Entry :=
  if location = [] then some .folder else volume.listing.at? location

/-- Everything below a location, as the names that lead there, in order. -/
def below (volume : Volume) (top : Location) : List (List String × Entry) :=
  (volume.listing.descend top).rows

/-- The names in a folder, in order. -/
def namesIn (volume : Volume) (top : Location) : List String :=
  (volume.listing.descend top).names

/-! ## Changing -/

/-- The volume with an entry at a location, instead of what was there. -/
def put (volume : Volume) (location : Location) (entry : Entry) : Volume :=
  { volume with
    listing := volume.listing.put entry location
    ordered := volume.ordered.put location entry
    grounded := volume.grounded.put location entry }

/-- The volume without a location and everything below it. -/
def erase (volume : Volume) (location : Location) : Volume :=
  { volume with
    listing := volume.listing.erase location
    ordered := volume.ordered.erase location
    grounded := volume.grounded.erase location }

/-- The volume with a new empty file at a location; the number of the file is that of
`volume.made`. -/
def putFile (volume : Volume) (location : Location) : Volume :=
  { volume.put location (.file volume.made []) with made := volume.made + 1 }

/-- The entry with its contents changed, if it is the file of a number. -/
def alterEntry (number : Nat) (change : Bytes → Bytes) : Entry → Entry
  | .file other contents =>
    if other = number then .file other (change contents) else .file other contents
  | entry => entry

/-- The volume with the contents of a file changed, wherever the file lies. -/
def alterFile (volume : Volume) (number : Nat) (change : Bytes → Bytes) : Volume :=
  { volume with
    listing := volume.listing.map (alterEntry number change)
    ordered := volume.ordered.map _
    grounded := volume.grounded.map rfl }

/-- The table of the entries is in increasing order, and so is the one of what lies below a
location. -/
theorem pairwise_below (volume : Volume) (top : Location) :
    (volume.below top).Pairwise (fun a b => a.1 < b.1) :=
  Listing.pairwise_rows (volume.ordered.descend top)

@[simp] theorem below_nil (volume : Volume) : volume.below [] = volume.entries := rfl

@[simp] theorem at?_nil (volume : Volume) : volume.at? [] = some .folder := rfl

end Volume
end Files
end CoverageLink
