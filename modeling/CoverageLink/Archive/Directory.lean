import CoverageLink.Archive.Description
import CoverageLink.Archive.Ending
import CoverageLink.Archive.Member

/-!
# The directory of an archive

The directory of an archive describes its members, one after the other.  So reading goes
backwards: every place where the archive may end is tried, the last one first, and a place
whose directory is bad is given up in favour of an earlier one.

Each description leads to a member, which must begin before the directory.  Whether there is
a member at all only matters when it is looked into: a record right before the contents says
where they begin, and without it they are nowhere.

Of several members of one name the last counts, at the place of the first.
-/

namespace CoverageLink
namespace Archive

/-- Where the contents of a member begin that begins at a place. -/
def contentsStart? (data : Array UInt8) (start : Nat) : Option Nat := do
  if !Mark.contents.stands data start then none
  let nameLength ← numberAt? data (start + 26) 2
  let fieldsLength ← numberAt? data (start + 28) 2
  return start + 30 + nameLength + fieldsLength

/-- The packing of a number. -/
def Packing.ofMethod : Nat → Packing
  | 0 => .stored
  | 8 => .deflated
  | code => .other code

/-- The member that a description leads to, if it begins before the directory. -/
def memberOf? (data : Array UInt8) (extent : Extent) (description : Description) :
    Option Member :=
  let start := description.offset + extent.shift
  if extent.start ≤ start then none
  else some {
    name := description.name
    size := description.size
    packing := .ofMethod description.method
    encrypted := description.flags % 2 = 1 || description.hasCipher
    checksum := UInt32.ofNat description.checksum
    packed := (contentsStart? data start).map fun contents =>
      (data.extract contents (contents + description.packedSize)).toList }

/-- So many members, described one after the other from a place on. -/
def membersFrom? (data : Array UInt8) (extent : Extent) : Nat → Nat → Option (List Member)
  | 0, _ => some []
  | count + 1, start => do
    let (description, next) ← Description.at? data start
    let member ← memberOf? data extent description
    let rest ← membersFrom? data extent count next
    return member :: rest

/-- The members of an archive that ends at a place. -/
def membersBefore? (data : Array UInt8) (place : Nat) : Option (List Member) := do
  let extent ← extentBefore? data place
  membersFrom? data extent extent.count extent.start

/-- Members without those that a later one of the same name replaces; that one stands where
the first of them did. -/
def lastOfEachName (members : List Member) : List Member :=
  members.foldl (fun kept member =>
    if kept.any fun other => other.name = member.name then
      kept.map fun other => if other.name = member.name then member else other
    else kept ++ [member]) []

/-- The members of an archive. -/
def members? (bytes : Bytes) : Option (List Member) :=
  let data := bytes.toArray
  ((endings data).findSome? (membersBefore? data)).map lastOfEachName

end Archive
end CoverageLink
