import CoverageLink.Archive.Checksum
import CoverageLink.Archive.Inflate

/-!
# Members of an archive

A member has a name, a size and its contents in packed form, unless they are not where the
directory of the archive says.  The size is what the directory states; nobody checks it.  The
checksum is checked whenever the contents are unpacked, so a member is either unpacked
correctly or not at all.
-/

namespace CoverageLink
namespace Archive

/-- How contents are packed. -/
inductive Packing
  | stored
  | deflated
  | other (code : Nat)
  deriving DecidableEq, Repr, Inhabited

/-- A member of an archive. -/
structure Member where
  name : String
  /-- The stated size of the contents. -/
  size : Nat
  packing : Packing
  encrypted : Bool
  /-- The checksum of the contents. -/
  checksum : UInt32
  /-- The contents in packed form, unless they are nowhere. -/
  packed : Option Bytes
  deriving DecidableEq, Repr, Inhabited

/-- Why an archive or a member of it cannot be read. -/
inductive Fault
  | noArchive
  | encrypted
  | lost
  | unknownPacking
  | corrupt
  | wrongChecksum
  deriving DecidableEq, Repr, Inhabited

/-- The wording of a fault. -/
def Fault.message : Fault → String
  | noArchive => "not an archive"
  | encrypted => "the entry is encrypted"
  | lost => "the entry is not where the directory says"
  | unknownPacking => "unknown compression method"
  | corrupt => "corrupt deflate stream"
  | wrongChecksum => "Invalid checksum"

namespace Member

/-- Whether the member is a folder; such members have no contents of interest. -/
def isFolder (member : Member) : Bool :=
  match member.name.toList.getLast? with
  | some last => last = '/' || last = '\\'
  | none => false

/-- Why the member cannot be looked into, if it cannot. -/
def obstacle? (member : Member) : Option Fault :=
  if member.encrypted then some .encrypted
  else
    match member.packed, member.packing with
    | none, _ => some .lost
    | some _, .other _ => some .unknownPacking
    | some _, _ => none

/-- The octets that the packed form stands for. -/
def unpacked (member : Member) : Except Fault Bytes :=
  match member.packed, member.packing with
  | none, _ => .error .lost
  | some packed, .stored => .ok packed
  | some packed, .deflated =>
    match inflate packed with
    | some contents => .ok contents
    | none => .error .corrupt
  | some _, .other _ => .error .unknownPacking

/-- The contents of the member. -/
def contents (member : Member) : Except Fault Bytes :=
  match member.unpacked with
  | .ok contents =>
    if Archive.checksum contents = member.checksum then .ok contents else .error .wrongChecksum
  | .error fault => .error fault

/-- A member whose contents are stored as they are. -/
def ofContents (name : String) (contents : Bytes) : Member :=
  ⟨name, contents.length, .stored, false, Archive.checksum contents, some contents⟩

@[simp] theorem contents_ofContents (name : String) (contents : Bytes) :
    (ofContents name contents).contents = .ok contents := by
  simp [ofContents, Member.contents, unpacked]

end Member
end Archive
end CoverageLink
