import CoverageLink.Archive.Checksum
import CoverageLink.Archive.Layout
import CoverageLink.Text.Codepage
import CoverageLink.Text.Utf8

/-!
# Descriptions of members

The directory of an archive describes each member: how it is packed, how long it is, where
it is.  A description may end in additional fields, each with a kind and a length, that
change what it says (`Description.amended?`):

* numbers of 64 bits in place of those that 32 bits cannot hold;
* the name or the comment in UTF-8, which count only if the field names the checksum of the
  name or comment it replaces;
* the parameters of an encryption, and the packing behind it.

Two kinds of fields with times in them change nothing but must be well formed all the same;
other fields may hold anything.  Fields that end too early are no fault: what was read before
counts.  Anything else that is wrong with a field makes the description invalid.
-/

namespace CoverageLink
namespace Archive

/-- The description of a member in the directory. -/
structure Description where
  flags : Nat
  method : Nat
  checksum : Nat
  packedSize : Nat
  size : Nat
  rawName : Bytes
  name : String
  comment : String
  /-- Where the member is, from the beginning of the archive proper. -/
  offset : Nat
  /-- Whether the description has the parameters of an encryption. -/
  hasCipher : Bool
  deriving Repr, Inhabited

/-- A description whose additional fields were read in part. -/
structure Amendment where
  description : Description
  /-- The octets of the fields that were not read yet. -/
  unread : Bytes

/-- Why fields are not read any further. -/
inductive Halt
  /-- They end too early. -/
  | cut
  /-- A field is not what its kind says. -/
  | invalid
  deriving DecidableEq, Repr

/-- Reads additional fields; what they changed remains when reading halts. -/
abbrev Amending := ExceptT Halt (StateM Amendment)

namespace Amending

/-- The description so far. -/
def description : Amending Description := return (← get).description

/-- Changes the description. -/
def change (f : Description → Description) : Amending Unit :=
  modify fun amendment => { amendment with description := f amendment.description }

/-- The next octets. -/
def octets (count : Nat) : Amending Bytes := do
  let amendment ← get
  if amendment.unread.length < count then throw .cut
  set { amendment with unread := amendment.unread.drop count }
  return amendment.unread.take count

/-- Passes over the next octets. -/
def skip (count : Nat) : Amending Unit := do
  let _ ← octets count

/-- The next number. -/
def number (width : Nat) : Amending Nat := return Bytes.ofLittleEndian (← octets width)

/-- Halts unless a condition holds. -/
def require (condition : Bool) : Amending Unit :=
  if condition then pure () else throw .invalid

/-- The greatest number of 32 bits; in a size or offset it says that a field has the number. -/
def inField : Nat := 0xFFFFFFFF

/-- Replaces a number of the description by one of 64 bits, if it asks for it or the field is
long enough for all of them.  Returns how many octets of the field this took. -/
def wideNumber (length : Nat) (value : Description → Nat)
    (replace : Nat → Description → Description) : Amending Nat := do
  if 24 ≤ length || value (← description) = inField then
    let wide ← number 8
    change (replace wide)
    return 8
  else return 0

/-- A field of numbers of 64 bits. -/
def wideNumbers (length : Nat) : Amending Unit := do
  let first ← wideNumber length (·.size) fun size description => { description with size }
  let second ← wideNumber length (·.packedSize) fun packedSize description =>
    { description with packedSize }
  let third ← wideNumber length (·.offset) fun offset description => { description with offset }
  require (first + second + third ≤ length)
  skip (length - (first + second + third))

/-- A field of three times of 64 bits. -/
def wideTimes (length : Nat) : Amending Unit := do
  require (length = 32)
  skip 4
  let tag ← number 2
  require (tag = 1)
  let size ← number 2
  require (size = 24)
  skip 24

/-- A field of up to three times of 32 bits.  Its first octet says which; in the directory all
but the first may be missing in spite of that. -/
def times (length : Nat) : Amending Unit := do
  let flags ← number 1
  require (length = 5 || length = 1 + 4 * (List.range 8).countP (flags.testBit ·))
  require (flags < 8)
  let present (bit : Nat) : Bool := flags.testBit bit && (bit = 0 || 5 < length)
  skip (4 * [present 0 || length = 5, present 1, present 2].count true)

/-- The parameters of an encryption. -/
def cipher (length : Nat) : Amending Unit := do
  require (length = 7)
  let version ← number 2
  let vendor ← number 2
  let strength ← number 1
  let method ← number 2
  require (vendor = 0x4541)
  require (version = 1 || version = 2)
  require (1 ≤ strength && strength ≤ 3)
  change fun description => { description with method, hasCipher := true }

/-- A text in UTF-8 in place of another one, and its octets. -/
def replacement (length : Nat) (replaced : Description → Bytes) : Amending (Bytes × String) := do
  skip 1
  let sum ← number 4
  require (5 ≤ length)
  let bytes ← octets (length - 5)
  require (sum = (Archive.checksum (replaced (← description))).toNat)
  match Utf8.decode bytes with
  | .ok text => return (bytes, text)
  | .error _ => throw .invalid

/-- The next field. -/
def field : Amending Unit := do
  let kind ← number 2
  let length ← number 2
  match kind with
  | 0x0001 => wideNumbers length
  | 0x000A => wideTimes length
  | 0x5455 => times length
  | 0x6375 =>
    let (_, comment) ← replacement length fun description => Utf8.encode description.comment
    change fun description => { description with comment }
  | 0x7075 =>
    let (rawName, name) ← replacement length (·.rawName)
    change fun description => { description with rawName, name }
  | 0x9901 => cipher length
  | _ => skip length

/-- All fields.  Each takes an octet at least, so the number of octets bounds their number. -/
def fields : Nat → Amending Unit
  | 0 => pure ()
  | fuel + 1 => do
    if (← get).unread.isEmpty then pure ()
    else
      field
      fields fuel

end Amending

namespace Description

/-- The description as additional fields change it; none if one of them is invalid. -/
def amended? (description : Description) (fields : Bytes) : Option Description :=
  match (Amending.fields fields.length).run.run ⟨description, fields⟩ with
  | (.error .invalid, _) => none
  | (_, amendment) => some amendment.description

/-- The number of the packing that has its own number in a field. -/
def cipherMethod : Nat := 99

/-- The description at a place, and where the next one begins. -/
def at? (data : Array UInt8) (start : Nat) : Option (Description × Nat) := do
  if !Mark.description.stands data start then none
  let flags ← numberAt? data (start + 8) 2
  let method ← numberAt? data (start + 10) 2
  let checksum ← numberAt? data (start + 16) 4
  let packedSize ← numberAt? data (start + 20) 4
  let size ← numberAt? data (start + 24) 4
  let nameLength ← numberAt? data (start + 28) 2
  let fieldsLength ← numberAt? data (start + 30) 2
  let commentLength ← numberAt? data (start + 32) 2
  let offset ← numberAt? data (start + 42) 4
  let rawName ← slice? data (start + 46) nameLength
  let fields ← slice? data (start + 46 + nameLength) fieldsLength
  let rawComment ← slice? data (start + 46 + nameLength + fieldsLength) commentLength
  let text (bytes : Bytes) : String :=
    if flags.testBit 11 then Utf8.decodeLossy bytes else Codepage.decode bytes
  let description : Description :=
    { flags, method, checksum, packedSize, size, rawName, name := text rawName
      comment := text rawComment, offset, hasCipher := false }
  let description ← description.amended? fields
  if description.method = cipherMethod && !description.hasCipher then none
  return (description, start + 46 + nameLength + fieldsLength + commentLength)

@[simp] theorem amended?_nil (description : Description) :
    description.amended? [] = some description := rfl

end Description
end Archive
end CoverageLink
