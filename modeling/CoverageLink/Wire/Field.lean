import CoverageLink.Text.Pieces
import CoverageLink.Text.Quoted
import CoverageLink.Text.Utf8
import CoverageLink.Wire.PackedBits
import CoverageLink.Wire.Sink

/-!
# The fields of a record

Every record is a tag followed by fields of a few kinds.  This module fixes how each kind
is written and read; which fields a record has is not its business.

A field is written as a sequence of *pieces*, each handed to the transport in one call.
The division matters to whoever buffers what is written, and to nobody else: the
encoding of a field is the concatenation of its pieces (`Field.encode`).

Two kinds carry a length prefix and can therefore be too long: a text has at most
`maxText` octets, because its prefix is a 16-bit number, and a blob has at most
`maxBlob`, because a larger declared length is taken for a garbled one by every reader.
A list of truth values shares the reader's limit but not the writer's.
-/

namespace CoverageLink
namespace Wire

/-- The greatest length of a blob, in octets. -/
def maxBlob : Nat := 0x10000000

/-- The greatest length of a text, in octets. -/
def maxText : Nat := 0xFFFF

/-- The fields that records are made of. -/
inductive Field
  | octet (value : UInt8)
  | flag (value : Bool)
  | word (value : UInt16)
  | long (value : Int64)
  | text (value : String)
  /-- Texts in one line, separated by `|`; none of them may hold the separator. -/
  | line (values : List String)
  | number (value : UInt32)
  | bits (values : List Bool)
  | blob (bytes : Bytes)

/-- The separator of the texts in one line. -/
def lineSeparator : Char := '|'

namespace Field

/-- The pieces of a text: its length, then its octets. -/
def textPieces (value : String) : Except Failure (List Bytes) :=
  let octets := Utf8.encode value
  if maxText < octets.length then .error (.textTooLong octets.length)
  else .ok [Bytes.bigEndian 2 octets.length, octets]

/-- The pieces of a number of variable length: each octet by itself. -/
def numberPieces (value : UInt32) : List Bytes := (varInt value).map fun octet => [octet]

/-- The pieces a field is written in, or why it cannot be written. -/
def pieces : Field → Except Failure (List Bytes)
  | octet value => .ok [[value]]
  | flag value => .ok [[if value then 1 else 0]]
  | word value => .ok [Bytes.bigEndian 2 value.toNat]
  | long value => .ok [Bytes.bigEndian 8 value.toUInt64.toNat]
  | text value => textPieces value
  | line values =>
    match values.find? fun value => value.toList.contains lineSeparator with
    | some value => .error (.separatorInField (Text.quoted value))
    | none => textPieces (Text.join lineSeparator values)
  | number value => .ok (numberPieces value)
  | bits values =>
    .ok (numberPieces (UInt32.ofNat values.length) ++ (pack values).map fun octet => [octet])
  | blob bytes =>
    if maxBlob < bytes.length then .error (.blobTooLong bytes.length)
    else .ok (numberPieces (UInt32.ofNat bytes.length) ++ [bytes])

/-- The octets of a field. -/
def encode (field : Field) : Except Failure Bytes := field.pieces.map List.flatten

end Field

/-- Writes a field, unless it cannot be written at all. -/
def Sink.writeField (sink : Sink) (field : Field) : Except Failure Unit × Sink :=
  match field.pieces with
  | .error failure => (.error failure, sink)
  | .ok pieces => sink.writePieces pieces

/-! ## Several fields in a row -/

/-- What writing a row of fields puts out: the pieces up to the first field that cannot
be written, and why it cannot. -/
structure Emission where
  pieces : List Bytes
  fault : Option Failure

namespace Emission

/-- The octets put out. -/
def bytes (emission : Emission) : Bytes := emission.pieces.flatten

/-- Writes a row of fields. -/
def ofFields : List Field → Emission
  | [] => ⟨[], none⟩
  | field :: rest =>
    match field.pieces with
    | .error failure => ⟨[], some failure⟩
    | .ok pieces =>
      let others := ofFields rest
      ⟨pieces ++ others.pieces, others.fault⟩

/-- The octets put out, if every field could be written. -/
def complete (emission : Emission) : Except Failure Bytes :=
  match emission.fault with
  | none => .ok emission.bytes
  | some failure => .error failure

end Emission

/-! ## Reading fields -/

namespace Reading

/-- A text with its length in front. -/
def text : Reading String := do
  let length ← word
  let octets ← fully length.toNat
  match Utf8.decode octets with
  | .ok text => return text
  | .error fault => throw (.badText fault)

/-- A declared length; one beyond every blob is refused. -/
def length : Reading Nat := do
  let length := (← varInt).toNat
  if maxBlob < length then throw (.lengthOverLimit length)
  return length

/-- A list of truth values with its length in front. -/
def bits : Reading (List Bool) := do
  let count ← length
  return unpack count (← fully (packedLength count))

/-- A blob with its length in front. -/
def blob : Reading Bytes := do
  fully (← length)

end Reading
end Wire
end CoverageLink
