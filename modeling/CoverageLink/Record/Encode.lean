import CoverageLink.Record
import CoverageLink.Wire.Field

/-!
# Writing records

A record is written as its tag and its fields in a fixed order.  `Record.emission` is
what reaches the transport when the fields are written one by one, up to a field that
cannot be written; `Record.encode` is the whole encoding, or the failure.  The two agree
whenever nothing fails, because the one is defined from the other.
-/

namespace CoverageLink
namespace Record

open Wire (Field Emission)

/-- The fields of a record after its tag. -/
def fields : Record → List Field
  | header version => [.word magic, .word version]
  | sessionInfo info => [.text info.id, .long info.start.toWire, .long info.dump.toWire]
  | executionData data => [.long data.id, .text data.name, .bits data.probes]
  | heartbeat => []
  | file artifact => [.text artifact.name, .blob artifact.contents]
  | projectInfo info => [.line info.fields]
  | pull request => [.blob (Utf8.encode request.known.line)]
  | ok => []
  | dump dumps resets => [.flag dumps, .flag resets]

/-- What writing a record field by field puts out. -/
def emission (record : Record) : Emission := .ofFields (.octet record.tag :: record.fields)

/-- The octets of a record. -/
def encode (record : Record) : Except Failure Bytes := record.emission.complete

/-- The octets that open every stream and every file of records. -/
def streamHeader : Bytes :=
  Tag.header :: (Bytes.bigEndian 2 magic.toNat ++ Bytes.bigEndian 2 formatVersion.toNat)

/-- The header record is what opens every stream. -/
theorem encode_ownHeader : encode ownHeader = .ok streamHeader := rfl

end Record
end CoverageLink
