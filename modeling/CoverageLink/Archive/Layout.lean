import CoverageLink.Bytes

/-!
# The parts of an archive by their places

An archive consists of records and of packed contents.  Records are found by their places,
counted from the first octet, and each begins with a mark of four octets: two letters that
all marks share, and two octets that tell the records apart.  Numbers are written lowest
octet first.

What does not lie within the archive is not read in part: there is no such stretch.
-/

namespace CoverageLink
namespace Archive

/-- A stretch of an archive, if it lies within it. -/
def slice? (data : Array UInt8) (start length : Nat) : Option Bytes :=
  if start + length ≤ data.size then some (data.extract start (start + length)).toList else none

/-- A number in an archive. -/
def numberAt? (data : Array UInt8) (start width : Nat) : Option Nat :=
  (slice? data start width).map Bytes.ofLittleEndian

/-- The records of an archive. -/
inductive Mark
  /-- Describes a member in the directory. -/
  | description
  /-- Stands right before the contents of a member. -/
  | contents
  /-- Ends the archive. -/
  | ending
  /-- Says with numbers of 64 bits what the ending says with smaller ones. -/
  | wideEnding
  /-- Says where the wide ending is, and stands right before the ending. -/
  | locator
  deriving DecidableEq, Repr, Inhabited

namespace Mark

/-- The octets that tell a record from others. -/
def octets : Mark → UInt8 × UInt8
  | description => (1, 2)
  | contents => (3, 4)
  | ending => (5, 6)
  | wideEnding => (6, 6)
  | locator => (6, 7)

/-- Whether a mark stands at a place. -/
def stands (mark : Mark) (data : Array UInt8) (start : Nat) : Bool :=
  start + 4 ≤ data.size && data.getD start 0 = 0x50 && data.getD (start + 1) 0 = 0x4B &&
    data.getD (start + 2) 0 = mark.octets.1 && data.getD (start + 3) 0 = mark.octets.2

/-- The places of a mark that lies between two places, the first one first. -/
def placesBetween (mark : Mark) (data : Array UInt8) (start stop : Nat) : List Nat :=
  (List.range' start (stop - start - 3)).filter (mark.stands data)

/-- What the first of so many places gives at which a mark stands and which gives anything. -/
def search {α : Type} (mark : Mark) (data : Array UInt8) (pick : Nat → Option α) :
    (count start : Nat) → Option α
  | 0, _ => none
  | count + 1, start =>
    match if mark.stands data start then pick start else none with
    | some found => some found
    | none => search mark data pick count (start + 1)

/-- What the first place of a mark between two places gives that gives anything.  The places
behind it are not looked at. -/
def findBetween? {α : Type} (mark : Mark) (data : Array UInt8) (start stop : Nat)
    (pick : Nat → Option α) : Option α :=
  search mark data pick (stop - start - 3) start

end Mark
end Archive
end CoverageLink
