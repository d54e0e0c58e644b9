import CoverageLink.Archive.Layout

/-!
# The end of an archive

An archive ends with a record that says where its directory is, and how many members it
describes (`Ending`).  The record may be followed by a comment of any octets, and the whole
archive may follow something else, which shifts every offset in it: the directory begins where
the record says or, if no member is described there, at the first description behind it, and
the difference is the shift.

Numbers that are too great for the record are in a second one with numbers of 64 bits
(`WideEnding`).  A third one, right before the ending, says where it is; there it begins, or
behind that place, and again the difference is the shift.  Several records may seem to
begin there.  The first one that agrees with the others counts.
-/

namespace CoverageLink
namespace Archive

/-- Where the directory of an archive is. -/
structure Extent where
  start : Nat
  /-- How far all is behind the place where the archive says it is. -/
  shift : Nat
  /-- The number of members it describes. -/
  count : Nat
  deriving DecidableEq, Repr, Inhabited

/-- What the record says that ends an archive. -/
structure Ending where
  place : Nat
  disk : Nat
  directoryDisk : Nat
  countHere : Nat
  count : Nat
  offset : Nat
  deriving DecidableEq, Repr, Inhabited

/-- What the record says that leads to a wide ending. -/
structure Locator where
  place : Nat
  directoryDisk : Nat
  offset : Nat
  disks : Nat
  deriving DecidableEq, Repr, Inhabited

/-- An ending with numbers of 64 bits. -/
structure WideEnding where
  place : Nat
  /-- The length of the record without its mark and this number. -/
  length : Nat
  maker : Nat
  needed : Nat
  disk : Nat
  directoryDisk : Nat
  countHere : Nat
  count : Nat
  offset : Nat
  deriving DecidableEq, Repr, Inhabited

namespace Ending

/-- The record at a place, if its comment lies within the archive. -/
def at? (data : Array UInt8) (place : Nat) : Option Ending := do
  if !Mark.ending.stands data place then none
  let disk ← numberAt? data (place + 4) 2
  let directoryDisk ← numberAt? data (place + 6) 2
  let countHere ← numberAt? data (place + 8) 2
  let count ← numberAt? data (place + 10) 2
  let offset ← numberAt? data (place + 16) 4
  let commentLength ← numberAt? data (place + 20) 2
  if data.size < place + 22 + commentLength then none
  return { place, disk, directoryDisk, countHere, count, offset }

/-- Whether a number may be too great for the record. -/
def overflows (ending : Ending) : Bool := ending.count = 0xFFFF || ending.offset = 0xFFFFFFFF

/-- The directory that the record leads to on its own. -/
def extent? (data : Array UInt8) (ending : Ending) : Option Extent :=
  if ending.disk ≠ ending.directoryDisk then none
  else if ending.count = 0 then
    let shift := ending.place - ending.offset
    some ⟨ending.offset + shift, shift, ending.countHere⟩
  else
    Mark.description.findBetween? data ending.offset ending.place fun start =>
      some ⟨start, start - ending.offset, ending.countHere⟩

end Ending

namespace Locator

/-- The length of the record. -/
def length : Nat := 20

/-- The record right before an ending, if there is one and a number asks for it. -/
def before? (data : Array UInt8) (ending : Ending) : Option Locator := do
  if !ending.overflows || ending.place < length then none
  let place := ending.place - length
  if !Mark.locator.stands data place then none
  let directoryDisk ← numberAt? data (place + 4) 4
  let offset ← numberAt? data (place + 8) 8
  let disks ← numberAt? data (place + 16) 4
  return { place, directoryDisk, offset, disks }

end Locator

namespace WideEnding

/-- The record at a place. -/
def at? (data : Array UInt8) (place : Nat) : Option WideEnding := do
  let length ← numberAt? data (place + 4) 8
  let maker ← numberAt? data (place + 12) 2
  let needed ← numberAt? data (place + 14) 2
  let disk ← numberAt? data (place + 16) 4
  let directoryDisk ← numberAt? data (place + 20) 4
  let countHere ← numberAt? data (place + 24) 8
  let count ← numberAt? data (place + 32) 8
  let offset ← numberAt? data (place + 48) 8
  return { place, length, maker, needed, disk, directoryDisk, countHere, count, offset }

/-- Whether the record agrees with what leads to it: it fills the space before the locator,
and leaves room for the directory. -/
def agrees (locator : Locator) (ending : WideEnding) : Bool :=
  44 ≤ ending.length && ending.place + 12 + ending.length = locator.place &&
    ending.directoryDisk = locator.directoryDisk &&
    ending.count * 46 + ending.offset ≤ ending.place

/-- The record that a locator leads to. -/
def behind? (data : Array UInt8) (locator : Locator) : Option WideEnding :=
  if 1 < locator.disks then none
  else
    Mark.wideEnding.findBetween? data locator.offset locator.place fun place =>
      (at? data place).filter (agrees locator)

/-- The directory that the record leads to. -/
def extent? (locator : Locator) (ending : WideEnding) : Option Extent :=
  let shift := ending.place - locator.offset
  if ending.count < ending.countHere || ending.maker < ending.needed ||
      ending.disk ≠ ending.directoryDisk then none
  else some ⟨ending.offset + shift, shift, ending.count⟩

end WideEnding

/-- The directory of an archive that ends at a place. -/
def extentBefore? (data : Array UInt8) (place : Nat) : Option Extent := do
  let ending ← Ending.at? data place
  match Locator.before? data ending with
  | none => ending.extent? data
  | some locator => (WideEnding.behind? data locator).bind (WideEnding.extent? locator)

/-- The places where an archive may end, the last one first. -/
def endings (data : Array UInt8) : List Nat :=
  (Mark.ending.placesBetween data 0 data.size).reverse

end Archive
end CoverageLink
