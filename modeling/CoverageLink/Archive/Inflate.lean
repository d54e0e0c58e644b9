import CoverageLink.Bytes

/-!
# Unpacking deflated data

Deflated data is a string of bits in blocks.  A block is stored as it is, or it is a string
of symbols in a prefix code: octets, an end mark, and copies of what was unpacked before.
The lengths of the code words determine the code (`Code.ofLengths?`); a block either uses the
fixed code or brings its own, the lengths of which are packed in a third code.

Bits are taken from each octet lowest first, numbers have their lowest bit first, and code
words their highest.

A copy may begin before the first octet; what would be there is zero.

Every symbol takes a bit at least.  So the number of bits bounds the number of symbols, and
of blocks, and serves as the fuel of both loops; data that ends too early is refused.
-/

namespace CoverageLink
namespace Archive

/-- Bits that were not read yet. -/
structure BitSource where
  bytes : Bytes
  /-- How many bits of the first octet were read. -/
  offset : Nat

namespace BitSource

/-- The number of bits left. -/
def remaining (source : BitSource) : Nat := 8 * source.bytes.length - source.offset

/-- The next bit. -/
def bit? (source : BitSource) : Option (Nat × BitSource) :=
  match source.bytes with
  | [] => none
  | octet :: rest =>
    let value := octet.toNat >>> source.offset % 2
    some (value, if source.offset < 7 then ⟨octet :: rest, source.offset + 1⟩ else ⟨rest, 0⟩)

/-- A number of so many bits, lowest first. -/
def number? (source : BitSource) : Nat → Option (Nat × BitSource)
  | 0 => some (0, source)
  | width + 1 => do
    let (low, source) ← source.bit?
    let (high, source) ← source.number? width
    return (low + 2 * high, source)

/-- The source past the octet of which a part was read. -/
def aligned (source : BitSource) : BitSource :=
  if source.offset = 0 then source else ⟨source.bytes.drop 1, 0⟩

/-- So many whole octets. -/
def octets? (source : BitSource) (count : Nat) : Option (Bytes × BitSource) :=
  let source := source.aligned
  if source.bytes.length < count then none
  else some (source.bytes.take count, ⟨source.bytes.drop count, 0⟩)

end BitSource

/-! ## Prefix codes -/

/-- The longest code word. -/
def maxCodeLength : Nat := 15

/-- A prefix code: how many words each length has, and the symbols, sorted by length and
then by value. -/
structure Code where
  counts : Array Nat
  symbols : Array Nat

namespace Code

/-- The number of words of a length. -/
def count (code : Code) (length : Nat) : Nat := code.counts.getD length 0

/-- The code whose words have these lengths; a symbol of length zero has no word. -/
def ofLengths (lengths : List Nat) : Code where
  counts := ((List.range (maxCodeLength + 1)).map fun length =>
    if length = 0 then 0 else lengths.countP (· = length)).toArray
  symbols := ((List.range maxCodeLength).flatMap fun length =>
    lengths.zipIdx.filterMap fun entry =>
      if entry.1 = length + 1 then some entry.2 else none).toArray

/-- The words of a length that remain after shorter ones, going down a length at a time;
none if there are more words than fit. -/
def room (code : Code) : Nat → Option Nat
  | 0 => some 1
  | length + 1 => do
    let free := 2 * (← code.room length)
    if free < code.count (length + 1) then none else some (free - code.count (length + 1))

/-- The code of these lengths, if every word that could be read has a symbol. -/
def complete? (lengths : List Nat) : Option Code :=
  let code := ofLengths lengths
  if code.room maxCodeLength = some 0 then some code else none

/-- The code of these lengths, if it is complete or cannot be: without symbols there is
nothing to read, and a single one has the word of one bit that is zero. -/
def ofLengths? (lengths : List Nat) : Option Code :=
  let code := ofLengths lengths
  if code.symbols.isEmpty || code.symbols.size = 1 && code.count 1 = 1 then some code
  else complete? lengths

/-- Reads a word.  `word` is what was read of it, and `first` and `index` are the first word
of the current length and the place of its symbol. -/
def readFrom (code : Code) (source : BitSource) (length word first index : Nat) :
    Nat → Option (Nat × BitSource)
  | 0 => none
  | limit + 1 => do
    let (bit, source) ← source.bit?
    let word := word + bit
    let count := code.count length
    if word < first + count then
      let symbol ← code.symbols[index + (word - first)]?
      return (symbol, source)
    else
      code.readFrom source (length + 1) (2 * word) (2 * (first + count)) (index + count) limit

/-- The symbol of the next word. -/
def read? (code : Code) (source : BitSource) : Option (Nat × BitSource) :=
  code.readFrom source 1 0 0 0 maxCodeLength

end Code

/-! ## Blocks -/

/-- The least lengths of copies, and how many bits more they take, from symbol 257 on. -/
def copyLengths : Array (Nat × Nat) :=
  #[(3, 0), (4, 0), (5, 0), (6, 0), (7, 0), (8, 0), (9, 0), (10, 0), (11, 1), (13, 1), (15, 1),
    (17, 1), (19, 2), (23, 2), (27, 2), (31, 2), (35, 3), (43, 3), (51, 3), (59, 3), (67, 4),
    (83, 4), (99, 4), (115, 4), (131, 5), (163, 5), (195, 5), (227, 5), (258, 0)]

/-- The least distances of copies, and how many bits more they take. -/
def copyDistances : Array (Nat × Nat) :=
  #[(1, 0), (2, 0), (3, 0), (4, 0), (5, 1), (7, 1), (9, 2), (13, 2), (17, 3), (25, 3), (33, 4),
    (49, 4), (65, 5), (97, 5), (129, 6), (193, 6), (257, 7), (385, 7), (513, 8), (769, 8),
    (1025, 9), (1537, 9), (2049, 10), (3073, 10), (4097, 11), (6145, 11), (8193, 12),
    (12289, 12), (16385, 13), (24577, 13)]

/-- Octets with a copy of earlier ones at their end, one at a time, so that a copy may
overlap itself.  Before the first octet everything is zero. -/
def copyBack (unpacked : Array UInt8) (distance : Nat) : Nat → Array UInt8
  | 0 => unpacked
  | length + 1 =>
    let octet :=
      if distance ≤ unpacked.size then unpacked.getD (unpacked.size - distance) 0 else 0
    copyBack (unpacked.push octet) distance length

/-- A number from a table of least values and extra bits. -/
def fromTable? (table : Array (Nat × Nat)) (symbol : Nat) (source : BitSource) :
    Option (Nat × BitSource) := do
  let (least, width) ← table[symbol]?
  let (extra, source) ← source.number? width
  return (least + extra, source)

/-- Unpacks symbols up to the end mark. -/
def unpackSymbols (literals distances : Code) :
    Nat → BitSource → Array UInt8 → Option (BitSource × Array UInt8)
  | 0, _, _ => none
  | fuel + 1, source, unpacked => do
    let (symbol, source) ← literals.read? source
    if symbol < 256 then
      unpackSymbols literals distances fuel source (unpacked.push (UInt8.ofNat symbol))
    else if symbol = 256 then return (source, unpacked)
    else
      let (length, source) ← fromTable? copyLengths (symbol - 257) source
      let (code, source) ← distances.read? source
      let (distance, source) ← fromTable? copyDistances code source
      unpackSymbols literals distances fuel source (copyBack unpacked distance length)

/-- The lengths of the fixed codes. -/
def fixedLiteralLengths : List Nat :=
  List.replicate 144 8 ++ List.replicate 112 9 ++ List.replicate 24 7 ++ List.replicate 8 8

/-- The places of the lengths of the third code, in the order they are written. -/
def lengthOrder : List Nat :=
  [16, 17, 18, 0, 8, 7, 9, 6, 10, 5, 11, 4, 12, 3, 13, 2, 14, 1, 15]

/-- So many numbers of three bits. -/
def readTriples : Nat → BitSource → Option (List Nat × BitSource)
  | 0, source => some ([], source)
  | count + 1, source => do
    let (first, source) ← source.number? 3
    let (rest, source) ← readTriples count source
    return (first :: rest, source)

/-- Reads code lengths until there are `total` of them.  `lengths` are those read before,
the last first. -/
def readLengths (code : Code) (total : Nat) :
    Nat → BitSource → List Nat → Option (List Nat × BitSource)
  | 0, _, _ => none
  | fuel + 1, source, lengths =>
    if lengths.length = total then some (lengths.reverse, source)
    else if total < lengths.length then none
    else do
      let (symbol, source) ← code.read? source
      if symbol < 16 then readLengths code total fuel source (symbol :: lengths)
      else
        let (least, width, value) ←
          if symbol = 16 then lengths.head?.map fun last => (3, 2, last)
          else if symbol = 17 then some (3, 3, 0)
          else some (11, 7, 0)
        let (extra, source) ← source.number? width
        readLengths code total fuel source (List.replicate (least + extra) value ++ lengths)

/-- The most symbols of the codes that a block may bring along. -/
def maxLiterals : Nat := 286

/-- The most distances of the codes that a block may bring along. -/
def maxDistances : Nat := 30

/-- The codes that a block brings along. -/
def ownCodes? (source : BitSource) : Option (Code × Code × BitSource) := do
  let (literals, source) ← source.number? 5
  let (distances, source) ← source.number? 5
  let (triples, source) ← source.number? 4
  let literalCount := literals + 257
  let distanceCount := distances + 1
  if maxLiterals < literalCount || maxDistances < distanceCount then none
  let (widths, source) ← readTriples (triples + 4) source
  let placed := (List.range 19).map fun place =>
    ((lengthOrder.zip widths).find? fun entry => entry.1 = place).elim 0 (·.2)
  let code ← Code.complete? placed
  let total := literalCount + distanceCount
  let (lengths, source) ← readLengths code total (total + 1) source []
  let literalCode ← Code.ofLengths? (lengths.take literalCount)
  let distanceCode ← Code.ofLengths? (lengths.drop literalCount)
  return (literalCode, distanceCode, source)

/-- Unpacks a stored block. -/
def unpackStored (source : BitSource) (unpacked : Array UInt8) :
    Option (BitSource × Array UInt8) := do
  let (header, source) ← source.octets? 4
  let length := Bytes.ofLittleEndian (header.take 2)
  if length + Bytes.ofLittleEndian (header.drop 2) ≠ 65535 then none
  else
    let (bytes, source) ← source.octets? length
    return (source, unpacked ++ bytes.toArray)

/-- Unpacks a block of a kind, past its first three bits. -/
def unpackBlock (kind : Nat) (source : BitSource) (unpacked : Array UInt8) :
    Option (BitSource × Array UInt8) :=
  match kind with
  | 0 => unpackStored source unpacked
  | 1 =>
    unpackSymbols (.ofLengths fixedLiteralLengths) (.ofLengths (List.replicate 32 5))
      (source.remaining + 1) source unpacked
  | 2 =>
    match ownCodes? source with
    | none => none
    | some (literals, distances, source) =>
      unpackSymbols literals distances (source.remaining + 1) source unpacked
  | _ => none

/-- Unpacks blocks up to the last one. -/
def unpackBlocks : Nat → BitSource → Array UInt8 → Option (Array UInt8)
  | 0, _, _ => none
  | fuel + 1, source, unpacked => do
    let (last, source) ← source.number? 1
    let (kind, source) ← source.number? 2
    let (source, unpacked) ← unpackBlock kind source unpacked
    if last = 1 then return unpacked else unpackBlocks fuel source unpacked

/-- The octets that deflated data stands for; what follows the last block is ignored. -/
def inflate (packed : Bytes) : Option Bytes :=
  (unpackBlocks (8 * packed.length + 1) ⟨packed, 0⟩ #[]).map Array.toList

end Archive
end CoverageLink
