import CoverageLink.Bytes
import CoverageLink.Failure

/-!
# UTF-8

Texts travel as UTF-8.  `decode` accepts exactly the well-formed strings and says of
any other one *where* it stops being well-formed and *how*: either some octets can
begin no character whatever follows (`Utf8Fault.invalid`, with the number of octets
that were consistent up to there), or the input ends inside a character
(`Utf8Fault.incomplete`).

The machine reads one octet at a time.  A lead octet fixes how many continuation
octets follow and the range of the first one; the restricted first ranges are what
excludes overlong forms, surrogates and numbers beyond the last code point.

`decodeLossy` never fails: each faulty stretch becomes one replacement character.
-/

namespace CoverageLink
namespace Utf8

/-- The octets of a text. -/
def encode (text : String) : Bytes :=
  text.toList.flatMap String.utf8EncodeChar

/-- What a lead octet announces. -/
structure Lead where
  /-- How many continuation octets follow. -/
  following : Nat
  /-- The least first continuation octet. -/
  low : UInt8
  /-- The greatest first continuation octet. -/
  high : UInt8
  /-- The bits of the code point that the lead octet carries. -/
  bits : Nat

/-- The announcement of a lead octet; `none` if no character begins with it. -/
def lead? (octet : UInt8) : Option Lead :=
  if octet < 0x80 then some ⟨0, 0x80, 0xBF, octet.toNat⟩
  else if octet < 0xC2 then none
  else if octet < 0xE0 then some ⟨1, 0x80, 0xBF, (octet &&& 0x1F).toNat⟩
  else if octet = 0xE0 then some ⟨2, 0xA0, 0xBF, 0⟩
  else if octet = 0xED then some ⟨2, 0x80, 0x9F, 0x0D⟩
  else if octet < 0xF0 then some ⟨2, 0x80, 0xBF, (octet &&& 0x0F).toNat⟩
  else if octet = 0xF0 then some ⟨3, 0x90, 0xBF, 0⟩
  else if octet < 0xF4 then some ⟨3, 0x80, 0xBF, (octet &&& 0x07).toNat⟩
  else if octet = 0xF4 then some ⟨3, 0x80, 0x8F, 4⟩
  else none

/-- The outcome of reading the continuation octets of one character. -/
inductive Tail
  /-- All of them were there: the code point and how many octets they were. -/
  | complete (code : Nat) (length : Nat)
  /-- An octet that cannot stand there, after so many good ones. -/
  | invalid (length : Nat)
  /-- The input ends. -/
  | incomplete

/-- Reads `following` continuation octets, the first of them between `low` and `high`.
`seen` counts the octets of the character read so far. -/
def readTail : (following : Nat) → (low high : UInt8) → (code seen : Nat) → Bytes → Tail
  | 0, _, _, code, seen, _ => .complete code seen
  | _ + 1, _, _, _, _, [] => .incomplete
  | following + 1, low, high, code, seen, octet :: rest =>
    if low ≤ octet && octet ≤ high then
      readTail following 0x80 0xBF (code * 64 + (octet &&& 0x3F).toNat) (seen + 1) rest
    else .invalid seen

/-- Reads one character at the head of a non-empty string. -/
def readChar (octet : UInt8) (rest : Bytes) : Tail :=
  match lead? octet with
  | none => .invalid 1
  | some lead => readTail lead.following lead.low lead.high lead.bits 1 rest

/-- One character, or one faulty stretch, of a string. -/
inductive Stretch
  | char (c : Char)
  | fault (fault : Utf8Fault)

/-- Splits a string into characters and faulty stretches, the last first. -/
def scan (index : Nat) (seen : List Stretch) : Bytes → List Stretch
  | [] => seen
  | octet :: rest =>
    match readChar octet rest with
    | .complete code length =>
      scan (index + length) (.char (Char.ofNat code) :: seen) (rest.drop (length - 1))
    | .invalid length =>
      scan (index + length) (.fault (.invalid length index) :: seen) (rest.drop (length - 1))
    | .incomplete => .fault (.incomplete index) :: seen
termination_by bytes => bytes.length
decreasing_by all_goals simp only [List.length_cons, List.length_drop]; omega

/-- The first fault of a string, given its stretches from the last to the first, or its
characters. -/
def collect : List Stretch → Except Utf8Fault (List Char) → Except Utf8Fault (List Char)
  | [], found => found
  | .char c :: earlier, .ok cs => collect earlier (.ok (c :: cs))
  | .char _ :: earlier, .error fault => collect earlier (.error fault)
  | .fault fault :: earlier, _ => collect earlier (.error fault)

/-- The text that a string of octets encodes, or its first fault. -/
def decode (bytes : Bytes) : Except Utf8Fault String :=
  (collect (scan 0 [] bytes) (.ok [])).map String.ofList

/-- The text of a string of octets, a replacement character for every faulty stretch. -/
def decodeLossy (bytes : Bytes) : String :=
  String.ofList <| (scan 0 [] bytes).reverse.map fun
    | .char c => c
    | .fault _ => '\uFFFD'

end Utf8
end CoverageLink
