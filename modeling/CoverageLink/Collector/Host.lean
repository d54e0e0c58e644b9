import CoverageLink.Text.Pieces

/-!
# Hosts by number and by name

A host has a number of four octets, or one of eight groups of sixteen bits, or just a name.

A number of four octets may be written in one to four parts between dots.  A part is
hexadecimal behind `0x`, octal behind a zero, and otherwise decimal; the last part fills the
octets that the others leave.  Of the eight groups between colons, which are hexadecimal,
one stretch of zeros may be left out, and the last two may be written as four decimal parts.
-/

namespace CoverageLink
namespace Collector

/-- What a host is called by. -/
inductive Host
  /-- The octets of its number; fewer than four if the last one fills the rest. -/
  | parts (numbers : List Nat)
  | groups (numbers : List Nat)
  | named (name : String)
  deriving DecidableEq, Repr, Inhabited

namespace Host

/-- The value of a digit. -/
def digit? (base : Nat) (c : Char) : Option Nat :=
  let value :=
    if '0' ≤ c ∧ c ≤ '9' then c.toNat - '0'.toNat
    else if 'a' ≤ c ∧ c ≤ 'f' then c.toNat - 'a'.toNat + 10
    else if 'A' ≤ c ∧ c ≤ 'F' then c.toNat - 'A'.toNat + 10
    else base
  if value < base then some value else none

/-- The number that at least one digit spells. -/
def number? (base : Nat) (digits : List Char) : Option Nat :=
  if digits.isEmpty then none
  else digits.foldlM (fun value c => (digit? base c).map (value * base + ·)) 0

/-- A part of a number of four octets. -/
def part? : List Char → Option Nat
  | '0' :: 'x' :: digits | '0' :: 'X' :: digits => number? 16 digits
  | '0' :: digits => number? 8 ('0' :: digits)
  | digits => number? 10 digits

/-- How many numbers the last of so many parts has room for. -/
def lastLimit : Nat → Nat
  | 1 => 0x100000000
  | 2 => 0x1000000
  | 3 => 0x10000
  | 4 => 0x100
  | _ => 0

/-- The parts of a number of four octets. -/
def parts? (text : String) : Option (List Nat) :=
  ((Text.piecesOf '.' text.toList).mapM part?).filter fun parts =>
    parts.dropLast.all (· < 256) && (parts.getLast?.any (· < lastLimit parts.length))

/-- A group of sixteen bits. -/
def group? (piece : List Char) : Option Nat :=
  if 4 < piece.length then none else number? 16 piece

/-- The two groups that four decimal parts stand for. -/
def groupPair? (piece : List Char) : Option (List Nat) :=
  match (Text.piecesOf '.' piece).mapM (number? 10) with
  | some [a, b, c, d] =>
    if [a, b, c, d].all (· < 256) then some [a * 256 + b, c * 256 + d] else none
  | _ => none

/-- The groups of pieces between colons; `dotted` says whether the last one may be written as
decimal parts. -/
def groupsOf? (dotted : Bool) : List (List Char) → Option (List Nat)
  | [] => some []
  | [last] =>
    if dotted && last.contains '.' then groupPair? last else (group? last).map ([·])
  | piece :: rest => do return (← group? piece) :: (← groupsOf? dotted rest)

/-- The groups of a text, none of them left out. -/
def stretch? (dotted : Bool) (text : List Char) : Option (List Nat) :=
  if text.isEmpty then some [] else groupsOf? dotted (Text.piecesOf ':' text)

/-- What stands before and behind the place where groups are left out. -/
def aroundGap? : List Char → Option (List Char × List Char)
  | ':' :: ':' :: rest => some ([], rest)
  | [] => none
  | c :: rest => (aroundGap? rest).map fun around => (c :: around.1, around.2)

/-- The eight groups of a number. -/
def groups? (text : String) : Option (List Nat) :=
  match aroundGap? text.toList with
  | none => (stretch? true text.toList).filter (·.length = 8)
  | some (before, behind) => do
    let before ← stretch? false before
    let behind ← stretch? true behind
    let given := before.length + behind.length
    if given < 8 then some (before ++ List.replicate (8 - given) 0 ++ behind) else none

/-- The text between square brackets. -/
def bracketed? (text : String) : Option String :=
  match text.toList with
  | '[' :: rest =>
    if rest.getLast? = some ']' then some (String.ofList rest.dropLast) else none
  | _ => none

/-- The host that a text names. -/
def ofText (text : String) : Host :=
  match parts? text, groups? ((bracketed? text).getD text) with
  | some numbers, _ => parts numbers
  | none, some numbers => groups numbers
  | none, none => named text

/-- Nothing names no host by number. -/
example : ofText "" = named "" := by decide

end Host
end Collector
end CoverageLink
