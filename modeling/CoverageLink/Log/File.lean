import CoverageLink.Failure
import CoverageLink.Files.Stream
import CoverageLink.Log
import CoverageLink.Text.Utf8

/-!
# Log files

A log file is appended to, line by line.  It may have a threshold: when the file has reached
it after a line, the file is set aside under its name with `.old` behind it, in place of
the one that was set aside before, and an empty file is begun.  So every file ends with a
whole line, and the last line is always in one of the two files.

If the file cannot be set aside it is simply written on, and the next line tries again.
Setting aside may fail because of what is in the volume, and for reasons of the host's own;
the latter are a parameter (`refusal`).
-/

namespace CoverageLink
namespace Log

open Files (Path Volume)

/-- A number in hexadecimal, with at least four digits. -/
def hexadecimal (number : Nat) : String :=
  let digits := Nat.toDigits 16 number
  String.ofList (List.replicate (4 - digits.length) '0' ++ digits)

/-- Who writes a line: a process and one of its threads. -/
structure Speaker where
  process : Nat
  thread : Nat
  deriving DecidableEq, Repr, Inhabited

/-- A line as it stands in a log. -/
def Speaker.line (speaker : Speaker) (line : Line) : String :=
  hexadecimal speaker.process ++ " " ++ hexadecimal speaker.thread ++ " " ++
    line.level.abbreviation ++ " " ++ line.text

/-- A log file that is being written. -/
structure LogFile where
  path : Path
  /-- The size from which on the file is set aside. -/
  limit : Option Nat
  /-- The number of the file in its volume. -/
  number : Nat
  /-- How long the file is. -/
  size : Nat
  deriving Repr, Inhabited

namespace LogFile

/-- Where a log file is set aside. -/
def aside (file : LogFile) : Path := file.path.extended ".old"

/-- Opens a log file, to write on where it ends; a limit of zero is none. -/
def start (path : Path) (limit : Option Nat) (volume : Volume) :
    Except Failure LogFile × Volume :=
  match volume.openFile .kept path with
  | (.error failure, volume) => (.error failure, volume)
  | (.ok (number, size), volume) => (.ok ⟨path, limit.filter (· ≠ 0), number, size⟩, volume)

/-- Sets the file aside and begins another one. -/
def rotate (file : LogFile) (refusal : Option Failure) (volume : Volume) :
    Except Failure Unit × LogFile × Volume :=
  match refusal with
  | some failure => (.error failure, file, volume)
  | none =>
    match volume.moveFile file.path file.aside with
    | .error failure => (.error failure, file, volume)
    | .ok volume =>
      match volume.openFile .emptied file.path with
      | (.error failure, volume) => (.error failure, file, volume)
      | (.ok (number, _), volume) => (.ok (), { file with number, size := 0 }, volume)

/-- Whether the file has reached its limit. -/
def isFull (file : LogFile) : Bool :=
  match file.limit with
  | none => false
  | some limit => limit ≤ file.size

/-- Writes octets, and sets the file aside if it is full then; the failure is that of
setting it aside. -/
def write (file : LogFile) (refusal : Option Failure) (bytes : Bytes) (volume : Volume) :
    Except Failure Unit × LogFile × Volume :=
  let volume := volume.append file.number bytes
  let file := { file with size := file.size + bytes.length }
  if file.isFull then file.rotate refusal volume else (.ok (), file, volume)

end LogFile
end Log
end CoverageLink
