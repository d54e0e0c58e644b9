import CoverageLink.Collector.CommandLine

/-!
# The collector as a program

The program serves one agent, whose stream arrives on standard input and who is answered on
standard output, as a listener that starts one process for every agent passes it on.  Where
that listener listens is its own affair.  The log goes to standard error.

What a collector sends to an agent only grows with what it has got from it.  So after every
piece of input the session is simply run on all of the input so far, and what it would have
sent more than before is sent.  Nothing is stored before the input ends; then the session's
last run decides what the folder of the collector looks like.
-/

namespace CoverageLink
namespace Program

open Collector (CommandLine.run Ending Interfaces)
open Files (Path Volume)

/-- How the agent is named in the log. -/
def agent : String := "(standard input)"

/-- A volume with everything below a folder of the host. -/
partial def load (folder : String) (path : Path) (volume : Volume) : IO Volume := do
  let mut volume := volume
  for entry in ← (← IO.FS.realPath folder).readDir do
    let inside := path.child entry.fileName
    match (← entry.path.symlinkMetadata).type with
    | .dir => volume ← load entry.path.toString inside (volume.makeFolders inside).2
    | .file =>
      volume := (volume.putContents inside (← IO.FS.readBinFile entry.path).toList).2
    | _ => pure ()
  return volume

/-- Makes the host's folder look like a volume. -/
def store (volume : Volume) : IO Unit := do
  for row in volume.entries do
    let path := (volume.home.descend row.1).text
    match row.2 with
    | .folder => IO.FS.createDirAll path
    | .file _ contents => IO.FS.writeBinFile path ⟨contents.toArray⟩
    | .link _ => pure ()

/-- Answers the agent piece by piece, and says how the session ends. -/
partial def converse (serve : Bytes → Ending) (received : Bytes) (sent : Nat) : IO Ending := do
  let ending := serve received
  let answers := ((ending.received.bind List.head?).getD []).drop sent
  let output ← IO.getStdout
  output.write ⟨answers.toArray⟩
  output.flush
  let piece ← (← IO.getStdin).read 4096
  if piece.isEmpty then return ending
  converse serve (received ++ piece.toList) (sent + answers.length)

/-- Serves the agent on standard input. -/
def serveInput (arguments : List String) (output : String) : IO Ending := do
  let home := Path.ofText output
  IO.FS.createDirAll output
  let volume ← load output home (.empty home)
  let stamp := toString (← IO.monoMsNow)
  let ending ← converse (fun octets =>
    CommandLine.run arguments agent [.sending agent "0" stamp octets] volume .all) [] 0
  store ending.volume
  return ending

end Program
end CoverageLink

open CoverageLink Collector in
/-- Runs the collector on its arguments; the exit status is that of its ending. -/
def main (arguments : List String) : IO UInt32 := do
  let idle := CommandLine.run arguments Program.agent [] default .all
  let ending ← match Options.ofArguments arguments, idle.received with
    | .asks options, some _ => Program.serveInput arguments options.output
    | _, _ => pure idle
  for line in CommandLine.printed ending.log do
    IO.eprintln (line.level.name ++ " - " ++ line.text)
  return UInt32.ofNat ending.status
