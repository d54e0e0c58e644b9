import CoverageLink.Log.File
import CoverageLink.Log.Settings
import CoverageLink.Text.Quoted

/-!
# The logger of an agent

The agent is a guest in its host's process, so it logs where the settings of the environment
say, and nowhere unless they name a level.  Lines go to a file, or to standard error if no
file is named or the file cannot be opened.  Lines of the module that reads archives are
left out: they are no news of the agent's.
-/

namespace CoverageLink
namespace Log

open Files (Volume)

/-- A line, and the module it comes from, if that is known. -/
structure Message where
  line : Line
  origin : Option String
  deriving DecidableEq, Repr, Inhabited

/-- Where lines go. -/
inductive Destination
  | standardError
  | file (file : LogFile)
  deriving Repr, Inhabited

/-- A logger that was set up. -/
structure Logger where
  threshold : Level
  speaker : Speaker
  destination : Destination
  deriving Repr, Inhabited

/-- What lines on standard error begin with. -/
def banner : String := "covstream: "

/-- The beginning of the names of modules whose lines are left out. -/
def silenced : String := "zip::"

namespace Logger

/-- Sets up a logger, unless nothing is to be logged; with what is said about it on standard
error. -/
def start (settings : Settings) (speaker : Speaker) (volume : Volume) :
    Option Logger × String × Volume :=
  match settings.threshold, settings.path with
  | none, _ => (none, "", volume)
  | some threshold, none => (some ⟨threshold, speaker, .standardError⟩, "", volume)
  | some threshold, some path =>
    match LogFile.start (.ofText path) settings.rotateAt volume with
    | (.ok file, volume) => (some ⟨threshold, speaker, .file file⟩, "", volume)
    | (.error failure, volume) =>
      (some ⟨threshold, speaker, .standardError⟩,
        banner ++ "failed to open " ++ Text.quoted path ++ ": " ++ failure.message ++ "\n", volume)

/-- Whether a message is logged. -/
def admits (logger : Logger) (message : Message) : Bool :=
  Log.admits (some logger.threshold) message.line.level &&
    match message.origin with
    | some origin => !silenced.toList.isPrefixOf origin.toList
    | none => true

/-- Logs a message: what goes to standard error, and the logger and the volume after it. -/
def log (logger : Logger) (refusal : Option Failure) (message : Message) (volume : Volume) :
    String × Logger × Volume :=
  if !logger.admits message then ("", logger, volume)
  else
    let text := logger.speaker.line message.line ++ "\n"
    match logger.destination with
    | .standardError => (banner ++ text, logger, volume)
    | .file file =>
      match file.write refusal (Utf8.encode text) volume with
      | (.ok (), file, volume) => ("", { logger with destination := .file file }, volume)
      | (.error failure, file, volume) =>
        (banner ++ "failed to rotate the log file: " ++ failure.message ++ "\n",
          { logger with destination := .file file }, volume)

theorem log_of_not_admits {logger : Logger} {refusal : Option Failure} {message : Message}
    {volume : Volume} (h : logger.admits message = false) :
    logger.log refusal message volume = ("", logger, volume) := by
  simp [log, h]

end Logger
end Log
end CoverageLink
