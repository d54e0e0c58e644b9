import CoverageLink.Collector.Address
import CoverageLink.Collector.Server

/-!
# The command line of a collector

| option | value | default |
|---|---|---|
| `--listen` | where to listen | `0.0.0.0:6300` |
| `--output`, `-o` | where to keep things | `covstream-data` |
| `--dump-interval` | seconds between dumps, zero for none | `60` |
| `--heartbeat-timeout` | seconds an agent may be silent, at least one | `180` |
| `--reset` | | off |
| `--no-pull` | | off |
| `--help`, `-h` and `--version`, `-V` | | |

A value follows its option as the next argument or behind an equals sign; an argument that
begins with a hyphen is never the value of the one before, unless it is nothing else.  An
option that is given without its value has the default.  Every option may be given once.  Help
and version are answered as soon as they are come across; everything else is only judged at the
end of the arguments (`Arguments.options?`), except arguments that mean nothing.

What a value means is a question for later (`Options.settings`): the first value that means
nothing is reported.
-/

namespace CoverageLink
namespace Collector

/-- The options that may be given. -/
inductive Choice
  | listen
  | output
  | dumpInterval
  | heartbeatTimeout
  | reset
  | noPull
  deriving DecidableEq, Repr, Inhabited

namespace Choice

/-- The options by their long names. -/
def table : List (String × Choice) :=
  [("listen", listen), ("output", output), ("dump-interval", dumpInterval),
    ("heartbeat-timeout", heartbeatTimeout), ("reset", reset), ("no-pull", noPull)]

/-- The option of a long name. -/
def ofName? (name : List Char) : Option Choice :=
  (table.find? fun entry => entry.1.toList = name).map (·.2)

/-- Whether an option has a value. -/
def hasValue : Choice → Bool
  | listen | output | dumpInterval | heartbeatTimeout => true
  | reset | noPull => false

end Choice

/-- The arguments that were understood so far. -/
structure Arguments where
  /-- What was given, with its value if there was one. -/
  given : List (Choice × Option String)
  /-- The option that the next argument may be the value of. -/
  pending : Option Choice
  /-- Whether there may be no more options. -/
  closed : Bool
  deriving Repr, Inhabited

/-- What the arguments ask for. -/
inductive Request (α : Type)
  | shows
  | unusable
  | asks (value : α)
  deriving DecidableEq, Repr

namespace Arguments

/-- No arguments. -/
def empty : Arguments := ⟨[], none, false⟩

/-- The arguments with one more option. -/
def give (arguments : Arguments) (choice : Choice) (value : Option (List Char)) : Arguments :=
  if !choice.hasValue then
    { arguments with given := arguments.given ++ [(choice, none)], pending := none }
  else
    match value with
    | none => { arguments with pending := some choice }
    | some value =>
      let text := String.ofList (value.dropWhile (· = '='))
      { arguments with given := arguments.given ++ [(choice, some text)], pending := none }

/-- The option that waited for a value in vain. -/
def settle (arguments : Arguments) : Arguments :=
  match arguments.pending with
  | none => arguments
  | some choice =>
    { arguments with given := arguments.given ++ [(choice, none)], pending := none }

/-- An option with a long name; `body` is what follows the hyphens. -/
def takeLong (arguments : Arguments) (body : List Char) : Request Arguments :=
  let name := body.takeWhile (· ≠ '=')
  let value := if body.contains '=' then some ((body.dropWhile (· ≠ '=')).drop 1) else none
  if name = "help".toList || name = "version".toList then .shows
  else
    match Choice.ofName? name with
    | some choice => .asks (arguments.settle.give choice value)
    | none => .unusable

/-- An option of one letter; `body` is what follows the hyphen. -/
def takeShort (arguments : Arguments) (body : List Char) : Request Arguments :=
  match body with
  | 'h' :: _ | 'V' :: _ => .shows
  | ['o'] => .asks (arguments.settle.give .output none)
  | 'o' :: value => .asks (arguments.settle.give .output (some value))
  | _ => .unusable

/-- The next argument. -/
def take (arguments : Arguments) (argument : List Char) : Request Arguments :=
  if arguments.closed then .unusable
  else
    match argument with
    | ['-', '-'] => .asks { arguments with closed := true }
    | '-' :: '-' :: body => arguments.takeLong (body.dropWhile (· = '-'))
    | '-' :: first :: rest => arguments.takeShort (first :: rest)
    | value =>
      match arguments.pending with
      | none => .unusable
      | some choice =>
        .asks { arguments with
          given := arguments.given ++ [(choice, some (String.ofList value))], pending := none }

/-- All arguments, one after the other. -/
def takeAll (arguments : Arguments) : List String → Request Arguments
  | [] => .asks arguments.settle
  | first :: rest =>
    match arguments.take first.toList with
    | .shows => .shows
    | .unusable => .unusable
    | .asks arguments => takeAll arguments rest

end Arguments

/-- The options of a collector, their values not yet looked into. -/
structure Options where
  listen : String
  output : String
  dumpInterval : String
  heartbeatTimeout : String
  resets : Bool
  pulls : Bool
  deriving DecidableEq, Repr, Inhabited

/-- The options that complete arguments give; none if an option is given twice. -/
def Arguments.options? (arguments : Arguments) : Option Options :=
  let given := arguments.given
  let twice := given.any fun entry => 1 < given.countP fun other => other.1 = entry.1
  let value (choice : Choice) (standard : String) : String :=
    ((given.find? fun entry => entry.1 = choice).bind (·.2)).getD standard
  let has (choice : Choice) : Bool := given.any fun entry => entry.1 = choice
  if twice then none
  else some {
    listen := value .listen "0.0.0.0:6300"
    output := value .output "covstream-data"
    dumpInterval := value .dumpInterval "60"
    heartbeatTimeout := value .heartbeatTimeout "180"
    resets := has .reset
    pulls := !has .noPull }

namespace Options

/-- What arguments ask for. -/
def ofArguments (arguments : List String) : Request Options :=
  match Arguments.empty.takeAll arguments with
  | .shows => .shows
  | .unusable => .unusable
  | .asks arguments =>
    match arguments.options? with
    | some options => .asks options
    | none => .unusable

/-- The number of seconds that an option gives. -/
def seconds (option value : String) : Except Failure UInt64 :=
  match Text.parseBelow UInt64.size value.toList with
  | some number => .ok (UInt64.ofNat number)
  | none => .error (.invalidSeconds value option)

/-- What the options tell a collector to do. -/
def settings (options : Options) : Except Failure Settings := do
  let dump ← seconds "dump-interval" options.dumpInterval
  let heartbeat ← seconds "heartbeat-timeout" options.heartbeatTimeout
  return {
    output := .ofText options.output
    dumpInterval := if dump = 0 then none else some (.ofSeconds dump)
    resets := options.resets
    pulls := options.pulls
    heartbeatTimeout := .ofSeconds (max heartbeat 1) }

end Options

/-- How a run of the program ends. -/
structure Ending where
  status : Nat
  log : List Log.Line
  /-- What each agent got, if the program came to listen. -/
  received : Option (List Bytes)
  volume : Files.Volume

namespace CommandLine

/-- Runs a collector; `place` is the address it listens at, as the log gives it. -/
def serve (options : Options) (place : String) (callers : List Caller) (volume : Files.Volume)
    (interfaces : Interfaces) : Except Failure Service := do
  let settings ← options.settings
  let address ← Address.parse options.listen
  address.bind interfaces
  let service := Service.run settings place callers volume
  return { service with
    log := [Log.info ("Storing everything under " ++ Text.quoted options.output)] ++
      service.log ++ [Log.info "Finished!"] }

/-- Runs the program on its arguments, on a machine that is cut off unless it is said
otherwise. -/
def run (arguments : List String) (place : String) (callers : List Caller)
    (volume : Files.Volume) (interfaces : Interfaces := .isolated) : Ending :=
  match Options.ofArguments arguments with
  | .shows => ⟨0, [], none, volume⟩
  | .unusable => ⟨1, [], none, volume⟩
  | .asks options =>
    match serve options place callers volume interfaces with
    | .error failure => ⟨1, [Log.error failure.message], none, volume⟩
    | .ok service => ⟨0, service.log, some service.received, service.volume⟩

/-- The lines of a log that the program prints. -/
def printed (log : List Log.Line) : List Log.Line :=
  log.filter fun line => Log.admits (some .info) line.level

end CommandLine
end Collector
end CoverageLink
