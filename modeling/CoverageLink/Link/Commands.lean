import CoverageLink.Record.Stream

/-!
# Commands from the collector

The agent reads the collector's stream as a sequence of commands.  Each kind of command
has a handler that reads the payload and then calls on the visitor, in that order: nothing
is carried out before it has arrived completely.  A tag without a handler belongs to a
plain record, which the stream reader decodes; it is shown to the visitor, who will
usually ignore it.

An acknowledgement ends the conversation, as the end of the stream does.

The handlers are looked up by tag in `CommandReader.handlers`; what a handler does is
independent of `Record.body`, except that both read the same fields.
-/

namespace CoverageLink
namespace Link

/-- What a command reader calls on. -/
inductive Visit
  | dump (dumps resets : Bool)
  | pull (request : PullRequest)
  | record (record : Record)
  deriving DecidableEq

/-- Carries out visits, one after the other. -/
abbrev Visitor (σ : Type) := Visit → σ → Except Failure Unit × σ

/-- Whether there is more to read. -/
inductive Flow
  | more
  | stop
  deriving DecidableEq, Repr, Inhabited

namespace CommandReader

/-- What a tag stands for: how the payload is read, and what follows from it. -/
inductive Handler
  /-- Reads the payload past the header check, and calls on the visitor. -/
  | command (payload : Wire.Reading Visit)
  /-- Has no payload and ends the conversation. -/
  | acknowledgement

/-- The payload of a dump command. -/
def dumpPayload : Wire.Reading Visit := do
  let dumps ← Wire.Reading.flag
  let resets ← Wire.Reading.flag
  return .dump dumps resets

/-- The payload of a pull request of a kind. -/
def pullPayload (kind : PullKind) : Wire.Reading Visit := do
  return .pull ⟨kind, ← Record.knownIdsBody⟩

/-- The handlers of the commands. -/
def handlers : List (UInt8 × Handler) :=
  [(Tag.dump, .command dumpPayload), (Tag.pullClasses, .command (pullPayload .classes)),
    (Tag.pullRunningClasses, .command (pullPayload .runningClasses)),
    (Tag.ok, .acknowledgement)]

/-- The handler of a tag, if it has one. -/
def handler? (tag : UInt8) : Option Handler :=
  (handlers.find? fun entry => entry.1 = tag).map (·.2)

/-- The visit that a tag asks for, once its payload was read; none if it ends the
conversation. -/
def visitOf (stream : RecordStream) (tag : UInt8) :
    Except Failure (Option Visit) × RecordStream :=
  match handler? tag with
  | some .acknowledgement => (.ok none, stream)
  | some (.command payload) =>
    let (result, stream) := stream.reading payload
    (result.map some, stream)
  | none =>
    let (result, stream) := stream.body tag
    (result.map fun record => some (.record record), stream)

/-- Reads one block and carries it out. -/
def read {σ : Type} (visit : Visitor σ) (stream : RecordStream) (state : σ) :
    Except Failure Flow × RecordStream × σ :=
  match stream.nextTag with
  | (.error failure, stream) => (.error failure, stream, state)
  | (.ok none, stream) => (.ok .stop, stream, state)
  | (.ok (some tag), stream) =>
    match visitOf stream tag with
    | (.error failure, stream) => (.error failure, stream, state)
    | (.ok none, stream) => (.ok .stop, stream, state)
    | (.ok (some asked), stream) =>
      match visit asked state with
      | (.ok (), state) => (.ok .more, stream, state)
      | (.error failure, state) => (.error failure, stream, state)

end CommandReader
end Link
end CoverageLink
