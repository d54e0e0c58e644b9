import CoverageLink.Link.Reconnect

/-!
# What the reconnecting loop asks for

The loop keeps no record of what it did.  What it did is what its surroundings were asked for, and
this file keeps a list of that beside any world.

* `Event`: a request, with the reply as far as the loop depends on it.
* `Noted`: a world, and the requests so far.
* `Surroundings.noting`: surroundings that do and reply what the given ones do, and keep the list.

Keeping the list makes no difference to the loop (`Reconnect.forget_run`).  There is one lemma for
each function of the loop: the list is forgotten before or after, and it comes to the same.
-/

namespace CoverageLink
namespace Link

variable {σ : Type}

/-- What the loop asks for. -/
inductive Event
  /-- Looks whether the agent is still running. -/
  | checks (running : Bool)
  | stands (standing : Standing)
  | connects
  | opens
  /-- Makes the connection available to others. -/
  | installs
  /-- Sends the project, or fails to. -/
  | handshakes (sent : Bool)
  /-- Declares the connection ready. -/
  | ready
  /-- Sets up the signs of life. -/
  | watches
  /-- Answers the collector until the connection ends. -/
  | answers
  /-- Takes the signs of life down. -/
  | unwatches
  | closes
  /-- Takes the connection away from others. -/
  | removes
  /-- Waits until the delay is over or the signal to stop is raised. -/
  | waits (delay : Interval) (stopped : Bool)
  | logs (line : Log.Line)
  deriving DecidableEq, Repr

/-- A world, and what was asked of it. -/
structure Noted (σ : Type) where
  /-- The requests so far, the last one first. -/
  past : List Event
  world : σ

namespace Noted

/-- Answers a request, and notes it with the reply. -/
def ask {α : Type} (request : σ → α × σ) (event : α → Event) (noted : Noted σ) : α × Noted σ :=
  let (reply, world) := request noted.world
  (reply, ⟨event reply :: noted.past, world⟩)

/-- Carries an order out, and notes it. -/
def tell (order : σ → σ) (event : Event) (noted : Noted σ) : Noted σ :=
  ⟨event :: noted.past, order noted.world⟩

end Noted

/-- The surroundings, noting what they are asked for. -/
def Surroundings.noting (surroundings : Surroundings σ) : Surroundings (Noted σ) where
  running := Noted.ask surroundings.running .checks
  stand standing := Noted.tell (surroundings.stand standing) (.stands standing)
  connect := Noted.ask surroundings.connect fun _ => .connects
  open_ := Noted.ask surroundings.open_ fun _ => .opens
  install := Noted.tell surroundings.install .installs
  handshake := Noted.ask surroundings.handshake fun result => .handshakes result.isOk
  ready := Noted.tell surroundings.ready .ready
  watch := Noted.ask surroundings.watch fun _ => .watches
  answer := Noted.ask surroundings.answer fun _ => .answers
  unwatch := Noted.tell surroundings.unwatch .unwatches
  close := Noted.tell surroundings.close .closes
  remove := Noted.tell surroundings.remove .removes
  wait delay := Noted.ask (surroundings.wait delay) (.waits delay)
  log line := Noted.tell (surroundings.log line) (.logs line)

namespace Reconnect

/-- What the loop has asked for, the last request first. -/
def past (loop : Reconnect (Noted σ)) : List Event := loop.world.past

/-- The loop without the list of its requests. -/
def forget (loop : Reconnect (Noted σ)) : Reconnect σ :=
  ⟨loop.failures, loop.attempts, loop.world.world⟩

variable {surroundings : Surroundings σ} (loop : Reconnect (Noted σ))

theorem forget_handshake :
    loop.forget.handshake surroundings =
      Prod.map id forget (loop.handshake surroundings.noting) := by
  have asked : loop.forget.ask surroundings.handshake =
      Prod.map id forget (loop.ask surroundings.noting.handshake) := rfl
  rw [handshake, handshake, asked]
  rcases loop.ask surroundings.noting.handshake with ⟨failure | _, loop⟩ <;> rfl

theorem forget_converse :
    loop.forget.converse surroundings = Prod.map id forget (loop.converse surroundings.noting) := by
  have watched : loop.forget.ask surroundings.watch =
      Prod.map id forget (loop.ask surroundings.noting.watch) := rfl
  rw [converse, converse, watched]
  rcases loop.ask surroundings.noting.watch with ⟨failure | _, loop⟩ <;> rfl

theorem forget_drive :
    loop.forget.drive surroundings = Prod.map id forget (loop.drive surroundings.noting) := by
  rw [drive, drive, forget_handshake]
  rcases loop.handshake surroundings.noting with ⟨failure | _, loop⟩
  · rfl
  have looked : loop.forget.ask surroundings.running =
      Prod.map id forget (loop.ask surroundings.noting.running) := rfl
  simp only [Prod.map_apply, id_eq, looked]
  rcases loop.ask surroundings.noting.running with ⟨_ | _, loop⟩
  · rfl
  · let loop := (loop.tell surroundings.noting.ready).tell (surroundings.noting.stand .connected)
    exact forget_converse
      (loop.tell (surroundings.noting.log (Log.info "Connected to the collector")))

theorem forget_attempt :
    loop.forget.attempt surroundings = Prod.map id forget (loop.attempt surroundings.noting) := by
  have connected : loop.forget.ask surroundings.connect =
      Prod.map id forget (loop.ask surroundings.noting.connect) := rfl
  rw [attempt, attempt, connected]
  rcases loop.ask surroundings.noting.connect with ⟨failure | _, loop⟩
  · rfl
  have opened : loop.forget.ask surroundings.open_ =
      Prod.map id forget (loop.ask surroundings.noting.open_) := rfl
  simp only [Prod.map_apply, id_eq, opened]
  rcases loop.ask surroundings.noting.open_ with ⟨failure | _, loop⟩
  · rfl
  have looked : loop.forget.ask surroundings.running =
      Prod.map id forget (loop.ask surroundings.noting.running) := rfl
  simp only [Prod.map_apply, id_eq, looked]
  rcases loop.ask surroundings.noting.running with ⟨_ | _, loop⟩
  · rfl
  have driven : (loop.forget.tell surroundings.install).drive surroundings =
      Prod.map id forget ((loop.tell surroundings.noting.install).drive surroundings.noting) :=
    forget_drive (loop.tell surroundings.noting.install)
  simp only [Prod.map_apply, id_eq, driven]
  rfl

theorem forget_report (result : Except Failure Bool) :
    loop.forget.report surroundings result = (loop.report surroundings.noting result).forget := by
  rcases result with failure | _ | _
  · have looked : loop.forget.ask surroundings.running =
        Prod.map id forget (loop.ask surroundings.noting.running) := rfl
    simp only [report, looked]
    rcases loop.ask surroundings.noting.running with ⟨_ | _, loop⟩ <;> rfl
  · rfl
  · rfl

theorem forget_pause (backoff : Backoff) :
    loop.forget.pause backoff surroundings =
      Prod.map id forget (loop.pause backoff surroundings.noting) := rfl

theorem forget_begin_ :
    loop.forget.begin_ surroundings = Prod.map id forget (loop.begin_ surroundings.noting) := by
  have looked : loop.forget.ask surroundings.running =
      Prod.map id forget (loop.ask surroundings.noting.running) := rfl
  rw [begin_, begin_, looked]
  rcases loop.ask surroundings.noting.running with ⟨_ | _, loop⟩ <;> rfl

theorem forget_finish (backoff : Backoff) :
    loop.forget.finish backoff surroundings =
      Prod.map id forget (loop.finish backoff surroundings.noting) := by
  rw [finish, finish, forget_attempt]
  rcases loop.attempt surroundings.noting with ⟨result, loop⟩
  have looked : (loop.report surroundings.noting result).forget.ask surroundings.running =
      Prod.map id forget ((loop.report surroundings.noting result).ask
        surroundings.noting.running) := rfl
  simp only [Prod.map_apply, id_eq, forget_report, looked]
  rcases (loop.report surroundings.noting result).ask surroundings.noting.running with ⟨_ | _, loop⟩
  · rfl
  · exact forget_pause loop backoff

theorem forget_round (backoff : Backoff) :
    loop.forget.round backoff surroundings =
      Prod.map id forget (loop.round backoff surroundings.noting) := by
  rw [round, round, forget_begin_]
  rcases loop.begin_ surroundings.noting with ⟨_ | _, loop⟩
  · rfl
  · exact forget_finish loop backoff

/-- **Taking notes makes no difference**, for any number of rounds. -/
theorem forget_run (backoff : Backoff) (rounds : Nat) :
    run backoff surroundings rounds loop.forget =
      Prod.map id forget (run backoff surroundings.noting rounds loop) := by
  induction rounds generalizing loop with
  | zero => rfl
  | succ rounds ih =>
    rw [run, run, forget_round]
    rcases loop.round backoff surroundings.noting with ⟨_ | _, loop⟩
    · rfl
    · exact ih loop

end Reconnect
end Link
end CoverageLink
