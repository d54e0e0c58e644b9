import CoverageLink.Proofs.Link.Backoff
import CoverageLink.Proofs.Link.Requests

/-!
# The law of the reconnecting loop

The loop is three functions deep, and each of them may leave early.  What all the ways through it
have in common is a law about its requests: which request may follow which past (`Sound`).  The law
says how long each wait is, that no connection is asked for while another one is still there or
before the loop has waited, that nobody is told to be connected before the project was sent, and
that the loop does not go on once it was told to stop.

The requests are those that the surroundings have got (`Surroundings.noting`), so the law is about
what is done and not about what the loop says of itself.

## 1.  What the requests tell

The past is a list of requests, the last one first, and everything that matters about it is read off
the list: the failures that count for the next wait (`failuresBefore`), what others see of the loop
(`stands`, `shared`), whether the connection in their hands is still open (`unclosed`), whether
the project was sent on the latest connection (`greeted`), and whether the loop has waited since
(`rested`).

## 2.  What may follow

`Permitted` has a line for each kind of request that the law restricts.  A single request is looked
at there; that nobody is told too much *at any moment* follows by induction (`Sound.greeted`).

## 3.  One function after the other

`Kept` is what holds inside a round, `Poised` what holds when it is over, and `Ended` what is left
when there is no next round.  There is one lemma for each function of the loop.

## 4.  The law

`run_obeys` says it without `Permitted`, for every number of rounds.
-/

namespace CoverageLink
namespace Link

variable {σ : Type}

/-- There is a flag that stays cleared once it is: the surroundings deny that the agent is running
exactly if it is cleared, and nothing that is asked of them sets it again. -/
structure Surroundings.Latch (surroundings : Surroundings σ) (cleared : σ → Prop) : Prop where
  told : ∀ world, cleared world → (surroundings.running world).1 = false
  seen : ∀ world, (surroundings.running world).1 = false → cleared (surroundings.running world).2
  running : ∀ world, cleared world → cleared (surroundings.running world).2
  stand : ∀ standing world, cleared world → cleared (surroundings.stand standing world)
  connect : ∀ world, cleared world → cleared (surroundings.connect world).2
  open_ : ∀ world, cleared world → cleared (surroundings.open_ world).2
  install : ∀ world, cleared world → cleared (surroundings.install world)
  handshake : ∀ world, cleared world → cleared (surroundings.handshake world).2
  ready : ∀ world, cleared world → cleared (surroundings.ready world)
  watch : ∀ world, cleared world → cleared (surroundings.watch world).2
  answer : ∀ world, cleared world → cleared (surroundings.answer world).2
  unwatch : ∀ world, cleared world → cleared (surroundings.unwatch world)
  close : ∀ world, cleared world → cleared (surroundings.close world)
  remove : ∀ world, cleared world → cleared (surroundings.remove world)
  wait : ∀ delay world, cleared world → cleared (surroundings.wait delay world).2
  log : ∀ line world, cleared world → cleared (surroundings.log line world)

namespace Event

/-- Whether the loop learns that it has to stop. -/
def halts : Event → Bool
  | checks running => !running
  | waits _ stopped => stopped
  | _ => false

/-- Whether a request leaves the waits as they are and says nothing about stopping. -/
def plain : Event → Bool
  | checks _ | handshakes _ | waits _ _ => false
  | _ => true

end Event

namespace Reconnect

/-! ## 1.  What the requests tell -/

/-- The failures that are counted for the next wait: none at first and after a handshake, and one
more after each wait. -/
def failuresBefore : List Event → UInt32
  | [] => 0
  | .handshakes true :: _ => 0
  | .waits _ _ :: past => countFailure (failuresBefore past)
  | _ :: past => failuresBefore past

/-- What others see of the loop. -/
def stands : List Event → Standing
  | [] => .disconnected
  | .stands standing :: _ => standing
  | _ :: past => stands past

/-- What others find where connections are shared: nothing, or one that is ready or not. -/
def shared : List Event → Option Bool
  | [] => none
  | .installs :: _ => some false
  | .ready :: past => (shared past).map fun _ => true
  | .removes :: _ => none
  | _ :: past => shared past

/-- Whether the connection that others were given last was not closed. -/
def unclosed : List Event → Bool
  | [] => false
  | .installs :: _ => true
  | .closes :: _ => false
  | _ :: past => unclosed past

/-- Whether the project was sent since a connection was asked for last. -/
def greeted : List Event → Bool
  | [] => false
  | .connects :: _ => false
  | .handshakes true :: _ => true
  | _ :: past => greeted past

/-- Whether the loop has waited since it asked for a connection last, if it ever did. -/
def rested : List Event → Bool
  | [] => true
  | .connects :: _ => false
  | .waits _ _ :: _ => true
  | _ :: past => rested past

/-- Nobody has a connection. -/
def Vacant (past : List Event) : Prop := shared past = none ∧ unclosed past = false

variable {backoff : Backoff} {newer between past : List Event} {event : Event}

/-- A counter that stops does not go back. -/
theorem le_countFailure (failures : UInt32) : failures ≤ countFailure failures := by
  unfold countFailure
  split
  · exact UInt32.le_refl _
  · rename_i room
    have below : failures.toNat ≠ 0xFFFFFFFF := fun same => room (UInt32.toNat.inj same)
    have bound := failures.toNat_lt
    rw [UInt32.le_iff_toNat_le, UInt32.toNat_add, UInt32.toNat_one,
      Nat.mod_eq_of_lt (by omega)]
    omega

/-- Without a handshake the failures do not become fewer. -/
theorem failuresBefore_le (none_sent : .handshakes true ∉ between) :
    failuresBefore past ≤ failuresBefore (between ++ past) := by
  induction between with
  | nil => exact UInt32.le_refl _
  | cons event between ih =>
    have other := List.ne_of_not_mem_cons none_sent
    have le := ih (List.not_mem_of_not_mem_cons none_sent)
    cases event with
    | handshakes sent =>
      cases sent with
      | true => exact absurd rfl other
      | false => exact le
    | waits delay stopped => exact UInt32.le_trans le (le_countFailure _)
    | _ => exact le

/-- Where nobody has a connection any more, it was taken away. -/
theorem exists_removes (vacant : shared (between ++ .installs :: past) = none) :
    ∃ after before, between = after ++ .removes :: before := by
  induction between with
  | nil => cases vacant
  | cons event between ih =>
    have later (vacant : shared (between ++ .installs :: past) = none) :
        ∃ after before, event :: between = after ++ .removes :: before := by
      obtain ⟨after, before, rfl⟩ := ih vacant
      exact ⟨event :: after, before, rfl⟩
    cases event with
    | removes => exact ⟨[], between, rfl⟩
    | installs => cases vacant
    | ready => exact later (Option.map_eq_none_iff.1 vacant)
    | _ => exact later vacant

/-- A connection that is not open any more was closed. -/
theorem closes_mem (shut : unclosed (between ++ .installs :: past) = false) :
    .closes ∈ between := by
  induction between with
  | nil => cases shut
  | cons event between ih =>
    cases event with
    | closes => exact List.mem_cons_self
    | installs => cases shut
    | _ => exact List.mem_cons_of_mem _ (ih shut)

/-- If the project was sent on the latest connection, there is the moment when it was. -/
theorem exists_handshake (sent : greeted past = true) :
    ∃ between older, past = between ++ .handshakes true :: older ∧ .connects ∉ between := by
  induction past with
  | nil => cases sent
  | cons event past ih =>
    have later (fresh : event ≠ .connects) (sent : greeted past = true) :
        ∃ between older, event :: past = between ++ .handshakes true :: older ∧
          .connects ∉ between := by
      obtain ⟨between, older, rfl, none_asked⟩ := ih sent
      exact ⟨event :: between, older, rfl,
        List.not_mem_cons_of_ne_of_not_mem (Ne.symm fresh) none_asked⟩
    cases event with
    | connects => cases sent
    | handshakes sent' =>
      cases sent' with
      | true => exact ⟨[], past, rfl, List.not_mem_nil⟩
      | false => exact later nofun sent
    | _ => exact later nofun sent

/-- Before the next connection there is a wait. -/
theorem exists_waits (waited : rested (between ++ .connects :: past) = true) :
    ∃ delay stopped, .waits delay stopped ∈ between := by
  induction between with
  | nil => cases waited
  | cons event between ih =>
    have later (waited : rested (between ++ .connects :: past) = true) :
        ∃ delay stopped, .waits delay stopped ∈ event :: between := by
      obtain ⟨delay, stopped, member⟩ := ih waited
      exact ⟨delay, stopped, List.mem_cons_of_mem _ member⟩
    cases event with
    | waits delay stopped => exact ⟨delay, stopped, List.mem_cons_self⟩
    | connects => cases waited
    | _ => exact later waited

/-! ## 2.  What may follow -/

/-- What the past must be for a request to follow. -/
def Permitted (backoff : Backoff) (past : List Event) : Event → Prop
  | .waits delay _ => delay = backoff.delay (failuresBefore past)
  | .connects =>
    Vacant past ∧ stands past = .connecting ∧ rested past = true ∧
      ∀ event ∈ past, event.halts = false
  | .ready | .stands .connected => greeted past = true
  | .removes => unclosed past = false
  | _ => True

/-- Every request was permitted when it was made. -/
def Sound (backoff : Backoff) : List Event → Prop
  | [] => True
  | event :: past => Permitted backoff past event ∧ Sound backoff past

namespace Sound

theorem permitted (sound : Sound backoff (newer ++ event :: past)) :
    Permitted backoff past event := by
  induction newer with
  | nil => exact sound.1
  | cons _ _ ih => exact ih sound.2

theorem of_append (sound : Sound backoff (newer ++ past)) : Sound backoff past := by
  induction newer with
  | nil => exact sound
  | cons _ _ ih => exact ih sound.2

/-- **Nobody is told too much**: who finds a connection that is ready, or sees the loop connected,
may rely on the project having been sent. -/
theorem greeted (sound : Sound backoff past)
    (told : stands past = .connected ∨ shared past = some true) :
    Reconnect.greeted past = true := by
  induction past with
  | nil => rcases told with told | told <;> cases told
  | cons event past ih =>
    obtain ⟨permitted, sound⟩ := sound
    have before := ih sound
    cases event with
    | stands standing =>
      rcases told with rfl | ready
      · exact permitted
      · exact before (.inr ready)
    | connects =>
      -- the loop is connecting, and nobody has a connection
      obtain ⟨⟨none_shared, -⟩, connecting, -⟩ := permitted
      rcases told with connected | ready
      · cases connecting.symm.trans connected
      · cases none_shared.symm.trans ready
    | ready => exact permitted
    | installs =>
      rcases told with connected | ready
      · exact before (.inl connected)
      · cases ready
    | removes =>
      rcases told with connected | ready
      · exact before (.inl connected)
      · cases ready
    | handshakes sent =>
      cases sent with
      | true => rfl
      | false => exact before told
    | _ => exact before told

end Sound

/-! ## 3.  One function after the other -/

/-- What holds inside a round. -/
structure Kept (backoff : Backoff) (cleared : σ → Prop) (loop : Reconnect (Noted σ)) : Prop where
  sound : Sound backoff loop.past
  failures : loop.failures = failuresBefore loop.past
  cleared : .checks false ∈ loop.past → cleared loop.world.world
  unstopped : ∀ delay, .waits delay true ∉ loop.past

/-- What holds when a round is over. -/
structure Poised (backoff : Backoff) (cleared : σ → Prop) (loop : Reconnect (Noted σ)) : Prop
    extends Kept backoff cleared loop where
  vacant : Vacant loop.past
  going : .checks false ∉ loop.past

/-- What is left when there is no next round. -/
structure Ended (backoff : Backoff) (loop : Reconnect (Noted σ)) : Prop where
  sound : Sound backoff loop.past
  vacant : Vacant loop.past
  halted : ∃ event ∈ loop.past, event.halts = true

variable {surroundings : Surroundings σ} {cleared : σ → Prop} {loop after : Reconnect (Noted σ)}

/-- When a round is over, nothing told the loop to stop. -/
theorem Poised.unhalted (poised : Poised backoff cleared loop) :
    ∀ event ∈ loop.past, event.halts = false := by
  intro event member
  cases event with
  | checks running =>
    cases running with
    | true => rfl
    | false => exact absurd member poised.going
  | waits delay stopped =>
    cases stopped with
    | true => exact absurd member (poised.unstopped delay)
    | false => rfl
  | _ => rfl

namespace Kept

/-- One more request that does not touch the waits, whatever it makes of the world. -/
theorem more (kept : Kept backoff cleared loop) (event : Event)
    (permitted : Permitted backoff loop.past event) (plain : event.plain = true) (attempts : Nat)
    {world : σ} (stays : cleared loop.world.world → cleared world) :
    Kept backoff cleared ⟨loop.failures, attempts, ⟨event :: loop.past, world⟩⟩ where
  sound := ⟨permitted, kept.sound⟩
  failures := by
    cases event with
    | checks | handshakes | waits => cases plain
    | _ => exact kept.failures
  cleared member := by
    rcases List.mem_cons.1 member with rfl | member
    · cases plain
    · exact stays (kept.cleared member)
  unstopped delay member := by
    rcases List.mem_cons.1 member with rfl | member
    · cases plain
    · exact kept.unstopped delay member

/-- An order is carried out. -/
theorem tell (kept : Kept backoff cleared loop) {order : σ → σ} (event : Event)
    (permitted : Permitted backoff loop.past event) (plain : event.plain = true)
    (stays : ∀ world, cleared world → cleared (order world)) :
    Kept backoff cleared (loop.tell (Noted.tell order event)) :=
  kept.more event permitted plain loop.attempts (stays _)

/-- The surroundings are asked for something. -/
theorem ask {α : Type} (kept : Kept backoff cleared loop) {request : σ → α × σ} (event : Event)
    (permitted : Permitted backoff loop.past event) (plain : event.plain = true)
    (stays : ∀ world, cleared world → cleared (request world).2) {reply : α}
    (asked : loop.ask (Noted.ask request fun _ => event) = (reply, after)) :
    Kept backoff cleared after ∧ after.past = event :: loop.past := by
  obtain ⟨-, rfl⟩ := Prod.mk.inj asked
  exact ⟨kept.more event permitted plain loop.attempts (stays _), rfl⟩

/-- The loop looks whether the agent is still running. -/
theorem check (kept : Kept backoff cleared loop) (latch : surroundings.Latch cleared)
    {running : Bool} (looked : loop.ask surroundings.noting.running = (running, after)) :
    Kept backoff cleared after ∧ after.past = .checks running :: loop.past ∧
      (running = true → .checks false ∉ after.past) := by
  obtain ⟨rfl, rfl⟩ := Prod.mk.inj looked
  have seen (member : .checks false ∈ loop.past) :
      (surroundings.running loop.world.world).1 = false :=
    latch.told _ (kept.cleared member)
  refine ⟨⟨⟨trivial, kept.sound⟩, kept.failures, fun member => ?_, fun delay member => ?_⟩, rfl,
    fun running member => ?_⟩
  · rcases List.mem_cons.1 member with same | member
    · exact latch.seen _ (Event.checks.inj same).symm
    · exact latch.running _ (kept.cleared member)
  · rcases List.mem_cons.1 member with same | member
    · cases same
    · exact kept.unstopped delay member
  · rcases List.mem_cons.1 member with same | member
    · cases (Event.checks.inj same).trans running
    · cases (seen member).symm.trans running

/-- The project is sent, and then the waits start anew. -/
theorem handshake (kept : Kept backoff cleared loop) (latch : surroundings.Latch cleared)
    {result : Except Failure Unit} (sent : loop.handshake surroundings.noting = (result, after)) :
    Kept backoff cleared after ∧ (result = .ok () → greeted after.past = true) := by
  have noted {sent : Bool} {failures : UInt32} {world : σ}
      (stays : cleared loop.world.world → cleared world)
      (counted : failures = failuresBefore (.handshakes sent :: loop.past)) :
      Kept backoff cleared ⟨failures, loop.attempts, ⟨.handshakes sent :: loop.past, world⟩⟩ := by
    refine ⟨⟨trivial, kept.sound⟩, counted, fun member => ?_, fun delay member => ?_⟩
    · exact stays (kept.cleared (by simpa [past] using member))
    · exact kept.unstopped delay (by simpa [past] using member)
  have stays := latch.handshake loop.world.world
  rcases asked : surroundings.handshake loop.world.world with ⟨failure | _, world⟩ <;>
    rw [asked] at stays
  · have failed : loop.handshake surroundings.noting =
        (.error failure,
          ⟨loop.failures, loop.attempts, ⟨.handshakes false :: loop.past, world⟩⟩) := by
      simp only [Reconnect.handshake, Reconnect.ask, Surroundings.noting, Noted.ask, asked]
      rfl
    cases sent.symm.trans failed
    exact ⟨noted stays kept.failures, fun ok => by cases ok⟩
  · have greeted : loop.handshake surroundings.noting =
        (.ok (), ⟨0, loop.attempts, ⟨.handshakes true :: loop.past, world⟩⟩) := by
      simp only [Reconnect.handshake, Reconnect.ask, Surroundings.noting, Noted.ask, asked]
      rfl
    cases sent.symm.trans greeted
    exact ⟨noted stays rfl, fun _ => rfl⟩

/-- A conversation leaves the waits as they are. -/
theorem converse (kept : Kept backoff cleared loop) (latch : surroundings.Latch cleared)
    {result : Except Failure Bool}
    (conversed : loop.converse surroundings.noting = (result, after)) :
    Kept backoff cleared after := by
  unfold Reconnect.converse at conversed
  rcases watched : loop.ask surroundings.noting.watch with ⟨failure | _, watching⟩ <;>
    rw [watched] at conversed <;>
    obtain ⟨kept, -⟩ := kept.ask .watches trivial rfl latch.watch watched
  · cases conversed
    exact kept
  simp only at conversed
  rcases answered : watching.ask surroundings.noting.answer with ⟨reply, answering⟩
  rw [answered] at conversed
  cases conversed
  obtain ⟨kept, -⟩ := kept.ask .answers trivial rfl latch.answer answered
  exact (kept.tell .closes trivial rfl latch.close).tell .unwatches trivial rfl latch.unwatch

/-- **Whatever becomes of a connection that others may close**, the law is kept. -/
theorem drive (kept : Kept backoff cleared loop) (latch : surroundings.Latch cleared)
    {result : Except Failure Bool} (driven : loop.drive surroundings.noting = (result, after)) :
    Kept backoff cleared after := by
  unfold Reconnect.drive at driven
  rcases sent : loop.handshake surroundings.noting with ⟨failure | _, greeting⟩ <;>
    rw [sent] at driven <;> obtain ⟨kept, greeted⟩ := kept.handshake latch sent
  · cases driven
    exact kept
  simp only at driven
  rcases looked : greeting.ask surroundings.noting.running with ⟨_ | _, running⟩ <;>
    rw [looked] at driven <;> obtain ⟨kept, events, -⟩ := kept.check latch looked
  · cases driven
    exact kept
  have greeted : Reconnect.greeted running.past = true := by
    rw [events]
    exact greeted rfl
  have ready := kept.tell .ready greeted rfl latch.ready
  have connected := ready.tell (.stands .connected) greeted rfl (latch.stand .connected)
  let line := Log.info "Connected to the collector"
  have logged := connected.tell (.logs line) trivial rfl (latch.log line)
  exact logged.converse latch driven

/-- **However an attempt ends**, nobody has the connection afterwards. -/
theorem attempt (kept : Kept backoff cleared loop) (latch : surroundings.Latch cleared)
    (permitted : Permitted backoff loop.past .connects) {result : Except Failure Bool}
    (attempted : loop.attempt surroundings.noting = (result, after)) :
    Kept backoff cleared after ∧ Vacant after.past := by
  have vacant : Vacant loop.past := permitted.1
  unfold Reconnect.attempt at attempted
  rcases connected : loop.ask surroundings.noting.connect with ⟨failure | _, connection⟩ <;>
    rw [connected] at attempted <;>
    obtain ⟨kept, events⟩ := kept.ask .connects permitted rfl latch.connect connected <;>
    have vacant : Vacant connection.past := events ▸ vacant
  · cases attempted
    exact ⟨kept, vacant⟩
  simp only at attempted
  rcases opened : connection.ask surroundings.noting.open_ with ⟨failure | _, opening⟩ <;>
    rw [opened] at attempted <;>
    obtain ⟨kept, events⟩ := kept.ask .opens trivial rfl latch.open_ opened <;>
    have vacant : Vacant opening.past := events ▸ vacant
  · cases attempted
    exact ⟨kept, vacant⟩
  simp only at attempted
  rcases looked : opening.ask surroundings.noting.running with ⟨_ | _, running⟩ <;>
    rw [looked] at attempted <;> obtain ⟨kept, events, -⟩ := kept.check latch looked
  · cases attempted
    have vacant : Vacant running.past := events ▸ vacant
    exact ⟨kept.tell .closes trivial rfl latch.close, vacant.1, rfl⟩
  simp only at attempted
  rcases driven : (running.tell surroundings.noting.install).drive surroundings.noting with
    ⟨outcome, driving⟩
  rw [driven] at attempted
  cases attempted
  have installed := kept.tell .installs trivial rfl latch.install
  have closed := (installed.drive latch driven).tell .closes trivial rfl latch.close
  exact ⟨closed.tell .removes rfl rfl latch.remove, rfl, rfl⟩

theorem report (kept : Kept backoff cleared loop) (latch : surroundings.Latch cleared)
    (vacant : Vacant loop.past) (result : Except Failure Bool) :
    Kept backoff cleared (loop.report surroundings.noting result) ∧
      Vacant (loop.report surroundings.noting result).past := by
  unfold Reconnect.report
  rcases result with failure | _ | _
  · simp only
    rcases looked : loop.ask surroundings.noting.running with ⟨_ | _, running⟩ <;>
      obtain ⟨kept, events, -⟩ := kept.check latch looked <;>
      have vacant : Vacant running.past := events ▸ vacant
    · exact ⟨kept, vacant⟩
    · exact ⟨kept.tell (.logs _) trivial rfl (latch.log _), vacant⟩
  · exact ⟨kept, vacant⟩
  · exact ⟨kept.tell (.logs _) trivial rfl (latch.log _), vacant⟩

/-- A look by which a round ends, or the loop goes on. -/
theorem look (kept : Kept backoff cleared loop) (latch : surroundings.Latch cleared)
    (vacant : Vacant loop.past) {running : Bool}
    (looked : loop.ask surroundings.noting.running = (running, after)) :
    (running = true → Poised backoff cleared after) ∧ (running = false → Ended backoff after) := by
  obtain ⟨kept, events, going⟩ := kept.check latch looked
  have vacant : Vacant after.past := events ▸ vacant
  refine ⟨fun running => ⟨kept, vacant, going running⟩, ?_⟩
  rintro rfl
  exact ⟨kept.sound, vacant, .checks false, events ▸ List.mem_cons_self, rfl⟩

end Kept

namespace Poised

/-- **The wait after a round** is as long as the failures want it, and then another connection may
be asked for. -/
theorem pause (poised : Poised backoff cleared loop) (latch : surroundings.Latch cleared)
    {again : Bool} (paused : loop.pause backoff surroundings.noting = (again, after)) :
    (again = true → Poised backoff cleared after ∧ rested after.past = true) ∧
      (again = false → Ended backoff after) := by
  obtain ⟨line, stopped, world, stays, rfl, rfl⟩ : ∃ line stopped world,
      (cleared loop.world.world → cleared world) ∧ again = !stopped ∧
      after = ⟨countFailure loop.failures, loop.attempts,
        ⟨.waits (backoff.delay loop.failures) stopped :: .logs line :: .stands .disconnected ::
          loop.past, world⟩⟩ := by
    obtain ⟨rfl, rfl⟩ := Prod.mk.inj paused
    refine ⟨_, _, _, fun before => ?_, rfl, rfl⟩
    exact latch.wait _ _ (latch.log _ _ (latch.stand _ _ before))
  have sound : Sound backoff (.waits (backoff.delay loop.failures) stopped :: .logs line ::
      .stands .disconnected :: loop.past) :=
    ⟨congrArg backoff.delay poised.failures, trivial, trivial, poised.sound⟩
  cases stopped with
  | true => exact ⟨nofun, fun _ => ⟨sound, poised.vacant, _, List.mem_cons_self, rfl⟩⟩
  | false =>
    refine ⟨fun _ => ⟨⟨⟨sound, congrArg countFailure poised.failures, fun member => ?_,
      fun delay member => ?_⟩, poised.vacant, fun member => ?_⟩, rfl⟩, nofun⟩
    · exact stays (poised.cleared (by simpa [past] using member))
    · exact poised.unstopped delay (by simpa [past] using member)
    · exact poised.going (by simpa [past] using member)

/-- The rest of a round. -/
theorem finish (poised : Poised backoff cleared loop) (latch : surroundings.Latch cleared)
    (connecting : stands loop.past = .connecting) (waited : rested loop.past = true) {again : Bool}
    (finished : loop.finish backoff surroundings.noting = (again, after)) :
    (again = true → Poised backoff cleared after ∧ rested after.past = true) ∧
      (again = false → Ended backoff after) := by
  unfold Reconnect.finish at finished
  rcases attempted : loop.attempt surroundings.noting with ⟨result, reached⟩
  obtain ⟨kept, vacant⟩ :=
    poised.toKept.attempt latch ⟨poised.vacant, connecting, waited, poised.unhalted⟩ attempted
  obtain ⟨kept, vacant⟩ := kept.report latch vacant result
  rw [attempted] at finished
  simp only at finished
  rcases looked : (reached.report surroundings.noting result).ask surroundings.noting.running with
      ⟨_ | _, reported⟩ <;>
    rw [looked] at finished <;> obtain ⟨goes, ends⟩ := kept.look latch vacant looked
  · cases finished
    exact ⟨nofun, ends⟩
  · exact (goes rfl).pause latch finished

/-- **A round** takes the loop to the next one, or ends it. -/
theorem round (poised : Poised backoff cleared loop) (latch : surroundings.Latch cleared)
    (waited : rested loop.past = true) {again : Bool}
    (rounded : loop.round backoff surroundings.noting = (again, after)) :
    (again = true → Poised backoff cleared after ∧ rested after.past = true) ∧
      (again = false → Ended backoff after) := by
  unfold Reconnect.round Reconnect.begin_ at rounded
  rcases looked : loop.ask surroundings.noting.running with ⟨_ | _, running⟩ <;>
    rw [looked] at rounded <;>
    obtain ⟨-, events, -⟩ := poised.toKept.check latch looked <;>
    obtain ⟨goes, ends⟩ := poised.toKept.look latch poised.vacant looked
  · cases rounded
    exact ⟨nofun, ends⟩
  · obtain ⟨kept, vacant, going⟩ := goes rfl
    have waited : rested running.past = true := events ▸ waited
    have connecting := kept.more (.stands .connecting) trivial rfl (running.attempts + 1)
      (latch.stand .connecting running.world.world)
    have attempting : Poised backoff cleared
        ({ running with attempts := running.attempts + 1 }.tell
          (surroundings.noting.stand .connecting)) :=
      ⟨connecting, vacant, List.not_mem_cons_of_ne_of_not_mem nofun going⟩
    exact attempting.finish latch rfl waited rounded

end Poised

theorem Ended.stop (ended : Ended backoff loop) :
    Ended backoff (loop.stop surroundings.noting) := by
  obtain ⟨sound, vacant, event, member, halts⟩ := ended
  exact ⟨⟨trivial, trivial, sound⟩, vacant, event,
    List.mem_cons_of_mem _ (List.mem_cons_of_mem _ member), halts⟩

/-- **Every number of rounds.** -/
theorem Poised.run (poised : Poised backoff cleared loop) (latch : surroundings.Latch cleared)
    (waited : rested loop.past = true) {rounds : Nat} {ended : Bool}
    (ran : Reconnect.run backoff surroundings.noting rounds loop = (ended, after)) :
    (ended = true → Ended backoff after ∧ stands after.past = .stopped) ∧
      (ended = false → Poised backoff cleared after) := by
  induction rounds generalizing loop with
  | zero =>
    cases ran
    exact ⟨fun stopped => absurd stopped Bool.false_ne_true, fun _ => poised⟩
  | succ rounds ih =>
    unfold Reconnect.run at ran
    rcases rounded : loop.round backoff surroundings.noting with ⟨_ | _, reached⟩ <;>
      rw [rounded] at ran <;> obtain ⟨goes, ends⟩ := poised.round latch waited rounded
    · cases ran
      exact ⟨fun _ => ⟨(ends rfl).stop, rfl⟩, fun more => absurd more.symm Bool.false_ne_true⟩
    · obtain ⟨poised, waited⟩ := goes rfl
      exact ih poised waited ran

theorem poised_start (backoff : Backoff) (cleared : σ → Prop) (world : σ) :
    Poised backoff cleared (start ⟨[], world⟩) :=
  ⟨⟨trivial, rfl, nofun, nofun⟩, ⟨rfl, rfl⟩, List.not_mem_nil⟩

/-! ## 4.  The law -/

/-- **The law of the reconnecting loop.**  The surroundings may do what they like, but they do not
set a flag again that was cleared.  They note what they are asked for, which makes no difference
to the loop.  Then, at any moment of any run:

* a wait is as long as the failures before it want, never longer than the cap, and not shorter than
  an earlier one unless the project was sent in between;
* the loop has waited before it asks for another connection, and was not stopped then;
* a connection that others were given was closed and then taken away before the next one is asked
  for;
* others find the connection ready, or see the loop connected, only if the project was sent since
  the connection was asked for;
* no connection is asked for once a look found the flag cleared or a wait found the signal raised.

The run is over exactly if one of these happened, and then the loop has stopped and nobody has a
connection. -/
theorem run_obeys (backoff : Backoff) (surroundings : Surroundings σ) (cleared : σ → Prop)
    (latch : surroundings.Latch cleared) (world : σ) (rounds : Nat) (ended : Bool)
    (loop : Reconnect (Noted σ))
    (ran : run backoff surroundings.noting rounds (start ⟨[], world⟩) = (ended, loop)) :
    run backoff surroundings rounds (start world) = (ended, loop.forget) ∧
    (∀ newer delay stopped past, loop.past = newer ++ .waits delay stopped :: past →
      delay = backoff.delay (failuresBefore past) ∧ delay.nanos ≤ backoff.cap.nanos) ∧
    (∀ newer delay stopped between earlier before past,
      loop.past = newer ++ .waits delay stopped :: (between ++ .waits earlier before :: past) →
        .handshakes true ∉ between → earlier.nanos ≤ delay.nanos) ∧
    (∀ newer between past, loop.past = newer ++ .connects :: (between ++ .connects :: past) →
      ∃ delay, .waits delay false ∈ between) ∧
    (∀ newer between past, loop.past = newer ++ .connects :: (between ++ .installs :: past) →
      ∃ last middle first, between = last ++ .removes :: (middle ++ .closes :: first)) ∧
    (∀ newer past, loop.past = newer ++ past →
      stands past = .connected ∨ shared past = some true →
        ∃ between older, past = between ++ .handshakes true :: older ∧ .connects ∉ between) ∧
    (∀ newer past, loop.past = newer ++ .connects :: past →
      ∀ event ∈ past, event.halts = false) ∧
    (ended = true ↔ ∃ event ∈ loop.past, event.halts = true) ∧
    (ended = true → stands loop.past = .stopped ∧ shared loop.past = none) := by
  obtain ⟨ends, goes⟩ := (poised_start backoff cleared world).run latch rfl ran
  have sound : Sound backoff loop.past := by
    cases ended with
    | true => exact (ends rfl).1.sound
    | false => exact (goes rfl).sound
  have waited {newer past : List Event} {delay : Interval} {stopped : Bool}
      (split : loop.past = newer ++ .waits delay stopped :: past) :
      delay = backoff.delay (failuresBefore past) := (split ▸ sound).permitted
  refine ⟨?_, ?_, ?_, ?_, ?_, ?_, ?_, ?_, ?_⟩
  · exact (forget_run (start ⟨[], world⟩) backoff rounds).trans (by rw [ran]; rfl)
  · intro newer delay stopped past split
    obtain rfl := waited split
    exact ⟨rfl, backoff.nanos_delay_le _⟩
  · intro newer delay stopped between earlier before past split none_sent
    have split' : loop.past =
        (newer ++ .waits delay stopped :: between) ++ .waits earlier before :: past := by
      rw [split, List.append_assoc, List.cons_append]
    have once : failuresBefore past ≤ failuresBefore (.waits earlier before :: past) :=
      le_countFailure _
    have delays := backoff.nanos_delay_mono (UInt32.le_trans once (failuresBefore_le none_sent))
    rwa [← waited split', ← waited split] at delays
  · intro newer between past split
    obtain ⟨-, -, waited, going⟩ := (split ▸ sound).permitted
    obtain ⟨delay, stopped, member⟩ := exists_waits waited
    obtain rfl : stopped = false := going _ (List.mem_append_left _ member)
    exact ⟨delay, member⟩
  · intro newer between past split
    obtain ⟨⟨none_shared, -⟩, -, -, -⟩ := (split ▸ sound).permitted
    obtain ⟨last, before, rfl⟩ := exists_removes none_shared
    have split' : loop.past =
        (newer ++ .connects :: last) ++ .removes :: (before ++ .installs :: past) := by
      simp [split]
    have closed : Permitted backoff (before ++ .installs :: past) .removes :=
      (split' ▸ sound).permitted
    obtain ⟨middle, first, rfl⟩ := List.append_of_mem (closes_mem closed)
    exact ⟨last, middle, first, rfl⟩
  · intro newer past split told
    exact exists_handshake ((split ▸ sound).of_append.greeted told)
  · intro newer past split
    exact (split ▸ sound).permitted.2.2.2
  · cases ended with
    | true => exact iff_of_true rfl (ends rfl).1.halted
    | false =>
      refine iff_of_false nofun ?_
      rintro ⟨event, member, halts⟩
      cases ((goes rfl).unhalted event member).symm.trans halts
  · rintro rfl
    exact ⟨(ends rfl).2, (ends rfl).1.vacant.1⟩

/-- The world counts how often the loop looks.  The first connection is refused, the second one ends
by itself, and the flag is cleared before others are given the third one. -/
theorem run_obeys_of_counting_world :
    let surroundings : Surroundings Nat :=
      { running := fun count => (decide (count < 8), count + 1)
        stand := fun _ count => count
        connect := fun count =>
          (if count = 1 then .error (.host .connectionRefused) else .ok (), count)
        open_ := fun count => (.ok (), count)
        install := fun count => count
        handshake := fun count => (.ok (), count)
        ready := fun count => count
        watch := fun count => (.ok (), count)
        answer := fun count => (.ok (), count)
        unwatch := fun count => count
        close := fun count => count
        remove := fun count => count
        wait := fun _ count => (false, count)
        log := fun _ count => count }
    let ran := run .standard surroundings.noting 4 (start ⟨[], 0⟩)
    let past := ran.2.past
    surroundings.Latch (8 ≤ ·) ∧ ran.1 = true ∧ past.count .connects = 3 ∧
      past.count .installs = 1 ∧ stands past = .stopped ∧ shared past = none ∧
      ∀ newer past', past = newer ++ .connects :: past' → ∀ event ∈ past', event.halts = false := by
  intro surroundings ran past
  have latch : surroundings.Latch (8 ≤ ·) := by
    constructor
    case told =>
      intro count cleared
      simpa [surroundings] using cleared
    case seen =>
      intro count seen
      have reached : 8 ≤ count := by simpa [surroundings] using seen
      exact Nat.le_succ_of_le reached
    case running =>
      intro count cleared
      exact Nat.le_succ_of_le cleared
    all_goals
      intros
      assumption
  have finished : ran.1 = true := rfl
  obtain ⟨-, -, -, -, -, -, asked, -, stopped⟩ :=
    run_obeys .standard surroundings (8 ≤ ·) latch 0 4 ran.1 ran.2 rfl
  exact ⟨latch, finished, rfl, rfl, (stopped finished).1, (stopped finished).2, asked⟩

end Reconnect
end Link
end CoverageLink
