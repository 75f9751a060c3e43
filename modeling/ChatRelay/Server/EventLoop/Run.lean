import ChatRelay.Server.EventLoop.Dispatch

/-!
# Running an event loop

A loop takes turns. On each it first begins to stop, if that has been asked for; then it ends, if it
is stopping and has no sessions left or no time; then it lets go of the sessions that have drained
for too long, looks again at listeners that failed, and waits for events. When it ends, in whatever
way, no session is left.

Stopping gives up the listeners for good. Every session gets one last chance to write what is
queued for it, and is then half-closed.
-/

namespace ChatRelay

/-- Something that happens outside while the loop waits. -/
inductive Outside
  /-- Somebody comes to a listener, or an accept there will fail. -/
  | comes (token : Nat) (incoming : Incoming)
  /-- The network does something to the connection of a session. -/
  | changes (id : SessionId) (change : Endpoint.Change)
  deriving DecidableEq, Repr, Inhabited

/-- What one turn of the loop meets. -/
structure Turn where
  /-- The time when the turn begins. -/
  start : Nat
  stopAsked : Bool
  /-- What happens while the loop waits. -/
  outside : List Outside
  /-- The time when waiting ends. -/
  woken : Nat
  /-- What the poller says, or how waiting failed. -/
  events : Except Fault (List PollEvent)

namespace EventLoop

/-! ## What is done on a turn -/

/-- Lets go of the sessions whose time to drain is over. -/
def expireDrains (loop : EventLoop) : EventLoop :=
  ((loop.slots.filter (·.session.drainExpired loop.now)).map Slot.id).foldl release loop

/-- Ends one session because the server stops, after a last attempt at writing. -/
def stopSession (loop : EventLoop) (id : SessionId) : EventLoop :=
  match loop.slot? id with
  | none => loop
  | some slot =>
    if slot.session.wantsWrite then
      let (outcome, session) := slot.session.writeReady
      let loop := loop.put session
      match outcome with
      | .failed reason => loop.closeSession id reason
      | .drained | .pending => loop.closeSession id .shutdown
    else loop.closeSession id .shutdown

/-- Gives up every listener and ends every session. -/
def beginShutdown (loop : EventLoop) : EventLoop :=
  let loop : EventLoop := { loop with
    listeners := []
    calls := loop.calls ++ loop.listeners.map (.deregister ·.token) }
  (loop.slots.map Slot.id).foldl stopSession loop

/-- The loop after something has happened outside. -/
def happen (loop : EventLoop) : Outside → EventLoop
  | .comes token incoming =>
    { loop with
      listeners := loop.listeners.map fun l =>
        if l.token = token then { l with backlog := l.backlog ++ [incoming] } else l }
  | .changes id change =>
    match loop.slot? id with
    | none => loop
    | some slot => loop.put { slot.session with endpoint := slot.session.endpoint.undergo change }

/-! ## Turns -/

/-- Where a run of a loop has come to. -/
inductive Progress
  /-- It goes on, and has to be over by the deadline if it is stopping. -/
  | running (loop : EventLoop) (deadline : Option Nat)
  | ended (loop : EventLoop) (result : Except ServiceError Unit)

/-- The loop that has come there. -/
def Progress.loop : Progress → EventLoop
  | .running loop _ | .ended loop _ => loop

/-- Begins to stop, if that has been asked for and has not been done yet. -/
def heedStop (loop : EventLoop) (deadline : Option Nat) (stopAsked : Bool) :
    EventLoop × Option Nat :=
  match deadline, stopAsked with
  | none, true => (loop.beginShutdown, some (loop.now + loop.plan.drain))
  | deadline, _ => (loop, deadline)

/-- One turn of the loop. -/
def turn (loop : EventLoop) (deadline : Option Nat) (turn : Turn) : Progress :=
  let (loop, deadline) := { loop with now := turn.start }.heedStop deadline turn.stopAsked
  if deadline.any fun d => loop.slots.isEmpty || d ≤ loop.now then .ended loop.releaseAll (.ok ())
  else
    let loop := loop.expireDrains.retryAccepts
    let loop : EventLoop := { turn.outside.foldl happen loop with now := turn.woken }
    match turn.events with
    | .ok events => .running (events.foldl handle loop) deadline
    | .error fault =>
      if fault.kind = .interrupted then .running loop deadline
      else .ended loop.releaseAll (.error (.poll fault))

/-- Takes turns for as long as the loop goes on. -/
def run (progress : Progress) : List Turn → Progress
  | [] => progress
  | first :: rest =>
    match progress with
    | .running loop deadline => run (loop.turn deadline first) rest
    | ended => ended

end EventLoop

end ChatRelay
