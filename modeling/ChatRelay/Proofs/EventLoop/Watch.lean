import ChatRelay.Proofs.EventLoop.Quiet

/-!
# Watching a loop

A loop is driven by any events in any order: connections come, sessions are ready to read or write
or fail, drains expire, the server stops, and the network does what it likes in between. A `Watch`
goes along with the loop (`loop_run`) and keeps what the loop does not: since when each session has
been there, what it has answered, and the sessions that are gone.
-/

namespace ChatRelay

/-! ## Runs of a loop -/

/-- One thing that a loop does, or that happens to it. -/
inductive LoopEvent
  | join (peer : String) (endpoint : Endpoint)
  | read (id : SessionId)
  | write (id : SessionId)
  | failed (id : SessionId)
  | expire
  | stop
  | outside (outside : Outside)
  | clock (now : Nat)

/-- Whether a session begins. -/
def LoopEvent.isJoin : LoopEvent → Bool
  | .join _ _ => true
  | _ => false

namespace EventLoop

/-- The loop after one event. -/
def perform (loop : EventLoop) : LoopEvent → EventLoop
  | .join peer endpoint => loop.addSession peer endpoint
  | .read id => loop.readReady id
  | .write id => loop.writeReady id
  | .failed id => loop.errorReady id
  | .expire => loop.expireDrains
  | .stop => loop.beginShutdown
  | .outside outside => loop.happen outside
  | .clock now => { loop with now }

/-- What a session answers to a message for everyone. -/
def answerTo (loop : EventLoop) (origin : SessionId) (payload : Bytes) (id : SessionId) :
    List (Except EnqueueError Nat) :=
  match loop.slot? id with
  | none => []
  | some slot => (slot.receive loop.plan.codec origin payload).1

/-- What a session answers while several messages are relayed. -/
def answersTo (loop : EventLoop) (origin : SessionId) (payloads : List Bytes) (id : SessionId) :
    List (Except EnqueueError Nat) :=
  match payloads with
  | [] => []
  | payload :: later =>
    loop.answerTo origin payload id ++ (loop.route origin payload).answersTo origin later id

/-- What a session that is there already answers during one event. -/
def answersIn (loop : EventLoop) (event : LoopEvent) (id : SessionId) :
    List (Except EnqueueError Nat) :=
  match event with
  | .read origin =>
    match loop.slot? origin with
    | none => []
    | some slot =>
      let (outcome, session) := slot.session.readReady
      (loop.put session).answersTo origin outcome.frames id
  | _ => []

end EventLoop

/-- What is known of a session from its being there. -/
structure Stay where
  /-- How many messages had been relayed when it came. -/
  joined : Nat
  /-- What had been written on its connection when it came. -/
  before : Bytes
  /-- What it has answered to the messages that it was given, the greeting included. -/
  answers : List (Except EnqueueError Nat)

/-- A loop with what is known of its sessions, and the sessions that are gone. -/
structure Watch where
  loop : EventLoop
  stays : SessionId → Stay
  gone : List (Session × Stay)

namespace Watch

/-- Nobody has come yet. -/
def new (plan : SessionPlan) (sockets : List SocketAddress) : Watch :=
  ⟨.new plan sockets, fun _ => ⟨0, [], []⟩, []⟩

/-- Every session that has ever come, as it is or was at last. -/
def members (w : Watch) : List (Session × Stay) :=
  w.loop.slots.map (fun slot => (slot.session, w.stays slot.id)) ++ w.gone

/-- Goes on to where the loop has come, with what its sessions have answered on the way. -/
def goTo (w : Watch) (loop : EventLoop) (answers : SessionId → List (Except EnqueueError Nat)) :
    Watch :=
  let stays id := { w.stays id with answers := (w.stays id).answers ++ answers id }
  { loop, stays
    gone := w.gone ++ (loop.released.drop w.loop.released.length).map fun session =>
      (session, stays session.id) }

/-- What is known of a session when it has come and was greeted. -/
def welcome (w : Watch) (peer : String) (endpoint : Endpoint) : Stay where
  joined := w.loop.relayed.length
  before := endpoint.written
  answers :=
    let session :=
      Session.new w.loop.ids.take.1 peer endpoint w.loop.plan.codec w.loop.plan.limits
    w.loop.plan.greeting.toList.map fun greeting => (session.enqueue greeting).1

/-- Goes on to where a session has come. Identities are used again in the end, and a session that
still has the one of the new session is gone. -/
def join (w : Watch) (peer : String) (endpoint : Endpoint) : Watch :=
  let id := w.loop.ids.take.1
  { loop := w.loop.perform (.join peer endpoint)
    stays := fun other => if other = id then w.welcome peer endpoint else w.stays other
    gone := w.gone ++ (w.loop.slots.filter (·.id = id)).map fun slot =>
      (slot.session, w.stays slot.id) }

/-- Goes along with one event. -/
def step (w : Watch) (event : LoopEvent) : Watch :=
  match event with
  | .join peer endpoint => w.join peer endpoint
  | event => w.goTo (w.loop.perform event) (w.loop.answersIn event)

/-- Goes along with events one after another. -/
def run (w : Watch) (events : List LoopEvent) : Watch := events.foldl step w

/-- The loop that is watched is the loop that runs by itself. -/
theorem loop_run (w : Watch) (events : List LoopEvent) :
    (w.run events).loop = events.foldl EventLoop.perform w.loop := by
  induction events generalizing w with
  | nil => rfl
  | cons event events ih =>
    have hstep : (w.step event).loop = w.loop.perform event := by cases event <;> rfl
    rw [List.foldl_cons, ← hstep]
    exact ih (w.step event)

end Watch

end ChatRelay
