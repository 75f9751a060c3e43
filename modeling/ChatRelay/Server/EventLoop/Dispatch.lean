import ChatRelay.Server.EventLoop.Basic

/-!
# Dispatching what is ready

Every event of the poller says of one token that something is ready. For a listener that is a
connection to accept; for a session it is something to read, room to write, or an error. Events for
tokens that stand for nothing any more are passed over.

* Accepting goes on until the backlog is empty. A connection that broke while it waited is passed
  over; any other failure ends the pass, and the listener is looked at again on the next turn.
* Every frame that is read is relayed before anything is written. Receivers that overflow are
  ended.
* What is left to read at an error is not looked at.
-/

namespace ChatRelay

/-- What the poller says of one token. -/
structure PollEvent where
  token : Nat
  readable : Bool
  writable : Bool
  /-- The other side has stopped sending. -/
  readClosed : Bool
  failed : Bool
  deriving DecidableEq, Repr, Inhabited

/-- One thing to be done about an event. -/
inductive Readiness
  | accept (token : Nat)
  | read (id : SessionId)
  | write (id : SessionId)
  | failed (id : SessionId)
  deriving DecidableEq, Repr, Inhabited

namespace EventLoop

/-! ## Accepting -/

/-- Whether accepting goes on after a failure. -/
def passedOver (kind : FaultKind) : Bool :=
  kind = .interrupted || kind = .connectionAborted || kind = .connectionReset

/-- Accepts from a backlog: the loop afterwards, what is left of the backlog, and the fault that
ended the pass. -/
def acceptFrom (loop : EventLoop) : List Incoming → EventLoop × List Incoming × Fault
  | [] => (loop, [], Endpoint.wouldBlock)
  | .connection peer endpoint :: rest => acceptFrom (loop.addSession peer endpoint) rest
  | .fault fault :: rest =>
    if passedOver fault.kind then acceptFrom loop rest else (loop, rest, fault)

/-- Accepts what waits at a listener. -/
def acceptReady (loop : EventLoop) (token : Nat) : EventLoop :=
  match loop.listeners.find? (·.token = token) with
  | none => loop
  | some listener =>
    let (loop, backlog, fault) := loop.acceptFrom listener.backlog
    let loop : EventLoop := { loop with
      listeners := loop.listeners.map fun l =>
        if l.token = token then { l with backlog, lastFault := some fault } else l }
    if fault.kind = .wouldBlock ∨ token ∈ loop.retries then loop
    else { loop with retries := loop.retries ++ [token] }

/-- Looks again at the listeners at which accepting failed. -/
def retryAccepts (loop : EventLoop) : EventLoop :=
  loop.retries.foldl acceptReady { loop with retries := [] }

/-! ## Relaying -/

/-- Relays a message to every session but the one it came from, and ends those that overflow. -/
def route (origin : SessionId) (loop : EventLoop) (payload : Bytes) : EventLoop :=
  let loop : EventLoop := { loop with relayed := loop.relayed ++ [(origin, payload)] }
  match loop.plan.codec.encode payload with
  | .error _ => loop
  | .ok frame =>
    let (tally, slots) := relay origin frame loop.slots
    let loop := tally.queued.foldl updateInterest { loop with slots }
    tally.disconnect.foldl (closeSession · · .overflow) loop

/-! ## Sessions -/

/-- Reads what there is, relays it, and ends the session if it has to end. -/
def readReady (loop : EventLoop) (id : SessionId) : EventLoop :=
  match loop.slot? id with
  | none => loop
  | some slot =>
    let (outcome, session) := slot.session.readReady
    let loop := outcome.frames.foldl (route id) (loop.put session)
    match outcome.closed with
    | none => loop
    | some reason =>
      if slot.session.isDraining then loop.release id else loop.closeSession id reason

/-- Writes what there is room for. -/
def writeReady (loop : EventLoop) (id : SessionId) : EventLoop :=
  match loop.slot? id with
  | none => loop
  | some slot =>
    if slot.session.isDraining then loop
    else
      let (outcome, session) := slot.session.writeReady
      let loop := loop.put session
      match outcome with
      | .drained | .pending => loop.updateInterest id
      | .failed reason => loop.closeSession id reason

/-- Ends a session whose connection is in error; an error that cannot be named is a reset. -/
def errorReady (loop : EventLoop) (id : SessionId) : EventLoop :=
  match loop.slot? id with
  | none => loop
  | some slot =>
    let (held, endpoint) := slot.session.endpoint.takeError
    (loop.put { slot.session with endpoint }).closeSession id
      (match held with
        | some fault => .ofFault fault
        | none => .peerReset)

/-! ## Events -/

/-- Does one thing about an event. -/
def dispatch (loop : EventLoop) : Readiness → EventLoop
  | .accept token => loop.acceptReady token
  | .read id => loop.readReady id
  | .write id => loop.writeReady id
  | .failed id => loop.errorReady id

/-- What is to be done about an event. The end of a stream is found by reading, behind the frames
before it. -/
def readiness (loop : EventLoop) (event : PollEvent) : List Readiness :=
  let id := SessionId.ofToken event.token
  if event.token = wakeToken then []
  else if loop.listeners.any (·.token = event.token) then [.accept event.token]
  else if event.failed then [.failed id]
  else
    (if event.readable || event.readClosed then [.read id] else []) ++
      if event.writable then [.write id] else []

/-- Does what is to be done about an event. -/
def handle (loop : EventLoop) (event : PollEvent) : EventLoop :=
  (loop.readiness event).foldl dispatch loop

end EventLoop

end ChatRelay
