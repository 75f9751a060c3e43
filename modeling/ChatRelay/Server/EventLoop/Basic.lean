import ChatRelay.Relay.Basic
import ChatRelay.Server.Plan

/-!
# Event loops

An `EventLoop` owns the listeners and the sessions of a server. It is told what is ready by a
poller, which knows every source by a token: the waker by zero, the listeners by the numbers from
one on, and every session by its number. The poller speaks up once for each change, so whatever is
ready has to be used up, and write events have to be asked for exactly while something is to be
sent: a `Slot` holds a session with what the poller is asked for.

What has been asked of the poller, what has been relayed, and the sessions that are gone are kept
as a history on which no decision rests.
-/

namespace ChatRelay

/-- What accepting a connection meets. -/
inductive Incoming
  | connection (peer : String) (endpoint : Endpoint)
  | fault (fault : Fault)
  deriving DecidableEq, Repr, Inhabited

/-- A socket that is listened on. -/
structure Listener where
  token : Nat
  socket : SocketAddress
  /-- What the next accepts will meet. -/
  backlog : List Incoming
  /-- The fault that ended the last pass over the backlog. -/
  lastFault : Option Fault
  deriving DecidableEq, Repr, Inhabited

/-- A session with what the poller is asked for. -/
structure Slot where
  session : Session
  /-- The poller is asked for write events. -/
  writable : Bool
  deriving DecidableEq, Repr, Inhabited

namespace Slot

/-- The identity of the session. -/
def id (slot : Slot) : SessionId := slot.session.id

/-- Queues a framed message for the session. -/
def offer (slot : Slot) (frame : Bytes) : Except EnqueueError Nat × Slot :=
  let (answer, session) := slot.session.enqueue frame
  (answer, { slot with session })

end Slot

instance : Outbox Slot where
  id := Slot.id
  offer := Slot.offer

/-- Something asked of the poller; read events are always asked for. -/
inductive PollerCall
  | register (token : Nat) (writable : Bool)
  | reregister (token : Nat) (writable : Bool)
  | deregister (token : Nat)
  deriving DecidableEq, Repr, Inhabited

/-- The state of a server that asks what is ready. -/
structure EventLoop where
  plan : SessionPlan
  /-- The time that its clock shows, in nanoseconds. -/
  now : Nat
  listeners : List Listener
  /-- The sessions in the order in which they came. -/
  slots : List Slot
  ids : SessionIds
  /-- The listeners whose backlog has to be looked at again. -/
  retries : List Nat
  /-- Everything asked of the poller. -/
  calls : List PollerCall
  /-- Every message that was to be relayed, with the session it came from. -/
  relayed : List (SessionId × Bytes)
  /-- The sessions that are gone, in the order in which they went. -/
  released : List Session
  deriving DecidableEq, Repr, Inhabited

namespace EventLoop

/-- The token of the waker. -/
def wakeToken : Nat := 0

/-- The token of the first listener; the others follow it. -/
def firstListenerToken : Nat := 1

/-- A loop that listens on some sockets and has no sessions. -/
def new (plan : SessionPlan) (sockets : List SocketAddress) : EventLoop where
  plan := plan
  now := 0
  listeners := sockets.mapIdx fun i socket => ⟨firstListenerToken + i, socket, [], none⟩
  slots := []
  ids := .new
  retries := []
  calls :=
    .register wakeToken false ::
      sockets.mapIdx fun i _ => .register (firstListenerToken + i) false
  relayed := []
  released := []

/-! ## Slots -/

/-- The slot of a session, if the session is there. -/
def slot? (loop : EventLoop) (id : SessionId) : Option Slot := loop.slots.find? (·.id = id)

/-- The loop with another state of one session. -/
def put (loop : EventLoop) (session : Session) : EventLoop :=
  { loop with
    slots := loop.slots.map fun slot =>
      if slot.id = session.id then { slot with session } else slot }

/-- The loop after one more call on the poller. -/
def call (loop : EventLoop) (call : PollerCall) : EventLoop :=
  { loop with calls := loop.calls ++ [call] }

/-- Asks the poller for write events exactly if the session has something to send. -/
def updateInterest (loop : EventLoop) (id : SessionId) : EventLoop :=
  match loop.slot? id with
  | none => loop
  | some slot =>
    let wants := slot.session.wantsWrite
    if wants = slot.writable then loop
    else
      let loop : EventLoop := { loop with
        slots := loop.slots.map fun slot =>
          if slot.id = id then { slot with writable := wants } else slot }
      loop.call (.reregister id.token wants)

/-! ## Beginning and ending sessions -/

/-- Begins a session on an accepted connection. The greeting is the first message in its queue. -/
def addSession (loop : EventLoop) (peer : String) (endpoint : Endpoint) : EventLoop :=
  let (id, ids) := loop.ids.take
  let session := Session.new id peer endpoint loop.plan.codec loop.plan.limits
  let session :=
    match loop.plan.greeting with
    | some greeting => (session.enqueue greeting).2
    | none => session
  let loop : EventLoop := { loop with
    ids := ids
    slots := loop.slots.filter (·.id ≠ id) ++ [⟨session, session.wantsWrite⟩] }
  loop.call (.register id.token session.wantsWrite)

/-- Lets go of a session, and half-closes its connection, even if that has happened before. -/
def release (loop : EventLoop) (id : SessionId) : EventLoop :=
  match loop.slot? id with
  | none => loop
  | some slot =>
    let session := { slot.session with endpoint := slot.session.endpoint.halfClose.2 }
    let loop : EventLoop := { loop with
      slots := loop.slots.filter (·.id ≠ id)
      released := loop.released ++ [session] }
    loop.call (.deregister id.token)

/-- Ends a session. One whose peer is gone is let go of. Any other is half-closed and drained, for
as long as the plan says; it is let go of at once if the end of its stream is there already,
because no event would tell of it any more. -/
def closeSession (loop : EventLoop) (id : SessionId) (reason : CloseReason) : EventLoop :=
  match reason with
  | .peerClosed | .peerReset | .io _ => loop.release id
  | .protocol _ | .overflow | .shutdown =>
    match loop.slot? id with
    | none => loop
    | some slot =>
      let (outcome, session) := (slot.session.beginClose loop.now loop.plan.drain).readReady
      let loop := loop.put session
      match outcome.closed with
      | some _ => loop.release id
      | none => loop.updateInterest id

/-- Lets go of every session. -/
def releaseAll (loop : EventLoop) : EventLoop :=
  (loop.slots.map Slot.id).foldl release loop

end EventLoop

end ChatRelay
