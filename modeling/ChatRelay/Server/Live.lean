import ChatRelay.Server.EventLoop.Run
import ChatRelay.Server.TaskGroup

/-!
# Live servers

A `LiveServer` is a running server of either kind, seen from outside: connections come in, the
network does something to them, time passes, and the server is told to stop. After each of these
the server goes on by itself until it has nothing more to do. A loop is told of everything that
happens by the events that a poller would raise for it.
-/

namespace ChatRelay

namespace PollEvent

/-- Something has come in. -/
def input (token : Nat) : PollEvent := ⟨token, true, false, false, false⟩

/-- There is room to write. -/
def room (token : Nat) : PollEvent := ⟨token, false, true, false, false⟩

/-- The event that a change of a connection raises. -/
def ofChange (token : Nat) : Endpoint.Change → PollEvent
  | .arrive _ => input token
  | .finish => ⟨token, true, false, true, false⟩
  | .meet _ | .widen _ => room token
  | .hold _ => ⟨token, true, true, true, true⟩

end PollEvent

/-- A running server of either kind. -/
inductive LiveServer
  | looping (progress : EventLoop.Progress)
  | grouped (group : TaskGroup)

namespace LiveServer

/-- Starts a server. -/
def start (server : Server) : LiveServer :=
  match server.backend with
  | .readiness => .looping (.running (.new server.plan server.sockets) none)
  | .tasks => .grouped (.new server.plan)

/-! ## Turns of a loop -/

/-- One turn of a loop in which no time passes. -/
def turn (stopAsked : Bool) (outside : List Outside) (events : List PollEvent)
    (progress : EventLoop.Progress) : EventLoop.Progress :=
  let now := progress.loop.now
  EventLoop.run progress [⟨now, stopAsked, outside, now, .ok events⟩]

/-- One turn of a loop in which something happens, and one in which what is queued is written. -/
def turns (stopAsked : Bool) (outside : List Outside) (events : List PollEvent)
    (progress : EventLoop.Progress) : EventLoop.Progress :=
  let progress := progress |> turn stopAsked outside events
  let waiting := progress.loop.slots.filter (·.writable)
  progress |> turn stopAsked [] (waiting.map fun slot => .room slot.id.token)

/-- A loop whose clock shows a later time. -/
def delay (nanos : Nat) : EventLoop.Progress → EventLoop.Progress
  | .running loop deadline => .running { loop with now := loop.now + nanos } deadline
  | ended => ended

/-! ## What happens to a server -/

/-- Somebody connects to one of the sockets; writes to the connection are accepted whole. -/
def connect (server : LiveServer) (listener : Nat) (peer : String) : SessionId × LiveServer :=
  let endpoint := { Endpoint.idle with unlimited := true }
  match server with
  | .looping progress =>
    let token := EventLoop.firstListenerToken + listener
    (progress.loop.ids.take.1,
      .looping (progress |> turns false [.comes token (.connection peer endpoint)] [.input token]))
  | .grouped group => (group.ids.take.1, .grouped (group.addTask peer endpoint).settle)

/-- The network does something to a connection. -/
def happen (server : LiveServer) (id : SessionId) (change : Endpoint.Change) : LiveServer :=
  match server with
  | .looping progress =>
    .looping (progress |> turns false [.changes id change] [.ofChange id.token change])
  | .grouped group => .grouped (group.happen id change).settle

/-- Time passes. -/
def wait (server : LiveServer) (nanos : Nat) : LiveServer :=
  match server with
  | .looping progress => .looping (progress |> delay nanos |> turns false [] [])
  | .grouped group => .grouped { group with now := group.now + nanos }.settle

/-- The server is told to stop. -/
def stop (server : LiveServer) : LiveServer :=
  match server with
  | .looping progress => .looping (progress |> turns true [] [])
  | .grouped group => .grouped { group with stopping := true }.settle

/-! ## What is seen of a server -/

/-- The near side of a connection, and whether the server still has it. -/
def connection? (server : LiveServer) (id : SessionId) : Option (Endpoint × Bool) :=
  match server with
  | .looping progress =>
    match progress.loop.slot? id with
    | some slot => some (slot.session.endpoint, true)
    | none =>
      (progress.loop.released.find? (·.id = id)).map fun session => (session.endpoint, false)
  | .grouped group => (group.task? id).map fun task => (task.endpoint, task.phase ≠ .released)

/-- How running has ended, if it has. -/
def result? : LiveServer → Option (Except ServiceError Unit)
  | .looping (.ended _ result) => some result
  | .looping (.running ..) => none
  | .grouped group => if group.stopping && group.allReleased then some (.ok ()) else none

/-- How long a connection may go on draining. -/
def drain : LiveServer → Nat
  | .looping progress => progress.loop.plan.drain
  | .grouped group => group.plan.drain

end LiveServer

end ChatRelay
