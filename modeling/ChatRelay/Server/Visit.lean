import ChatRelay.Network.Arrived
import ChatRelay.Server.Live

/-!
# Visits

A visit is a scripted run of a whole server together with all of its clients. Each step is over
before the next one begins, and the server has dealt with everything that reached it.

A client that waits for bytes gets what the server has written to it and it has not had yet; what
it waits for may never come, because the server has ended its side or because there is nothing
more. A visit cannot go on when a client cannot connect or is not known.
-/

namespace ChatRelay

/-- One step of a visit. -/
inductive VisitStep
  | connect (name : String) (listener : Nat)
  | send (name : String) (bytes : Bytes)
  /-- Wait for some bytes. -/
  | receive (name : String) (n : Nat)
  /-- Wait for the end of what the server sends. -/
  | receiveAll (name : String)
  | halfClose (name : String)
  | close (name : String)
  | reset (name : String)
  | sleep (millis : Nat)
  /-- Has the server let go of the connection? -/
  | released (name : String)
  deriving Repr

/-- What a step of a visit answers. -/
inductive VisitAnswer
  | done
  | sent (arrived : Bool)
  | received (arrived : Arrived)
  | released (yes : Bool)
  deriving DecidableEq, Repr

/-- A client of the server. -/
structure Visitor where
  name : String
  id : SessionId
  /-- How many of the bytes written to it have been had. -/
  had : Nat
  /-- It may still send. -/
  sends : Bool
  deriving DecidableEq, Repr

/-- A server with its clients. -/
structure Visit where
  host : Host
  sockets : List SocketAddress
  server : LiveServer
  visitors : List Visitor

/-- What is seen once the server has stopped. -/
structure VisitEnd where
  /-- What each client got after the last step. -/
  rest : List (String × Bytes)
  result : Except ServiceError Unit

namespace Visit

/-- Starts a server that nobody has visited. -/
def start (host : Host) (server : Server) : Visit := ⟨host, server.sockets, .start server, []⟩

/-- The client of a name. -/
def visitor? (visit : Visit) (name : String) : Option Visitor :=
  visit.visitors.find? (·.name = name)

/-- The visit with another state of one client. -/
def put (visit : Visit) (visitor : Visitor) : Visit :=
  { visit with
    visitors := visit.visitors.map fun v => if v.name = visitor.name then visitor else v }

/-- The visit without a client. -/
def forget (visit : Visit) (visitor : Visitor) : Visit :=
  { visit with visitors := visit.visitors.filter (·.name ≠ visitor.name) }

/-- The network does something to the connection of a client. -/
def happen (visit : Visit) (visitor : Visitor) (change : Endpoint.Change) : Visit :=
  { visit with server := visit.server.happen visitor.id change }

/-- What the server has written to a client, whether its stream has ended, and whether the server
still has the connection. -/
def seen (visit : Visit) (visitor : Visitor) : Bytes × Bool × Bool :=
  match visit.server.connection? visitor.id with
  | some (endpoint, held) => (endpoint.written, endpoint.halfCloses ≠ 0, held)
  | none => ([], true, false)

/-- A client connects to one of the sockets. -/
def connect (visit : Visit) (name : String) (listener : Nat) : Option Visit := do
  let socket ← visit.sockets[listener]?
  guard (visit.host.canConnect socket.address)
  let (id, server) := visit.server.connect listener name
  let others := visit.visitors.filter (·.name ≠ name)
  return { visit with server, visitors := others ++ [⟨name, id, 0, true⟩] }

/-- Carries out one step. -/
def step (visit : Visit) : VisitStep → Option (VisitAnswer × Visit)
  | .connect name listener => do
    let visit ← visit.connect name listener
    return (.done, visit)
  | .send name bytes => do
    let visitor ← visit.visitor? name
    let (_, _, held) := visit.seen visitor
    if visitor.sends then
      -- The first bytes to a connection that is gone find that out.
      let visit := visit.put { visitor with sends := held }
      return (.sent true, visit.happen visitor (.arrive (.data bytes)))
    else return (.sent false, visit)
  | .receive name n => do
    let visitor ← visit.visitor? name
    let (written, ended, _) := visit.seen visitor
    let arrived := Arrived.take written visitor.had ended n
    return (.received arrived, visit.put { visitor with had := visitor.had + arrived.size })
  | .receiveAll name => do
    let visitor ← visit.visitor? name
    let (written, ended, _) := visit.seen visitor
    let arrived := Arrived.takeAll written visitor.had ended
    return (.received arrived, visit.put { visitor with had := visitor.had + arrived.size })
  | .halfClose name => do
    let visitor ← visit.visitor? name
    return (.done, (visit.put { visitor with sends := false }).happen visitor .finish)
  | .close name => do
    let visitor ← visit.visitor? name
    return (.done, (visit.happen visitor .finish).forget visitor)
  | .reset name => do
    let visitor ← visit.visitor? name
    let visit := visit.happen visitor (.hold Endpoint.resetByPeer)
    return (.done, (visit.happen visitor (.arrive (.fault Endpoint.resetByPeer))).forget visitor)
  | .sleep millis => some (.done, { visit with server := visit.server.wait (nanos millis) })
  | .released name => do
    let visitor ← visit.visitor? name
    let (_, _, held) := visit.seen visitor
    return (.released (!held), visit)

/-- Carries out steps, and gives their answers in order. -/
def run (visit : Visit) : List VisitStep → Option (List VisitAnswer × Visit)
  | [] => some ([], visit)
  | first :: rest => do
    let (answer, visit) ← visit.step first
    let (answers, visit) ← visit.run rest
    return (answer :: answers, visit)

/-- Stops the server. Its clients take what comes until the end, and then close, or `stay` until
the server has given them up. -/
def finish (visit : Visit) (stay : Bool) : VisitEnd :=
  let visit := { visit with server := visit.server.stop }
  let rest := visit.visitors.map fun v => (v.name, (visit.seen v).1.drop v.had)
  let visit := if stay then visit else visit.visitors.foldl (·.happen · .finish) visit
  let server := visit.server.wait visit.server.drain
  ⟨rest, server.result?.getD (.ok ())⟩

end Visit

end ChatRelay
