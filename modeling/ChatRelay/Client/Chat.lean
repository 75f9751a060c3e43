import ChatRelay.Client.Step
import ChatRelay.Network.Arrived

/-!
# Chats

A chat is a scripted run of a whole client together with its user, its server and its display. Each
step is over before the next one begins, and the client has dealt with everything that reached it.
-/

namespace ChatRelay

/-- One step of a chat. -/
inductive ChatStep
  /-- The user types some lines at once. -/
  | type (lines : List String)
  | endInput
  | serverSend (bytes : Bytes)
  /-- The server waits for some bytes. -/
  | serverReceive (n : Nat)
  /-- The server waits for the end of what the client sends. -/
  | serverReceiveAll
  | serverHalfClose
  | serverClose
  | serverReset
  /-- The display takes this many bytes in all from now on. -/
  | allow (bytes : Option Nat)
  /-- Somebody waits until some more bytes are shown. -/
  | read (n : Nat)
  deriving Repr

/-- What a step of a chat answers. -/
inductive ChatAnswer
  | done
  | sent
  | received (arrived : Arrived)
  deriving DecidableEq, Repr

/-- A client with what its server and its user have had of it. -/
structure Chat where
  client : ClientRun
  /-- How many of the bytes that it sent the server has had. -/
  had : Nat
  /-- How many of the bytes that it showed have been read. -/
  seen : Nat
  /-- The server has closed the connection. -/
  serverClosed : Bool
  deriving DecidableEq, Repr

/-- What is seen once the client has ended. -/
structure ChatEnd where
  result : Except ServiceError ClientExit
  /-- What the server got after the last step, unless it had closed the connection. -/
  serverRest : Option Bytes
  /-- What was shown and had not been read. -/
  displayRest : Bytes

namespace Chat

/-- A client that has just connected; writes to the connection are accepted whole. -/
def start (config : ClientConfig) (sink : Sink) : Chat where
  client := .new config { Endpoint.idle with unlimited := true } sink
  had := 0
  seen := 0
  serverClosed := false

/-- Something happens, and the client goes on until it has to wait. -/
def happen (chat : Chat) (events : List ClientEvent) : Chat :=
  { chat with client := (chat.client.run events).settle }

/-- Whether the client will send no more. -/
def ended (chat : Chat) : Bool :=
  chat.client.endpoint.halfCloses ≠ 0 || chat.client.network = .finished

/-- Carries out one step. -/
def step (chat : Chat) : ChatStep → ChatAnswer × Chat
  | .type lines => (.done, chat.happen (lines.map .typed))
  | .endInput => (.done, chat.happen [.inputEnds])
  | .serverSend bytes => (.sent, chat.happen [.network (.arrive (.data bytes))])
  | .serverReceive n =>
    let arrived := Arrived.take chat.client.endpoint.written chat.had chat.ended n
    (.received arrived, { chat with had := chat.had + arrived.size })
  | .serverReceiveAll =>
    let arrived := Arrived.takeAll chat.client.endpoint.written chat.had chat.ended
    (.received arrived, { chat with had := chat.had + arrived.size })
  | .serverHalfClose => (.done, chat.happen [.network .finish])
  | .serverClose => (.done, { chat.happen [.network .finish] with serverClosed := true })
  | .serverReset =>
    (.done,
      { chat.happen [.network (.arrive (.fault Endpoint.resetByPeer))] with serverClosed := true })
  | .allow bytes => (.done, chat.happen [.allow bytes])
  | .read n =>
    let ended := match chat.client.display with
      | .finished _ => true
      | _ => false
    let arrived := Arrived.take chat.client.sink.shown chat.seen ended n
    (.received arrived, { chat with seen := chat.seen + arrived.size })

/-- Carries out steps, and gives their answers in order. -/
def run (chat : Chat) : List ChatStep → List ChatAnswer × Chat
  | [] => ([], chat)
  | first :: rest =>
    let (answer, chat) := chat.step first
    let (answers, chat) := chat.run rest
    (answer :: answers, chat)

/-- Lets time pass up to the next deadline, at most `fuel` times. -/
def wait (client : ClientRun) : (fuel : Nat) → ClientRun
  | 0 => client
  | fuel + 1 =>
    match client.deadlines with
    | [] => client
    | first :: rest => wait (client.step (.clock (rest.foldl min first))).settle fuel

/-- The most deadlines that one client can meet: flushing, draining, and giving up the display. -/
def mostDeadlines : Nat := 3

/-- Lets the client end: the server takes what comes until the end and closes, and then time passes
for as long as something is waited for. Nothing is answered if the client does not end. -/
def finish (chat : Chat) : Option ChatEnd := do
  let serverRest :=
    if chat.serverClosed then none else some (chat.client.endpoint.written.drop chat.had)
  let client := wait (chat.happen [.network .finish]).client mostDeadlines
  let result ← client.result?
  return ⟨result, serverRest, client.sink.shown.drop chat.seen⟩

end Chat

end ChatRelay
