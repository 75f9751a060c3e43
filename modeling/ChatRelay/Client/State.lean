import ChatRelay.Client.Basic
import ChatRelay.Client.Exit
import ChatRelay.Client.Sink
import ChatRelay.Frame.Reader
import ChatRelay.Mailbox.Basic

/-!
# Running clients

A running client has three parts that take steps in any order: the input, which frames lines and
puts them into the outbound mailbox; the network, which moves messages between the connection and
the two mailboxes; and the display, which shows what is in the inbound mailbox. They share the
mailboxes and the signal by which the first to end calls off the others, and nothing else.

`ClientRun` is the state of all three, with the lines still to be read, the connection, what is
shown, and the clock.
-/

namespace ChatRelay

/-- What the input is doing. -/
inductive InputState
  /-- It waits for a line. -/
  | reading
  /-- It waits until the outbound mailbox takes this frame. -/
  | sending (frame : Bytes)
  | finished
  deriving DecidableEq, Repr, Inhabited

/-- What the network is doing. -/
inductive NetworkState
  /-- It waits for something to send or to receive. -/
  | relaying
  /-- This is left of the frame that it sends. -/
  | sending (rest : Bytes)
  /-- It waits until the inbound mailbox takes this message. -/
  | delivering (payload : Bytes)
  /-- It sends what was queued before the end; this is left of the frame that it sends. -/
  | flushing (rest : Option Bytes) (deadline : Nat)
  /-- It waits for the end of the stream. -/
  | draining (deadline : Nat)
  | finished
  deriving DecidableEq, Repr, Inhabited

/-- What the display is doing. -/
inductive DisplayState
  /-- It waits for a message. -/
  | waiting
  /-- This is left of the line that it shows. -/
  | showing (rest : Bytes)
  /-- It has ended, by a fault if there is one. -/
  | finished (fault : Option Fault)
  deriving DecidableEq, Repr, Inhabited

/-- A running client. -/
structure ClientRun where
  /-- Frames what is typed. -/
  codec : Codec
  /-- How long flushing, draining and showing may go on at the end, in nanoseconds. -/
  drain : Nat
  /-- The time that its clock shows, in nanoseconds. -/
  now : Nat
  signal : ExitSignal
  /-- The lines that have been typed and not been read. -/
  lines : List String
  /-- Nothing will be typed any more. -/
  inputEnded : Bool
  input : InputState
  /-- From the input to the network. -/
  outbound : Mailbox
  /-- From the network to the display. -/
  inbound : Mailbox
  endpoint : Endpoint
  reader : FrameReader
  network : NetworkState
  sink : Sink
  display : DisplayState
  /-- When the display stops trying, once it has stalled after the others were called off. -/
  giveUpAt : Option Nat
  deriving DecidableEq, Repr, Inhabited

namespace ClientRun

/-- A client that has just connected. -/
def new (config : ClientConfig) (endpoint : Endpoint) (sink : Sink) : ClientRun where
  codec := config.codec
  drain := nanos config.drainMillis
  now := 0
  signal := .quiet
  lines := []
  inputEnded := false
  input := .reading
  outbound := .new config.outbound
  inbound := .new config.inbound
  endpoint := endpoint
  reader := .new config.codec
  network := .relaying
  sink := sink
  display := .waiting
  giveUpAt := none

/-- The state after a step that has to wait, if trying has changed anything: a mailbox may have
found out that it is full, and an endpoint may have used up an answer. -/
def moved? (before after : ClientRun) : Option ClientRun :=
  if after = before then none else some after

/-- How the client has ended, once all of its parts have. A display that broke makes the whole
client fail; a client that nobody gave a reason to end has lost its server. -/
def result? (run : ClientRun) : Option (Except ServiceError ClientExit) :=
  match run.input, run.network, run.display with
  | .finished, .finished, .finished (some fault) => some (.error (.io fault))
  | .finished, .finished, .finished none => some (.ok (run.signal.reason.getD .serverClosed))
  | _, _, _ => none

end ClientRun

end ChatRelay
