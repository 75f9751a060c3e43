import ChatRelay.Frame.Reader
import ChatRelay.Mailbox.Basic
import ChatRelay.Session.CloseReason
import ChatRelay.Session.Id

/-!
# Tasks of connections

Where every connection has a task of its own, the task pulls frames from the connection, and a
writer beside it sends what is in the mailbox, one message after another. A message that the writer
has begun is sent to its end even if the mailbox is aborted meanwhile.

A task ends when its stream does, when its writer stops, or when the server does. It then gives the
writer time until a deadline to stop, half-closes the connection, and drains it until the same
deadline, unless the peer is gone anyway.
-/

namespace ChatRelay

/-- What the writer of a connection is doing. -/
inductive Writer
  /-- It waits for a message. -/
  | idle
  /-- This is left of the message that it sends. -/
  | sending (rest : Bytes)
  /-- Its mailbox has ended, or the connection has failed. -/
  | stopped (failure : Option CloseReason)
  deriving DecidableEq, Repr, Inhabited

/-- Where a task is in its life. -/
inductive TaskPhase
  | serving
  /-- It waits for the writer to stop. -/
  | finishing (reason : CloseReason) (deadline : Nat)
  /-- Half-closed; what arrives is thrown away. -/
  | draining (deadline : Nat)
  | released
  deriving DecidableEq, Repr, Inhabited

/-- One connection with all that belongs to it except its mailbox. -/
structure Task where
  id : SessionId
  /-- The address of the other side. -/
  peer : String
  endpoint : Endpoint
  reader : FrameReader
  writer : Writer
  phase : TaskPhase
  deriving DecidableEq, Repr, Inhabited

/-- What a task finds when it pulls from its connection. -/
inductive Found
  | message (payload : Bytes)
  /-- The task has to end. -/
  | ending (reason : CloseReason)
  /-- Nothing is there yet. -/
  | nothing
  deriving DecidableEq, Repr, Inhabited

namespace Task

/-- The task of a new connection. -/
def new (id : SessionId) (peer : String) (endpoint : Endpoint) (codec : Codec) : Task :=
  ⟨id, peer, endpoint, .new codec, .idle, .serving⟩

/-! ## Reading -/

/-- Pulls the next message from the connection. A stream that ends, or that breaks its framing, ends
the task, and so does a socket that fails. -/
def pull (task : Task) : Found × Task :=
  let (pulled, reader, endpoint) := task.reader.pull task.endpoint
  let task := { task with reader, endpoint }
  match pulled with
  | .frame payload => (.message payload, task)
  | .failed (.io fault) => (.ending (.ofFault fault), task)
  | .failed error => (.ending (.protocol error), task)
  | .ended => (.ending .peerClosed, task)
  | .nothing => (.nothing, task)

/-! ## Writing -/

/-- One step of the writer, unless it has to wait. -/
def writeStep (box : Mailbox) (task : Task) : Option (Mailbox × Task) :=
  match task.writer with
  | .stopped _ => none
  | .idle =>
    match box.receive with
    | (.message message, box) => some (box, { task with writer := .sending message })
    | (.ended, box) => some (box, { task with writer := .stopped none })
    | (.nothing, _) => none
  | .sending rest =>
    match task.endpoint.write rest with
    | (.accepted n, endpoint) =>
      if n = 0 then
        some (box,
          { task with endpoint, writer := .stopped (some (.io ⟨.writeZero, "write zero"⟩)) })
      else if rest.length ≤ n then some (box, { task with endpoint, writer := .idle })
      else some (box, { task with endpoint, writer := .sending (rest.drop n) })
    | (.fault fault, endpoint) =>
      if fault.kind = .wouldBlock then
        if endpoint = task.endpoint then none else some (box, { task with endpoint })
      else some (box, { task with endpoint, writer := .stopped (some (.ofFault fault)) })

/-- At most `fuel` steps of the writer. -/
def writeSteps (box : Mailbox) (task : Task) : (fuel : Nat) → Mailbox × Task
  | 0 => (box, task)
  | fuel + 1 =>
    match writeStep box task with
    | some (box, task) => writeSteps box task fuel
    | none => (box, task)

/-- Writes until the writer has to wait. Every message takes a step to receive it, a step for each
write that is met, and one to end it. -/
def write (box : Mailbox) (task : Task) : Mailbox × Task :=
  writeSteps box task (2 * box.queue.items.length + task.endpoint.acceptances.length + 2)

/-! ## Ending -/

/-- Begins to end the task. -/
def finish (task : Task) (reason : CloseReason) (deadline : Nat) : Task :=
  { task with phase := .finishing reason deadline }

/-- Whether nothing more can come from the peer. -/
def peerGone : CloseReason → Bool
  | .peerClosed | .peerReset | .io _ => true
  | .protocol _ | .overflow | .shutdown => false

/-- Half-closes the connection, and goes on to drain it if its peer may still send. -/
def halfClose (task : Task) (reason : CloseReason) (deadline : Nat) : Task :=
  { task with
    endpoint := task.endpoint.halfClose.2
    phase := if peerGone reason then .released else .draining deadline }

/-- Half-closes the connection once the writer has stopped or its time is over. -/
def endWriting (now : Nat) (task : Task) : Task :=
  match task.phase, task.writer with
  | .finishing reason deadline, .stopped _ => task.halfClose reason deadline
  | .finishing reason deadline, _ =>
    if deadline ≤ now then task.halfClose reason deadline else task
  | _, _ => task

/-- Drains the connection until its stream or the time for it is over. -/
def drain (now : Nat) (task : Task) : Task :=
  match task.phase with
  | .draining deadline =>
    let (ended, endpoint) := task.endpoint.discard
    let phase := if ended || deadline ≤ now then .released else task.phase
    { task with endpoint, phase }
  | _ => task

end Task

end ChatRelay
