import ChatRelay.Mailbox.Basic

/-!
# Waiting at a mailbox

A sender whose message is refused for now waits until a message has been received, and then tries
again; a receiver that finds nothing waits for a message. Closing or aborting the mailbox lets
everyone try again. Those who wait are tried in the order in which they came, and one who has to
wait again keeps its place. There is at most one receiver.

`WaitingRoom.step` carries out one operation and everything that can be finished because of it.
-/

namespace ChatRelay

/-- Someone who waits at a mailbox. -/
inductive Waiter (ι : Type)
  | sender (name : ι) (message : Bytes)
  | receiver (name : ι)
  deriving DecidableEq, Repr

/-- The name of someone who waits. -/
def Waiter.name {ι : Type} : Waiter ι → ι
  | .sender name _ => name
  | .receiver name => name

/-- How an operation that may wait came to an end. -/
inductive Finished
  | sent (answer : Except EnqueueError Nat)
  | received (message : Bytes)
  /-- The mailbox is closed and empty. -/
  | ended

/-- A mailbox and those who wait at it, in the order in which they came. -/
structure WaitingRoom (ι : Type) where
  box : Mailbox
  waiting : List (Waiter ι)

/-- What can be done at a mailbox. -/
inductive MailboxOp (ι : Type)
  /-- Offer a message without ever waiting. -/
  | offer (message : Bytes)
  /-- Send a message, and wait while the mailbox is full. -/
  | send (name : ι) (message : Bytes)
  /-- Receive a message, and wait for one. -/
  | receive (name : ι)
  /-- Stop waiting. -/
  | cancel (name : ι)
  | close
  | abort

/-- What an operation answers at once. -/
inductive MailboxAnswer
  | offered (answer : Except EnqueueError Nat)
  | cancelled (waited : Bool)
  | done

namespace WaitingRoom

variable {ι : Type}

/-- A new mailbox at which nobody waits. -/
def new (limits : QueueLimits) : WaitingRoom ι := ⟨Mailbox.new limits, []⟩

/-- Whether a sender has to wait with its message. -/
def mustWait : Except EnqueueError Nat → Bool
  | .error .full => true
  | _ => false

/-! ## Trying again -/

/-- Every sender among those who wait tries again, in order. -/
def retrySenders (box : Mailbox) : List (Waiter ι) → List (ι × Finished) × WaitingRoom ι
  | [] => ([], ⟨box, []⟩)
  | .receiver name :: rest =>
    let (finished, room) := retrySenders box rest
    (finished, { room with waiting := .receiver name :: room.waiting })
  | .sender name message :: rest =>
    let (answer, box) := box.offer message
    let (finished, room) := retrySenders box rest
    if mustWait answer then
      (finished, { room with waiting := .sender name message :: room.waiting })
    else ((name, .sent answer) :: finished, room)

/-- Lets the senders try again, after a message has been received. -/
def spaceFreed (room : WaitingRoom ι) : List (ι × Finished) × WaitingRoom ι :=
  retrySenders room.box room.waiting

/-- The first receiver among those who wait, and the others. -/
def takeReceiver : List (Waiter ι) → Option (ι × List (Waiter ι))
  | [] => none
  | .receiver name :: rest => some (name, rest)
  | waiter :: rest => (takeReceiver rest).map fun (name, others) => (name, waiter :: others)

/-- Lets the receiver try again, after a message has been taken or the mailbox has been closed. -/
def messageArrived (room : WaitingRoom ι) : List (ι × Finished) × WaitingRoom ι :=
  match takeReceiver room.waiting with
  | none => ([], room)
  | some (name, others) =>
    match room.box.receive with
    | (.message bytes, box) =>
      let (finished, room) := spaceFreed ⟨box, others⟩
      ((name, .received bytes) :: finished, room)
    | (.ended, box) => ([(name, .ended)], ⟨box, others⟩)
    | (.nothing, _) => ([], room)

/-- Lets the receiver and then the senders try again, after the mailbox has been closed. -/
def closedNow (room : WaitingRoom ι) : List (ι × Finished) × WaitingRoom ι :=
  let (first, room) := messageArrived room
  let (later, room) := spaceFreed room
  (first ++ later, room)

/-- The receiver tries again if a message has been taken. -/
def afterOffer (answer : Except EnqueueError Nat) (room : WaitingRoom ι) :
    List (ι × Finished) × WaitingRoom ι :=
  match answer with
  | .ok _ => messageArrived room
  | .error _ => ([], room)

/-! ## Operations -/

/-- Carries out one operation: its answer, what was finished because of it in order, and the
mailbox with those who still wait. -/
def step [DecidableEq ι] (room : WaitingRoom ι) (op : MailboxOp ι) :
    MailboxAnswer × List (ι × Finished) × WaitingRoom ι :=
  match op with
  | .offer message =>
    let (answer, box) := room.box.offer message
    (.offered answer, afterOffer answer { room with box })
  | .send name message =>
    let (answer, box) := room.box.offer message
    if mustWait answer then
      (.done, [], ⟨box, room.waiting ++ [.sender name message]⟩)
    else
      let (finished, room) := afterOffer answer { room with box }
      (.done, (name, .sent answer) :: finished, room)
  | .receive name =>
    match room.box.receive with
    | (.message bytes, box) =>
      let (finished, room) := spaceFreed { room with box }
      (.done, (name, .received bytes) :: finished, room)
    | (.ended, _) => (.done, [(name, .ended)], room)
    | (.nothing, _) => (.done, [], { room with waiting := room.waiting ++ [.receiver name] })
  | .cancel name =>
    (.cancelled (room.waiting.any (·.name == name)), [],
      { room with waiting := room.waiting.filter (·.name != name) })
  | .close => (.done, closedNow { room with box := room.box.close })
  | .abort => (.done, closedNow { room with box := room.box.abort })

end WaitingRoom

end ChatRelay
