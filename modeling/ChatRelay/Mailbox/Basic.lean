import ChatRelay.Queue.Basic

/-!
# Mailboxes

A `Mailbox` is a send queue between any number of senders and one receiver. Closing it ends the
taking of messages, and what it holds can still be received; aborting it throws that away as well.
-/

namespace ChatRelay

/-- A send queue that can be closed. -/
structure Mailbox where
  queue : SendQueue
  closed : Bool
  deriving DecidableEq, Repr, Inhabited

/-- What a receiver finds in a mailbox. -/
inductive Received
  | message (bytes : Bytes)
  /-- Nothing is there, and nothing will be. -/
  | ended
  /-- Nothing is there yet. -/
  | nothing
  deriving DecidableEq, Repr, Inhabited

namespace Mailbox

/-- An open mailbox that holds nothing. -/
def new (limits : QueueLimits) : Mailbox := ⟨SendQueue.new limits, false⟩

/-- Takes a message if the mailbox is open and its queue takes it. -/
def offer (box : Mailbox) (message : Bytes) : Except EnqueueError Nat × Mailbox :=
  if box.closed then (.error .closed, box)
  else
    let (answer, queue) := box.queue.push message
    (answer, { box with queue })

/-- Hands out the oldest message. -/
def receive (box : Mailbox) : Received × Mailbox :=
  match box.queue.pop with
  | (some bytes, queue) => (.message bytes, { box with queue })
  | (none, _) => (if box.closed then .ended else .nothing, box)

/-- Takes no more messages. -/
def close (box : Mailbox) : Mailbox := { box with closed := true }

/-- Takes no more messages, and throws away those it holds. -/
def abort (box : Mailbox) : Mailbox := ⟨box.queue.clear, true⟩

end Mailbox

end ChatRelay
