import ChatRelay.Bytes
import ChatRelay.Choice

/-!
# Send queues

A `SendQueue` holds the messages that wait for one receiver, and counts their bytes. A message that
would take it above its high-water mark, or above its message cap, meets the overflow policy:

* `blockProducer` refuses it and everything after it until the queue has drained to the low-water
  mark;
* `dropNewest` refuses it;
* `dropOldest` evicts from the front until it fits, but never a message that is partly sent;
* `disconnect` refuses it and asks that the receiver be given up.

A message longer than the high-water mark is never taken, and an empty one is taken and forgotten.
-/

namespace ChatRelay

/-- What is done with a message that does not fit. -/
inductive OverflowPolicy
  | blockProducer
  | dropNewest
  | dropOldest
  | disconnect
  deriving DecidableEq, Repr, Inhabited

instance : Choice OverflowPolicy where
  all := [.blockProducer, .dropNewest, .dropOldest, .disconnect]
  name
    | .blockProducer => "block_producer"
    | .dropNewest => "drop_newest"
    | .dropOldest => "drop_oldest"
    | .disconnect => "disconnect_on_overflow"
  default := .dropOldest

/-- The bounds of one queue. -/
structure QueueLimits where
  /-- The most bytes that may wait. -/
  highWater : Nat
  /-- The bytes at which a producer that was refused may go on. -/
  lowWater : Nat
  /-- The most messages that may wait, if their number is bounded. -/
  maxMessages : Option Nat
  policy : OverflowPolicy
  deriving DecidableEq, Repr, Inhabited

namespace QueueLimits

/-- One mebibyte, half of it as the low-water mark, any number of messages. -/
def standard : QueueLimits := ⟨1024 * 1024, 512 * 1024, none, Choice.default⟩

/-- Whether the marks are in order and leave room for a message. -/
def sound (limits : QueueLimits) : Bool :=
  limits.highWater != 0 && limits.lowWater ≤ limits.highWater && limits.maxMessages != some 0

end QueueLimits

/-- Why a message was not taken. -/
inductive EnqueueError
  /-- The queue is full and keeps what it has. -/
  | dropped
  /-- The message could not fit even into an empty queue. -/
  | tooLarge (len max : Nat)
  /-- The producer has to wait until the queue has drained. -/
  | full
  /-- The queue is full, and its receiver is to be given up. -/
  | overflow
  /-- Nothing is taken any more. -/
  | closed
  deriving DecidableEq, Repr, Inhabited

/-- The text shown for a message that was not taken. -/
def EnqueueError.message : EnqueueError → String
  | .dropped => "queue full, message dropped"
  | .tooLarge len max => s!"message of {len} bytes exceeds the {max} byte high-water mark"
  | .full => "queue paused until it drains"
  | .overflow => "queue overflow"
  | .closed => "queue closed"

/-- The messages that wait for one receiver, oldest first. -/
structure SendQueue where
  items : List Bytes
  /-- The bytes of all items together. -/
  queued : Nat
  limits : QueueLimits
  /-- A producer has been refused and has to wait. -/
  paused : Bool
  /-- The head is what is left of a message that is partly sent. -/
  headStarted : Bool
  deriving DecidableEq, Repr, Inhabited

namespace SendQueue

/-- A queue that holds nothing. -/
def new (limits : QueueLimits) : SendQueue := ⟨[], 0, limits, false, false⟩

/-! ## Taking a message -/

/-- Whether a message of `len` bytes fits beside `count` messages of `queued` bytes. -/
def fits (limits : QueueLimits) (count queued len : Nat) : Bool :=
  queued + len ≤ limits.highWater && limits.maxMessages.all (count < ·)

/-- How many items at the front are safe from eviction. -/
def kept (q : SendQueue) : Nat := if q.headStarted then 1 else 0

/-- Whether a message would fit beside the items that are safe from eviction. -/
def fitsAfterEviction (q : SendQueue) (len : Nat) : Bool :=
  !q.headStarted ||
    ((q.items.headD []).length + len ≤ q.limits.highWater && q.limits.maxMessages.all (1 < ·))

/-- Drops items from the front of a list until a message fits: what is left of the list, the bytes
left in all, and how many were dropped. The queue holds `count` items with those of the list. -/
def evict (limits : QueueLimits) (len : Nat) : (count queued : Nat) → List Bytes →
    List Bytes × Nat × Nat
  | _, queued, [] => ([], queued, 0)
  | count, queued, old :: rest =>
    if fits limits count queued len then (old :: rest, queued, 0)
    else
      let (left, bytes, evicted) := evict limits len (count - 1) (queued - old.length) rest
      (left, bytes, evicted + 1)

/-- The queue with a message behind all others. -/
def append (q : SendQueue) (message : Bytes) : SendQueue :=
  { q with items := q.items ++ [message], queued := q.queued + message.length }

/-- Takes a message, or meets the overflow policy; the answer is how many messages were evicted. -/
def push (q : SendQueue) (message : Bytes) : Except EnqueueError Nat × SendQueue :=
  if message.length > q.limits.highWater then
    (.error (.tooLarge message.length q.limits.highWater), q)
  else if q.paused then (.error .full, q)
  else if message = [] then (.ok 0, q)
  else if fits q.limits q.items.length q.queued message.length then (.ok 0, q.append message)
  else
    match q.limits.policy with
    | .blockProducer => (.error .full, { q with paused := true })
    | .dropNewest => (.error .dropped, q)
    | .disconnect => (.error .overflow, q)
    | .dropOldest =>
      if q.fitsAfterEviction message.length then
        let (left, bytes, evicted) :=
          evict q.limits message.length q.items.length q.queued (q.items.drop q.kept)
        (.ok evicted,
          { q with items := q.items.take q.kept ++ left, queued := bytes }.append message)
      else (.error .dropped, q)

/-! ## Sending -/

/-- The next bytes to send. -/
def front? (q : SendQueue) : Option Bytes := q.items.head?

/-- Lets a waiting producer go on once the low-water mark is reached. -/
def resume (q : SendQueue) : SendQueue :=
  { q with paused := q.paused && q.limits.lowWater < q.queued }

/-- Up to `n` bytes of the head have been sent; the rest of it stays at the head. -/
def consume (q : SendQueue) (n : Nat) : SendQueue :=
  match q.items with
  | [] => q
  | head :: rest =>
    let sent := min n head.length
    if sent = head.length then
      { q with items := rest, queued := q.queued - sent, headStarted := false }.resume
    else
      { q with
        items := head.drop sent :: rest, queued := q.queued - sent,
        headStarted := q.headStarted || 0 < sent }.resume

/-- Takes the head off, whole or what is left of it. -/
def pop (q : SendQueue) : Option Bytes × SendQueue :=
  match q.items with
  | [] => (none, q)
  | head :: rest =>
    (some head,
      { q with items := rest, queued := q.queued - head.length, headStarted := false }.resume)

/-- Throws everything away, and lets a waiting producer go on. -/
def clear (q : SendQueue) : SendQueue :=
  { q with items := [], queued := 0, paused := false, headStarted := false }

end SendQueue

end ChatRelay
