import ChatRelay.Mailbox.Basic
import ChatRelay.Session.Basic

/-!
# Relaying

A message from one connection is offered to every other one, in order. What an offer leads to
depends on the receiver alone: `relay` never waits, and never lets one receiver change what another
one gets. A `Tally` says who took the message, who refused it, and who is to be given up; a
receiver that is closed is in none of the three.
-/

namespace ChatRelay

/-- Something that takes framed messages for one connection without waiting. -/
class Outbox (σ : Type) where
  /-- The connection behind it. -/
  id : σ → SessionId
  /-- Takes a message, or meets the overflow policy. -/
  offer : σ → Bytes → Except EnqueueError Nat × σ

instance : Outbox Session where
  id := Session.id
  offer := Session.enqueue

/-- A connection whose messages wait in a mailbox. -/
structure Subscriber where
  id : SessionId
  box : Mailbox
  deriving DecidableEq, Repr, Inhabited

namespace Subscriber

/-- Offers a message to the mailbox. -/
def offer (s : Subscriber) (message : Bytes) : Except EnqueueError Nat × Subscriber :=
  let (answer, box) := s.box.offer message
  (answer, { s with box })

end Subscriber

instance : Outbox Subscriber where
  id := Subscriber.id
  offer := Subscriber.offer

instance {α β : Type} [Outbox α] [Outbox β] : Outbox (α ⊕ β) where
  id
    | .inl a => Outbox.id a
    | .inr b => Outbox.id b
  offer
    | .inl a, message => let (answer, a) := Outbox.offer a message; (answer, .inl a)
    | .inr b, message => let (answer, b) := Outbox.offer b message; (answer, .inr b)

/-- What came of relaying one message; each list is in the order of the receivers. -/
structure Tally where
  /-- Those who took the message. -/
  queued : List SessionId
  /-- Those who refused it and stay. -/
  dropped : List SessionId
  /-- Those who are to be given up. -/
  disconnect : List SessionId
  deriving DecidableEq, Repr, Inhabited

namespace Tally

/-- No receiver has been asked. -/
def empty : Tally := ⟨[], [], []⟩

/-- The tally with the answer of one more receiver, in front of the others. -/
def note (id : SessionId) (answer : Except EnqueueError Nat) (tally : Tally) : Tally :=
  match answer with
  | .ok _ => { tally with queued := id :: tally.queued }
  | .error .overflow => { tally with disconnect := id :: tally.disconnect }
  | .error .closed => tally
  | .error _ => { tally with dropped := id :: tally.dropped }

end Tally

/-- Offers a framed message to every receiver but those of the connection it came from. -/
def relay {σ : Type} [Outbox σ] (origin : SessionId) (frame : Bytes) : List σ → Tally × List σ
  | [] => (.empty, [])
  | receiver :: rest =>
    let (tally, others) := relay origin frame rest
    if Outbox.id receiver = origin then (tally, receiver :: others)
    else
      let (answer, receiver') := Outbox.offer receiver frame
      (tally.note (Outbox.id receiver) answer, receiver' :: others)

end ChatRelay
