import ChatRelay.Relay.Basic

/-!
# Rooms

A room is a list of receivers of both kinds: sessions, and connections with a mailbox. Receivers
join and leave, messages are relayed to those who are there, and a single receiver is closed or
drained. Identities may repeat; a step that names one goes to every receiver that has it.
-/

namespace ChatRelay

/-- A receiver in a room. -/
abbrev Member := Session ⊕ Subscriber

/-- What a receiver gave away when it was drained. -/
inductive DrainReport
  /-- A session sent these bytes. -/
  | wrote (outcome : WriteOutcome) (bytes : Bytes)
  /-- A mailbox was received from, as often as asked. -/
  | received (found : List Received)

namespace Member

/-- The bytes that wait for a receiver. -/
def queued : Member → Nat
  | .inl session => session.outbound.queued
  | .inr subscriber => subscriber.box.queue.queued

/-- Ends what a receiver takes: a session begins to drain, for no time at all, and a mailbox keeps
what it has. -/
def close : Member → Member
  | .inl session => .inl (session.beginClose 0 0)
  | .inr subscriber => .inr { subscriber with box := subscriber.box.close }

/-- Receives `n` times from a mailbox. -/
def receiveMany (box : Mailbox) : Nat → List Received × Mailbox
  | 0 => ([], box)
  | n + 1 =>
    let (found, box) := box.receive
    let (later, box) := receiveMany box n
    (found :: later, box)

/-- Lets a receiver give away what it holds: the endpoint of a session accepts writes of these
sizes, and a mailbox is received from `times` times. -/
def drain (sizes : List Nat) (times : Nat) : Member → DrainReport × Member
  | .inl session =>
    let endpoint := session.endpoint
    let (outcome, after) := Session.writeReady
      { session with
        endpoint :=
          { endpoint with acceptances := endpoint.acceptances ++ sizes.map Acceptance.upTo } }
    (.wrote outcome (after.endpoint.written.drop endpoint.written.length), .inl after)
  | .inr subscriber =>
    let (found, box) := receiveMany subscriber.box times
    (.received found, .inr { subscriber with box })

end Member

/-- One thing that happens in a room. -/
inductive RoomEvent
  | relay (origin : SessionId) (frame : Bytes)
  | join (member : Member)
  | leave (id : SessionId)
  | close (id : SessionId)
  | drain (id : SessionId) (sizes : List Nat) (times : Nat)

/-- What an event in a room answers. -/
inductive RoomAnswer
  | relayed (tally : Tally)
  | drained (reports : List DrainReport)
  | done

namespace Room

/-- Drains every receiver with an identity. -/
def drain (id : SessionId) (sizes : List Nat) (times : Nat) :
    List Member → List DrainReport × List Member
  | [] => ([], [])
  | member :: rest =>
    let (reports, others) := drain id sizes times rest
    if Outbox.id member = id then
      let (report, member) := member.drain sizes times
      (report :: reports, member :: others)
    else (reports, member :: others)

/-- Carries out one event. -/
def step (members : List Member) : RoomEvent → RoomAnswer × List Member
  | .relay origin frame =>
    let (tally, members) := relay origin frame members
    (.relayed tally, members)
  | .join member => (.done, members ++ [member])
  | .leave id => (.done, members.filter (Outbox.id · ≠ id))
  | .close id =>
    (.done, members.map fun member =>
      if Outbox.id member = id then Member.close member else member)
  | .drain id sizes times =>
    let (reports, members) := drain id sizes times members
    (.drained reports, members)

end Room

end ChatRelay
