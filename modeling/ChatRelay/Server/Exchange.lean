import ChatRelay.Relay.Basic

/-!
# Exchanges

Where every connection has a task of its own, an `Exchange` is the one place that knows them all.
It obeys commands one after another: a connection joins with its mailbox, leaves, or has a message
to be relayed to all others. Messages are offered to those who are present. A receiver that
overflows is no longer present, and its mailbox is aborted; what such a connection still sends is
relayed all the same, until it leaves.
-/

namespace ChatRelay

/-- A mailbox that has joined an exchange. -/
structure Seat where
  subscriber : Subscriber
  /-- Messages are offered to it. -/
  present : Bool
  deriving DecidableEq, Repr, Inhabited

namespace Seat

/-- The connection that sits there. -/
def id (seat : Seat) : SessionId := seat.subscriber.id

/-- Offers a message to the mailbox, if it is present. -/
def offer (seat : Seat) (message : Bytes) : Except EnqueueError Nat × Seat :=
  if seat.present then
    let (answer, subscriber) := seat.subscriber.offer message
    (answer, { seat with subscriber })
  else (.error .closed, seat)

/-- The seat after something has been done to its mailbox. -/
def onBox (change : Mailbox → Mailbox) (seat : Seat) : Seat :=
  { seat with subscriber := { seat.subscriber with box := change seat.subscriber.box } }

/-- The seat of a receiver that is given up. -/
def giveUp (seat : Seat) : Seat := { seat.onBox Mailbox.abort with present := false }

end Seat

instance : Outbox Seat where
  id := Seat.id
  offer := Seat.offer

/-- The mailboxes of all connections. -/
structure Exchange where
  /-- Frames the messages that are relayed. -/
  codec : Codec
  /-- In the order in which they joined. -/
  seats : List Seat
  deriving DecidableEq, Repr, Inhabited

/-- What an exchange is told. -/
inductive ExchangeCommand
  | join (subscriber : Subscriber)
  | leave (id : SessionId)
  | relay (origin : SessionId) (payload : Bytes)
  deriving DecidableEq, Repr, Inhabited

namespace Exchange

/-- An exchange that nobody has joined. -/
def new (codec : Codec) : Exchange := ⟨codec, []⟩

/-- The seat of a connection. -/
def seat? (exchange : Exchange) (id : SessionId) : Option Seat :=
  exchange.seats.find? (·.id = id)

/-- The mailbox of a connection. -/
def box? (exchange : Exchange) (id : SessionId) : Option Mailbox :=
  (exchange.seat? id).map (·.subscriber.box)

/-- Changes the seats of some connections. -/
def onSeats (exchange : Exchange) (change : Seat → Seat) (ids : List SessionId) : Exchange :=
  { exchange with
    seats := exchange.seats.map fun seat => if seat.id ∈ ids then change seat else seat }

/-- Changes the mailbox of a connection. -/
def onBox (exchange : Exchange) (id : SessionId) (change : Mailbox → Mailbox) : Exchange :=
  exchange.onSeats (Seat.onBox change) [id]

/-- Offers a message to all who are present but the one it came from, and gives up those that
overflow. -/
def relayPayload (exchange : Exchange) (origin : SessionId) (payload : Bytes) : Tally × Exchange :=
  match exchange.codec.encode payload with
  | .error _ => (.empty, exchange)
  | .ok frame =>
    let (tally, seats) := relay origin frame exchange.seats
    (tally, { exchange with seats }.onSeats Seat.giveUp tally.disconnect)

/-- Obeys one command. -/
def step (exchange : Exchange) : ExchangeCommand → Exchange
  | .join subscriber =>
    { exchange with
      seats := exchange.seats.filter (·.id ≠ subscriber.id) ++ [⟨subscriber, true⟩] }
  | .leave id => exchange.onSeats ({ · with present := false }) [id]
  | .relay origin payload => (exchange.relayPayload origin payload).2

/-- Obeys commands one after another. -/
def run (exchange : Exchange) (commands : List ExchangeCommand) : Exchange :=
  commands.foldl step exchange

end Exchange

end ChatRelay
