import ChatRelay.Client.Display
import ChatRelay.Client.Input
import ChatRelay.Client.Network

/-!
# Steps of a client

A `ClientMove` is a step of one part of a client; a `ClientEvent` is a move, or something that
happens outside. Any sequence of events is a possible run: `ClientRun.step` carries out one, and
leaves everything as it is where a part has to wait. `ClientRun.settle` lets the parts go on by
themselves until all of them have to wait, the input first and the display last.
-/

namespace ChatRelay

/-- A step of one part of a client. -/
inductive ClientMove
  | input
  | inputCalledOff
  | networkCalledOff
  | receive
  | send
  | show
  | noticeStall
  | networkTimeOut
  | displayTimeOut
  deriving DecidableEq, Repr, Inhabited

/-- Something that happens in or to a client. -/
inductive ClientEvent
  | move (move : ClientMove)
  /-- A line is typed. -/
  | typed (line : String)
  /-- Nothing will be typed any more. -/
  | inputEnds
  /-- The network does something to the connection. -/
  | network (change : Endpoint.Change)
  /-- The display takes this many bytes in all from now on. -/
  | allow (bytes : Option Nat)
  /-- The clock goes on. -/
  | clock (now : Nat)
  deriving DecidableEq, Repr, Inhabited

namespace ClientMove

/-- The moves in the order in which they are tried. -/
def all : List ClientMove :=
  [.input, .inputCalledOff, .receive, .send, .networkCalledOff, .show, .noticeStall,
    .networkTimeOut, .displayTimeOut]

end ClientMove

namespace ClientRun

/-- Makes a move, unless the part has to wait. -/
def move? (run : ClientRun) : ClientMove → Option ClientRun
  | .input => Input.step run
  | .inputCalledOff => Input.callOff run
  | .networkCalledOff => Network.callOff run
  | .receive => Network.receive run
  | .send => Network.send run
  | .show => Display.step run
  | .noticeStall => Display.notice run
  | .networkTimeOut => Network.timeOut run
  | .displayTimeOut => Display.timeOut run

/-- The client after one event. -/
def step (run : ClientRun) : ClientEvent → ClientRun
  | .move move => (run.move? move).getD run
  | .typed line => { run with lines := run.lines ++ [line] }
  | .inputEnds => { run with inputEnded := true }
  | .network change => { run with endpoint := run.endpoint.undergo change }
  | .allow bytes => { run with sink := { run.sink with allowance := bytes } }
  | .clock now => { run with now := max run.now now }

/-- The client after some events. -/
def run (start : ClientRun) (events : List ClientEvent) : ClientRun := events.foldl step start

/-! ## Going on until everything waits -/

/-- Makes at most `fuel` moves, each the first that is possible. -/
def settleFor (run : ClientRun) : (fuel : Nat) → ClientRun
  | 0 => run
  | fuel + 1 =>
    match ClientMove.all.findSome? run.move? with
    | some next => settleFor next fuel
    | none => run

/-- A bound on the moves that are possible: every line, message and byte at hand is taken from one
place to the next a few times. -/
def workAtHand (run : ClientRun) : Nat :=
  let messages := run.outbound.queue.items.length + run.inbound.queue.items.length
  let incoming := Endpoint.unread run.endpoint.arrivals + run.reader.decoder.size
  8 * (run.lines.length + messages + incoming + run.endpoint.acceptances.length) + 64

/-- Lets all parts go on until each of them has to wait. -/
def settle (run : ClientRun) : ClientRun := run.settleFor run.workAtHand

/-- The times at which something will be given up. -/
def deadlines (run : ClientRun) : List Nat :=
  (match run.network with
    | .flushing _ deadline | .draining deadline => [deadline]
    | _ => []) ++ run.giveUpAt.toList

end ClientRun

end ChatRelay
