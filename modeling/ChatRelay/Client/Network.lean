import ChatRelay.Client.State

/-!
# The network part of a client

The network part sends what is in the outbound mailbox, one frame after another, and puts what it
pulls from the connection into the inbound mailbox. A frame that it has begun to send is sent to
its end; while the inbound mailbox is full, it waits.

When it is called off, or the stream ends, or either way fails, it closes the inbound mailbox. If
the server is gone, that is all. Otherwise it sends what the outbound mailbox still holds,
half-closes the connection, and waits for the end of the stream; for each of the two there is a
deadline.

The steps answer nothing where the network part has to wait. Between two steps anything may happen
elsewhere.
-/

namespace ChatRelay

namespace Network

/-- The network part is over, and the connection with it. -/
def endAll (run : ClientRun) : ClientRun :=
  { run with network := .finished, signal := run.signal.callOff }

/-- Goes on to wait for the end of the stream; nothing is sent any more. -/
def beginDrain (run : ClientRun) : ClientRun :=
  { run with outbound := run.outbound.abort, network := .draining (run.now + run.drain) }

/-- Begins to end. -/
def closeDown (run : ClientRun) : ClientRun :=
  let run := { run with inbound := run.inbound.close }
  if run.signal.reason = some .serverClosed then
    endAll { run with outbound := run.outbound.abort }
  else
    { run with outbound := run.outbound.close, network := .flushing none (run.now + run.drain) }

/-- Begins to end because the connection has. -/
def serverGone (run : ClientRun) : ClientRun :=
  closeDown { run with signal := run.signal.finish .serverClosed }

/-! ## Sending -/

/-- Offers what is left of a frame to the connection. -/
def write (rest : Bytes) (run : ClientRun) : Except Fault (Option Bytes) × ClientRun :=
  match run.endpoint.write rest with
  | (.accepted n, endpoint) =>
    if n = 0 then (.error ⟨.writeZero, "write zero"⟩, { run with endpoint })
    else
      (.ok (if rest.length ≤ n then none else some (rest.drop n)), { run with endpoint })
  | (.fault fault, endpoint) => (.error fault, { run with endpoint })

/-- One step of sending. -/
def send (run : ClientRun) : Option ClientRun :=
  match run.network with
  | .relaying =>
    match run.outbound.receive with
    | (.message frame, outbound) => some { run with outbound, network := .sending frame }
    | (.ended, _) => some (closeDown run)
    | (.nothing, _) => none
  | .sending rest =>
    match write rest run with
    | (.ok (some rest), run) => some { run with network := .sending rest }
    | (.ok none, run) => some { run with network := .relaying }
    | (.error fault, next) =>
      if fault.kind = .wouldBlock then run.moved? next else some (serverGone next)
  | .flushing none deadline =>
    match run.outbound.receive with
    | (.message frame, outbound) =>
      some { run with outbound, network := .flushing (some frame) deadline }
    | _ => some (beginDrain { run with endpoint := run.endpoint.halfClose.2 })
  | .flushing (some rest) deadline =>
    match write rest run with
    | (.ok rest, run) => some { run with network := .flushing rest deadline }
    | (.error fault, next) =>
      if fault.kind = .wouldBlock then run.moved? next else some (beginDrain next)
  | .delivering _ | .draining _ | .finished => none

/-! ## Receiving -/

/-- One step of receiving. -/
def receive (run : ClientRun) : Option ClientRun :=
  match run.network with
  | .relaying =>
    let (pulled, reader, endpoint) := run.reader.pull run.endpoint
    let next := { run with reader, endpoint }
    match pulled with
    | .frame payload => some { next with network := .delivering payload }
    | .failed _ | .ended => some (serverGone next)
    | .nothing => run.moved? next
  | .delivering payload =>
    let (answer, inbound) := run.inbound.offer payload
    let next := { run with inbound }
    match answer with
    | .error .full => run.moved? next
    | .error .overflow =>
      some (closeDown { next with signal := next.signal.finish .inboundOverflow })
    | .error .closed => some (closeDown next)
    | .ok _ | .error .dropped | .error (.tooLarge ..) => some { next with network := .relaying }
  | .draining _ =>
    match run.endpoint.discard with
    | (true, endpoint) => some (endAll { run with endpoint })
    | (false, endpoint) => run.moved? { run with endpoint }
  | .sending _ | .flushing .. | .finished => none

/-! ## Ending -/

/-- The network part begins to end because the client does. -/
def callOff (run : ClientRun) : Option ClientRun :=
  match run.network with
  | .relaying | .delivering _ => if run.signal.calledOff then some (closeDown run) else none
  | _ => none

/-- The time for flushing or draining is over. -/
def timeOut (run : ClientRun) : Option ClientRun :=
  match run.network with
  | .flushing _ deadline => if deadline ≤ run.now then some (beginDrain run) else none
  | .draining deadline => if deadline ≤ run.now then some (endAll run) else none
  | _ => none

end Network

end ChatRelay
