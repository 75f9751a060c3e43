import ChatRelay.Frame.Codec
import ChatRelay.Queue.Basic
import ChatRelay.Session.CloseReason
import ChatRelay.Session.Endpoint
import ChatRelay.Session.Id

/-!
# Sessions

A `Session` joins one endpoint with a decoder for what arrives and a queue for what is to be sent.
Its handlers run until the endpoint would block, and never wait.

* `readReady` reads all there is and gives the complete frames, and the reason if the session has
  to end. The frames before a protocol violation are given, the violating one is not.
* `writeReady` sends from the queue until it is empty or the endpoint takes no more.
* `beginClose` ends the sending side and throws away what was queued or half received. From then on
  the session is draining: it reads only to find the end of the stream, takes no messages, and may
  be given up at its deadline.

Times are in nanoseconds.
-/

namespace ChatRelay

/-- The most bytes that one read asks for. -/
def readChunk : Nat := 16 * 1024

/-- Where a session is in its life. -/
inductive SessionPhase
  | opened
  /-- Half-closed, and to be given up at the deadline. -/
  | draining (deadline : Nat)
  deriving DecidableEq, Repr, Inhabited

/-- One connection, with what has been half received and what is to be sent. -/
structure Session where
  id : SessionId
  /-- The address of the other side. -/
  peer : String
  endpoint : Endpoint
  decoder : Decoder
  outbound : SendQueue
  phase : SessionPhase
  deriving DecidableEq, Repr, Inhabited

/-- What came of reading. -/
structure ReadOutcome where
  /-- The complete frames, in the order in which they arrived. -/
  frames : List Bytes
  /-- Why the session has to end, if it has to. -/
  closed : Option CloseReason
  deriving DecidableEq, Repr, Inhabited

/-- What came of writing. -/
inductive WriteOutcome
  /-- Nothing is left to send. -/
  | drained
  /-- The endpoint takes no more for now. -/
  | pending
  /-- The session has to end. -/
  | failed (reason : CloseReason)
  deriving DecidableEq, Repr, Inhabited

namespace Session

/-- A session on a new connection. -/
def new (id : SessionId) (peer : String) (endpoint : Endpoint) (codec : Codec)
    (limits : QueueLimits) : Session :=
  ⟨id, peer, endpoint, Decoder.new codec, SendQueue.new limits, .opened⟩

/-- Whether the session is half-closed. -/
def isDraining (s : Session) : Bool :=
  match s.phase with
  | .opened => false
  | .draining _ => true

/-- Whether the session is half-closed and its deadline has come. -/
def drainExpired (s : Session) (now : Nat) : Bool :=
  match s.phase with
  | .opened => false
  | .draining deadline => deadline ≤ now

/-- Whether there is something to send. -/
def wantsWrite (s : Session) : Bool := !s.isDraining && s.outbound.items != []

/-! ## Reading -/

/-- Decodes what has been received, unless the session only waits for the end of the stream. -/
def receive (s : Session) (bytes : Bytes) : List Bytes × Option CloseReason × Session :=
  if s.isDraining then ([], none, s)
  else
    let drained := (s.decoder.feed bytes).drain
    (drained.frames, drained.error.map .protocol, { s with decoder := drained.decoder })

theorem endpoint_receive (s : Session) (bytes : Bytes) :
    (s.receive bytes).2.2.endpoint = s.endpoint := by
  unfold receive
  split <;> rfl

/-- Reads until the endpoint would block or the session has to end. -/
def readFrom (given : List Bytes) (s : Session) : ReadOutcome × Session :=
  match _answer : s.endpoint.read readChunk with
  | (.bytes [], endpoint) => (⟨given, some .peerClosed⟩, { s with endpoint })
  | (.bytes (b :: bytes), endpoint) =>
    match _received : receive { s with endpoint } (b :: bytes) with
    | (frames, some reason, s') => (⟨given ++ frames, some reason⟩, s')
    | (frames, none, s') => readFrom (given ++ frames) s'
  | (.fault fault, endpoint) =>
    if _blocked : fault.kind = .wouldBlock then (⟨given, none⟩, { s with endpoint })
    else if fault.kind = .interrupted then readFrom given { s with endpoint }
    else (⟨given, some (.ofFault fault)⟩, { s with endpoint })
termination_by Endpoint.unread s.endpoint.arrivals
decreasing_by
  · have hs := endpoint_receive { s with endpoint } (b :: bytes)
    rw [_received] at hs
    simp only at hs
    rw [hs]
    exact Endpoint.unread_lt_of_read_bytes ‹_›
  · exact Endpoint.unread_lt_of_read_fault ‹_› _blocked

/-- Reads all there is. -/
def readReady (s : Session) : ReadOutcome × Session := readFrom [] s

/-! ## Writing -/

/-- The fault of an endpoint that accepts nothing and does not say why. -/
def acceptedNothing : Fault := ⟨.writeZero, "socket accepted no bytes"⟩

theorem length_items_consume_le (q : SendQueue) (n : Nat) :
    (q.consume n).items.length ≤ q.items.length := by
  unfold SendQueue.consume
  split
  · exact Nat.le_refl _
  · next head rest hi =>
    dsimp only
    split <;> simp [SendQueue.resume, hi]

theorem length_items_consume_head {q : SendQueue} {head : Bytes} (h : q.front? = some head) :
    (q.consume head.length).items.length < q.items.length := by
  unfold SendQueue.front? at h
  unfold SendQueue.consume
  split
  · next hi => simp [hi] at h
  · next first rest hi =>
    simp only [hi, List.head?_cons, Option.some.injEq] at h
    subst h
    simp [SendQueue.resume, hi]

/-- Sends until nothing is left or the endpoint takes no more. -/
def writeReady (s : Session) : WriteOutcome × Session :=
  match _front : s.outbound.front? with
  | none => (.drained, s)
  | some head =>
    match _answer : s.endpoint.write head with
    | (.accepted 0, endpoint) => (.failed (.io acceptedNothing), { s with endpoint })
    | (.accepted (n + 1), endpoint) =>
      writeReady { s with endpoint, outbound := s.outbound.consume (n + 1) }
    | (.fault fault, endpoint) =>
      if _blocked : fault.kind = .wouldBlock then (.pending, { s with endpoint })
      else if fault.kind = .interrupted then writeReady { s with endpoint }
      else (.failed (.ofFault fault), { s with endpoint })
termination_by s.endpoint.acceptances.length + s.outbound.items.length
decreasing_by
  · have hle := length_items_consume_le s.outbound (n + 1)
    rcases Endpoint.acceptances_of_write_accepted _answer with h | ⟨h, hn⟩
    · omega
    · have hlt := length_items_consume_head _front
      rw [← hn] at hlt
      rw [h]
      exact Nat.add_lt_add_left hlt _
  · have := Endpoint.acceptances_lt_of_write_fault _answer _blocked
    omega

/-- Queues a message that is already framed. -/
def enqueue (s : Session) (frame : Bytes) : Except EnqueueError Nat × Session :=
  if s.isDraining then (.error .closed, s)
  else
    let (answer, outbound) := s.outbound.push frame
    (answer, { s with outbound })

/-! ## Closing -/

/-- Ends the sending side, and begins to drain what still arrives for at most `drain`. What is
queued is thrown away; whoever wants a last attempt at sending it makes it before. -/
def beginClose (s : Session) (now drain : Nat) : Session :=
  if s.isDraining then s
  else
    { s with
      endpoint := s.endpoint.halfClose.2
      outbound := s.outbound.clear
      decoder := { s.decoder with buffer := [] }
      phase := .draining (now + drain) }

end Session

end ChatRelay
