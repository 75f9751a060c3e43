import ChatRelay.Bytes
import ChatRelay.Fault

/-!
# Endpoints

An `Endpoint` is the near side of a connection, given by what its calls will answer. A read takes
the next piece that has arrived, or fails; with nothing arrived it would block, or is at the end of
the stream. A write is accepted in part, or fails, as the next answer says; with no answer left it
is accepted whole or would block. No call ever waits.

Everything accepted is kept in order, with the number of half-closes, and with the answers of the
last read and the last write: after a read that would block, nothing that has arrived is left
unread.
-/

namespace ChatRelay

/-- What the next read will find. -/
inductive Arrival
  | data (bytes : Bytes)
  | fault (fault : Fault)
  deriving DecidableEq, Repr, Inhabited

/-- What the next write will meet. -/
inductive Acceptance
  /-- At most this many bytes are accepted. -/
  | upTo (n : Nat)
  | fault (fault : Fault)
  deriving DecidableEq, Repr, Inhabited

/-- What a read answers. -/
inductive ReadAnswer
  /-- Bytes; none of them means the end of the stream. -/
  | bytes (bytes : Bytes)
  | fault (fault : Fault)
  deriving DecidableEq, Repr, Inhabited

/-- What a write answers. -/
inductive WriteAnswer
  | accepted (n : Nat)
  | fault (fault : Fault)
  deriving DecidableEq, Repr, Inhabited

/-- The near side of a connection. -/
structure Endpoint where
  /-- What has arrived and not been read. -/
  arrivals : List Arrival
  /-- The stream ends behind what has arrived. -/
  atEnd : Bool
  /-- What the next writes will meet. -/
  acceptances : List Acceptance
  /-- Writes are accepted whole when nothing else is said. -/
  unlimited : Bool
  /-- Half-closing answers with a fault. -/
  halfCloseFails : Bool
  /-- An error that the system holds for this connection. -/
  pendingError : Option Fault
  /-- Everything accepted so far. -/
  written : Bytes
  /-- How often the connection has been half-closed. -/
  halfCloses : Nat
  /-- What the last read answered. -/
  lastRead : Option ReadAnswer
  /-- What the last write answered. -/
  lastWrite : Option WriteAnswer
  deriving DecidableEq, Repr, Inhabited

namespace Endpoint

/-- A connection on which nothing has happened. -/
def idle : Endpoint := ⟨[], false, [], false, false, none, [], 0, none, none⟩

/-- The answer of a call that would have to wait. -/
def wouldBlock : Fault := ⟨.wouldBlock, "operation would block"⟩

/-- The failure of a connection that the peer has reset. -/
def resetByPeer : Fault := ⟨.connectionReset, "connection reset by peer"⟩

/-- What has arrived, measured so that every read of something makes it smaller. -/
def unread (arrivals : List Arrival) : Nat :=
  match arrivals with
  | [] => 0
  | .data bytes :: rest => bytes.length + 1 + unread rest
  | .fault _ :: rest => 1 + unread rest

/-- Reads at most `limit` bytes; what does not fit stays in front. -/
def read (e : Endpoint) (limit : Nat) : ReadAnswer × Endpoint :=
  match e.arrivals with
  | .data bytes :: rest =>
    let rest := if bytes.length ≤ limit then rest else .data (bytes.drop limit) :: rest
    (.bytes (bytes.take limit),
      { e with arrivals := rest, lastRead := some (.bytes (bytes.take limit)) })
  | .fault fault :: rest =>
    (.fault fault, { e with arrivals := rest, lastRead := some (.fault fault) })
  | [] =>
    let answer := if e.atEnd then .bytes [] else .fault wouldBlock
    (answer, { e with lastRead := some answer })

/-- Offers bytes to be sent; those accepted are the first ones. -/
def write (e : Endpoint) (bytes : Bytes) : WriteAnswer × Endpoint :=
  match e.acceptances with
  | .upTo n :: rest =>
    let n := min n bytes.length
    (.accepted n,
      { e with
        acceptances := rest, written := e.written ++ bytes.take n
        lastWrite := some (.accepted n) })
  | .fault fault :: rest =>
    (.fault fault, { e with acceptances := rest, lastWrite := some (.fault fault) })
  | [] =>
    if e.unlimited then
      (.accepted bytes.length,
        { e with written := e.written ++ bytes, lastWrite := some (.accepted bytes.length) })
    else (.fault wouldBlock, { e with lastWrite := some (.fault wouldBlock) })

/-- Ends the sending side, which may fail. -/
def halfClose (e : Endpoint) : Option Fault × Endpoint :=
  (if e.halfCloseFails then some ⟨.notConnected, "half-close failed"⟩ else none,
    { e with halfCloses := e.halfCloses + 1 })

/-- Takes the error that the system holds for this connection. -/
def takeError (e : Endpoint) : Option Fault × Endpoint :=
  (e.pendingError, { e with pendingError := none })

/-! ## What the network does -/

/-- Something that the network does to a connection between two calls on it. -/
inductive Change
  /-- Bytes or a failure come in. -/
  | arrive (arrival : Arrival)
  /-- Nothing more will come in. -/
  | finish
  /-- One more write will be met like this. -/
  | meet (acceptance : Acceptance)
  /-- Writes are accepted whole from now on, or are not. -/
  | widen (unlimited : Bool)
  /-- The system holds an error for this connection. -/
  | hold (fault : Fault)
  deriving DecidableEq, Repr, Inhabited

/-- The connection after the network has done something to it. -/
def undergo (e : Endpoint) : Change → Endpoint
  | .arrive arrival => { e with arrivals := e.arrivals ++ [arrival] }
  | .finish => { e with atEnd := true }
  | .meet acceptance => { e with acceptances := e.acceptances ++ [acceptance] }
  | .widen unlimited => { e with unlimited }
  | .hold fault => { e with pendingError := some fault }

/-! ## Lemmas -/

/-- A read that gives bytes leaves less unread. -/
theorem unread_lt_of_read_bytes {e e' : Endpoint} {limit : Nat} {b : UInt8} {bytes : Bytes}
    (h : e.read limit = (.bytes (b :: bytes), e')) : unread e'.arrivals < unread e.arrivals := by
  unfold read at h
  split at h
  · next data rest ha =>
    simp only [Prod.mk.injEq, ReadAnswer.bytes.injEq] at h
    obtain ⟨htake, rfl⟩ := h
    have hlen := congrArg List.length htake
    simp only [List.length_take, List.length_cons] at hlen
    rw [ha]
    dsimp only
    split
    · simp only [unread]; omega
    · simp only [unread, List.length_drop]; omega
  · simp at h
  · next ha =>
    simp only [Prod.mk.injEq] at h
    obtain ⟨h, -⟩ := h
    split at h <;> simp at h

/-- A read that fails leaves less unread, unless it would block. -/
theorem unread_lt_of_read_fault {e e' : Endpoint} {limit : Nat} {fault : Fault}
    (h : e.read limit = (.fault fault, e')) (hk : fault.kind ≠ .wouldBlock) :
    unread e'.arrivals < unread e.arrivals := by
  unfold read at h
  split at h
  · simp at h
  · next rest ha =>
    simp only [Prod.mk.injEq] at h
    obtain ⟨-, rfl⟩ := h
    rw [ha]
    simp only [unread]
    omega
  · simp only [Prod.mk.injEq] at h
    obtain ⟨h, -⟩ := h
    split at h
    · simp at h
    · simp only [ReadAnswer.fault.injEq] at h
      subst h
      exact absurd rfl hk

/-- A write that accepts part of what is offered uses up an answer, or accepts all of it. -/
theorem acceptances_of_write_accepted {e e' : Endpoint} {bytes : Bytes} {n : Nat}
    (h : e.write bytes = (.accepted n, e')) :
    e'.acceptances.length < e.acceptances.length ∨
      (e'.acceptances = e.acceptances ∧ n = bytes.length) := by
  unfold write at h
  split at h
  · next ha =>
    simp only [Prod.mk.injEq] at h
    obtain ⟨-, rfl⟩ := h
    left
    simp [ha]
  · simp at h
  · split at h
    · simp only [Prod.mk.injEq, WriteAnswer.accepted.injEq] at h
      obtain ⟨rfl, rfl⟩ := h
      right
      exact ⟨rfl, rfl⟩
    · simp at h

/-- A write that fails uses up an answer, unless it would block. -/
theorem acceptances_lt_of_write_fault {e e' : Endpoint} {bytes : Bytes} {fault : Fault}
    (h : e.write bytes = (.fault fault, e')) (hk : fault.kind ≠ .wouldBlock) :
    e'.acceptances.length < e.acceptances.length := by
  unfold write at h
  split at h
  · simp at h
  · next ha =>
    simp only [Prod.mk.injEq] at h
    obtain ⟨-, rfl⟩ := h
    simp [ha]
  · split at h
    · simp at h
    · simp only [Prod.mk.injEq, WriteAnswer.fault.injEq] at h
      obtain ⟨rfl, -⟩ := h
      exact absurd rfl hk

/-! ### What has been written

Only a write that is accepted adds to what has been written, and it adds the first bytes of what it
was offered. -/

@[simp] theorem written_read (e : Endpoint) (limit : Nat) :
    (e.read limit).2.written = e.written := by
  unfold read
  split <;> rfl

@[simp] theorem written_halfClose (e : Endpoint) : e.halfClose.2.written = e.written := rfl

@[simp] theorem written_takeError (e : Endpoint) : e.takeError.2.written = e.written := rfl

@[simp] theorem written_undergo (e : Endpoint) (change : Change) :
    (e.undergo change).written = e.written := by
  cases change <;> rfl

/-- A write adds the bytes that it says were accepted. -/
theorem written_of_write_accepted {e e' : Endpoint} {bytes : Bytes} {n : Nat}
    (h : e.write bytes = (.accepted n, e')) :
    n ≤ bytes.length ∧ e'.written = e.written ++ bytes.take n := by
  unfold write at h
  split at h
  · next limit rest ha =>
    simp only [Prod.mk.injEq, WriteAnswer.accepted.injEq] at h
    obtain ⟨rfl, rfl⟩ := h
    refine ⟨Nat.min_le_right _ _, ?_⟩
    rw [List.take_eq_take_min]
  · simp at h
  · split at h
    · simp only [Prod.mk.injEq, WriteAnswer.accepted.injEq] at h
      obtain ⟨rfl, rfl⟩ := h
      exact ⟨Nat.le_refl _, by rw [List.take_length]⟩
    · simp at h

/-- A write that fails adds nothing. -/
theorem written_of_write_fault {e e' : Endpoint} {bytes : Bytes} {fault : Fault}
    (h : e.write bytes = (.fault fault, e')) : e'.written = e.written := by
  unfold write at h
  split at h
  · simp at h
  · simp only [Prod.mk.injEq] at h
    obtain ⟨-, rfl⟩ := h
    rfl
  · split at h
    · simp at h
    · simp only [Prod.mk.injEq] at h
      obtain ⟨-, rfl⟩ := h
      rfl

/-! ## Reading on to the end -/

/-- How many bytes one read asks for when they are to be thrown away. -/
def discardChunk : Nat := 4096

/-- Throws away what has arrived; whether the stream is over. -/
def discard (e : Endpoint) : Bool × Endpoint :=
  match _answer : e.read discardChunk with
  | (.bytes [], e) => (true, e)
  | (.bytes (_ :: _), e) => discard e
  | (.fault fault, e) => (fault.kind ≠ .wouldBlock, e)
termination_by unread e.arrivals
decreasing_by exact unread_lt_of_read_bytes ‹_›

end Endpoint

end ChatRelay
