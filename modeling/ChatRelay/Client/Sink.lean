import ChatRelay.Bytes
import ChatRelay.Fault

/-!
# Displays

A `Sink` is where the lines of a client are shown. It takes everything, or stalls after an allowance
of bytes, or breaks after a number of bytes.
-/

namespace ChatRelay

/-- What a client shows its messages on. -/
structure Sink where
  /-- Everything shown so far. -/
  shown : Bytes
  /-- It stalls once it has taken this many bytes in all. -/
  allowance : Option Nat
  /-- It breaks once it has taken this many bytes in all. -/
  breaksAt : Option Nat
  deriving DecidableEq, Repr, Inhabited

/-- What showing something meets. -/
inductive Shown
  | taken (n : Nat)
  | stalled
  | broken (fault : Fault)
  deriving DecidableEq, Repr, Inhabited

namespace Sink

/-- A display that takes everything. -/
def endless : Sink := ⟨[], none, none⟩

/-- How much of `n` bytes may be taken under a bound on the whole. -/
def room (sink : Sink) (bound : Option Nat) (n : Nat) : Nat :=
  match bound with
  | some most => min n (most - sink.shown.length)
  | none => n

/-- Takes the first bytes of a line, as many as there is room for. -/
def take (sink : Sink) (bytes : Bytes) : Shown × Sink :=
  let n := bytes.length
  if n ≠ 0 ∧ sink.room sink.breaksAt n = 0 then (.broken ⟨.brokenPipe, "broken pipe"⟩, sink)
  else
    let n := sink.room sink.allowance (sink.room sink.breaksAt n)
    if n = 0 then (.stalled, sink)
    else (.taken n, { sink with shown := sink.shown ++ bytes.take n })

end Sink

end ChatRelay
