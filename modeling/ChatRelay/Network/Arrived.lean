import ChatRelay.Bytes

/-!
# Waiting for bytes

Whoever waits at the far side of a stream for some bytes, or for its end, gets what has been
written and has not been had yet. Bytes that have not been written may still come, or may never
come because the stream has ended.
-/

namespace ChatRelay

/-- What came of waiting for bytes. -/
inductive Arrived
  | bytes (got : Bytes)
  /-- Only these came before the end of the stream. -/
  | endedAfter (got : Bytes)
  /-- Only these came. -/
  | stuckAfter (got : Bytes)
  deriving DecidableEq, Repr

namespace Arrived

/-- The far side of a stream, as bytes written to it and how many of them have been had. -/
def take (written : Bytes) (had : Nat) (ended : Bool) (n : Nat) : Arrived :=
  let rest := written.drop had
  if n ≤ rest.length then .bytes (rest.take n)
  else if ended then .endedAfter rest
  else .stuckAfter rest

/-- Everything up to the end of a stream. -/
def takeAll (written : Bytes) (had : Nat) (ended : Bool) : Arrived :=
  let rest := written.drop had
  if ended then .bytes rest else .stuckAfter rest

/-- How many bytes were had. -/
def size : Arrived → Nat
  | .bytes got | .endedAfter got | .stuckAfter got => got.length

end Arrived

end ChatRelay
