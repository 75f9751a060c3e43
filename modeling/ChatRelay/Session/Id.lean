import ChatRelay.Bytes

/-!
# Session identities

Every connection has a number. Numbers are handed out one after another, from 1024 on, and start
again from zero after the largest machine word. The same number is the token under which the
poller knows the connection; the numbers below 1024 are left for other things that are polled.
-/

namespace ChatRelay

/-- The identity of one connection. -/
structure SessionId where
  number : Nat
  deriving DecidableEq, Repr, Inhabited

namespace SessionId

/-- The number behind a hash sign. -/
def label (id : SessionId) : String := s!"#{id.number}"

/-- The token under which the poller knows the connection. -/
def token (id : SessionId) : Nat := id.number

/-- The connection that the poller knows under a token. -/
def ofToken (token : Nat) : SessionId := ⟨token⟩

end SessionId

/-- Hands out identities. -/
structure SessionIds where
  /-- The number to be handed out next. -/
  next : Nat
  deriving DecidableEq, Repr, Inhabited

namespace SessionIds

/-- The number that is handed out first. -/
def first : Nat := 1024

/-- Nothing has been handed out. -/
def new : SessionIds := ⟨first⟩

/-- Hands out the next identity. -/
def take (ids : SessionIds) : SessionId × SessionIds :=
  (⟨ids.next⟩, ⟨(ids.next + 1) % (maxSize + 1)⟩)

/-- Hands out `n` identities. -/
def takeMany (ids : SessionIds) : Nat → List SessionId × SessionIds
  | 0 => ([], ids)
  | n + 1 =>
    let (id, ids) := ids.take
    let (later, ids) := takeMany ids n
    (id :: later, ids)

end SessionIds

end ChatRelay
