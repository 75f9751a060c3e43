import ChatRelay.Config.Basic
import ChatRelay.Network.Host

/-!
# Server plans

A `SessionPlan` is what every connection of a server is given, worked out once from the
configuration; in it the greeting is framed already. A `Server` has a plan and the sockets it
listens on, and is not yet running.

Setting up fails in this order: values that do not go together, no socket to listen on, a greeting
that cannot be framed.
-/

namespace ChatRelay

/-- What every connection of a server is given. Times are in nanoseconds. -/
structure SessionPlan where
  codec : Codec
  limits : QueueLimits
  /-- The framed greeting, if connections are greeted. -/
  greeting : Option Bytes
  /-- How long a half-closed connection may go on draining. -/
  drain : Nat
  /-- How long one wait for events may take. -/
  tick : Nat
  deriving DecidableEq, Repr, Inhabited

namespace SessionPlan

/-- The framed greeting; an empty one is none. -/
def frameGreeting (codec : Codec) (greeting : Option String) : Except FrameError (Option Bytes) :=
  match greeting.filter (· ≠ "") with
  | some text => (codec.encode (Bytes.ofText text)).map some
  | none => .ok none

/-- The plan that a configuration asks for. -/
def ofConfig (config : ServerConfig) : Except ServiceError SessionPlan :=
  match frameGreeting config.codec config.greeting with
  | .error error => .error (.frame error)
  | .ok greeting =>
    .ok ⟨config.codec, config.outbound, greeting, nanos config.drainMillis, nanos config.waitMillis⟩

end SessionPlan

/-- A server that listens and is not yet running. -/
structure Server where
  backend : Backend
  plan : SessionPlan
  /-- What it listens on, in the order of the configuration. -/
  sockets : List SocketAddress
  deriving DecidableEq, Repr, Inhabited

namespace Server

/-- Sets up the server that a configuration asks for. -/
def bind (host : Host) (config : ServerConfig) : Except ServiceError Server := do
  (config.check).mapError .config
  let sockets ← host.listenAll config.bind config.port
  let plan ← SessionPlan.ofConfig config
  return ⟨config.backend, plan, sockets⟩

end Server

end ChatRelay
