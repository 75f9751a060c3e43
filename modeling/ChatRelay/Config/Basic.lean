import ChatRelay.Config.Error
import ChatRelay.Frame.Codec
import ChatRelay.Queue.Basic

/-!
# Configurations

What a server and a client are told before they start, the values that hold when nothing is told,
and which values go together. A server may not let a sender wait for a receiver, so a server queue
that blocks its producer is refused.
-/

namespace ChatRelay

/-- How the server waits for events. -/
inductive Backend
  /-- One loop asks which connections are ready. -/
  | readiness
  /-- Every connection has a task of its own. -/
  | tasks
  deriving DecidableEq, Repr, Inhabited

instance : Choice Backend where
  all := [.readiness, .tasks]
  name
    | .readiness => "readiness"
    | .tasks => "tasks"
  default := .readiness

/-- A number of milliseconds in nanoseconds. -/
def nanos (millis : Nat) : Nat := millis * 1000000

/-! ## Values that hold when nothing is told -/

/-- The port of the server. -/
def defaultPort : Nat := 27015

/-- What a new connection is greeted with. -/
def defaultGreeting : String := "Welcome to the chat!"

/-- How long a closing connection may go on draining, in milliseconds. -/
def defaultDrainMillis : Nat := 3000

/-- How long one wait for events may take, in milliseconds. -/
def defaultTickMillis : Nat := 100

/-- How many messages may wait for the display of a client. -/
def maxInboundMessages : Nat := 500

/-! ## Servers -/

/-- What a server is told. -/
structure ServerConfig where
  /-- The addresses to listen on. -/
  bind : List String
  port : Nat
  backend : Backend
  framing : Framing
  maxLineLength : Option Nat
  /-- The bounds of the queue of every connection. -/
  outbound : QueueLimits
  /-- What a new connection is greeted with, if it is. -/
  greeting : Option String
  drainMillis : Nat
  tickMillis : Nat
  deriving DecidableEq, Repr, Inhabited

/-- What a client is told. -/
structure ClientConfig where
  host : String
  port : Nat
  framing : Framing
  maxLineLength : Option Nat
  /-- The bounds of the queue between the input and the server. -/
  outbound : QueueLimits
  /-- The bounds of the queue between the server and the display. -/
  inbound : QueueLimits
  drainMillis : Nat
  deriving DecidableEq, Repr, Inhabited

/-- Refuses bounds that are not sound; the error says which queue they are for. -/
def QueueLimits.check (queue : String) (limits : QueueLimits) : Except ConfigError Unit :=
  if limits.sound then .ok () else .error (.watermarks queue limits.lowWater limits.highWater)

namespace ServerConfig

/-- The configuration of a server that is told nothing. -/
def standard : ServerConfig where
  bind := ["127.0.0.1", "::1"]
  port := defaultPort
  backend := Choice.default
  framing := Choice.default
  maxLineLength := some maxPayload
  outbound := .standard
  greeting := some defaultGreeting
  drainMillis := defaultDrainMillis
  tickMillis := defaultTickMillis

/-- Refuses values that do not go together. -/
def check (config : ServerConfig) : Except ConfigError Unit := do
  if config.bind.isEmpty then throw .noBindAddress
  config.outbound.check "outbound"
  if config.outbound.policy = .blockProducer then throw .blockingServerQueue

/-- The codec of a new connection. -/
def codec (config : ServerConfig) : Codec := .new config.framing config.maxLineLength

/-- How long one wait for events may take: never no time at all. -/
def waitMillis (config : ServerConfig) : Nat := max config.tickMillis 1

end ServerConfig

/-! ## Clients -/

namespace ClientConfig

/-- The configuration of a client that is told nothing. -/
def standard : ClientConfig where
  host := "127.0.0.1"
  port := defaultPort
  framing := Choice.default
  maxLineLength := some maxPayload
  outbound := ⟨1024 * 1024, 512 * 1024, none, .blockProducer⟩
  inbound := ⟨1024 * 1024, 512 * 1024, some maxInboundMessages, .dropNewest⟩
  drainMillis := defaultDrainMillis

/-- Refuses values that do not go together. -/
def check (config : ClientConfig) : Except ConfigError Unit := do
  config.outbound.check "outbound"
  config.inbound.check "inbound"

/-- The codec of a new connection. -/
def codec (config : ClientConfig) : Codec := .new config.framing config.maxLineLength

end ClientConfig

end ChatRelay
