import ChatRelay.Fault
import ChatRelay.Json.Problem

/-!
# Configuration errors

A configuration is refused because its file cannot be read or understood, or because its values do
not go together.
-/

namespace ChatRelay

/-- Why a configuration is refused. -/
inductive ConfigError
  /-- The marks of a queue are out of order, or leave no room for a message. -/
  | watermarks (queue : String) (low high : Nat)
  /-- A server queue would let a sender wait for a receiver. -/
  | blockingServerQueue
  /-- The server has nowhere to listen. -/
  | noBindAddress
  /-- The file cannot be read. -/
  | read (fault : Fault)
  /-- The file is not a configuration. -/
  | parse (problem : Json.Problem)
  deriving DecidableEq, Repr, Inhabited

/-- The text shown for a configuration that is refused. -/
def ConfigError.message : ConfigError → String
  | .watermarks queue low high =>
    s!"invalid watermarks for {queue} queue: low {low} / high {high}"
  | .blockingServerQueue => "block_producer is not allowed for server session queues"
  | .noBindAddress => "no bind addresses configured"
  | .read fault => "failed to read config file: " ++ fault.text
  | .parse problem => "failed to parse config file: " ++ problem.message

end ChatRelay
