import ChatRelay.Config.Error
import ChatRelay.Frame.Basic

/-!
# Errors of a whole service

What a server or a client can fail with as a whole. Whatever concerns one connection ends that
connection and nothing else, and is never among these.
-/

namespace ChatRelay

/-- Why a server or a client cannot start or go on. -/
inductive ServiceError
  | io (fault : Fault)
  /-- The greeting cannot be framed. -/
  | frame (error : FrameError)
  | config (error : ConfigError)
  /-- None of the addresses can be listened on. -/
  | noListener (port : Nat)
  /-- Waiting for events failed. -/
  | poll (fault : Fault)
  /-- No address of the server takes a connection. -/
  | connect (host : String) (port : Nat)
  deriving DecidableEq, Repr, Inhabited

/-- The text shown for a service that fails. -/
def ServiceError.message : ServiceError → String
  | .io fault => "IO error: " ++ fault.text
  | .frame error => "framing error: " ++ error.message
  | .config error => "configuration error: " ++ error.message
  | .noListener port => s!"no listener could be created on port {port}"
  | .poll fault => "event loop failure: " ++ fault.text
  | .connect host port => s!"could not connect to {host}:{port}"

end ChatRelay
