import ChatRelay.Frame.Basic

/-!
# Why a session ends

A session ends because of its peer, because of a fault, or because the server stops. A failed call
on a socket means that the peer is gone if the connection was reset, aborted or broken.
-/

namespace ChatRelay

/-- Why a session ends. -/
inductive CloseReason
  /-- The peer has sent everything and has said so. -/
  | peerClosed
  /-- The peer is gone. -/
  | peerReset
  /-- The peer breaks the framing. -/
  | protocol (error : FrameError)
  /-- The peer is too slow for what is sent to it. -/
  | overflow
  /-- The socket has failed. -/
  | io (fault : Fault)
  /-- The server stops. -/
  | shutdown
  deriving DecidableEq, Repr, Inhabited

namespace CloseReason

/-- Whether connections end like this when nothing is wrong. -/
def orderly : CloseReason → Bool
  | .peerClosed | .peerReset | .shutdown => true
  | .protocol _ | .overflow | .io _ => false

/-- The text shown for the end of a session. -/
def message : CloseReason → String
  | .peerClosed => "peer closed"
  | .peerReset => "peer reset"
  | .protocol error => "protocol violation: " ++ error.message
  | .overflow => "outbound queue overflow"
  | .io fault => "IO error: " ++ fault.text
  | .shutdown => "server shutdown"

/-- What a failed call on a socket means for its session. -/
def ofFault (fault : Fault) : CloseReason :=
  match fault.kind with
  | .connectionReset | .connectionAborted | .brokenPipe => .peerReset
  | _ => .io fault

end CloseReason

end ChatRelay
