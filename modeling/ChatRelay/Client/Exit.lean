/-!
# Why a client ends

Whichever part of a client ends first says why and calls off the others; what is said later does
not count. The display calls off the others without a reason when it fails.
-/

namespace ChatRelay

/-- Why a client ended. -/
inductive ClientExit
  /-- The user typed the quit command. -/
  | quit
  /-- There is no more input. -/
  | inputClosed
  /-- The connection has ended, in whatever way. -/
  | serverClosed
  /-- More came in than the display takes. -/
  | inboundOverflow
  /-- More was typed than the server takes. -/
  | outboundOverflow
  deriving DecidableEq, Repr, Inhabited

/-- The text shown for the end of a client. -/
def ClientExit.message : ClientExit → String
  | .quit => "quit"
  | .inputClosed => "input closed"
  | .serverClosed => "server closed the connection"
  | .inboundOverflow => "too many incoming messages"
  | .outboundOverflow => "too many outgoing messages"

/-- Whether the parts of a client have been called off, and why. -/
structure ExitSignal where
  reason : Option ClientExit
  calledOff : Bool
  deriving DecidableEq, Repr, Inhabited

namespace ExitSignal

/-- Nothing has been said. -/
def quiet : ExitSignal := ⟨none, false⟩

/-- Says why the client ends, unless that has been said, and calls off its parts. -/
def finish (signal : ExitSignal) (reason : ClientExit) : ExitSignal :=
  ⟨signal.reason.or (some reason), true⟩

/-- Calls off the parts of the client without a reason. -/
def callOff (signal : ExitSignal) : ExitSignal := { signal with calledOff := true }

end ExitSignal

end ChatRelay
