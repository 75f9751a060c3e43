import ChatRelay.Choice
import ChatRelay.Fault

/-!
# Frames

A frame is one message on the wire. Two framings mark where a message ends: a newline after it, or
its length in four bytes before it. A stream that breaks its framing is at fault with a
`FrameError`.
-/

namespace ChatRelay

/-- How messages are told apart on the wire. -/
inductive Framing
  /-- Each message is a line. -/
  | lines
  /-- Each message stands behind its length. -/
  | lengthPrefixed
  deriving DecidableEq, Repr, Inhabited

instance : Choice Framing where
  all := [.lines, .lengthPrefixed]
  name
    | .lines => "lines"
    | .lengthPrefixed => "length_prefixed"
  default := .lines

/-- Why a stream of frames cannot go on, or a payload cannot be framed. -/
inductive FrameError
  /-- A length above the limit is announced, or a payload above it is to be sent. -/
  | payloadTooLarge (len max : Nat)
  /-- A length of zero is announced, or an empty payload is to be sent. -/
  | emptyFrame
  /-- A line is longer than the limit, or has grown past it without ending. -/
  | lineTooLong (max : Nat)
  /-- The socket under the stream failed. -/
  | io (fault : Fault)
  deriving DecidableEq, Repr, Inhabited

/-- The text shown for a framing fault. -/
def FrameError.message : FrameError → String
  | .payloadTooLarge len max => s!"frame of {len} bytes exceeds the {max} byte limit"
  | .emptyFrame => "empty frame"
  | .lineTooLong max => s!"line exceeds the {max} byte limit"
  | .io fault => "IO error: " ++ fault.text

end ChatRelay
