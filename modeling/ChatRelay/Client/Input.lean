import ChatRelay.Client.State

/-!
# The input of a client

The input reads a line, cuts off the line ends behind it, and sends what is left as one message. An
empty line is no message; the quit command and the end of the input end the client. A message that
cannot be framed, or that the outbound mailbox refuses, is not sent, and the input goes on; while
the mailbox is full, the input waits.

`step` and `callOff` answer nothing where the input has to wait. Between two steps anything may
happen elsewhere.
-/

namespace ChatRelay

namespace Input

/-- Whether a character ends lines. -/
def isLineEnd (c : Char) : Bool := c = '\r' || c = '\n'

/-- A line without the line ends behind it. -/
def trim (line : String) : String :=
  String.ofList (line.toList.reverse.dropWhile isLineEnd).reverse

/-- The client after the input has taken a line. -/
def take (line : String) (run : ClientRun) : ClientRun :=
  let text := trim line
  if text = quitCommand then { run with signal := run.signal.finish .quit, input := .finished }
  else if text = "" then run
  else
    match run.codec.encode (Bytes.ofText text) with
    | .ok frame => { run with input := .sending frame }
    | .error _ => run

/-- One step of the input. -/
def step (run : ClientRun) : Option ClientRun :=
  match run.input with
  | .reading =>
    match run.lines with
    | line :: lines => some (take line { run with lines })
    | [] =>
      if run.inputEnded then
        some { run with signal := run.signal.finish .inputClosed, input := .finished }
      else none
  | .sending frame =>
    let (answer, outbound) := run.outbound.offer frame
    let next := { run with outbound }
    match answer with
    | .error .full => run.moved? next
    | .error .overflow =>
      some { next with signal := next.signal.finish .outboundOverflow, input := .finished }
    | .error .closed => some { next with input := .finished }
    | .ok _ | .error .dropped | .error (.tooLarge ..) => some { next with input := .reading }
  | .finished => none

/-- The input ends because the client does. -/
def callOff (run : ClientRun) : Option ClientRun :=
  if run.signal.calledOff && run.input ≠ .finished then some { run with input := .finished }
  else none

end Input

end ChatRelay
