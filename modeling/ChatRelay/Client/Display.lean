import ChatRelay.Client.State

/-!
# The display of a client

The display takes one message after another from the inbound mailbox and shows it as a line. It
ends when the mailbox has. If it stalls after the other parts have been called off, it goes on
trying for a while and then ends; if it breaks, it calls off the other parts.

The steps answer nothing where the display has to wait. Between two steps anything may happen
elsewhere.
-/

namespace ChatRelay

namespace Display

/-- A message as it is shown. -/
def line (message : Bytes) : Bytes := message ++ [Bytes.newline]

/-- One step of the display. -/
def step (run : ClientRun) : Option ClientRun :=
  match run.display with
  | .waiting =>
    match run.inbound.receive with
    | (.message message, inbound) =>
      some { run with inbound, display := .showing (line message) }
    | (.ended, _) => some { run with display := .finished none }
    | (.nothing, _) => none
  | .showing rest =>
    match run.sink.take rest with
    | (.taken n, sink) =>
      some { run with
        sink, display := if rest.length ≤ n then .waiting else .showing (rest.drop n) }
    | (.broken fault, _) =>
      some { run with display := .finished (some fault), signal := run.signal.callOff }
    | (.stalled, _) => none
  | .finished _ => none

/-- Whether the display shows a line and is stalled. -/
def stalled (run : ClientRun) : Bool :=
  match run.display with
  | .showing rest => (run.sink.take rest).1 = .stalled
  | _ => false

/-- A stalled display notices that the others have been called off, and from then on tries for a
while. -/
def notice (run : ClientRun) : Option ClientRun :=
  if stalled run && run.signal.calledOff && run.giveUpAt.isNone then
    some { run with giveUpAt := some (run.now + run.drain) }
  else none

/-- A stalled display stops trying. -/
def timeOut (run : ClientRun) : Option ClientRun :=
  match run.giveUpAt with
  | some deadline =>
    if stalled run && deadline ≤ run.now then some { run with display := .finished none }
    else none
  | none => none

end Display

end ChatRelay
