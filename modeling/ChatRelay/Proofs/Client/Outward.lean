import ChatRelay.Proofs.Client.Runs
import Mathlib.Data.List.TakeWhile

/-!
# The way out of a client

Which frames the lines that are typed become (`Input.frames`), and what a step does to the bytes
that are on their way to the connection. They are in the outbound mailbox, then in the frame that is
being sent, and then written:

    written ++ the rest of the frame being sent ++ what is queued

While there is something to send, no step but one of the input changes this, until the connection
refuses a frame (`outward_step`).
-/

namespace ChatRelay

/-! ## What is to be sent -/

/-- The lines that are typed, in order. -/
def ClientEvent.lines (events : List ClientEvent) : List String :=
  events.filterMap fun
    | .typed line => some line
    | _ => none

theorem ClientEvent.lines_append (before after : List ClientEvent) :
    lines (before ++ after) = lines before ++ lines after := List.filterMap_append

namespace Input

/-- The frames that the lines before the quit command become, as far as a queue can hold them. -/
def frames (codec : Codec) (limits : QueueLimits) (lines : List String) : List Bytes :=
  ((lines.takeWhile (trim · ≠ quitCommand)).filterMap (frame? codec)).filter
    (·.length ≤ limits.highWater)

/-- Why a client ends when its input does. -/
def exit (lines : List String) : ClientExit :=
  if quitCommand ∈ lines.map trim then .quit else .inputClosed

variable {codec : Codec} {limits : QueueLimits} {consumed rest : List String} {line : String}

theorem frames_append (h : ∀ line ∈ consumed, trim line ≠ quitCommand) (rest : List String) :
    frames codec limits (consumed ++ rest) =
      frames codec limits consumed ++ frames codec limits rest := by
  have hall : ∀ line ∈ consumed, decide (trim line ≠ quitCommand) = true := by
    intro line hmem
    exact decide_eq_true (h line hmem)
  have hself : consumed.takeWhile (trim · ≠ quitCommand) = consumed :=
    List.takeWhile_eq_self_iff.2 hall
  unfold frames
  rw [List.takeWhile_append_of_pos hall, hself, List.filterMap_append, List.filter_append]

theorem frames_quit (h : trim line = quitCommand) (rest : List String) :
    frames codec limits (line :: rest) = [] := by
  simp [frames, h]

theorem frames_line (h : trim line ≠ quitCommand) :
    frames codec limits [line] =
      (frame? codec line).toList.filter (·.length ≤ limits.highWater) := by
  have hall : [line].takeWhile (trim · ≠ quitCommand) = [line] := by simp [h]
  rw [frames, hall]
  cases hframe : frame? codec line with
  | none => simp [hframe]
  | some frame => simp [hframe]

/-- Behind the quit command there is nothing to send. -/
theorem frames_of_quit (h : quitCommand ∈ consumed.map trim) (more : List String) :
    frames codec limits (consumed ++ more) = frames codec limits consumed := by
  induction consumed with
  | nil => cases h
  | cons line consumed ih =>
    by_cases hquit : trim line = quitCommand
    · rw [List.cons_append, frames_quit hquit, frames_quit hquit]
    · have hlater : quitCommand ∈ consumed.map trim := by
        rcases List.mem_cons.1 h with heq | hlater
        · exact absurd heq.symm hquit
        · exact hlater
      have hone : ∀ other ∈ [line], trim other ≠ quitCommand := by simpa using hquit
      have hfirst : ∀ others, frames codec limits (line :: others) =
          frames codec limits [line] ++ frames codec limits others := frames_append hone
      rw [List.cons_append, hfirst (consumed ++ more), ih hlater, ← hfirst consumed]

/-- More lines are more to send, or the quit command was among the first. -/
theorem frames_prefix (lines more : List String) :
    frames codec limits lines <+: frames codec limits (lines ++ more) := by
  by_cases hquit : quitCommand ∈ lines.map trim
  · exact ⟨[], by rw [List.append_nil, frames_of_quit hquit]⟩
  · have hall : ∀ line ∈ lines, trim line ≠ quitCommand := by
      intro line hmem heq
      exact hquit (heq ▸ List.mem_map_of_mem hmem)
    rw [frames_append hall]
    exact List.prefix_append _ _

end Input

/-! ## On the way out -/

/-- The frame that the input waits to put into the mailbox, unless the mailbox can never hold it. -/
def InputState.atHand (limits : QueueLimits) : InputState → List Bytes
  | .sending frame => [frame].filter (·.length ≤ limits.highWater)
  | _ => []

namespace ClientRun

/-- What has been given to the connection and what is on its way there. -/
def outgoing (run : ClientRun) : Bytes :=
  run.endpoint.written ++ run.network.inFlight ++ run.outbound.queue.items.flatten

/-- The connection has refused what it was last offered. -/
def Refused (run : ClientRun) : Prop :=
  ∃ answer ∈ run.endpoint.lastWrite, answer.refused = true

instance (run : ClientRun) : Decidable run.Refused :=
  inferInstanceAs (Decidable (∃ answer ∈ run.endpoint.lastWrite, answer.refused = true))

/-- What only the input changes, or who types. -/
def keyboard (run : ClientRun) : Codec × QueueLimits × List String × InputState × Bool :=
  (run.codec, run.outbound.queue.limits, run.lines, run.input, run.inputEnded)

/-- A step that gives the connection nothing that was not on its way there, and that stops giving it
anything only for good. -/
structure Onward (run run' : ClientRun) : Prop where
  keyboard : run'.keyboard = run.keyboard
  /-- While there is something to send, all of it stays on its way. -/
  flows : run'.network.phase ≠ .ended → run.network.phase ≠ .ended ∧
    run'.outgoing = run.outgoing ∧ run'.endpoint.halfCloses = run.endpoint.halfCloses
  stops : run'.network.phase = .ended → run'.endpoint.written = run.endpoint.written
  /-- The connection is only half-closed once everything has been given to it. -/
  flushed : run'.network.phase = .ended → run'.endpoint.halfCloses = run.endpoint.halfCloses ∨
    (run.network.phase ≠ .ended ∧ run.outgoing = run.endpoint.written)
  reason : ∀ reason, run.signal.reason = some reason → run'.signal.reason = some reason

variable {run run' : ClientRun}

theorem keyboard_eq (h : run'.keyboard = run.keyboard) : run'.codec = run.codec ∧
    run'.outbound.queue.limits = run.outbound.queue.limits ∧ run'.lines = run.lines ∧
    run'.input = run.input ∧ run'.inputEnded = run.inputEnded := by
  simpa only [keyboard, Prod.mk.injEq] using h

/-- A step that leaves the mailbox and the connection as they are. -/
theorem onward_of_same (keyboard : run'.keyboard = run.keyboard)
    (items : run'.outbound.queue.items = run.outbound.queue.items)
    (sent : run'.endpoint.sent = run.endpoint.sent)
    (phase : run'.network.phase = run.network.phase)
    (inFlight : run'.network.inFlight = run.network.inFlight)
    (reason : run'.signal.reason = run.signal.reason) : Onward run run' := by
  simp only [Endpoint.sent, Prod.mk.injEq] at sent
  obtain ⟨hwritten, hhalfCloses, -⟩ := sent
  refine ⟨keyboard, fun hgoing => ?_, fun _ => hwritten, fun _ => .inl hhalfCloses, ?_⟩
  · refine ⟨phase ▸ hgoing, ?_, hhalfCloses⟩
    rw [outgoing, outgoing, hwritten, inFlight, items]
  · intro r hr
    exact reason.trans hr

/-- A step after which nothing is sent any more, and by which nothing is. -/
theorem onward_of_ended (keyboard : run'.keyboard = run.keyboard)
    (ended : run'.network.phase = .ended) (sent : run'.endpoint.sent = run.endpoint.sent)
    (reason : ∀ reason, run.signal.reason = some reason → run'.signal.reason = some reason) :
    Onward run run' := by
  simp only [Endpoint.sent, Prod.mk.injEq] at sent
  obtain ⟨hwritten, hhalfCloses, -⟩ := sent
  exact ⟨keyboard, fun hgoing => absurd ended hgoing, fun _ => hwritten,
    fun _ => .inl hhalfCloses, reason⟩

/-- Closing down keeps what is queued, or stops for good. -/
theorem onward_closeDown {inbound : Mailbox} {reader : FrameReader} {endpoint : Endpoint}
    {signal : ExitSignal} (hactive : run.network.phase = .active)
    (hidle : run.network.inFlight = []) (hsent : endpoint.sent = run.endpoint.sent)
    (hreason : ∀ reason, run.signal.reason = some reason → signal.reason = some reason) :
    Onward run (Network.closeDown { run with inbound, reader, endpoint, signal }) := by
  obtain ⟨-, heq⟩ | ⟨-, heq⟩ :=
    Network.closeDown_cases { run with inbound, reader, endpoint, signal }
  · rw [heq]
    exact onward_of_ended rfl rfl hsent hreason
  · rw [heq]
    simp only [Endpoint.sent, Prod.mk.injEq] at hsent
    obtain ⟨hwritten, hhalfCloses, -⟩ := hsent
    refine ⟨rfl, fun _ => ⟨by simp [hactive], ?_, hhalfCloses⟩, ?_, ?_, hreason⟩
    · rw [outgoing, outgoing, hidle]
      simp only [hwritten]
      rfl
    · intro hended
      cases hended
    · intro hended
      cases hended

/-- A step in which the connection refuses a frame, and gets nothing. -/
structure Refusal (run run' : ClientRun) : Prop where
  going : run.network.phase ≠ .ended
  refused : run'.Refused
  written : run'.endpoint.written = run.endpoint.written
  reason : ∀ reason, run.signal.reason = some reason → run'.signal.reason = some reason

/-- A refused write gives the connection nothing, and is known from then on. -/
theorem refusal_of_write {answer : WriteAnswer} {endpoint : Endpoint}
    (going : run.network.phase ≠ .ended)
    (write : run.endpoint.write run.network.inFlight = (answer, endpoint))
    (refused : answer.refused = true) (same : run'.endpoint = endpoint)
    (reason : ∀ reason, run.signal.reason = some reason → run'.signal.reason = some reason) :
    Refusal run run' := by
  refine ⟨going, ⟨answer, ?_, refused⟩, ?_, reason⟩
  · rw [same]
    exact Endpoint.lastWrite_of_write write
  · rw [same]
    cases answer with
    | accepted n =>
      obtain ⟨-, hwritten⟩ := Endpoint.written_of_write_accepted write
      have hzero : n = 0 := by simpa [WriteAnswer.refused] using refused
      rw [hwritten, hzero, List.take_zero, List.append_nil]
    | fault failure => exact Endpoint.written_of_write_fault write

/-- Sending moves what is queued into the frame that is sent, and from there to the connection. -/
theorem onward_sent (did : Network.Sent run run') : Onward run run' ∨ Refusal run run' := by
  cases did with
  | @fetched frame outbound network receive going same idle flight empty held =>
    obtain ⟨hitems, rfl⟩ := Mailbox.receive_message receive
    refine .inl ⟨?_, fun _ => ⟨going, ?_, rfl⟩, fun _ => rfl, fun _ => .inl rfl, fun _ => id⟩
    · simp [keyboard, Mailbox.popped]
    · simp only [outgoing, idle, flight, hitems, List.flatten_cons, List.append_nil,
        List.append_assoc]
  | @wrote n endpoint network write pos going same flight empty held =>
    obtain ⟨-, hwritten⟩ := Endpoint.written_of_write_accepted write
    have hrest := run.endpoint.write_rest run.network.inFlight
    rw [write] at hrest
    obtain ⟨-, -, hhalfCloses, -⟩ := hrest
    refine .inl ⟨rfl, fun _ => ⟨going, ?_, hhalfCloses⟩, ?_, fun _ => .inl hhalfCloses,
      fun _ => id⟩
    · simp only [outgoing, hwritten, flight]
      rw [List.append_assoc run.endpoint.written, List.take_append_drop]
    · intro hended
      exact absurd (same.symm.trans hended) going
  | @blocked fault endpoint write =>
    have hwritten := Endpoint.written_of_write_fault write
    have hrest := run.endpoint.write_rest run.network.inFlight
    rw [write] at hrest
    obtain ⟨-, -, hhalfCloses, -⟩ := hrest
    refine .inl ⟨rfl, fun hgoing => ⟨hgoing, ?_, hhalfCloses⟩, fun _ => hwritten,
      fun _ => .inl hhalfCloses, fun _ => id⟩
    simp only [outgoing, hwritten]
  | failed write refused active =>
    refine .inr
      (refusal_of_write (by simp [active]) write refused (Network.endpoint_closeDown _) ?_)
    intro reason hreason
    rw [Network.serverGone, Network.reason_closeDown]
    exact ExitSignal.reason_finish hreason _
  | flushFailed write refused flushing =>
    exact .inr (refusal_of_write (by simp [flushing]) write refused rfl fun _ => id)
  | flushed flushing idle drained =>
    refine .inl ⟨rfl, fun hgoing => absurd rfl hgoing, fun _ => rfl, fun _ => .inr ?_, fun _ => id⟩
    exact ⟨by simp [flushing], by simp [outgoing, idle, drained]⟩
  | outboundEnded relaying closed =>
    exact .inl (onward_closeDown (by rw [relaying]; rfl) (by rw [relaying]; rfl) rfl fun _ => id)

/-- Receiving sends nothing. -/
theorem onward_received (did : Network.Received run run') : Onward run run' := by
  cases did with
  | @pulled payload reader endpoint relaying pull =>
    have hsent := run.reader.sent_pull run.endpoint
    rw [pull] at hsent
    exact onward_of_same rfl rfl hsent (by rw [relaying]; rfl) (by rw [relaying]; rfl) rfl
  | @streamOver pulled reader endpoint relaying pull ended =>
    have hsent := run.reader.sent_pull run.endpoint
    rw [pull] at hsent
    refine onward_closeDown (by rw [relaying]; rfl) (by rw [relaying]; rfl) hsent ?_
    intro reason hreason
    exact ExitSignal.reason_finish hreason _
  | @nothing reader endpoint relaying pull =>
    have hsent := run.reader.sent_pull run.endpoint
    rw [pull] at hsent
    exact onward_of_same rfl rfl hsent rfl rfl rfl
  | offered delivering offer full overflow closed =>
    exact onward_of_same rfl rfl rfl (by rw [delivering]; rfl) (by rw [delivering]; rfl) rfl
  | waits delivering offer => exact onward_of_same rfl rfl rfl rfl rfl rfl
  | overflows delivering offer =>
    refine onward_closeDown (by rw [delivering]; rfl) (by rw [delivering]; rfl) rfl ?_
    intro reason hreason
    exact ExitSignal.reason_finish hreason _
  | closed delivering offer =>
    exact onward_closeDown (by rw [delivering]; rfl) (by rw [delivering]; rfl) rfl fun _ => id
  | discarded ended same => exact onward_of_same rfl rfl same rfl rfl rfl
  | drained ended same => exact onward_of_ended rfl rfl same fun _ => id

theorem onward_ended (did : Network.Ended run run') : Onward run run' := by
  cases did with
  | calledOff called active idle => exact onward_closeDown active idle rfl fun _ => id
  | flushTimedOut flushing => exact onward_of_ended rfl rfl rfl fun _ => id
  | drainTimedOut ended => exact onward_of_ended rfl rfl rfl fun _ => id

theorem onward_display (did : Display.Did run run') : Onward run run' := by
  cases did <;> exact onward_of_same rfl rfl rfl rfl rfl rfl

/-- What a step is for the way out. -/
inductive Outward (run : ClientRun) : ClientEvent → ClientRun → Prop
  | typed (line : String) : Outward run (.typed line) { run with lines := run.lines ++ [line] }
  | inputEnds : Outward run .inputEnds { run with inputEnded := true }
  | input {move : ClientMove} {run' : ClientRun} (did : Input.Did run run') :
      Outward run (.move move) run'
  | onward {event : ClientEvent} {run' : ClientRun} (silent : ClientEvent.lines [event] = [])
      (onward : Onward run run') : Outward run event run'
  | refusal {event : ClientEvent} {run' : ClientRun} (refusal : Refusal run run') :
      Outward run event run'

theorem outward_step (run : ClientRun) (event : ClientEvent) :
    Outward run event (run.step event) := by
  cases event with
  | typed line => exact .typed line
  | inputEnds => exact .inputEnds
  | network change =>
    exact .onward rfl (onward_of_same rfl rfl (Endpoint.sent_undergo _ _) rfl rfl rfl)
  | allow bytes => exact .onward rfl (onward_of_same rfl rfl rfl rfl rfl rfl)
  | clock now => exact .onward rfl (onward_of_same rfl rfl rfl rfl rfl rfl)
  | move move =>
    rcases run.step_move move with heq | did
    · rw [heq]
      exact .onward rfl (onward_of_same rfl rfl rfl rfl rfl rfl)
    · cases did with
      | input did => exact .input did
      | sent did =>
        rcases onward_sent did with honward | hrefusal
        · exact .onward rfl honward
        · exact .refusal hrefusal
      | received did => exact .onward rfl (onward_received did)
      | ended did => exact .onward rfl (onward_ended did)
      | display did => exact .onward rfl (onward_display did)

end ClientRun

end ChatRelay
