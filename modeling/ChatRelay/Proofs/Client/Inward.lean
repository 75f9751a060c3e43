import ChatRelay.Proofs.Client.Runs

/-!
# The way in of a client

What a step does to the frames that arrive. They are read from the connection, wait for the inbound
mailbox, are queued there, and are taken and shown by the display. A step of receiving or of the
display moves one of them on; no other step touches them, except that the network part stops reading
when it ends (`inward_step`).
-/

namespace ChatRelay

/-! ## What arrives -/

/-- The bytes that arrive, in order. -/
def ClientEvent.received (events : List ClientEvent) : Bytes :=
  events.flatMap fun
    | .network (.arrive (.data bytes)) => bytes
    | _ => []

theorem ClientEvent.received_append (before after : List ClientEvent) :
    received (before ++ after) = received before ++ received after := List.flatMap_append

theorem ClientEvent.received_cons (event : ClientEvent) (events : List ClientEvent) :
    received (event :: events) = received [event] ++ received events :=
  received_append [event] events

/-- The server sends bytes, and none after it has ended the stream. -/
structure ServerStream (events : List ClientEvent) : Prop where
  data : ∀ arrival, .network (.arrive arrival) ∈ events → ∃ b bytes, arrival = .data (b :: bytes)
  ended : ∀ before after, events = before ++ .network .finish :: after →
    ClientEvent.received after = []

theorem ServerStream.later {event : ClientEvent} {events : List ClientEvent}
    (h : ServerStream (event :: events)) : ServerStream events :=
  ⟨fun arrival hmem => h.data arrival (List.mem_cons_of_mem _ hmem),
    fun before after heq => h.ended (event :: before) after (congrArg (event :: ·) heq)⟩

namespace ClientRun

variable {run run' : ClientRun}

/-! ## On the way in -/

/-- A step that brings the display nothing, and takes nothing from what is ahead but for good. -/
structure Unheard (run run' : ClientRun) : Prop where
  shown : run'.sink.shown = run.sink.shown
  display : run'.display = run.display
  items : run'.inbound.queue.items = run.inbound.queue.items
  limits : run'.inbound.queue.limits = run.inbound.queue.limits
  closed : run.inbound.closed = true → run'.inbound.closed = true
  reader : run'.reader = run.reader
  active : run'.network.phase = .active → run.network.phase = .active ∧
    run'.network.held = run.network.held ∧ run'.endpoint.arrivals = run.endpoint.arrivals ∧
    run'.endpoint.atEnd = run.endpoint.atEnd

/-- A step that leaves the display, its mailbox and what is read as they are. -/
theorem unheard_of_same (display : (run'.sink.shown, run'.display) = (run.sink.shown, run.display))
    (inbound : run'.inbound = run.inbound) (reader : run'.reader = run.reader)
    (phase : run'.network.phase = run.network.phase)
    (held : run'.network.held = run.network.held)
    (arrivals : run'.endpoint.arrivals = run.endpoint.arrivals)
    (atEnd : run'.endpoint.atEnd = run.endpoint.atEnd) : Unheard run run' := by
  obtain ⟨hshown, hdisplay⟩ := Prod.mk.inj display
  refine ⟨hshown, hdisplay, by rw [inbound], by rw [inbound], ?_, reader, ?_⟩
  · intro hclosed
    rwa [inbound]
  · intro hactive
    exact ⟨phase ▸ hactive, held, arrivals, atEnd⟩

/-- A step after which nothing is read any more. -/
theorem unheard_of_inactive
    (display : (run'.sink.shown, run'.display) = (run.sink.shown, run.display))
    (inbound : run'.inbound = run.inbound ∨ run'.inbound = run.inbound.close)
    (reader : run'.reader = run.reader) (inactive : run'.network.phase ≠ .active) :
    Unheard run run' := by
  obtain ⟨hshown, hdisplay⟩ := Prod.mk.inj display
  obtain heq | heq := inbound
  · refine ⟨hshown, hdisplay, by rw [heq], by rw [heq], ?_, reader, fun h => absurd h inactive⟩
    intro hclosed
    rwa [heq]
  · refine ⟨hshown, hdisplay, by rw [heq]; rfl, by rw [heq]; rfl, ?_, reader,
      fun h => absurd h inactive⟩
    intro _
    rw [heq]
    rfl

/-- Closing down keeps what the display's mailbox holds. -/
theorem unheard_closeDown {signal : ExitSignal} {endpoint : Endpoint} :
    Unheard run (Network.closeDown { run with signal, endpoint }) := by
  obtain ⟨hphase, hinbound, hreader, hsink, hdisplay⟩ :=
    Network.closeDown_display { run with signal, endpoint }
  refine unheard_of_inactive ?_ (.inr hinbound) hreader hphase
  rw [hsink, hdisplay]

theorem unheard_input (did : Input.Did run run') : Unheard run run' := by
  cases did <;> exact unheard_of_same rfl rfl rfl rfl rfl rfl rfl

theorem unheard_sent (did : Network.Sent run run') : Unheard run run' := by
  cases did with
  | fetched receive going same idle flight empty held =>
    exact unheard_of_same rfl rfl rfl same (held.trans empty.symm) rfl rfl
  | wrote write pos going same flight empty held =>
    have hrest := run.endpoint.write_rest run.network.inFlight
    rw [write] at hrest
    exact unheard_of_same rfl rfl rfl same (held.trans empty.symm) hrest.1 hrest.2.1
  | blocked write =>
    have hrest := run.endpoint.write_rest run.network.inFlight
    rw [write] at hrest
    exact unheard_of_same rfl rfl rfl rfl rfl hrest.1 hrest.2.1
  | failed write refused active => exact unheard_closeDown
  | flushFailed write refused flushing =>
    exact unheard_of_inactive rfl (.inl rfl) rfl (by simp)
  | flushed flushing idle drained =>
    exact unheard_of_inactive rfl (.inl rfl) rfl (by simp)
  | outboundEnded relaying closed => exact unheard_closeDown

theorem unheard_ended (did : Network.Ended run run') : Unheard run run' := by
  cases did with
  | calledOff called active idle => exact unheard_closeDown
  | flushTimedOut flushing =>
    exact unheard_of_inactive rfl (.inl rfl) rfl (by simp)
  | drainTimedOut ended =>
    exact unheard_of_inactive rfl (.inl rfl) rfl (by simp)

/-- What a step is for the way in. -/
inductive Inward (run : ClientRun) : ClientEvent → ClientRun → Prop
  | arrives (arrival : Arrival) : Inward run (.network (.arrive arrival))
      { run with endpoint := run.endpoint.undergo (.arrive arrival) }
  | finishes : Inward run (.network .finish) { run with endpoint := run.endpoint.undergo .finish }
  | received {move : ClientMove} {run' : ClientRun} (did : Network.Received run run') :
      Inward run (.move move) run'
  | display {move : ClientMove} {run' : ClientRun} (did : Display.Did run run') :
      Inward run (.move move) run'
  | unheard {event : ClientEvent} {run' : ClientRun} (silent : ClientEvent.received [event] = [])
      (unheard : Unheard run run') : Inward run event run'

theorem inward_step (run : ClientRun) (event : ClientEvent) :
    Inward run event (run.step event) := by
  have hsame : Unheard run run := unheard_of_same rfl rfl rfl rfl rfl rfl rfl
  cases event with
  | typed line => exact .unheard rfl (unheard_of_same rfl rfl rfl rfl rfl rfl rfl)
  | inputEnds => exact .unheard rfl (unheard_of_same rfl rfl rfl rfl rfl rfl rfl)
  | allow bytes => exact .unheard rfl (unheard_of_same rfl rfl rfl rfl rfl rfl rfl)
  | clock now => exact .unheard rfl (unheard_of_same rfl rfl rfl rfl rfl rfl rfl)
  | network change =>
    cases change with
    | arrive arrival => exact .arrives arrival
    | finish => exact .finishes
    | meet acceptance => exact .unheard rfl (unheard_of_same rfl rfl rfl rfl rfl rfl rfl)
    | widen unlimited => exact .unheard rfl (unheard_of_same rfl rfl rfl rfl rfl rfl rfl)
    | hold fault => exact .unheard rfl (unheard_of_same rfl rfl rfl rfl rfl rfl rfl)
  | move move =>
    rcases run.step_move move with heq | did
    · rw [heq]
      exact .unheard rfl hsame
    · cases did with
      | input did => exact .unheard rfl (unheard_input did)
      | sent did => exact .unheard rfl (unheard_sent did)
      | received did => exact .received did
      | ended did => exact .unheard rfl (unheard_ended did)
      | display did => exact .display did

end ClientRun

end ChatRelay
