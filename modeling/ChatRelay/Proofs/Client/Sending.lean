import ChatRelay.Proofs.Client.Outward
import Mathlib.Data.List.Induction
import Mathlib.Data.List.Infix

/-!
# What a client sends

A client whose outbound mailbox lets the input wait sends what is typed, and nothing else. What is
on its way out, what the input has at hand, and what is still to be read make up what was typed, and
every step moves a part of it further (`Outgoing`); so at every moment the bytes written are the
beginning of what was typed, as long as a connection that has refused a frame takes nothing later.
If it is the input that ends the client, everything is on its way by then (`Concluded`), and has
been sent when the client has flushed (`sent_in_order`).
-/

namespace ChatRelay

namespace ClientRun

variable {run run' : ClientRun}

/-! ## The beginning of what was typed -/

/-- What the lines typed in `events` are sent as. -/
def messages (config : ClientConfig) (events : List ClientEvent) : Bytes :=
  (Input.frames config.codec config.outbound (ClientEvent.lines events)).flatten

/-- What is on its way out is the beginning of what was typed in `events`. -/
structure Outgoing (config : ClientConfig) (events : List ClientEvent) (run : ClientRun) :
    Prop where
  codec : run.codec = config.codec
  limits : run.outbound.queue.limits = config.outbound
  ended : run.inputEnded = true → .inputEnds ∈ events
  written : run.endpoint.written <+: messages config events
  unclosed : run.network.phase ≠ .ended → run.endpoint.halfCloses = 0
  /-- While the input reads, all that it has read is on its way, or at hand. -/
  reading : run.network.phase ≠ .ended → run.input ≠ .finished → ∃ consumed,
    ClientEvent.lines events = consumed ++ run.lines ∧
    (∀ line ∈ consumed, Input.trim line ≠ quitCommand) ∧
    run.outgoing ++ (run.input.atHand config.outbound).flatten =
      (Input.frames config.codec config.outbound consumed).flatten
  finished : run.network.phase ≠ .ended → run.input = .finished →
    run.outgoing <+: messages config events

variable {config : ClientConfig} {events : List ClientEvent}

theorem outgoing_new (config : ClientConfig) (sink : Sink) :
    Outgoing config [] (new config .idle sink) := by
  refine ⟨rfl, rfl, fun hended => (nomatch hended), List.nil_prefix, fun _ => rfl, fun _ _ => ?_,
    fun _ hinput => (nomatch hinput)⟩
  exact ⟨[], rfl, fun line hmem => (nomatch hmem), rfl⟩

/-- What the lines read so far become is the beginning of what all lines become. -/
theorem frames_consumed {consumed rest : List String}
    (h : ClientEvent.lines events = consumed ++ rest) :
    (Input.frames config.codec config.outbound consumed).flatten <+: messages config events := by
  obtain ⟨more, hmore⟩ := Input.frames_prefix consumed rest
  rw [messages, h, ← hmore, List.flatten_append]
  exact List.prefix_append _ _

theorem Outgoing.outgoing_prefix (h : Outgoing config events run)
    (hphase : run.network.phase ≠ .ended) : run.outgoing <+: messages config events := by
  by_cases hinput : run.input = .finished
  · exact h.finished hphase hinput
  · obtain ⟨consumed, hlines, -, hframes⟩ := h.reading hphase hinput
    refine List.IsPrefix.trans ?_ (frames_consumed hlines)
    rw [← hframes]
    exact List.prefix_append _ _

/-- An event that is no typing leaves what was typed as it is. -/
theorem Outgoing.later (h : Outgoing config events run) {event : ClientEvent}
    (hevent : ClientEvent.lines [event] = []) : Outgoing config (events ++ [event]) run := by
  have hlines : ClientEvent.lines (events ++ [event]) = ClientEvent.lines events := by
    rw [ClientEvent.lines_append, hevent, List.append_nil]
  have hmessages : messages config (events ++ [event]) = messages config events := by
    rw [messages, hlines, messages]
  refine ⟨h.codec, h.limits, fun hended => List.mem_append_left _ (h.ended hended), ?_, h.unclosed,
    ?_, ?_⟩
  · rw [hmessages]
    exact h.written
  · rw [hlines]
    exact h.reading
  · rw [hmessages]
    exact h.finished

/-- A typed line waits behind those that have not been read. -/
theorem Outgoing.typed (h : Outgoing config events run) (line : String) :
    Outgoing config (events ++ [.typed line]) { run with lines := run.lines ++ [line] } := by
  have hlines : ClientEvent.lines (events ++ [.typed line]) = ClientEvent.lines events ++ [line] :=
    ClientEvent.lines_append events [.typed line]
  have hprefix : messages config events <+: messages config (events ++ [.typed line]) :=
    frames_consumed hlines
  refine ⟨h.codec, h.limits, fun hended => List.mem_append_left _ (h.ended hended),
    h.written.trans hprefix, h.unclosed, fun hphase hinput => ?_,
    fun hphase hinput => (h.finished hphase hinput).trans hprefix⟩
  obtain ⟨consumed, hconsumed, hquit, hframes⟩ := h.reading hphase hinput
  exact ⟨consumed, by rw [hlines, hconsumed, List.append_assoc], hquit, hframes⟩

theorem Outgoing.inputEnds (h : Outgoing config events run) :
    Outgoing config (events ++ [.inputEnds]) { run with inputEnded := true } := by
  have hlater : Outgoing config (events ++ [.inputEnds]) run := h.later rfl
  exact ⟨hlater.codec, hlater.limits, fun _ => by simp, hlater.written, hlater.unclosed,
    hlater.reading, hlater.finished⟩

theorem Outgoing.onward (h : Outgoing config events run) (onward : Onward run run') :
    Outgoing config events run' := by
  obtain ⟨hcodec, hlimits, hlines, hinput, hended⟩ := keyboard_eq onward.keyboard
  refine ⟨hcodec.trans h.codec, hlimits.trans h.limits, ?_, ?_, ?_, ?_, ?_⟩
  · rw [hended]
    exact h.ended
  · by_cases hphase : run'.network.phase = .ended
    · rw [onward.stops hphase]
      exact h.written
    · obtain ⟨hbefore, houtgoing, -⟩ := onward.flows hphase
      have hwritten : run'.endpoint.written <+: run'.outgoing := by
        rw [outgoing, List.append_assoc]
        exact List.prefix_append _ _
      exact (houtgoing ▸ hwritten).trans (h.outgoing_prefix hbefore)
  · intro hphase
    obtain ⟨hbefore, -, hhalfCloses⟩ := onward.flows hphase
    exact hhalfCloses.trans (h.unclosed hbefore)
  · intro hphase hgoing
    obtain ⟨hbefore, houtgoing, -⟩ := onward.flows hphase
    rw [hinput] at hgoing ⊢
    rw [hlines, houtgoing]
    exact h.reading hbefore hgoing
  · intro hphase hfinished
    obtain ⟨hbefore, houtgoing, -⟩ := onward.flows hphase
    rw [houtgoing]
    exact h.finished hbefore (hinput ▸ hfinished)

/-- A frame that a queue never holds is not on its way, and an empty one cannot be seen there. -/
theorem flatten_admits (limits : QueueLimits) (frame : Bytes) :
    ([frame].filter limits.admits).flatten =
      ((InputState.sending frame).atHand limits).flatten := by
  by_cases hempty : frame = []
  · subst hempty
    simp [InputState.atHand, QueueLimits.admits]
  · simp only [InputState.atHand, QueueLimits.admits, List.filter_cons, List.filter_nil]
    by_cases hlong : frame.length ≤ limits.highWater <;> simp [hempty, hlong]

/-- Reading on to the end of the input, or to the quit command, leaves what has been read. -/
theorem Outgoing.stopped (h : Outgoing config events run) {lines : List String}
    {signal : ExitSignal} : Outgoing config events { run with lines, signal, input := .finished } :=
  ⟨h.codec, h.limits, h.ended, h.written, h.unclosed, fun _ hinput => absurd rfl hinput,
    fun hphase _ => h.outgoing_prefix hphase⟩

/-- The input has read a line, which became `frame?`. -/
theorem Outgoing.read (h : Outgoing config events run) {line : String} {lines : List String}
    {input : InputState} (reading : run.input = .reading) (next : run.lines = line :: lines)
    (goesOn : Input.trim line ≠ quitCommand) (hinput : input ≠ .finished)
    (hatHand : input.atHand config.outbound =
      (Input.frame? config.codec line).toList.filter (·.length ≤ config.outbound.highWater)) :
    Outgoing config events { run with lines, input } := by
  refine ⟨h.codec, h.limits, h.ended, h.written, h.unclosed, fun hphase _ => ?_,
    fun _ hfinished => absurd hfinished hinput⟩
  obtain ⟨consumed, hlines, hquit, hframes⟩ := h.reading hphase (by simp [reading])
  rw [reading] at hframes
  refine ⟨consumed ++ [line], ?_, ?_, ?_⟩
  · rw [hlines, next, List.append_assoc]
    rfl
  · intro other hmem
    rcases List.mem_append.1 hmem with hmem | hmem
    · exact hquit other hmem
    · rwa [List.mem_singleton.1 hmem]
  · rw [Input.frames_append hquit, Input.frames_line goesOn, List.flatten_append, ← hframes,
      hatHand]
    simp [InputState.atHand, outgoing]

/-- Every step of the input moves a frame on, or leaves it where it is. -/
theorem Outgoing.did (h : Outgoing config events run)
    (hpolicy : config.outbound.policy = .blockProducer) (did : Input.Did run run') :
    Outgoing config events run' := by
  cases did with
  | skipped reading next goesOn refused =>
    rw [h.codec] at refused
    exact h.read reading next goesOn (by simp [reading]) (by rw [reading, refused]; rfl)
  | framed reading next goesOn accepted =>
    rw [h.codec] at accepted
    exact h.read reading next goesOn (by simp) (by rw [accepted]; rfl)
  | quits reading next quit => exact h.stopped
  | ends reading next ended => exact h.stopped
  | waits sending offer =>
    obtain ⟨-, -, rfl⟩ := Mailbox.offer_full offer
    exact ⟨h.codec, h.limits, h.ended, h.written, h.unclosed, h.reading, h.finished⟩
  | @offered frame answer outbound sending offer full overflow closed =>
    have hoffered := Mailbox.items_offer (h.limits ▸ hpolicy) offer full closed
    refine ⟨h.codec, (Mailbox.limits_of_offer offer).trans h.limits, h.ended, h.written, h.unclosed,
      fun hphase _ => ?_, fun _ hfinished => (nomatch hfinished)⟩
    obtain ⟨consumed, hlines, hquit, hframes⟩ := h.reading hphase (by simp [sending])
    refine ⟨consumed, hlines, hquit, ?_⟩
    rw [sending, ← flatten_admits] at hframes
    rw [← hframes]
    simp only [outgoing, hoffered.2, h.limits, List.flatten_append, List.append_assoc]
    simp [InputState.atHand]
  | overflows sending offer =>
    exact absurd rfl (Mailbox.items_offer (h.limits ▸ hpolicy) offer (by simp) (by simp)).1
  | @closed frame outbound sending offer =>
    have hsame : outbound = run.outbound := by
      cases hclosed : run.outbound.closed with
      | false => exact absurd offer (Mailbox.offer_ne_closed hclosed)
      | true =>
        rw [Mailbox.offer_closed hclosed] at offer
        exact (Prod.mk.inj offer).2.symm
    rw [hsame]
    exact h.stopped
  | calledOff called => exact h.stopped

/-- An event brings what is on its way further, or the connection refuses a frame. -/
theorem Outgoing.step (h : Outgoing config events run)
    (hpolicy : config.outbound.policy = .blockProducer) (event : ClientEvent) :
    Outgoing config (events ++ [event]) (run.step event) ∨ Refusal run (run.step event) := by
  have houtward := run.outward_step event
  generalize run.step event = run' at houtward
  cases houtward with
  | typed line => exact .inl (h.typed line)
  | inputEnds => exact .inl h.inputEnds
  | input did => exact .inl ((h.did hpolicy did).later rfl)
  | onward silent onward => exact .inl ((h.onward onward).later silent)
  | refusal refusal => exact .inr refusal

/-- A client sends the beginning of what was typed, at least until the connection refuses a
frame. -/
theorem outgoing_run (config : ClientConfig) (sink : Sink)
    (hpolicy : config.outbound.policy = .blockProducer) (events : List ClientEvent) :
    Outgoing config events ((new config .idle sink).run events) ∨
      ∃ before after, events = before ++ after ∧ ((new config .idle sink).run before).Refused ∧
        ((new config .idle sink).run before).endpoint.written <+: messages config events := by
  induction events using List.reverseRecOn with
  | nil => exact .inl (outgoing_new config sink)
  | append_singleton events event ih =>
    have hmore : messages config events <+: messages config (events ++ [event]) :=
      frames_consumed (ClientEvent.lines_append _ _)
    rcases ih with hout | ⟨before, after, heq, hrefused, hprefix⟩
    · rw [run_concat]
      rcases hout.step hpolicy event with hnext | hrefusal
      · exact .inl hnext
      · refine .inr ⟨events ++ [event], [], (List.append_nil _).symm, ?_, ?_⟩
        · rw [run_concat]
          exact hrefusal.refused
        · rw [run_concat, hrefusal.written]
          exact hout.written.trans hmore
    · exact .inr ⟨before, after ++ [event], by rw [heq, List.append_assoc], hrefused,
        hprefix.trans hmore⟩

/-! ## All that was typed -/

/-- The input has ended and has put `whole` on its way. -/
structure Concluded (whole : Bytes) (exit : ClientExit) (run : ClientRun) : Prop where
  input : run.input = .finished
  reason : run.signal.reason = some exit
  going : run.network.phase ≠ .ended → run.outgoing = whole ∧ run.endpoint.halfCloses = 0
  ended : run.network.phase = .ended → 0 < run.endpoint.halfCloses → run.endpoint.written = whole

variable {whole : Bytes} {exit : ClientExit}

theorem Concluded.onward (h : Concluded whole exit run) (onward : Onward run run') :
    Concluded whole exit run' := by
  obtain ⟨-, -, -, hinput, -⟩ := keyboard_eq onward.keyboard
  refine ⟨hinput.trans h.input, onward.reason _ h.reason, fun hphase => ?_,
    fun hphase hpos => ?_⟩
  · obtain ⟨hbefore, houtgoing, hhalfCloses⟩ := onward.flows hphase
    rw [houtgoing, hhalfCloses]
    exact h.going hbefore
  · rw [onward.stops hphase]
    rcases onward.flushed hphase with hsame | ⟨hbefore, hall⟩
    · rw [hsame] at hpos
      by_cases hbefore : run.network.phase = .ended
      · exact h.ended hbefore hpos
      · exact absurd (h.going hbefore).2 (Nat.ne_of_gt hpos)
    · rw [← hall]
      exact (h.going hbefore).1

/-- The input does nothing once it has ended. -/
theorem Concluded.step (h : Concluded whole exit run) (event : ClientEvent) :
    Concluded whole exit (run.step event) ∨ Refusal run (run.step event) := by
  have houtward := run.outward_step event
  generalize run.step event = run' at houtward
  cases houtward with
  | typed line => exact .inl ⟨h.input, h.reason, h.going, h.ended⟩
  | inputEnds => exact .inl ⟨h.input, h.reason, h.going, h.ended⟩
  | input did =>
    cases did with
    | calledOff called => exact .inl ⟨rfl, h.reason, h.going, h.ended⟩
    | skipped reading | framed reading | quits reading | ends reading =>
      exact absurd (reading.symm.trans h.input) (by simp)
    | waits sending | offered sending | overflows sending | closed sending =>
      exact absurd (sending.symm.trans h.input) (by simp)
  | onward silent onward => exact .inl (h.onward onward)
  | refusal refusal => exact .inr refusal

/-- A network part that is over stays so, and sends nothing. -/
theorem ended_step (hover : run.network.phase = .ended) (event : ClientEvent) :
    (run.step event).network.phase = .ended ∧
      (run.step event).endpoint.written = run.endpoint.written := by
  have houtward := run.outward_step event
  generalize run.step event = run' at houtward
  cases houtward with
  | typed line => exact ⟨hover, rfl⟩
  | inputEnds => exact ⟨hover, rfl⟩
  | input did => cases did <;> exact ⟨hover, rfl⟩
  | onward silent onward =>
    have hafter : run'.network.phase = .ended := by
      by_cases hphase : run'.network.phase = .ended
      · exact hphase
      · exact absurd hover (onward.flows hphase).1
    exact ⟨hafter, onward.stops hafter⟩
  | refusal refusal => exact absurd hover refusal.going

theorem ended_run (hover : run.network.phase = .ended) (events : List ClientEvent) :
    (run.run events).network.phase = .ended ∧
      (run.run events).endpoint.written = run.endpoint.written := by
  induction events generalizing run with
  | nil => exact ⟨hover, rfl⟩
  | cons event events ih =>
    obtain ⟨hover', hwritten⟩ := ended_step hover event
    obtain ⟨hover'', hwritten'⟩ := ih hover'
    exact ⟨hover'', hwritten'.trans hwritten⟩

/-- The connection refuses nothing. -/
def NeverRefused : ClientRun → List ClientEvent → Prop := Throughout fun run => ¬ run.Refused

instance (start : ClientRun) (events : List ClientEvent) : Decidable (NeverRefused start events) :=
  inferInstanceAs (Decidable (Throughout (fun run => ¬ run.Refused) start events))

theorem concluded_run (h : Concluded whole exit run) (events : List ClientEvent)
    (hgoes : run.network.phase = .ended ∨ NeverRefused run events) :
    Concluded whole exit (run.run events) := by
  induction events generalizing run with
  | nil => exact h
  | cons event events ih =>
    rcases h.step event with hnext | hrefusal
    · exact ih hnext (hgoes.imp (fun hover => (ended_step hover event).1) Throughout.later)
    · rcases hgoes with hover | hnever
      · exact absurd hover hrefusal.going
      · exact absurd hrefusal.refused hnever.later.now

/-- **The input that ends the client has put everything on its way.** -/
theorem Outgoing.concluded (h : Outgoing config events run) (hwired : run.Wired)
    (hpolicy : config.outbound.policy = .blockProducer) (hquiet : run.signal.calledOff = false)
    (hcalled : (run.step (.move .input)).signal.calledOff = true) :
    Concluded (messages config events) (Input.exit (ClientEvent.lines events))
        (run.step (.move .input)) ∧
      (quitCommand ∈ (ClientEvent.lines events).map Input.trim ∨ .inputEnds ∈ events) := by
  obtain ⟨hactive, -, hreason⟩ := hwired.quiet hquiet
  have hgoing : run.network.phase ≠ .ended := by simp [hactive]
  obtain ⟨run', hmove, hstep⟩ := exists_move hquiet hcalled
  rw [hstep] at hcalled ⊢
  have hdid := Input.did_step hmove
  cases hdid with
  | @quits line lines reading next quit =>
    obtain ⟨consumed, hlines, hquit, hframes⟩ := h.reading hgoing (by simp [reading])
    have hmem : quitCommand ∈ (ClientEvent.lines events).map Input.trim := by
      rw [hlines, next, ← quit]
      simp
    refine ⟨⟨rfl, ?_, fun _ => ⟨?_, h.unclosed hgoing⟩, fun hover => absurd hover hgoing⟩,
      .inl hmem⟩
    · rw [Input.exit, if_pos hmem, ExitSignal.finish, hreason]
      rfl
    · rw [messages, hlines, next, Input.frames_append hquit, Input.frames_quit quit,
        List.append_nil, ← hframes, reading]
      exact (List.append_nil _).symm
  | ends reading next ended =>
    obtain ⟨consumed, hlines, hquit, hframes⟩ := h.reading hgoing (by simp [reading])
    rw [next, List.append_nil] at hlines
    have hmem : quitCommand ∉ (ClientEvent.lines events).map Input.trim := by
      rw [hlines]
      intro hmem
      obtain ⟨line, hline, htrim⟩ := List.mem_map.1 hmem
      exact hquit line hline htrim
    refine ⟨⟨rfl, ?_, fun _ => ⟨?_, h.unclosed hgoing⟩, fun hover => absurd hover hgoing⟩,
      .inr (h.ended ended)⟩
    · rw [Input.exit, if_neg hmem, ExitSignal.finish, hreason]
      rfl
    · rw [messages, hlines, ← hframes, reading]
      exact (List.append_nil _).symm
  | overflows sending offer =>
    exact absurd rfl (Mailbox.items_offer (h.limits ▸ hpolicy) offer (by simp) (by simp)).1
  | skipped | framed | waits | offered | closed | calledOff =>
    exact absurd (hquiet.symm.trans hcalled) (by simp)

/-- Nothing is typed once the input has ended. -/
def TypedBeforeEnd (events : List ClientEvent) : Prop :=
  ∀ before after, events = before ++ .inputEnds :: after → ClientEvent.lines after = []

theorem typedBeforeEnd_of_notMem {events : List ClientEvent} (h : .inputEnds ∉ events) :
    TypedBeforeEnd events := by
  intro before after heq
  exact absurd (heq ▸ List.mem_append_right before List.mem_cons_self) h

/-- Behind the quit command and the end of the input, no line counts. -/
theorem messages_later (config : ClientConfig) (before after : List ClientEvent)
    (hend : quitCommand ∈ (ClientEvent.lines before).map Input.trim ∨ .inputEnds ∈ before)
    (htyped : TypedBeforeEnd (before ++ after)) :
    messages config (before ++ after) = messages config before ∧
      Input.exit (ClientEvent.lines (before ++ after)) = Input.exit (ClientEvent.lines before) := by
  rw [messages, ClientEvent.lines_append]
  rcases hend with hquit | hmem
  · refine ⟨by rw [Input.frames_of_quit hquit, messages], ?_⟩
    rw [Input.exit, Input.exit, if_pos hquit, if_pos]
    rw [List.map_append]
    exact List.mem_append_left _ hquit
  · obtain ⟨first, second, rfl⟩ := List.append_of_mem hmem
    have hlater := htyped first (second ++ after) (by rw [List.append_assoc, List.cons_append])
    rw [ClientEvent.lines_append] at hlater
    rw [(List.append_eq_nil_iff.1 hlater).2, List.append_nil]
    exact ⟨rfl, rfl⟩

/-- A client that its input has ended has on its way, or has sent, what was typed. -/
theorem concluded_of_endedFirst (sink : Sink) (hpolicy : config.outbound.policy = .blockProducer)
    (htyped : TypedBeforeEnd events) (hfirst : EndedFirstBy .input (new config .idle sink) events)
    (hnever : NeverRefused (new config .idle sink) events) :
    Concluded (messages config events) (Input.exit (ClientEvent.lines events))
      ((new config .idle sink).run events) := by
  obtain ⟨before, after, rfl, hquiet, hcalled⟩ := hfirst
  have hout : Outgoing config before ((new config .idle sink).run before) := by
    rcases outgoing_run config sink hpolicy before with hout | ⟨first, second, heq, hrefused, -⟩
    · exact hout
    · exact absurd hrefused (hnever.upTo first second heq)
  have hwired := wired_run (wired_new config .idle sink) before
  rw [run_concat] at hcalled
  obtain ⟨hconcluded, hend⟩ := hout.concluded hwired hpolicy hquiet hcalled
  obtain ⟨hmessages, hexit⟩ := messages_later config before _ hend htyped
  rw [hmessages, hexit, run_append]
  exact concluded_run hconcluded after (.inr hnever.since.later)

/-- How a client ends for a reason, unless its display has failed. -/
def unlessBroken (exit : ClientExit) (run : ClientRun) : Except ServiceError ClientExit :=
  match run.display with
  | .finished (some fault) => .error (.io fault)
  | _ => .ok exit

theorem Concluded.result (h : Concluded whole exit run) {result : Except ServiceError ClientExit}
    (hresult : run.result? = some result) : result = run.unlessBroken exit := by
  unfold result? at hresult
  unfold unlessBroken
  split at hresult
  · next fault _ _ hdisplay =>
    rw [hdisplay]
    exact (Option.some.inj hresult).symm
  · next _ _ hdisplay =>
    rw [hdisplay]
    rw [h.reason] at hresult
    exact (Option.some.inj hresult).symm
  · cases hresult

/-- Once the connection has refused a frame, it takes nothing any more. -/
def FailsForGood (start : ClientRun) (events : List ClientEvent) : Prop :=
  ∀ before after, events = before ++ after → (start.run before).Refused →
    (start.run events).endpoint.written = (start.run before).endpoint.written

theorem NeverRefused.failsForGood {start : ClientRun} (h : NeverRefused start events) :
    FailsForGood start events :=
  fun before after heq hrefused => absurd hrefused (h before after heq)

end ClientRun

end ChatRelay
