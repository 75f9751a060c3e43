import ChatRelay.Proofs.Client.Moves
import Mathlib.Algebra.GroupWithZero.Nat
import Mathlib.Data.List.Infix

/-!
# Runs of a client

What is true of a client whatever happens in and to it. Its mailboxes are open for as long as the
network part is active, and the display's is closed from then on; and until something calls the
client off, the network part is active, the input goes on, and no reason to end has been given
(`Wired`). So whatever calls a client off first finds all of it at work (`EndedFirstBy`).
-/

namespace ChatRelay

namespace ClientRun

variable {run run' : ClientRun}

theorem run_append (start : ClientRun) (before after : List ClientEvent) :
    start.run (before ++ after) = (start.run before).run after :=
  List.foldl_append

theorem run_concat (start : ClientRun) (before : List ClientEvent) (event : ClientEvent) :
    start.run (before ++ [event]) = (start.run before).step event :=
  run_append start before [event]

theorem step_of_move {move : ClientMove} (h : run.move? move = some run') :
    run.step (.move move) = run' := by
  have hstep : run.step (.move move) = (run.move? move).getD run := rfl
  rw [hstep, h]
  rfl

/-- A move after which the client has been called off, and was not before, has been made. -/
theorem exists_move {move : ClientMove} (hquiet : run.signal.calledOff = false)
    (hcalled : (run.step (.move move)).signal.calledOff = true) :
    ∃ run', run.move? move = some run' ∧ run.step (.move move) = run' := by
  cases hmove : run.move? move with
  | some run' => exact ⟨run', rfl, step_of_move hmove⟩
  | none =>
    have hsame : run.step (.move move) = run := congrArg (Option.getD · run) hmove
    rw [hsame, hquiet] at hcalled
    cases hcalled

/-- Something holds at every moment of a run. -/
def Throughout (holds : ClientRun → Prop) (start : ClientRun) (events : List ClientEvent) : Prop :=
  ∀ before after, events = before ++ after → holds (start.run before)

theorem throughout_iff {holds : ClientRun → Prop} {start : ClientRun} {events : List ClientEvent} :
    Throughout holds start events ↔ ∀ before ∈ events.inits, holds (start.run before) := by
  constructor
  · intro h before hmem
    obtain ⟨after, heq⟩ := (List.mem_inits _ _).1 hmem
    exact h before after heq.symm
  · intro h before after heq
    exact h before ((List.mem_inits _ _).2 ⟨after, heq.symm⟩)

instance (holds : ClientRun → Prop) [DecidablePred holds] (start : ClientRun)
    (events : List ClientEvent) : Decidable (Throughout holds start events) :=
  decidable_of_iff _ throughout_iff.symm

section
variable {holds : ClientRun → Prop} {start : ClientRun} {before after : List ClientEvent}
  {event : ClientEvent}

theorem Throughout.now (h : Throughout holds start after) : holds start := h [] after rfl

theorem Throughout.later (h : Throughout holds start (event :: after)) :
    Throughout holds (start.step event) after :=
  fun first second heq => h (event :: first) second (congrArg (event :: ·) heq)

theorem Throughout.upTo (h : Throughout holds start (before ++ after)) :
    Throughout holds start before := by
  intro first second heq
  exact h first (second ++ after) (by rw [heq, List.append_assoc])

theorem Throughout.since (h : Throughout holds start (before ++ after)) :
    Throughout holds (start.run before) after := by
  intro first second heq
  rw [← run_append]
  exact h (before ++ first) second (by rw [heq, List.append_assoc])

end

/-- What holds of the parts of a client together. -/
structure Wired (run : ClientRun) : Prop where
  opened : run.network.phase = .active → run.outbound.closed = false ∧ run.inbound.closed = false
  shut : run.network.phase ≠ .active → run.inbound.closed = true
  quiet : run.signal.calledOff = false →
    run.network.phase = .active ∧ run.input ≠ .finished ∧ run.signal.reason = none

theorem wired_new (config : ClientConfig) (endpoint : Endpoint) (sink : Sink) :
    (new config endpoint sink).Wired := by
  refine ⟨fun _ => ⟨rfl, rfl⟩, fun h => absurd rfl h, fun _ => ⟨rfl, ?_, rfl⟩⟩
  intro h
  cases h

/-- The outbound mailbox is as open as it was, or the network part is not active. -/
theorem Wired.input (h : run.Wired) (did : Input.Did run run') : run'.Wired := by
  cases did with
  | skipped reading next goesOn refused => exact ⟨h.opened, h.shut, h.quiet⟩
  | framed reading next goesOn accepted =>
    refine ⟨h.opened, h.shut, fun hquiet => ?_⟩
    obtain ⟨hactive, -, hreason⟩ := h.quiet hquiet
    exact ⟨hactive, by simp, hreason⟩
  | quits reading next quit => exact ⟨h.opened, h.shut, fun hquiet => nomatch hquiet⟩
  | ends reading next ended => exact ⟨h.opened, h.shut, fun hquiet => nomatch hquiet⟩
  | waits sending offer =>
    have hclosed := Mailbox.closed_of_offer offer
    refine ⟨fun hactive => ?_, h.shut, h.quiet⟩
    rw [hclosed]
    exact h.opened hactive
  | offered sending offer full overflow closed =>
    have hclosed := Mailbox.closed_of_offer offer
    refine ⟨fun hactive => ?_, h.shut, fun hquiet => ?_⟩
    · rw [hclosed]
      exact h.opened hactive
    · obtain ⟨hactive, -, hreason⟩ := h.quiet hquiet
      exact ⟨hactive, by simp, hreason⟩
  | overflows sending offer =>
    have hclosed := Mailbox.closed_of_offer offer
    refine ⟨fun hactive => ?_, h.shut, fun hquiet => nomatch hquiet⟩
    rw [hclosed]
    exact h.opened hactive
  | closed sending offer =>
    have hclosed := Mailbox.closed_of_offer offer
    refine ⟨fun hactive => ?_, h.shut, fun hquiet => ?_⟩
    · rw [hclosed]
      exact h.opened hactive
    · -- An open mailbox does not answer that it is closed.
      obtain ⟨hactive, -, -⟩ := h.quiet hquiet
      exact absurd offer (Mailbox.offer_ne_closed (h.opened hactive).1)
  | calledOff called =>
    refine ⟨h.opened, h.shut, fun hquiet => ?_⟩
    rw [called] at hquiet
    cases hquiet

/-- Closing down leaves the active phase, and closes the display's mailbox. -/
theorem wired_closeDown (h : run.signal.calledOff = true) : (Network.closeDown run).Wired := by
  obtain ⟨-, heq⟩ | ⟨-, heq⟩ := Network.closeDown_cases run
  · rw [heq]
    exact ⟨fun hactive => (nomatch hactive), fun _ => rfl, fun hquiet => (nomatch hquiet)⟩
  · rw [heq]
    refine ⟨fun hactive => (nomatch hactive), fun _ => rfl, fun hquiet => ?_⟩
    simp only at hquiet
    rw [h] at hquiet
    cases hquiet

theorem Wired.beginDrain (h : run.Wired) (hphase : run.network.phase ≠ .active) :
    (Network.beginDrain run).Wired := by
  refine ⟨fun hactive => (nomatch hactive), fun _ => h.shut hphase, fun hquiet => ?_⟩
  exact absurd (h.quiet hquiet).1 hphase

theorem Wired.endAll (h : run.Wired) (hphase : run.network.phase ≠ .active) :
    (Network.endAll run).Wired :=
  ⟨fun hactive => (nomatch hactive), fun _ => h.shut hphase, fun hquiet => (nomatch hquiet)⟩

theorem Wired.sent (h : run.Wired) (did : Network.Sent run run') : run'.Wired := by
  cases did with
  | @fetched frame outbound network receive going same idle flight empty held =>
    have hclosed : outbound.closed = run.outbound.closed := by
      obtain ⟨-, rfl⟩ := Mailbox.receive_message receive
      rfl
    refine ⟨fun hactive => ?_, fun hphase => h.shut (same ▸ hphase), fun hquiet => ?_⟩
    · rw [hclosed]
      exact h.opened (same ▸ hactive)
    · obtain ⟨hactive, hrest⟩ := h.quiet hquiet
      exact ⟨same.trans hactive, hrest⟩
  | wrote write pos going same flight empty held =>
    refine ⟨fun hactive => h.opened (same ▸ hactive), fun hphase => h.shut (same ▸ hphase),
      fun hquiet => ?_⟩
    obtain ⟨hactive, hrest⟩ := h.quiet hquiet
    exact ⟨same.trans hactive, hrest⟩
  | blocked write => exact ⟨h.opened, h.shut, h.quiet⟩
  | failed write refused active => exact wired_closeDown rfl
  | @flushFailed answer endpoint write refused flushing =>
    have hsame : ({ run with endpoint } : ClientRun).Wired := ⟨h.opened, h.shut, h.quiet⟩
    exact hsame.beginDrain (by simp [flushing])
  | flushed flushing idle drained =>
    have hsame : ({ run with endpoint := run.endpoint.halfClose.2 } : ClientRun).Wired :=
      ⟨h.opened, h.shut, h.quiet⟩
    exact hsame.beginDrain (by simp [flushing])
  | outboundEnded relaying closed =>
    have hopened := (h.opened (by rw [relaying]; rfl)).1
    rw [closed] at hopened
    cases hopened

theorem Wired.received (h : run.Wired) (did : Network.Received run run') : run'.Wired := by
  cases did with
  | pulled relaying pull =>
    have hactive : run.network.phase = .active := by rw [relaying]; rfl
    exact ⟨fun _ => h.opened hactive, fun hphase => absurd rfl hphase,
      fun hquiet => ⟨rfl, (h.quiet hquiet).2⟩⟩
  | streamOver relaying pull ended => exact wired_closeDown rfl
  | nothing relaying pull => exact ⟨h.opened, h.shut, h.quiet⟩
  | offered delivering offer full overflow closed =>
    have hactive : run.network.phase = .active := by rw [delivering]; rfl
    refine ⟨fun _ => ?_, fun hphase => absurd rfl hphase, fun hquiet => ⟨rfl, (h.quiet hquiet).2⟩⟩
    rw [Mailbox.closed_of_offer offer]
    exact h.opened hactive
  | waits delivering offer =>
    have hclosed := Mailbox.closed_of_offer offer
    refine ⟨fun hactive => ?_, fun hphase => ?_, h.quiet⟩
    · rw [hclosed]
      exact h.opened hactive
    · rw [hclosed]
      exact h.shut hphase
  | overflows delivering offer => exact wired_closeDown rfl
  | closed delivering offer =>
    have hactive : run.network.phase = .active := by rw [delivering]; rfl
    exact absurd offer (Mailbox.offer_ne_closed (h.opened hactive).2)
  | discarded ended same => exact ⟨h.opened, h.shut, h.quiet⟩
  | @drained endpoint ended same =>
    have hsame : ({ run with endpoint } : ClientRun).Wired := ⟨h.opened, h.shut, h.quiet⟩
    exact hsame.endAll (by simp [ended])

theorem Wired.ended (h : run.Wired) (did : Network.Ended run run') : run'.Wired := by
  cases did with
  | calledOff called active idle => exact wired_closeDown called
  | flushTimedOut flushing => exact h.beginDrain (by simp [flushing])
  | drainTimedOut ended => exact h.endAll (by simp [ended])

theorem Wired.display (h : run.Wired) (did : Display.Did run run') : run'.Wired := by
  cases did with
  | @fetched message inbound waiting receive =>
    have hclosed : inbound.closed = run.inbound.closed := by
      obtain ⟨-, rfl⟩ := Mailbox.receive_message receive
      rfl
    refine ⟨fun hactive => ?_, fun hphase => ?_, h.quiet⟩
    · rw [hclosed]
      exact h.opened hactive
    · rw [hclosed]
      exact h.shut hphase
  | ended waiting drained closed => exact ⟨h.opened, h.shut, h.quiet⟩
  | showed showing take left => exact ⟨h.opened, h.shut, h.quiet⟩
  | broke showing => exact ⟨h.opened, h.shut, fun hquiet => (nomatch hquiet)⟩
  | noticed called => exact ⟨h.opened, h.shut, h.quiet⟩
  | gaveUp showing timedOut => exact ⟨h.opened, h.shut, h.quiet⟩

theorem Wired.step (h : run.Wired) (event : ClientEvent) : (run.step event).Wired := by
  cases event with
  | move move =>
    rcases run.step_move move with heq | did
    · rwa [heq]
    · cases did with
      | input did => exact h.input did
      | sent did => exact h.sent did
      | received did => exact h.received did
      | ended did => exact h.ended did
      | display did => exact h.display did
  | _ => exact ⟨h.opened, h.shut, h.quiet⟩

theorem wired_run (h : run.Wired) (events : List ClientEvent) : (run.run events).Wired := by
  induction events generalizing run with
  | nil => exact h
  | cons event events ih => exact ih (h.step event)

/-! ## What ends a client -/

/-- A move has called the client off, and nothing has before. -/
def EndedFirstBy (move : ClientMove) (start : ClientRun) (events : List ClientEvent) : Prop :=
  ∃ before after, events = before ++ .move move :: after ∧
    (start.run before).signal.calledOff = false ∧
    (start.run (before ++ [.move move])).signal.calledOff = true

/-! ## Coming to an end -/

/-- What a client does by itself while time passes. -/
def ByItself : ClientEvent → Prop
  | .move _ | .clock _ => True
  | _ => False

/-- The display can end by itself, and leaves the other parts as they are. -/
def DisplayCanEnd (run : ClientRun) : Prop :=
  ∃ later, (∀ event ∈ later, ByItself event) ∧
    (∃ fault, (run.run later).display = .finished fault) ∧
    (run.run later).network = run.network ∧ (run.run later).input = run.input

theorem displayCanEnd_of_finished {fault : Option Fault} (h : run.display = .finished fault) :
    run.DisplayCanEnd := by
  refine ⟨[], ?_, ⟨fault, h⟩, rfl, rfl⟩
  intro event hmem
  cases hmem

/-- It can end if it can after a step that leaves the other parts as they are. -/
theorem DisplayCanEnd.before {next : ClientRun} (h : next.DisplayCanEnd) (event : ClientEvent)
    (hown : ByItself event) (hstep : run.step event = next)
    (hnetwork : next.network = run.network) (hinput : next.input = run.input) :
    run.DisplayCanEnd := by
  obtain ⟨later, hlater, hdisplay, hnetwork', hinput'⟩ := h
  have hrun : run.run (event :: later) = next.run later := by
    rw [← hstep]
    rfl
  refine ⟨event :: later, ?_, ?_⟩
  · intro first hmem
    rcases List.mem_cons.1 hmem with rfl | hmem
    · exact hown
    · exact hlater first hmem
  · rw [hrun]
    exact ⟨hdisplay, hnetwork'.trans hnetwork, hinput'.trans hinput⟩

theorem timeOut_of_stalled (hstalled : Display.stalled run = true) {deadline : Nat}
    (hgiveUp : run.giveUpAt = some deadline) (hle : deadline ≤ run.now) :
    Display.timeOut run = some { run with display := .finished none } := by
  simp [Display.timeOut, hgiveUp, hstalled, hle]

/-- A display that stalls and has a deadline gives up. -/
theorem displayCanEnd_of_deadline (hstalled : Display.stalled run = true) {deadline : Nat}
    (hgiveUp : run.giveUpAt = some deadline) : run.DisplayCanEnd := by
  have htimeOut : Display.timeOut { run with now := max run.now deadline } =
      some { run with now := max run.now deadline, display := .finished none } :=
    timeOut_of_stalled hstalled hgiveUp (Nat.le_max_right _ _)
  have hend : ({ run with now := max run.now deadline, display := .finished none } :
      ClientRun).DisplayCanEnd := displayCanEnd_of_finished rfl
  have hclock : ({ run with now := max run.now deadline } : ClientRun).DisplayCanEnd :=
    hend.before (.move .displayTimeOut) trivial (step_of_move htimeOut) rfl rfl
  exact hclock.before (.clock deadline) trivial rfl rfl rfl

/-- A display that stalls while the client ends sets itself a deadline. -/
theorem displayCanEnd_of_stalled (hstalled : Display.stalled run = true)
    (hcalled : run.signal.calledOff = true) : run.DisplayCanEnd := by
  cases hgiveUp : run.giveUpAt with
  | some deadline => exact displayCanEnd_of_deadline hstalled hgiveUp
  | none =>
    have hnotice : Display.notice run =
        some { run with giveUpAt := some (run.now + run.drain) } := by
      simp [Display.notice, hstalled, hcalled, hgiveUp]
    have hend : ({ run with giveUpAt := some (run.now + run.drain) } : ClientRun).DisplayCanEnd :=
      displayCanEnd_of_deadline hstalled rfl
    exact hend.before (.move .noticeStall) trivial (step_of_move hnotice) rfl rfl

/-- What the display has still to do: to show the rest of its line, and to take and show each
message. -/
def displayWork (run : ClientRun) : Nat :=
  (match run.display with
    | .showing rest => rest.length
    | _ => 0) + (run.inbound.queue.items.map (·.length + 2)).sum

/-- Once its mailbox is closed, the display can end. -/
theorem displayCanEnd (hclosed : run.inbound.closed = true)
    (hcalled : run.signal.calledOff = true) : run.DisplayCanEnd := by
  induction hn : run.displayWork using Nat.strongRecOn generalizing run with
  | _ n ih =>
    have hgoesOn : ∀ next : ClientRun, Display.step run = some next → next.DisplayCanEnd →
        next.network = run.network → next.input = run.input → run.DisplayCanEnd :=
      fun next hstep hend => hend.before (.move .show) trivial (step_of_move hstep)
    cases hdisplay : run.display with
    | finished fault => exact displayCanEnd_of_finished hdisplay
    | waiting =>
      cases hitems : run.inbound.queue.items with
      | nil =>
        have hstep : Display.step run = some { run with display := .finished none } := by
          simp [Display.step, hdisplay, Mailbox.receive_nil hitems, hclosed]
        exact hgoesOn _ hstep (displayCanEnd_of_finished rfl) rfl rfl
      | cons message rest =>
        have hreceive := Mailbox.receive_cons hitems
        have hstep : Display.step run = some { run with
            inbound := run.inbound.popped, display := .showing (Display.line message) } := by
          simp [Display.step, hdisplay, hreceive]
        have hleft := (Mailbox.receive_message hreceive).1
        rw [hitems] at hleft
        refine hgoesOn _ hstep (ih _ ?_ hclosed hcalled rfl) rfl rfl
        simp only [displayWork, hdisplay, hitems, List.map_cons, List.sum_cons] at hn
        simp only [displayWork, ← (List.cons.inj hleft).2, Display.line, List.length_append,
          List.length_singleton]
        omega
    | showing rest =>
      cases htake : run.sink.take rest with
      | mk answer sink =>
        cases answer with
        | taken n =>
          have hstep : Display.step run = some { run with
              sink, display := if rest.length ≤ n then .waiting else .showing (rest.drop n) } := by
            simp [Display.step, hdisplay, htake]
          refine hgoesOn _ hstep (ih _ ?_ hclosed hcalled rfl) rfl rfl
          obtain ⟨hpos, hle, -⟩ := Sink.take_taken htake
          simp only [displayWork, hdisplay] at hn
          simp only [displayWork]
          split
          · next heq =>
            split at heq
            · cases heq
            · cases heq
              rw [List.length_drop]
              omega
          · omega
        | broken fault =>
          have hstep : Display.step run = some { run with
              display := .finished (some fault), signal := run.signal.callOff } := by
            simp [Display.step, hdisplay, htake]
          exact hgoesOn _ hstep (displayCanEnd_of_finished rfl) rfl rfl
        | stalled =>
          have hstalled : Display.stalled run = true := by
            simp [Display.stalled, hdisplay, htake]
          exact displayCanEnd_of_stalled hstalled hcalled

/-- The input ends when the client does. -/
theorem exists_inputEnd (hcalled : run.signal.calledOff = true) :
    ∃ later, (∀ event ∈ later, ByItself event) ∧
      run.run later = { run with input := .finished } := by
  by_cases hinput : run.input = .finished
  · refine ⟨[], ?_, ?_⟩
    · intro event hmem
      cases hmem
    · rw [← hinput]
      rfl
  · have hstep : Input.callOff run = some { run with input := .finished } := by
      simp [Input.callOff, hcalled, hinput]
    refine ⟨[.move .inputCalledOff], ?_, step_of_move hstep⟩
    intro event hmem
    rw [List.mem_singleton.1 hmem]
    trivial

/-- The time for draining ends. -/
theorem exists_networkEnd (hover : run.network.phase = .ended) :
    ∃ later, (∀ event ∈ later, ByItself event) ∧ (run.run later).network = .finished ∧
      (run.run later).input = run.input ∧ (run.run later).inbound = run.inbound ∧
      (run.signal.calledOff = true → (run.run later).signal.calledOff = true) := by
  cases hnetwork : run.network with
  | draining deadline =>
    have hstep : Network.timeOut { run with now := max run.now deadline } =
        some (Network.endAll { run with now := max run.now deadline }) := by
      simp only [Network.timeOut, hnetwork, Nat.le_max_right, if_true]
    have hrun : run.run [.clock deadline, .move .networkTimeOut] =
        Network.endAll { run with now := max run.now deadline } := step_of_move hstep
    refine ⟨_, ?_, by rw [hrun]; rfl, by rw [hrun]; rfl, by rw [hrun]; rfl,
      fun _ => by rw [hrun]; rfl⟩
    simp [ByItself]
  | finished =>
    refine ⟨[], ?_, hnetwork, rfl, rfl, id⟩
    intro event hmem
    cases hmem
  | relaying | sending rest | delivering payload | flushing rest deadline =>
    rw [hnetwork] at hover
    cases hover

/-- **A client whose network part is over comes to an end.** It needs nothing for that but time. -/
theorem Wired.exists_result (h : run.Wired) (hover : run.network.phase = .ended) :
    ∃ later, (∀ event ∈ later, ByItself event) ∧ ((run.run later).result?).isSome = true := by
  have hcalled : run.signal.calledOff = true := by
    cases hquiet : run.signal.calledOff with
    | true => rfl
    | false =>
      have hactive := (h.quiet hquiet).1
      rw [hover] at hactive
      cases hactive
  obtain ⟨first, hfirst, hrun⟩ := exists_inputEnd hcalled
  have hover' : (run.run first).network.phase = .ended := by
    rw [hrun]
    exact hover
  obtain ⟨second, hsecond, hnetwork, hinput, hinbound, hcalled'⟩ := exists_networkEnd hover'
  rw [hrun] at hinput hinbound hcalled'
  have hclosed : ((run.run first).run second).inbound.closed = true := by
    rw [hrun, hinbound]
    exact h.shut (by simp [hover])
  have hend : ((run.run first).run second).DisplayCanEnd :=
    displayCanEnd hclosed (by rw [hrun]; exact hcalled' hcalled)
  obtain ⟨third, hthird, ⟨fault, hdisplay⟩, hnetwork', hinput'⟩ := hend
  refine ⟨first ++ second ++ third, ?_, ?_⟩
  · intro event hmem
    rcases List.mem_append.1 hmem with hmem | hmem
    · rcases List.mem_append.1 hmem with hmem | hmem
      · exact hfirst event hmem
      · exact hsecond event hmem
    · exact hthird event hmem
  · rw [run_append, run_append, result?, hdisplay, hnetwork', hnetwork, hinput', hrun, hinput]
    cases fault <;> rfl

end ClientRun

end ChatRelay
