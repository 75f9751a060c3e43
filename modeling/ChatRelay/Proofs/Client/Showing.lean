import ChatRelay.Proofs.Client.Inward
import ChatRelay.Proofs.Client.Outward
import ChatRelay.Proofs.Frame.Reading

/-!
# What a client shows

A client shows what arrives, and nothing else. The frames that can be held in its inbound mailbox
are

    taken ++ what the mailbox holds ++ ahead,

where those taken by the display have been shown, up to the rest of a line, and those ahead are the
frame that waits for the mailbox and what is still to be read. Every step moves a part of this to
the left (`Showing`); only a mailbox that does not let the network wait loses some of it. So what
has been shown is at every moment made of lines that arrived, and when a client ends because the
stream has, none of them is missing (`shown_in_order`).
-/

namespace ChatRelay

namespace ClientRun

variable {run run' : ClientRun}

/-! ## What has been shown -/

/-- What the display has taken has been shown, up to the rest of a line. If the display is patient,
it does not end before it has shown all that it is given. -/
structure Shown (patient : Prop) (taken : List Bytes) (rest : Bytes) (run : ClientRun) : Prop where
  lines : run.sink.shown ++ rest = taken.flatMap Display.line
  waiting : run.display = .waiting → rest = []
  showing : ∀ left, run.display = .showing left → rest = left
  ended : patient → run.display = .finished none →
    rest = [] ∧ run.inbound.closed = true ∧ run.inbound.queue.items = []

/-- What the network part has still to put into the display's mailbox. -/
structure Ahead (fault : Option FrameError) (coming : Bytes) (ahead : List Bytes)
    (run : ClientRun) : Prop where
  reading : run.network.phase = .active → ∃ later, ahead = run.network.held ++ later ∧
    run.reader = ⟨run.reader.decoder, false, false⟩ ∧
    Reading run.reader.decoder run.endpoint coming later fault
  gone : run.network.phase ≠ .active → ahead = []

/-- What has been taken, what is queued, and what is ahead are some of the frames that are wanted;
they are all of them, where the network part waits for the display, for as long as it reads and once
it has read to the end. -/
structure Showing (config : ClientConfig) (wanted : List Bytes) (fault : Option FrameError)
    (patient : Prop) (coming : Bytes) (taken ahead : List Bytes) (rest : Bytes) (run : ClientRun) :
    Prop where
  limits : run.inbound.queue.limits = config.inbound
  display : Shown patient taken rest run
  network : Ahead fault coming ahead run
  kept : (taken ++ run.inbound.queue.items ++ ahead.filter config.inbound.admits).Sublist wanted
  whole : config.inbound.policy = .blockProducer →
    run.network.phase = .active ∨ run.reader.finished = true →
    taken ++ run.inbound.queue.items ++ ahead.filter config.inbound.admits = wanted

variable {config : ClientConfig} {wanted : List Bytes} {fault : Option FrameError} {patient : Prop}
  {coming : Bytes} {taken ahead : List Bytes} {rest : Bytes}

theorem Shown.of_same (h : Shown patient taken rest run)
    (sink : run'.sink.shown = run.sink.shown) (display : run'.display = run.display)
    (inbound : run.inbound.closed = true →
      run'.inbound.closed = true ∧ run'.inbound.queue.items = run.inbound.queue.items) :
    Shown patient taken rest run' := by
  refine ⟨sink ▸ h.lines, display ▸ h.waiting, display ▸ h.showing, fun hpatient hdisplay => ?_⟩
  obtain ⟨hrest, hclosed, hitems⟩ := h.ended hpatient (display ▸ hdisplay)
  obtain ⟨hclosed', hitems'⟩ := inbound hclosed
  exact ⟨hrest, hclosed', hitems'.trans hitems⟩

/-- What is ahead may be given up when the network part ends. -/
theorem Showing.unheard (h : Showing config wanted fault patient coming taken ahead rest run)
    (unheard : Unheard run run') :
    ∃ ahead', Showing config wanted fault patient coming taken ahead' rest run' := by
  have hlimits := unheard.limits.trans h.limits
  have hdisplay : Shown patient taken rest run' :=
    h.display.of_same unheard.shown unheard.display fun hclosed =>
      ⟨unheard.closed hclosed, unheard.items⟩
  by_cases hactive : run'.network.phase = .active
  · obtain ⟨hbefore, hheld, harrivals, hend⟩ := unheard.active hactive
    obtain ⟨later, hahead, hreader, hreading⟩ := h.network.reading hbefore
    refine ⟨ahead, hlimits, hdisplay,
      ⟨fun _ => ⟨later, ?_, ?_, ?_⟩, fun hgone => absurd hactive hgone⟩, ?_, fun hpolicy _ => ?_⟩
    · rw [hheld, hahead]
    · rw [unheard.reader, ← hreader]
    · rw [unheard.reader]
      exact hreading.of_same harrivals hend
    · rw [unheard.items]
      exact h.kept
    · rw [unheard.items]
      exact h.whole hpolicy (.inl hbefore)
  · refine ⟨[], hlimits, hdisplay, ⟨fun h => absurd h hactive, fun _ => rfl⟩, ?_, ?_⟩
    · rw [unheard.items]
      refine List.Sublist.trans ?_ h.kept
      exact (List.Sublist.refl _).append (List.nil_sublist _)
    · intro hpolicy hover
      rw [unheard.reader] at hover
      have hfinished := hover.resolve_left hactive
      have hgone : ahead = [] := by
        refine h.network.gone fun hbefore => ?_
        obtain ⟨later, -, hreader, -⟩ := h.network.reading hbefore
        rw [hreader] at hfinished
        cases hfinished
      have hwhole := h.whole hpolicy (.inr hfinished)
      rw [hgone] at hwhole
      rw [unheard.items]
      exact hwhole

/-- The display takes a message, or shows a part of its line. -/
theorem Shown.displayed (h : Shown patient taken rest run)
    (hpatient : patient → Display.timeOut run = none) (did : Display.Did run run') :
    ∃ new rest', Shown patient (taken ++ new) rest' run' ∧
      run.inbound.queue.items = new ++ run'.inbound.queue.items := by
  cases did with
  | @fetched message inbound waiting receive =>
    obtain ⟨hitems, rfl⟩ := Mailbox.receive_message receive
    refine ⟨[message], Display.line message, ⟨?_, ?_, ?_, ?_⟩, hitems⟩
    · have hlines := h.lines
      rw [h.waiting waiting, List.append_nil] at hlines
      rw [List.flatMap_append, ← hlines]
      simp
    · intro hwaiting
      cases hwaiting
    · intro left hleft
      cases hleft
      rfl
    · intro _ hended
      cases hended
  | ended waiting drained closed =>
    refine ⟨[], [], ?_, rfl⟩
    rw [List.append_nil]
    refine ⟨?_, fun _ => rfl, ?_, fun _ _ => ⟨rfl, closed, drained⟩⟩
    · rw [← h.waiting waiting]
      exact h.lines
    · intro left hleft
      cases hleft
  | @showed left n sink display showing take heq =>
    obtain ⟨-, hle, hshown⟩ := Sink.take_taken take
    refine ⟨[], left.drop n, ?_, rfl⟩
    rw [List.append_nil]
    refine ⟨?_, ?_, ?_, ?_⟩
    · rw [← h.lines, h.showing left showing]
      simp only [hshown, List.append_assoc, List.take_append_drop]
    · intro hwaiting
      simp only [heq] at hwaiting
      split at hwaiting
      · next hall => exact List.drop_eq_nil_of_le hall
      · cases hwaiting
    · intro other hother
      simp only [heq] at hother
      split at hother
      · cases hother
      · cases hother
        rfl
    · intro _ hended
      simp only [heq] at hended
      split at hended
      · cases hended
      · cases hended
  | broke showing =>
    refine ⟨[], rest, ?_, rfl⟩
    rw [List.append_nil]
    refine ⟨h.lines, ?_, ?_, ?_⟩
    · intro hwaiting
      cases hwaiting
    · intro left hleft
      cases hleft
    · intro _ hended
      cases hended
  | noticed called =>
    refine ⟨[], rest, ?_, rfl⟩
    rw [List.append_nil]
    exact ⟨h.lines, h.waiting, h.showing, h.ended⟩
  | gaveUp showing timedOut =>
    refine ⟨[], rest, ?_, rfl⟩
    rw [List.append_nil]
    refine ⟨h.lines, ?_, ?_, ?_⟩
    · intro hwaiting
      cases hwaiting
    · intro left hleft
      cases hleft
    · intro hp _
      rw [hpatient hp] at timedOut
      cases timedOut

/-- What the display takes was queued before. -/
theorem Showing.displayed (h : Showing config wanted fault patient coming taken ahead rest run)
    (hpatient : patient → Display.timeOut run = none) (did : Display.Did run run') :
    ∃ taken' rest', Showing config wanted fault patient coming taken' ahead rest' run' := by
  obtain ⟨new, rest', hdisplay, hitems⟩ := h.display.displayed hpatient did
  obtain ⟨hnetwork, hreader, hendpoint, hlimits⟩ := Display.did_rest did
  have hsame : taken ++ new ++ run'.inbound.queue.items = taken ++ run.inbound.queue.items := by
    rw [hitems, List.append_assoc]
  refine ⟨taken ++ new, rest', hlimits.trans h.limits, hdisplay, ⟨?_, ?_⟩, ?_, ?_⟩
  · rw [hnetwork, hreader, hendpoint]
    exact h.network.reading
  · rw [hnetwork]
    exact h.network.gone
  · rw [hsame]
    exact h.kept
  · rw [hsame, hnetwork, hreader]
    exact h.whole

/-- The network part offers the first of what is ahead. -/
theorem Showing.offered (h : Showing config wanted fault patient coming taken ahead rest run)
    {payload : Bytes} {answer : Except EnqueueError Nat} {inbound : Mailbox}
    (delivering : run.network = .delivering payload)
    (offer : run.inbound.offer payload = (answer, inbound)) :
    ∃ later, ahead = payload :: later ∧ inbound.queue.limits = config.inbound ∧
      (run.inbound.closed = true → inbound.closed = true ∧
        inbound.queue.items = run.inbound.queue.items) ∧
      run.reader = ⟨run.reader.decoder, false, false⟩ ∧
      Reading run.reader.decoder run.endpoint coming later fault ∧
      (taken ++ inbound.queue.items ++ later.filter config.inbound.admits).Sublist wanted ∧
      (config.inbound.policy = .blockProducer → answer ≠ .error .full → answer ≠ .error .closed →
        taken ++ inbound.queue.items ++ later.filter config.inbound.admits = wanted) := by
  have hactive : run.network.phase = .active := by rw [delivering]; rfl
  obtain ⟨later, hahead, hreader, hreading⟩ := h.network.reading hactive
  rw [delivering] at hahead
  have hmoved : taken ++ run.inbound.queue.items ++ ahead.filter config.inbound.admits =
      taken ++ (run.inbound.queue.items ++ [payload].filter config.inbound.admits) ++
        later.filter config.inbound.admits := by
    rw [hahead, List.filter_append]
    simp only [NetworkState.held, List.append_assoc]
  refine ⟨later, hahead, (Mailbox.limits_of_offer offer).trans h.limits, fun hclosed => ?_, hreader,
    hreading, ?_, fun hpolicy hfull hclosed => ?_⟩
  · rw [Mailbox.offer_closed hclosed] at offer
    obtain ⟨-, rfl⟩ := Prod.mk.inj offer
    exact ⟨hclosed, rfl⟩
  · have hkept := h.kept
    rw [hmoved] at hkept
    have hitems := Mailbox.items_offer_sublist offer
    rw [h.limits] at hitems
    refine List.Sublist.trans ?_ hkept
    exact ((List.Sublist.refl taken).append hitems).append (List.Sublist.refl _)
  · have hwhole := h.whole hpolicy (.inl hactive)
    obtain ⟨-, hitems⟩ := Mailbox.items_offer (h.limits ▸ hpolicy) offer hfull hclosed
    rw [h.limits] at hitems
    rw [hitems, ← hmoved, hwhole]

/-- The network part ends after an offer, before it has read to the end. -/
theorem Showing.stopped (h : Showing config wanted fault patient coming taken ahead rest run)
    {payload : Bytes} {answer : Except EnqueueError Nat} {inbound : Mailbox} {signal : ExitSignal}
    (delivering : run.network = .delivering payload)
    (offer : run.inbound.offer payload = (answer, inbound)) :
    Showing config wanted fault patient coming taken [] rest
      (Network.closeDown { run with inbound, signal }) := by
  obtain ⟨later, -, hlimits, hclosed, hreader, -, hkept, -⟩ := h.offered delivering offer
  have hsub : (taken ++ inbound.queue.items ++ []).Sublist wanted := by
    refine List.Sublist.trans ?_ hkept
    exact (List.Sublist.refl _).append (List.nil_sublist _)
  have hunfinished : run.reader.finished ≠ true := by
    rw [hreader]
    simp
  obtain ⟨hphase, hinbound, hreader', hsink, hdisplay⟩ :=
    Network.closeDown_display { run with inbound, signal }
  refine ⟨by rw [hinbound]; exact hlimits, h.display.of_same (by rw [hsink]) hdisplay ?_,
    ⟨fun hactive => absurd hactive hphase, fun _ => rfl⟩, by rw [hinbound]; exact hsub, ?_⟩
  · intro hbefore
    rw [hinbound]
    exact ⟨rfl, (hclosed hbefore).2⟩
  · intro _ hover
    rw [hreader'] at hover
    exact absurd (hover.resolve_left hphase) hunfinished

/-- A network part that is relaying pulls the first of what is ahead; or nothing, while the stream
goes on; or the end of the stream, when nothing is ahead any more. -/
theorem Ahead.pull (h : Ahead fault coming ahead run) (relaying : run.network = .relaying)
    {pulled : Pulled} {reader : FrameReader} {endpoint : Endpoint}
    (pull : run.reader.pull run.endpoint = (pulled, reader, endpoint)) :
    match pulled with
    | .frame payload => ∃ later, ahead = payload :: later ∧
        reader = ⟨reader.decoder, false, false⟩ ∧
        Reading reader.decoder endpoint coming later fault
    | .nothing => reader = ⟨reader.decoder, false, false⟩ ∧
        Reading reader.decoder endpoint coming ahead fault
    | .failed _ | .ended => ahead = [] ∧ reader.finished = true := by
  obtain ⟨later, hahead, hreader, hreading⟩ := h.reading (by rw [relaying]; rfl)
  rw [relaying] at hahead
  rw [hreader, FrameReader.pull_of_unfinished] at pull
  have hpulled := hreading.pullFrom
  rw [pull] at hpulled
  cases pulled with
  | frame payload =>
    obtain ⟨hflags, -, -, others, hlater, hothers⟩ := hpulled
    exact ⟨others, hahead.trans hlater, hflags, hothers⟩
  | nothing =>
    obtain ⟨hflags, -, -, hsame⟩ := hpulled
    exact ⟨hflags, hahead ▸ hsame⟩
  | failed error =>
    obtain ⟨hfinished, -, hnone, -⟩ := hpulled
    exact ⟨hahead.trans hnone, hfinished⟩
  | ended =>
    obtain ⟨hfinished, hnone, -⟩ := hpulled
    exact ⟨hahead.trans hnone, hfinished⟩

/-- What arrives is taken in, and is put into the mailbox. -/
theorem Showing.received (h : Showing config wanted fault patient coming taken ahead rest run)
    (did : Network.Received run run') :
    ∃ ahead', Showing config wanted fault patient coming taken ahead' rest run' := by
  cases did with
  | @pulled payload reader endpoint relaying pull =>
    have hactive : run.network.phase = .active := by rw [relaying]; rfl
    obtain ⟨later, hahead, hreader, hreading⟩ := h.network.pull relaying pull
    exact ⟨ahead, h.limits, h.display.of_same rfl rfl fun hclosed => ⟨hclosed, rfl⟩,
      ⟨fun _ => ⟨later, hahead, hreader, hreading⟩, fun hgone => absurd rfl hgone⟩, h.kept,
      fun hpolicy _ => h.whole hpolicy (.inl hactive)⟩
  | @nothing reader endpoint relaying pull =>
    have hactive : run.network.phase = .active := by rw [relaying]; rfl
    obtain ⟨hreader, hreading⟩ := h.network.pull relaying pull
    refine ⟨ahead, h.limits, h.display.of_same rfl rfl fun hclosed => ⟨hclosed, rfl⟩,
      ⟨fun _ => ⟨ahead, ?_, hreader, hreading⟩, fun hgone => absurd hactive hgone⟩, h.kept,
      fun hpolicy _ => h.whole hpolicy (.inl hactive)⟩
    rw [relaying]
    rfl
  | @streamOver pulled reader endpoint relaying pull ended =>
    have hactive : run.network.phase = .active := by rw [relaying]; rfl
    have hahead : ahead = [] := by
      obtain rfl | ⟨error, rfl⟩ := ended
      · exact (h.network.pull relaying pull).1
      · exact (h.network.pull relaying pull).1
    subst hahead
    obtain ⟨hphase, hinbound, -, hsink, hdisplay⟩ := Network.closeDown_display
      { run with reader, endpoint, signal := run.signal.finish .serverClosed }
    have hitems : (Network.serverGone { run with reader, endpoint }).inbound.queue.items =
        run.inbound.queue.items := by
      rw [Network.serverGone, hinbound]
      rfl
    refine ⟨[], ?_, h.display.of_same ?_ hdisplay fun _ => ⟨?_, hitems⟩,
      ⟨fun hafter => absurd hafter hphase, fun _ => rfl⟩, ?_, fun hpolicy _ => ?_⟩
    · rw [Network.serverGone, hinbound]
      exact h.limits
    · rw [Network.serverGone, hsink]
    · rw [Network.serverGone, hinbound]
      rfl
    · rw [hitems]
      exact h.kept
    · rw [hitems]
      exact h.whole hpolicy (.inl hactive)
  | @offered payload answer inbound delivering offer full overflow closed =>
    have hactive : run.network.phase = .active := by rw [delivering]; rfl
    obtain ⟨later, -, hlimits, hclosed, hreader, hreading, hkept, hwhole⟩ :=
      h.offered delivering offer
    exact ⟨later, hlimits, h.display.of_same rfl rfl hclosed,
      ⟨fun _ => ⟨later, rfl, hreader, hreading⟩, fun hgone => absurd rfl hgone⟩, hkept,
      fun hpolicy _ => hwhole hpolicy full closed⟩
  | waits delivering offer =>
    obtain ⟨-, -, rfl⟩ := Mailbox.offer_full offer
    exact h.unheard ⟨rfl, rfl, rfl, rfl, id, rfl, fun hactive => ⟨hactive, rfl, rfl, rfl⟩⟩
  | overflows delivering offer => exact ⟨[], h.stopped delivering offer⟩
  | closed delivering offer => exact ⟨[], h.stopped delivering offer⟩
  | discarded ended same =>
    exact h.unheard (unheard_of_inactive rfl (.inl rfl) rfl (by simp [ended]))
  | drained ended same =>
    exact h.unheard (unheard_of_inactive rfl (.inl rfl) rfl (by simp))

/-- What arrives was still to come. -/
theorem Showing.arrives {b : UInt8} {bytes : Bytes}
    (h : Showing config wanted fault patient (b :: bytes ++ coming) taken ahead rest run) :
    Showing config wanted fault patient coming taken ahead rest
      { run with endpoint := run.endpoint.undergo (.arrive (.data (b :: bytes))) } := by
  refine ⟨h.limits, h.display.of_same rfl rfl fun hclosed => ⟨hclosed, rfl⟩,
    ⟨fun hactive => ?_, h.network.gone⟩, h.kept, h.whole⟩
  obtain ⟨later, hahead, hreader, hreading⟩ := h.network.reading hactive
  refine ⟨later, hahead, hreader, hreading.arrive ?_⟩
  cases hend : run.endpoint.atEnd with
  | false => rfl
  | true =>
    have hnone := hreading.ended hend
    cases hnone

/-- Nothing is to come behind the end. -/
theorem Showing.finishes
    (h : Showing config wanted fault patient [] taken ahead rest run) :
    Showing config wanted fault patient [] taken ahead rest
      { run with endpoint := run.endpoint.undergo .finish } := by
  refine ⟨h.limits, h.display.of_same rfl rfl fun hclosed => ⟨hclosed, rfl⟩,
    ⟨fun hactive => ?_, h.network.gone⟩, h.kept, h.whole⟩
  obtain ⟨later, hahead, hreader, hreading⟩ := h.network.reading hactive
  exact ⟨later, hahead, hreader, hreading.finish⟩

theorem Showing.step {event : ClientEvent} {events : List ClientEvent}
    (h : Showing config wanted fault patient (ClientEvent.received (event :: events)) taken ahead
      rest run)
    (hserver : ServerStream (event :: events)) (hpatient : patient → Display.timeOut run = none) :
    ∃ taken' ahead' rest', Showing config wanted fault patient (ClientEvent.received events) taken'
      ahead' rest' (run.step event) := by
  rw [ClientEvent.received_cons] at h
  have hinward := run.inward_step event
  generalize run.step event = run' at hinward
  cases hinward with
  | arrives arrival =>
    obtain ⟨b, bytes, rfl⟩ := hserver.data arrival List.mem_cons_self
    have hbytes : ClientEvent.received [.network (.arrive (.data (b :: bytes)))] = b :: bytes :=
      List.append_nil _
    rw [hbytes] at h
    exact ⟨taken, ahead, rest, h.arrives⟩
  | finishes =>
    have hnone := hserver.ended [] events rfl
    rw [hnone] at h ⊢
    exact ⟨taken, ahead, rest, h.finishes⟩
  | received did =>
    obtain ⟨ahead', h'⟩ := h.received did
    exact ⟨taken, ahead', rest, h'⟩
  | display did =>
    obtain ⟨taken', rest', h'⟩ := h.displayed hpatient did
    exact ⟨taken', ahead, rest', h'⟩
  | unheard silent unheard =>
    rw [silent] at h
    obtain ⟨ahead', h'⟩ := h.unheard unheard
    exact ⟨taken, ahead', rest, h'⟩

/-! ## Runs -/

/-- The display never gets to give up. -/
def NeverGivesUp : ClientRun → List ClientEvent → Prop :=
  Throughout fun run => Display.timeOut run = none

instance (start : ClientRun) (events : List ClientEvent) : Decidable (NeverGivesUp start events) :=
  inferInstanceAs (Decidable (Throughout (fun run => Display.timeOut run = none) start events))

theorem reset_codec (config : ClientConfig) : config.codec.reset = config.codec := by
  unfold ClientConfig.codec
  cases config.framing <;> rfl

/-- At the beginning everything is ahead. -/
theorem showing_new (config : ClientConfig) (sink : Sink) (patient : Prop) (stream : Bytes)
    (hsink : sink.shown = []) (hcount : config.codec.Countable stream) :
    Showing config ((config.codec.frames stream).filter config.inbound.admits)
      (config.codec.fault stream) patient stream [] (config.codec.frames stream) []
      (new config .idle sink) := by
  have hreading := Reading.new config.codec stream hcount
  rw [reset_codec] at hreading
  refine ⟨rfl, ⟨?_, fun _ => rfl, ?_, ?_⟩, ⟨fun _ => ⟨_, rfl, rfl, hreading⟩, ?_⟩,
    List.Sublist.refl _, fun _ _ => rfl⟩
  · rw [List.append_nil]
    exact hsink
  · intro left hleft
    cases hleft
  · intro _ hended
    cases hended
  · intro hgone
    exact absurd rfl hgone

theorem showing_run {events later : List ClientEvent}
    (h : Showing config wanted fault patient (ClientEvent.received (events ++ later)) taken ahead
      rest run)
    (hserver : ServerStream (events ++ later)) (hpatient : patient → NeverGivesUp run events) :
    ∃ taken' ahead' rest', Showing config wanted fault patient (ClientEvent.received later) taken'
      ahead' rest' (run.run events) := by
  induction events generalizing run taken ahead rest with
  | nil => exact ⟨taken, ahead, rest, h⟩
  | cons event events ih =>
    obtain ⟨taken', ahead', rest', h'⟩ := h.step hserver fun hp => (hpatient hp).now
    exact ih h' hserver.later fun hp => (hpatient hp).later

/-! ## The end of the stream -/

theorem reason_step {reason : ClientExit} (h : run.signal.reason = some reason)
    (event : ClientEvent) : (run.step event).signal.reason = some reason := by
  have houtward := run.outward_step event
  generalize run.step event = run' at houtward
  cases houtward with
  | typed line => exact h
  | inputEnds => exact h
  | input did =>
    cases did with
    | quits | ends | overflows => exact ExitSignal.reason_finish h _
    | skipped | framed | waits | offered | closed | calledOff => exact h
  | onward silent onward => exact onward.reason reason h
  | refusal refusal => exact refusal.reason reason h

theorem reason_run {reason : ClientExit} (h : run.signal.reason = some reason)
    (events : List ClientEvent) : (run.run events).signal.reason = some reason := by
  induction events generalizing run with
  | nil => exact h
  | cons event events ih => exact ih (reason_step h event)

/-- Once the network part is not active any more, nothing is read from the stream. -/
theorem inactive_step (h : run.network.phase ≠ .active) (event : ClientEvent) :
    (run.step event).network.phase ≠ .active ∧ (run.step event).reader = run.reader := by
  have hinward := run.inward_step event
  generalize run.step event = run' at hinward
  cases hinward with
  | arrives arrival => exact ⟨h, rfl⟩
  | finishes => exact ⟨h, rfl⟩
  | received did =>
    cases did with
    | pulled relaying | nothing relaying | streamOver relaying =>
      rw [relaying] at h
      exact absurd rfl h
    | offered delivering | waits delivering | overflows delivering | closed delivering =>
      rw [delivering] at h
      exact absurd rfl h
    | discarded ended same => exact ⟨h, rfl⟩
    | drained ended same => exact ⟨fun hactive => (nomatch hactive), rfl⟩
  | display did =>
    obtain ⟨hnetwork, hreader, -⟩ := Display.did_rest did
    rw [hnetwork]
    exact ⟨h, hreader⟩
  | unheard silent unheard => exact ⟨fun hactive => h (unheard.active hactive).1, unheard.reader⟩

theorem inactive_run (h : run.network.phase ≠ .active) (events : List ClientEvent) :
    (run.run events).network.phase ≠ .active ∧ (run.run events).reader = run.reader := by
  induction events generalizing run with
  | nil => exact ⟨h, rfl⟩
  | cons event events ih =>
    obtain ⟨hnext, hreader⟩ := inactive_step h event
    obtain ⟨hlast, hreader'⟩ := ih hnext
    exact ⟨hlast, hreader'.trans hreader⟩

/-- A step of receiving that is the first to call the client off has read to the end of the stream,
or finds the display's mailbox overflowing. -/
theorem Ahead.calledOff (h : Ahead fault coming ahead run) (hwired : run.Wired)
    (hquiet : run.signal.calledOff = false)
    (hcalled : (run.step (.move .receive)).signal.calledOff = true) :
    (run.step (.move .receive)).network.phase ≠ .active ∧
      ((run.step (.move .receive)).reader.finished = true ∨
        (run.step (.move .receive)).signal.reason = some .inboundOverflow) := by
  obtain ⟨hactive, -, hreason⟩ := hwired.quiet hquiet
  obtain ⟨run', hmove, hstep⟩ := exists_move hquiet hcalled
  rw [hstep] at hcalled ⊢
  have hdid := Network.received_receive hmove
  cases hdid with
  | @streamOver pulled reader endpoint relaying pull ended =>
    obtain ⟨hphase, -, hreader, -⟩ := Network.closeDown_display
      { run with reader, endpoint, signal := run.signal.finish .serverClosed }
    refine ⟨hphase, .inl ?_⟩
    rw [Network.serverGone, hreader]
    obtain rfl | ⟨error, rfl⟩ := ended
    · exact (h.pull relaying pull).2
    · exact (h.pull relaying pull).2
  | @overflows payload inbound delivering offer =>
    obtain ⟨hphase, -⟩ := Network.closeDown_display
      { run with inbound, signal := run.signal.finish .inboundOverflow }
    refine ⟨hphase, .inr ?_⟩
    rw [Network.reason_closeDown, ExitSignal.finish, hreason]
    rfl
  | closed delivering offer =>
    exact absurd offer (Mailbox.offer_ne_closed (hwired.opened hactive).2)
  | drained ended same =>
    rw [hactive] at ended
    cases ended
  | pulled | nothing | offered | waits | discarded =>
    exact absurd (hquiet.symm.trans hcalled) (by simp)

/-- A client that has ended well has shown what its display was given, and tells the reason. -/
theorem result_ok {exit : ClientExit} (h : run.result? = some (.ok exit)) :
    run.display = .finished none ∧ run.signal.reason.getD .serverClosed = exit := by
  unfold result? at h
  split at h
  · cases h
  · next hdisplay =>
    cases h
    exact ⟨hdisplay, rfl⟩
  · cases h

/-- A client that the end of the stream has ended has read to it. -/
theorem read_of_endedFirst {events : List ClientEvent} (config : ClientConfig) (sink : Sink)
    (hsink : sink.shown = []) (hserver : ServerStream events)
    (hcount : config.codec.Countable (ClientEvent.received events))
    (hfirst : EndedFirstBy .receive (new config .idle sink) events)
    (hresult : ((new config .idle sink).run events).result? = some (.ok .serverClosed)) :
    ((new config .idle sink).run events).network.phase ≠ .active ∧
      ((new config .idle sink).run events).reader.finished = true := by
  obtain ⟨before, after, rfl, hquiet, hcalled⟩ := hfirst
  obtain ⟨taken, ahead, rest, hshowing⟩ :=
    showing_run (showing_new config sink False _ hsink hcount) hserver False.elim
  have hwired := wired_run (wired_new config .idle sink) before
  rw [run_concat] at hcalled
  obtain ⟨hphase, hwhy⟩ := hshowing.network.calledOff hwired hquiet hcalled
  rw [run_append] at hresult ⊢
  obtain ⟨hlast, hreader⟩ := inactive_run hphase after
  refine ⟨hlast, ?_⟩
  obtain hfinished | hoverflow := hwhy
  · exact (congrArg FrameReader.finished hreader).trans hfinished
  · have hreason := reason_run hoverflow after
    have hexit := (result_ok hresult).2
    rw [run, List.foldl_cons] at hexit
    rw [run] at hreason
    rw [hreason] at hexit
    cases hexit

/-- The frames that arrive and that the display's mailbox can hold. -/
def arrived (config : ClientConfig) (events : List ClientEvent) : List Bytes :=
  (config.codec.frames (ClientEvent.received events)).filter config.inbound.admits

/-- **What is shown is what arrived.** At every moment a client has shown the beginning of some of
the lines that arrived, in order; only frames that can be held in its inbound mailbox are among
them. When the end of the stream has ended it and its display has not given up, it has shown each of
these lines to its end, and none is missing if the network part waits for the display. -/
theorem shown_in_order (config : ClientConfig) (sink : Sink) (events : List ClientEvent)
    (hsink : sink.shown = []) (hserver : ServerStream events)
    (hcount : config.codec.Countable (ClientEvent.received events)) :
    (∃ taken : List Bytes, taken.Sublist (arrived config events) ∧
      ((new config .idle sink).run events).sink.shown <+: taken.flatMap Display.line) ∧
    (EndedFirstBy .receive (new config .idle sink) events →
      NeverGivesUp (new config .idle sink) events →
      ((new config .idle sink).run events).result? = some (.ok .serverClosed) →
      ∃ taken : List Bytes, taken.Sublist (arrived config events) ∧
        ((new config .idle sink).run events).sink.shown = taken.flatMap Display.line ∧
        (config.inbound.policy = .blockProducer → taken = arrived config events)) := by
  have hend : events ++ [] = events := List.append_nil events
  have hstart : ∀ patient, Showing config (arrived config events)
      (config.codec.fault (ClientEvent.received events)) patient
      (ClientEvent.received (events ++ [])) [] (config.codec.frames (ClientEvent.received events))
      [] (new config .idle sink) := by
    intro patient
    rw [hend]
    exact showing_new config sink patient _ hsink hcount
  constructor
  · obtain ⟨taken, ahead, rest, h⟩ := showing_run (hstart False) (hend.symm ▸ hserver) False.elim
    refine ⟨taken, ?_, ⟨rest, h.display.lines⟩⟩
    refine List.Sublist.trans ?_ h.kept
    rw [List.append_assoc]
    exact List.sublist_append_left _ _
  · intro hfirst hpatient hresult
    obtain ⟨hphase, hfinished⟩ :=
      read_of_endedFirst config sink hsink hserver hcount hfirst hresult
    obtain ⟨taken, ahead, rest, h⟩ :=
      showing_run (hstart True) (hend.symm ▸ hserver) fun _ => hpatient
    obtain ⟨hrest, -, hitems⟩ := h.display.ended trivial (result_ok hresult).1
    have hahead := h.network.gone hphase
    have hkept := h.kept
    have hwhole := fun hpolicy => h.whole hpolicy (.inr hfinished)
    have hlines := h.display.lines
    rw [hitems, hahead, List.filter_nil, List.append_nil, List.append_nil] at hkept hwhole
    rw [hrest, List.append_nil] at hlines
    exact ⟨taken, hkept, hlines, hwhole⟩

/-- A line that has to wait until the one before it is shown, an empty one, one that is too long,
and one that never ends. -/
theorem shown_in_order_waiting :
    let config := { ClientConfig.standard with
      framing := .lines, inbound := ⟨3, 1, none, .blockProducer⟩ }
    let events : List ClientEvent := [.network (.arrive (.data [97, 98, 10, 99])), .move .receive,
      .move .receive, .network (.arrive (.data [100, 13, 10, 10, 101, 102, 103, 104, 10, 120])),
      .network .finish, .move .receive, .move .receive, .move .show, .move .show, .move .receive,
      .move .receive, .move .receive, .move .receive, .move .receive, .move .show, .move .show,
      .move .receive, .move .inputCalledOff, .move .show]
    ServerStream events ∧ config.codec.Countable (ClientEvent.received events) ∧
      ((new config .idle .endless).run events).result? = some (.ok .serverClosed) ∧
      arrived config events = [[97, 98], [99, 100]] ∧
      ((new config .idle .endless).run events).sink.shown = [97, 98, 10, 99, 100, 10] := by
  intro config events
  have hserver : ServerStream events := by
    refine ⟨fun arrival hmem => ?_, fun before after heq => ?_⟩
    · simp only [events, List.mem_cons, ClientEvent.network.injEq, Endpoint.Change.arrive.injEq,
        reduceCtorEq, List.not_mem_nil, or_false, false_or] at hmem
      obtain rfl | rfl := hmem
      · exact ⟨_, _, rfl⟩
      · exact ⟨_, _, rfl⟩
    · have hover : ∀ suffix ∈ events.tails, suffix.head? = some (.network .finish) →
          ClientEvent.received suffix = [] := by decide
      exact hover (.network .finish :: after) ((List.mem_tails _ _).2 ⟨before, heq.symm⟩) rfl
  have hcount : config.codec.Countable (ClientEvent.received events) := by
    intro max hmax
    left
    rw [← Option.some.inj hmax]
    decide
  have hfirst : EndedFirstBy .receive (new config .idle .endless) events :=
    ⟨events.take 16, events.drop 17, rfl, by decide +kernel, by decide +kernel⟩
  have hpatient : NeverGivesUp (new config .idle .endless) events := by decide +kernel
  have hresult : ((new config .idle .endless).run events).result? = some (.ok .serverClosed) := by
    cbv
  have harrived : arrived config events = [[97, 98], [99, 100]] := by decide
  obtain ⟨-, hend⟩ := shown_in_order config .endless events rfl hserver hcount
  obtain ⟨taken, -, hshown, hall⟩ := hend hfirst hpatient hresult
  rw [hall rfl, harrived] at hshown
  exact ⟨hserver, hcount, hresult, harrived, hshown⟩

end ClientRun

end ChatRelay
