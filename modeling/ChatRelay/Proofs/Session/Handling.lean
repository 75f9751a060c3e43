import ChatRelay.Proofs.Session.Endpoint
import ChatRelay.Proofs.Session.Wire

/-!
# How the handlers of a session end

Reading changes what arrives and what is decoded (`reads_readReady`), writing what is sent and what
waits (`writes_writeReady`). Each of them says how it has ended:

* reading that gives no reason to end the session has read until it would block
  (`readOut_readReady`);
* writing that leaves something has written until it would block, and writing that fails has lost
  its peer (`wrote_writeReady`).

A session that drains gives no frames (`frames_of_draining`), and ends only when its peer is gone
(`gone_of_draining`). Whatever is done with a session, it holds no messages while it drains
(`Silent`), and it has half-closed its connection once if it drains, and not at all before
(`ClosedOnce`).
-/

namespace ChatRelay

/-- Whether the connection is of no use any more. -/
def CloseReason.gone : CloseReason → Bool
  | .peerClosed | .peerReset | .io _ => true
  | .protocol _ | .overflow | .shutdown => false

theorem CloseReason.gone_ofFault (fault : Fault) : (CloseReason.ofFault fault).gone = true := by
  unfold CloseReason.ofFault
  split <;> rfl

namespace Session

variable {s t u : Session}

/-! ## Reading -/

/-- A session that has read may have changed in what it has received, and not else. -/
structure Reads (s t : Session) : Prop where
  id : t.id = s.id
  outbound : t.outbound = s.outbound
  phase : t.phase = s.phase
  sent : t.endpoint.sent = s.endpoint.sent
  later : s.endpoint.Later t.endpoint

theorem Reads.trans (h : Reads s t) (h' : Reads t u) : Reads s u where
  id := h'.id.trans h.id
  outbound := h'.outbound.trans h.outbound
  phase := h'.phase.trans h.phase
  sent := h'.sent.trans h.sent
  later := h.later.trans h'.later

theorem reads_of_read {answer : ReadAnswer} {endpoint : Endpoint}
    (h : s.endpoint.read readChunk = (answer, endpoint)) : Reads s { s with endpoint } :=
  ⟨rfl, rfl, rfl, Endpoint.sent_of_read h, Endpoint.later_of_read h⟩

theorem reads_receive (s : Session) (bytes : Bytes) : Reads s (s.receive bytes).2.2 := by
  have hlater := Endpoint.Later.refl s.endpoint
  unfold receive
  split
  · exact ⟨rfl, rfl, rfl, rfl, hlater⟩
  · exact ⟨rfl, rfl, rfl, rfl, hlater⟩

theorem reads_of_received {endpoint : Endpoint} {bytes read : Bytes} {frames : List Bytes}
    {closed : Option CloseReason}
    (hanswer : s.endpoint.read readChunk = (.bytes read, endpoint))
    (hreceived : receive { s with endpoint } bytes = (frames, closed, t)) : Reads s t := by
  have hreceive := reads_receive { s with endpoint } bytes
  rw [hreceived] at hreceive
  exact (reads_of_read hanswer).trans hreceive

theorem reads_readFrom (given : List Bytes) (s : Session) : Reads s (readFrom given s).2 := by
  fun_induction readFrom given s with
  | case1 given s endpoint hanswer => exact reads_of_read hanswer
  | case2 given s b bytes endpoint hanswer frames reason s' hreceived =>
    exact reads_of_received hanswer hreceived
  | case3 given s b bytes endpoint hanswer frames s' hreceived ih =>
    exact (reads_of_received hanswer hreceived).trans ih
  | case4 given s fault endpoint hanswer hblocked => exact reads_of_read hanswer
  | case5 given s fault endpoint hanswer hblocked hinterrupted ih =>
    exact (reads_of_read hanswer).trans ih
  | case6 given s fault endpoint hanswer hblocked hinterrupted => exact reads_of_read hanswer

theorem reads_readReady (s : Session) : Reads s s.readReady.2 := reads_readFrom [] s

theorem Reads.isDraining (h : Reads s t) : t.isDraining = s.isDraining := by
  unfold Session.isDraining
  rw [h.phase]

/-- Reading does not change whether there is something to send. -/
theorem Reads.wantsWrite (h : Reads s t) : t.wantsWrite = s.wantsWrite := by
  unfold Session.wantsWrite
  rw [h.isDraining, h.outbound]

/-- Reading that gives no reason to end the session has read all there was. -/
theorem readOut_readFrom (given : List Bytes) (s : Session)
    (h : (readFrom given s).1.closed = none) :
    s.endpoint.ReadOut (readFrom given s).2.endpoint := by
  fun_induction readFrom given s with
  | case1 given s endpoint hanswer => cases h
  | case2 given s b bytes endpoint hanswer frames reason s' hreceived => cases h
  | case3 given s b bytes endpoint hanswer frames s' hreceived ih =>
    exact (ih h).of_later (reads_of_received hanswer hreceived).later
  | case4 given s fault endpoint hanswer hblocked => exact Endpoint.readOut_of_read hanswer hblocked
  | case5 given s fault endpoint hanswer hblocked hinterrupted ih =>
    exact (ih h).of_later (Endpoint.later_of_read hanswer)
  | case6 given s fault endpoint hanswer hblocked hinterrupted => cases h

theorem readOut_readReady (h : s.readReady.1.closed = none) :
    s.endpoint.ReadOut s.readReady.2.endpoint :=
  readOut_readFrom [] s h

/-! ## Reading while draining -/

theorem receive_of_draining (h : s.isDraining = true) (bytes : Bytes) :
    s.receive bytes = ([], none, s) := by
  rw [receive, if_pos h]

/-- What arrives for a session that drains is thrown away. -/
theorem frames_readFrom (given : List Bytes) (s : Session) (h : s.isDraining = true) :
    (readFrom given s).1.frames = given := by
  fun_induction readFrom given s with
  | case1 given s endpoint hanswer => rfl
  | case2 given s b bytes endpoint hanswer frames reason s' hreceived =>
    rw [receive_of_draining (by exact h)] at hreceived
    simp at hreceived
  | case3 given s b bytes endpoint hanswer frames s' hreceived ih =>
    rw [receive_of_draining (by exact h)] at hreceived
    simp only [Prod.mk.injEq, true_and] at hreceived
    obtain ⟨rfl, rfl⟩ := hreceived
    rw [ih h, List.append_nil]
  | case4 given s fault endpoint hanswer hblocked => rfl
  | case5 given s fault endpoint hanswer hblocked hinterrupted ih => exact ih h
  | case6 given s fault endpoint hanswer hblocked hinterrupted => rfl

theorem frames_of_draining (h : s.isDraining = true) : s.readReady.1.frames = [] :=
  frames_readFrom [] s h

/-- A session that drains decodes nothing, and so ends only when its peer is gone. -/
theorem gone_readFrom (given : List Bytes) (s : Session) (h : s.isDraining = true)
    {reason : CloseReason} (hclosed : (readFrom given s).1.closed = some reason) :
    reason.gone = true := by
  fun_induction readFrom given s with
  | case1 given s endpoint hanswer => cases hclosed; rfl
  | case2 given s b bytes endpoint hanswer frames reason s' hreceived =>
    rw [receive_of_draining (by exact h)] at hreceived
    simp at hreceived
  | case3 given s b bytes endpoint hanswer frames s' hreceived ih =>
    rw [receive_of_draining (by exact h)] at hreceived
    simp only [Prod.mk.injEq, true_and] at hreceived
    obtain ⟨rfl, rfl⟩ := hreceived
    exact ih h hclosed
  | case4 given s fault endpoint hanswer hblocked => cases hclosed
  | case5 given s fault endpoint hanswer hblocked hinterrupted ih => exact ih h hclosed
  | case6 given s fault endpoint hanswer hblocked hinterrupted =>
    cases hclosed
    exact CloseReason.gone_ofFault fault

theorem gone_of_draining (h : s.isDraining = true) {reason : CloseReason}
    (hclosed : s.readReady.1.closed = some reason) : reason.gone = true :=
  gone_readFrom [] s h hclosed

/-! ## Writing -/

/-- A session that has written may have changed in what it sends, and not else. -/
structure Writes (s t : Session) : Prop where
  id : t.id = s.id
  phase : t.phase = s.phase
  inbound : t.endpoint.inbound = s.endpoint.inbound
  halfCloses : t.endpoint.halfCloses = s.endpoint.halfCloses

theorem writes_of_write {bytes : Bytes} {answer : WriteAnswer} {endpoint : Endpoint}
    {outbound : SendQueue} (h : s.endpoint.write bytes = (answer, endpoint)) :
    Writes s { s with endpoint, outbound } := by
  have hrest := s.endpoint.write_rest bytes
  rw [h] at hrest
  exact ⟨rfl, rfl, Endpoint.inbound_of_write h, hrest.2.2.1⟩

theorem Writes.trans (h : Writes s t) (h' : Writes t u) : Writes s u where
  id := h'.id.trans h.id
  phase := h'.phase.trans h.phase
  inbound := h'.inbound.trans h.inbound
  halfCloses := h'.halfCloses.trans h.halfCloses

theorem writes_writeReady (s : Session) : Writes s s.writeReady.2 := by
  fun_induction writeReady s with
  | case1 s hfront => exact ⟨rfl, rfl, rfl, rfl⟩
  | case2 s head hfront endpoint hanswer => exact writes_of_write hanswer
  | case3 s head hfront n endpoint hanswer ih => exact (writes_of_write hanswer).trans ih
  | case4 s head hfront fault endpoint hanswer hblocked => exact writes_of_write hanswer
  | case5 s head hfront fault endpoint hanswer hblocked hinterrupted ih =>
    have hwrites : Writes s { s with endpoint } := writes_of_write hanswer
    exact hwrites.trans ih
  | case6 s head hfront fault endpoint hanswer hblocked hinterrupted =>
    exact writes_of_write hanswer

/-- The ways in which writing ends. -/
inductive Wrote : WriteOutcome × Session → Prop
  | drained {t : Session} (empty : t.outbound.items = []) : Wrote (.drained, t)
  | pending {t : Session} (blocked : t.endpoint.WriteBlocked) : Wrote (.pending, t)
  | failed {t : Session} {reason : CloseReason} (gone : reason.gone = true) :
      Wrote (.failed reason, t)

/-- Writing ends with nothing left, where more would have to be waited for, or without a peer. -/
theorem wrote_writeReady (s : Session) : Wrote s.writeReady := by
  fun_induction writeReady s with
  | case1 s hfront => exact .drained (List.head?_eq_none_iff.1 hfront)
  | case2 s head hfront endpoint hanswer => exact .failed rfl
  | case3 s head hfront n endpoint hanswer ih => exact ih
  | case4 s head hfront fault endpoint hanswer hblocked =>
    exact .pending ⟨fault, hblocked, Endpoint.lastWrite_of_write hanswer⟩
  | case5 s head hfront fault endpoint hanswer hblocked hinterrupted ih => exact ih
  | case6 s head hfront fault endpoint hanswer hblocked hinterrupted =>
    exact .failed (CloseReason.gone_ofFault fault)

/-- Nothing is written when nothing waits. -/
theorem writeReady_of_nil (h : s.outbound.items = []) : s.writeReady = (.drained, s) := by
  have hfront : s.outbound.front? = none := by
    rw [SendQueue.front?, h]
    rfl
  unfold writeReady
  split
  · rfl
  · next head hhead =>
    rw [hfront] at hhead
    cases hhead

/-! ## Taking messages -/

theorem phase_enqueue (s : Session) (message : Bytes) : (s.enqueue message).2.phase = s.phase := by
  unfold enqueue
  split <;> rfl

theorem endpoint_enqueue (s : Session) (message : Bytes) :
    (s.enqueue message).2.endpoint = s.endpoint := by
  unfold enqueue
  split <;> rfl

/-- A message that is refused changes nothing of what waits. -/
theorem items_enqueue_of_error {message : Bytes} {error : EnqueueError}
    (h : (s.enqueue message).1 = .error error) :
    (s.enqueue message).2.outbound.items = s.outbound.items := by
  unfold enqueue at h ⊢
  split
  · rfl
  · next hopen =>
    rw [if_neg hopen] at h
    have hpushed := s.outbound.push_pushed message
    generalize s.outbound.push message = result at hpushed h
    cases hpushed with
    | refused error paused => rfl
    | forgotten hempty => cases h
    | taken evicted hne hle => cases h

/-! ## Closing -/

theorem id_beginClose (s : Session) (now drain : Nat) : (s.beginClose now drain).id = s.id := by
  unfold beginClose
  split <;> rfl

theorem isDraining_beginClose (s : Session) (now drain : Nat) :
    (s.beginClose now drain).isDraining = true := by
  unfold beginClose
  split
  · assumption
  · rfl

theorem inbound_beginClose (s : Session) (now drain : Nat) :
    (s.beginClose now drain).endpoint.inbound = s.endpoint.inbound := by
  unfold beginClose
  split <;> rfl

theorem beginClose_of_draining (h : s.isDraining = true) (now drain : Nat) :
    s.beginClose now drain = s :=
  if_pos h

/-! ## Whatever is done -/

/-- The session after something was done with it. -/
def meet (s : Session) : SessionEvent → Session
  | .enqueue message => (s.enqueue message).2
  | .read => s.readReady.2
  | .write => s.writeReady.2
  | .close now drain => s.beginClose now drain
  | .network change => { s with endpoint := s.endpoint.undergo change }

/-- What everything keeps that can be done with a session is kept by doing any of it in a row. -/
theorem foldl_meet_keeps {P : Session → Prop}
    (hmeet : ∀ {s : Session} event, P s → P (s.meet event)) (events : List SessionEvent)
    (h : P s) : P (events.foldl meet s) := by
  induction events generalizing s with
  | nil => exact h
  | cons event events ih => exact ih (hmeet event h)

/-- Nothing waits in a session that drains. -/
def Silent (s : Session) : Prop := s.isDraining = true → s.outbound.items = []

theorem Silent.beginClose (h : s.Silent) (now drain : Nat) : (s.beginClose now drain).Silent := by
  intro _
  unfold Session.beginClose
  split
  · next hdraining => exact h hdraining
  · rfl

theorem Silent.meet (h : s.Silent) (event : SessionEvent) : (s.meet event).Silent := by
  cases event with
  | enqueue message =>
    intro hdraining
    by_cases hbefore : s.isDraining = true
    · rw [Session.meet, enqueue, if_pos hbefore]
      exact h hbefore
    · rw [Session.meet, enqueue, if_neg hbefore] at hdraining
      exact absurd hdraining hbefore
  | read =>
    have hreads := reads_readReady s
    intro hdraining
    rw [Session.meet, hreads.outbound]
    exact h (hreads.isDraining ▸ hdraining)
  | write =>
    intro hdraining
    have hbefore : s.isDraining = true := by
      unfold Session.isDraining at hdraining ⊢
      rwa [← (writes_writeReady s).phase]
    rw [Session.meet, writeReady_of_nil (h hbefore)]
    exact h hbefore
  | close now drain => exact h.beginClose now drain
  | network change => exact h

/-- The connection has been half-closed once if the session drains, and not yet if it is open. -/
def ClosedOnce (s : Session) : Prop := s.endpoint.halfCloses = if s.isDraining then 1 else 0

theorem closedOnce_of_same (h : s.ClosedOnce) (hphase : t.phase = s.phase)
    (hcloses : t.endpoint.halfCloses = s.endpoint.halfCloses) : t.ClosedOnce := by
  unfold ClosedOnce Session.isDraining at h ⊢
  rw [hphase, hcloses, h]

theorem ClosedOnce.beginClose (h : s.ClosedOnce) (now drain : Nat) :
    (s.beginClose now drain).ClosedOnce := by
  unfold Session.beginClose
  split
  · exact h
  · next hopen =>
    show s.endpoint.halfCloses + 1 = 1
    rw [h, if_neg hopen]

theorem ClosedOnce.meet (h : s.ClosedOnce) (event : SessionEvent) : (s.meet event).ClosedOnce := by
  cases event with
  | enqueue message =>
    refine closedOnce_of_same h (phase_enqueue s message) ?_
    rw [Session.meet, endpoint_enqueue]
  | read =>
    have hreads := reads_readReady s
    refine closedOnce_of_same h hreads.phase ?_
    have hsent := hreads.sent
    simp only [Endpoint.sent, Prod.mk.injEq] at hsent
    exact hsent.2.1
  | write =>
    have hwrites := writes_writeReady s
    exact closedOnce_of_same h hwrites.phase hwrites.halfCloses
  | close now drain => exact h.beginClose now drain
  | network change =>
    refine closedOnce_of_same h rfl ?_
    cases change <;> rfl

end Session

end ChatRelay
