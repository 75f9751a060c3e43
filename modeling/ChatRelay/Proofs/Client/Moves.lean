import ChatRelay.Client.Step
import ChatRelay.Proofs.Mailbox.Crowd
import ChatRelay.Proofs.Session.Endpoint

/-!
# What the parts of a client do

Each step of a part of a client is one of a few things, listed here once: `Input.Did` for the input,
`Network.Sent`, `Network.Received` and `Network.Ended` for the network, `Display.Did` for the
display. What is shown of every step elsewhere is shown case by case of these lists; the steps
themselves are opened in this module only.

The network goes through three phases. While it is active it works both ways, then it sends what was
queued, and then its mailboxes are of no use any more (`NetworkState.phase`).
-/

namespace ChatRelay

/-! ## Endpoints -/

/-- A write that does not go on: it failed, or nothing was accepted. -/
def WriteAnswer.refused : WriteAnswer → Bool
  | .accepted n => n = 0
  | .fault failure => failure.kind ≠ .wouldBlock

theorem FrameReader.sent_pull (reader : FrameReader) (e : Endpoint) :
    (reader.pull e).2.2.sent = e.sent := by
  have hpullFrom : ∀ d : Decoder, (pullFrom d e).2.2.sent = e.sent := by
    intro d
    fun_induction pullFrom d e with
    | case1 d e payload d' hnext => rfl
    | case2 d e error d' hnext => rfl
    | case3 d e d' hnext b bytes e' hread ih => exact ih.trans (Endpoint.sent_of_read hread)
    | case4 d e d' hnext e' hread pulled reader hpulled => exact Endpoint.sent_of_read hread
    | case5 d e d' hnext failure e' hread hblocked => exact Endpoint.sent_of_read hread
    | case6 d e d' hnext failure e' hread hblocked => exact Endpoint.sent_of_read hread
  unfold pull
  split
  · rfl
  split
  · rfl
  · exact hpullFrom reader.decoder

/-! ## Mailboxes -/

/-- A message that a queue can ever hold. -/
def QueueLimits.admits (limits : QueueLimits) (message : Bytes) : Bool :=
  message ≠ [] && message.length ≤ limits.highWater

namespace SendQueue

variable {q : SendQueue} {message : Bytes}

/-- A queue does not know whether its mailbox is closed. -/
theorem push_ne_closed (q : SendQueue) (message : Bytes) :
    (q.push message).1 ≠ .error .closed := by
  unfold push
  split
  · simp
  split
  · simp
  split
  · simp
  split
  · simp
  split
  · simp
  · simp
  · simp
  · split <;> simp

/-- A push leaves some of what the queue held, and the message only if it can be held. -/
theorem items_push_sublist (q : SendQueue) (message : Bytes) :
    (q.push message).2.items.Sublist (q.items ++ [message].filter q.limits.admits) := by
  by_cases hlarge : message.length > q.limits.highWater
  · have hrefused : (q.push message).2 = q := by rw [push, if_pos hlarge]
    rw [hrefused]
    exact List.sublist_append_left _ _
  · have hpushed := q.push_pushed message
    generalize q.push message = result at hpushed ⊢
    cases hpushed with
    | refused error paused => exact List.sublist_append_left _ _
    | forgotten hempty => exact List.sublist_append_left _ _
    | taken evicted hne hle =>
      have hadmits : q.limits.admits message = true := by
        simp [QueueLimits.admits, hne, Nat.le_of_not_lt hlarge]
      rw [List.filter_cons_of_pos hadmits, List.filter_nil]
      exact (q.without_sublist evicted).append (List.Sublist.refl _)

/-- Where senders wait, a message that does not have to wait is taken if it can be held. -/
theorem items_push (hpolicy : q.limits.policy = .blockProducer)
    (hfull : (q.push message).1 ≠ .error .full) :
    (q.push message).1 ≠ .error .overflow ∧
      (q.push message).2.items = q.items ++ [message].filter q.limits.admits := by
  unfold push at hfull ⊢
  split
  · next hlarge =>
    have hrefused : ¬ q.limits.admits message = true := by
      simp only [QueueLimits.admits, Bool.and_eq_true, decide_eq_true_eq]
      omega
    rw [List.filter_cons_of_neg hrefused, List.filter_nil, List.append_nil]
    exact ⟨by simp, rfl⟩
  next hle =>
  rw [if_neg hle] at hfull
  split at hfull
  · exact absurd rfl hfull
  next hpaused =>
  rw [if_neg hpaused]
  split
  · next hempty => exact ⟨by simp, by simp [QueueLimits.admits, hempty]⟩
  next hne =>
  rw [if_neg hne] at hfull
  split at hfull
  · next hfits =>
    have hadmits : q.limits.admits message = true := by
      simp [QueueLimits.admits, hne, Nat.le_of_not_lt hle]
    rw [if_pos hfits, List.filter_cons_of_pos hadmits]
    exact ⟨by simp, rfl⟩
  · rw [hpolicy] at hfull
    exact absurd rfl hfull

end SendQueue

namespace Mailbox

variable {box after : Mailbox} {message : Bytes} {answer : Except EnqueueError Nat}

theorem offer_ne_closed (h : box.closed = false) : box.offer message ≠ (.error .closed, after) := by
  rw [offer_open h]
  intro hanswer
  exact SendQueue.push_ne_closed _ _ (Prod.mk.inj hanswer).1

theorem items_offer_sublist (h : box.offer message = (answer, after)) :
    after.queue.items.Sublist (box.queue.items ++ [message].filter box.queue.limits.admits) := by
  cases hclosed : box.closed with
  | true =>
    rw [offer_closed hclosed] at h
    obtain ⟨-, rfl⟩ := Prod.mk.inj h
    exact List.sublist_append_left _ _
  | false =>
    rw [offer_open hclosed] at h
    obtain ⟨-, rfl⟩ := Prod.mk.inj h
    exact SendQueue.items_push_sublist _ _

/-- Where senders wait, what does not have to wait is in the mailbox, unless it can never be. -/
theorem items_offer (hpolicy : box.queue.limits.policy = .blockProducer)
    (h : box.offer message = (answer, after)) (hfull : answer ≠ .error .full)
    (hclosed : answer ≠ .error .closed) :
    answer ≠ .error .overflow ∧
      after.queue.items = box.queue.items ++ [message].filter box.queue.limits.admits := by
  cases hbox : box.closed with
  | true =>
    rw [offer_closed hbox] at h
    exact absurd (Prod.mk.inj h).1.symm hclosed
  | false =>
    rw [offer_open hbox] at h
    obtain ⟨rfl, rfl⟩ := Prod.mk.inj h
    exact SendQueue.items_push hpolicy hfull

end Mailbox

/-! ## The input -/

/-- A reason that has been given stays. -/
theorem ExitSignal.reason_finish {signal : ExitSignal} {reason : ClientExit}
    (h : signal.reason = some reason) (other : ClientExit) :
    (signal.finish other).reason = some reason := by
  rw [finish, h]
  rfl

namespace Input

/-- The frame that a line becomes, if it becomes one. -/
def frame? (codec : Codec) (line : String) : Option Bytes :=
  if trim line = "" then none else (codec.encode (Bytes.ofText (trim line))).toOption

/-- What a step of the input is. -/
inductive Did (run : ClientRun) : ClientRun → Prop
  /-- The line is no message. -/
  | skipped {line : String} {lines : List String} (reading : run.input = .reading)
      (next : run.lines = line :: lines) (goesOn : trim line ≠ quitCommand)
      (refused : frame? run.codec line = none) : Did run { run with lines }
  /-- The line is a message. -/
  | framed {line : String} {lines : List String} {frame : Bytes} (reading : run.input = .reading)
      (next : run.lines = line :: lines) (goesOn : trim line ≠ quitCommand)
      (accepted : frame? run.codec line = some frame) :
      Did run { run with lines, input := .sending frame }
  /-- The line is the quit command. -/
  | quits {line : String} {lines : List String} (reading : run.input = .reading)
      (next : run.lines = line :: lines) (quit : trim line = quitCommand) :
      Did run { run with lines, signal := run.signal.finish .quit, input := .finished }
  /-- There is no line any more. -/
  | ends (reading : run.input = .reading) (next : run.lines = []) (ended : run.inputEnded = true) :
      Did run { run with signal := run.signal.finish .inputClosed, input := .finished }
  /-- The outbound mailbox is full. -/
  | waits {frame : Bytes} {outbound : Mailbox} (sending : run.input = .sending frame)
      (offer : run.outbound.offer frame = (.error .full, outbound)) :
      Did run { run with outbound }
  /-- The outbound mailbox has taken the message, or never will. -/
  | offered {frame : Bytes} {answer : Except EnqueueError Nat} {outbound : Mailbox}
      (sending : run.input = .sending frame) (offer : run.outbound.offer frame = (answer, outbound))
      (full : answer ≠ .error .full) (overflow : answer ≠ .error .overflow)
      (closed : answer ≠ .error .closed) : Did run { run with outbound, input := .reading }
  /-- The outbound mailbox overflows. -/
  | overflows {frame : Bytes} {outbound : Mailbox} (sending : run.input = .sending frame)
      (offer : run.outbound.offer frame = (.error .overflow, outbound)) :
      Did run { run with
        outbound, signal := run.signal.finish .outboundOverflow, input := .finished }
  /-- The outbound mailbox takes nothing any more. -/
  | closed {frame : Bytes} {outbound : Mailbox} (sending : run.input = .sending frame)
      (offer : run.outbound.offer frame = (.error .closed, outbound)) :
      Did run { run with outbound, input := .finished }
  /-- The client ends. -/
  | calledOff (called : run.signal.calledOff = true) : Did run { run with input := .finished }

variable {run run' : ClientRun}

theorem did_take {line : String} {lines : List String} (reading : run.input = .reading)
    (next : run.lines = line :: lines) : Did run (take line { run with lines }) := by
  unfold take
  dsimp only
  split
  · next hquit => exact .quits reading next hquit
  next hgoesOn =>
  split
  · next hempty => exact .skipped reading next hgoesOn (if_pos hempty)
  next hne =>
  split
  · next frame hencode =>
    refine .framed reading next hgoesOn ?_
    rw [frame?, if_neg hne, hencode]
    rfl
  · next error hencode =>
    refine .skipped reading next hgoesOn ?_
    rw [frame?, if_neg hne, hencode]
    rfl

theorem did_step (h : step run = some run') : Did run run' := by
  unfold step at h
  split at h
  · next reading =>
    split at h
    · next line lines next =>
      cases h
      exact did_take reading next
    · next next =>
      split at h
      · next ended =>
        cases h
        exact .ends reading next ended
      · cases h
  · next frame sending =>
    cases hoffer : run.outbound.offer frame with
    | mk answer outbound =>
      rw [hoffer] at h
      dsimp only at h
      split at h
      · unfold ClientRun.moved? at h
        split at h
        · cases h
        · cases h
          exact .waits sending hoffer
      · cases h
        exact .overflows sending hoffer
      · cases h
        exact .closed sending hoffer
      all_goals
        cases h
        exact .offered sending hoffer (by simp) (by simp) (by simp)
  · cases h

theorem did_callOff (h : callOff run = some run') : Did run run' := by
  unfold callOff at h
  split at h
  · next called =>
    cases h
    simp only [Bool.and_eq_true] at called
    exact .calledOff called.1
  · cases h

end Input

/-! ## The network -/

/-- How far the network part has come. -/
inductive Phase
  /-- It works both ways. -/
  | active
  /-- It sends what was queued. -/
  | flushing
  /-- It sends nothing any more. -/
  | ended
  deriving DecidableEq, Repr

namespace NetworkState

/-- The phase in which the network part is. -/
def phase : NetworkState → Phase
  | .relaying | .sending _ | .delivering _ => .active
  | .flushing .. => .flushing
  | .draining _ | .finished => .ended

/-- What is left of the frame that is being sent. -/
def inFlight : NetworkState → Bytes
  | .sending rest | .flushing (some rest) _ => rest
  | _ => []

/-- The message that waits for the inbound mailbox, if there is one. -/
def held : NetworkState → List Bytes
  | .delivering payload => [payload]
  | _ => []

end NetworkState

namespace Network

/-- What a step of sending is. -/
inductive Sent (run : ClientRun) : ClientRun → Prop
  /-- The next frame is taken from the outbound mailbox. -/
  | fetched {frame : Bytes} {outbound : Mailbox} {network : NetworkState}
      (receive : run.outbound.receive = (.message frame, outbound))
      (going : run.network.phase ≠ .ended) (same : network.phase = run.network.phase)
      (idle : run.network.inFlight = []) (flight : network.inFlight = frame)
      (empty : run.network.held = []) (held : network.held = []) :
      Sent run { run with outbound, network }
  /-- The connection takes a part of the frame. -/
  | wrote {n : Nat} {endpoint : Endpoint} {network : NetworkState}
      (write : run.endpoint.write run.network.inFlight = (.accepted n, endpoint)) (pos : n ≠ 0)
      (going : run.network.phase ≠ .ended) (same : network.phase = run.network.phase)
      (flight : network.inFlight = run.network.inFlight.drop n)
      (empty : run.network.held = []) (held : network.held = []) :
      Sent run { run with endpoint, network }
  /-- The connection takes nothing for now. -/
  | blocked {fault : Fault} {endpoint : Endpoint}
      (write : run.endpoint.write run.network.inFlight = (.fault fault, endpoint)) :
      Sent run { run with endpoint }
  /-- The connection refuses the frame. -/
  | failed {answer : WriteAnswer} {endpoint : Endpoint}
      (write : run.endpoint.write run.network.inFlight = (answer, endpoint))
      (refused : answer.refused = true) (active : run.network.phase = .active) :
      Sent run (serverGone { run with endpoint })
  /-- The connection refuses a frame that was queued before the end. -/
  | flushFailed {answer : WriteAnswer} {endpoint : Endpoint}
      (write : run.endpoint.write run.network.inFlight = (answer, endpoint))
      (refused : answer.refused = true) (flushing : run.network.phase = .flushing) :
      Sent run (beginDrain { run with endpoint })
  /-- Everything that was queued before the end has been sent. -/
  | flushed (flushing : run.network.phase = .flushing) (idle : run.network.inFlight = [])
      (drained : run.outbound.queue.items = []) :
      Sent run (beginDrain { run with endpoint := run.endpoint.halfClose.2 })
  /-- The outbound mailbox has ended. -/
  | outboundEnded (relaying : run.network = .relaying) (closed : run.outbound.closed = true) :
      Sent run (closeDown run)

/-- What a step of receiving is. -/
inductive Received (run : ClientRun) : ClientRun → Prop
  /-- A frame has come in. -/
  | pulled {payload : Bytes} {reader : FrameReader} {endpoint : Endpoint}
      (relaying : run.network = .relaying)
      (pull : run.reader.pull run.endpoint = (.frame payload, reader, endpoint)) :
      Received run { run with reader, endpoint, network := .delivering payload }
  /-- The stream has ended, or cannot be read on. -/
  | streamOver {pulled : Pulled} {reader : FrameReader} {endpoint : Endpoint}
      (relaying : run.network = .relaying)
      (pull : run.reader.pull run.endpoint = (pulled, reader, endpoint))
      (ended : pulled = .ended ∨ ∃ error, pulled = .failed error) :
      Received run (serverGone { run with reader, endpoint })
  /-- Nothing has come in. -/
  | nothing {reader : FrameReader} {endpoint : Endpoint} (relaying : run.network = .relaying)
      (pull : run.reader.pull run.endpoint = (.nothing, reader, endpoint)) :
      Received run { run with reader, endpoint }
  /-- The inbound mailbox has taken the message, or never will. -/
  | offered {payload : Bytes} {answer : Except EnqueueError Nat} {inbound : Mailbox}
      (delivering : run.network = .delivering payload)
      (offer : run.inbound.offer payload = (answer, inbound))
      (full : answer ≠ .error .full) (overflow : answer ≠ .error .overflow)
      (closed : answer ≠ .error .closed) : Received run { run with inbound, network := .relaying }
  /-- The inbound mailbox is full. -/
  | waits {payload : Bytes} {inbound : Mailbox} (delivering : run.network = .delivering payload)
      (offer : run.inbound.offer payload = (.error .full, inbound)) :
      Received run { run with inbound }
  /-- The inbound mailbox overflows. -/
  | overflows {payload : Bytes} {inbound : Mailbox} (delivering : run.network = .delivering payload)
      (offer : run.inbound.offer payload = (.error .overflow, inbound)) :
      Received run
        (closeDown { run with inbound, signal := run.signal.finish .inboundOverflow })
  /-- The inbound mailbox takes nothing any more. -/
  | closed {payload : Bytes} {inbound : Mailbox} (delivering : run.network = .delivering payload)
      (offer : run.inbound.offer payload = (.error .closed, inbound)) :
      Received run (closeDown { run with inbound })
  /-- What still arrives is thrown away. -/
  | discarded {endpoint : Endpoint} (ended : run.network.phase = .ended)
      (same : endpoint.sent = run.endpoint.sent) : Received run { run with endpoint }
  /-- What still arrived has been thrown away to its end. -/
  | drained {endpoint : Endpoint} (ended : run.network.phase = .ended)
      (same : endpoint.sent = run.endpoint.sent) : Received run (endAll { run with endpoint })

/-- What it is to end a part of the network's work. -/
inductive Ended (run : ClientRun) : ClientRun → Prop
  /-- The client ends. -/
  | calledOff (called : run.signal.calledOff = true) (active : run.network.phase = .active)
      (idle : run.network.inFlight = []) : Ended run (closeDown run)
  /-- The time for flushing is over. -/
  | flushTimedOut (flushing : run.network.phase = .flushing) : Ended run (beginDrain run)
  /-- The time for draining is over. -/
  | drainTimedOut (ended : run.network.phase = .ended) : Ended run (endAll run)

variable {run run' : ClientRun}

/-- What is left of a frame after a write, where the connection has taken some of it. -/
theorem write_ok {rest : Bytes} {left : Option Bytes} (h : write rest run = (.ok left, run')) :
    ∃ n endpoint, run.endpoint.write rest = (.accepted n, endpoint) ∧ n ≠ 0 ∧
      run' = { run with endpoint } ∧ left.getD [] = rest.drop n := by
  unfold write at h
  split at h
  · next n endpoint hwrite =>
    split at h
    · cases h
    · next hpos =>
      cases h
      refine ⟨n, endpoint, hwrite, hpos, rfl, ?_⟩
      split
      · next hle => exact (List.drop_eq_nil_of_le hle).symm
      · rfl
  · cases h

/-- A write that fails was refused, or would have to wait. -/
theorem write_error {rest : Bytes} {fault : Fault} (h : write rest run = (.error fault, run')) :
    ∃ answer endpoint, run.endpoint.write rest = (answer, endpoint) ∧ run' = { run with endpoint } ∧
      (fault.kind = .wouldBlock → ∃ failure, answer = .fault failure) ∧
      (fault.kind ≠ .wouldBlock → answer.refused = true) := by
  unfold write at h
  split at h
  · next n endpoint hwrite =>
    split at h
    · next hzero =>
      cases h
      refine ⟨_, endpoint, hwrite, rfl, ?_, ?_⟩
      · intro hkind
        cases hkind
      · intro _
        simp [WriteAnswer.refused, hzero]
    · cases h
  · next failure endpoint hwrite =>
    cases h
    refine ⟨_, endpoint, hwrite, rfl, fun _ => ⟨_, rfl⟩, ?_⟩
    intro hkind
    simp [WriteAnswer.refused, hkind]

theorem moved?_eq {before after : ClientRun} (h : before.moved? after = some run') :
    run' = after := by
  unfold ClientRun.moved? at h
  split at h
  · cases h
  · exact (Option.some.inj h).symm

theorem sent_send (h : send run = some run') : Sent run run' := by
  unfold send at h
  split at h
  · next relaying =>
    split at h
    · next frame outbound hreceive =>
      cases h
      exact .fetched hreceive (by simp [relaying, NetworkState.phase]) (by rw [relaying]; rfl)
        (by rw [relaying]; rfl) rfl (by rw [relaying]; rfl) rfl
    · next box hreceive =>
      cases h
      obtain ⟨-, hended⟩ := Mailbox.receive_none hreceive (by simp)
      cases hclosed : run.outbound.closed with
      | true => exact .outboundEnded relaying hclosed
      | false =>
        rw [hclosed] at hended
        cases hended
    · cases h
  · next rest sending =>
    have hflight : run.network.inFlight = rest := by rw [sending]; rfl
    have hphase : run.network.phase = .active := by rw [sending]; rfl
    have hheld : run.network.held = [] := by rw [sending]; rfl
    split at h
    · next left run'' hwrite =>
      cases h
      obtain ⟨n, endpoint, hanswer, hpos, rfl, hleft⟩ := write_ok hwrite
      rw [← hflight] at hanswer hleft
      exact .wrote hanswer hpos (by simp [hphase]) hphase.symm hleft hheld rfl
    · next run'' hwrite =>
      cases h
      obtain ⟨n, endpoint, hanswer, hpos, rfl, hleft⟩ := write_ok hwrite
      rw [← hflight] at hanswer hleft
      exact .wrote hanswer hpos (by simp [hphase]) hphase.symm hleft hheld rfl
    · next fault run'' hwrite =>
      obtain ⟨answer, endpoint, hanswer, rfl, hblocked, hrefused⟩ := write_error hwrite
      rw [← hflight] at hanswer
      split at h
      · next hkind =>
        obtain ⟨failure, rfl⟩ := hblocked hkind
        rw [moved?_eq h]
        exact .blocked hanswer
      · next hkind =>
        cases h
        exact .failed hanswer (hrefused hkind) hphase
  · next deadline flushing =>
    have hflight : run.network.inFlight = [] := by rw [flushing]; rfl
    have hphase : run.network.phase = .flushing := by rw [flushing]; rfl
    have hheld : run.network.held = [] := by rw [flushing]; rfl
    split at h
    · next frame outbound hreceive =>
      cases h
      exact .fetched hreceive (by simp [hphase]) hphase.symm hflight rfl hheld rfl
    · next hnone =>
      cases h
      cases hreceive : run.outbound.receive with
      | mk found box =>
        have hnothing : ∀ message, found ≠ .message message := by
          rintro message rfl
          exact hnone message box hreceive
        exact .flushed hphase hflight (Mailbox.receive_none hreceive hnothing).1
  · next rest deadline flushing =>
    have hflight : run.network.inFlight = rest := by rw [flushing]; rfl
    have hphase : run.network.phase = .flushing := by rw [flushing]; rfl
    have hheld : run.network.held = [] := by rw [flushing]; rfl
    split at h
    · next left run'' hwrite =>
      cases h
      obtain ⟨n, endpoint, hanswer, hpos, rfl, hleft⟩ := write_ok hwrite
      rw [← hflight] at hanswer hleft
      refine .wrote hanswer hpos (by simp [hphase]) hphase.symm ?_ hheld rfl
      rw [← hleft]
      cases left <;> rfl
    · next fault run'' hwrite =>
      obtain ⟨answer, endpoint, hanswer, rfl, hblocked, hrefused⟩ := write_error hwrite
      rw [← hflight] at hanswer
      split at h
      · next hkind =>
        obtain ⟨failure, rfl⟩ := hblocked hkind
        rw [moved?_eq h]
        exact .blocked hanswer
      · next hkind =>
        cases h
        exact .flushFailed hanswer (hrefused hkind) hphase
  all_goals cases h

theorem received_receive (h : receive run = some run') : Received run run' := by
  unfold receive at h
  split at h
  · next relaying =>
    cases hpull : run.reader.pull run.endpoint with
    | mk pulled left =>
      obtain ⟨reader, endpoint⟩ := left
      rw [hpull] at h
      cases pulled with
      | frame payload =>
        cases h
        exact .pulled relaying hpull
      | failed error =>
        cases h
        exact .streamOver relaying hpull (.inr ⟨error, rfl⟩)
      | ended =>
        cases h
        exact .streamOver relaying hpull (.inl rfl)
      | nothing =>
        rw [moved?_eq h]
        exact .nothing relaying hpull
  · next payload delivering =>
    cases hoffer : run.inbound.offer payload with
    | mk answer inbound =>
      rw [hoffer] at h
      dsimp only at h
      split at h
      · rw [moved?_eq h]
        exact .waits delivering hoffer
      · cases h
        exact .overflows delivering hoffer
      · cases h
        exact .closed delivering hoffer
      all_goals
        cases h
        exact .offered delivering hoffer (by simp) (by simp) (by simp)
  · next deadline draining =>
    have hover : run.network.phase = .ended := by rw [draining]; rfl
    have hsame := run.endpoint.sent_discard
    split at h
    · next endpoint hdiscard =>
      cases h
      rw [hdiscard] at hsame
      exact .drained hover hsame
    · next endpoint hdiscard =>
      rw [hdiscard] at hsame
      rw [moved?_eq h]
      exact .discarded hover hsame
  all_goals cases h

theorem ended_callOff (h : callOff run = some run') : Ended run run' := by
  unfold callOff at h
  split at h
  · next relaying =>
    split at h
    · next called =>
      cases h
      exact .calledOff called (by rw [relaying]; rfl) (by rw [relaying]; rfl)
    · cases h
  · next payload delivering =>
    split at h
    · next called =>
      cases h
      exact .calledOff called (by rw [delivering]; rfl) (by rw [delivering]; rfl)
    · cases h
  · cases h

theorem ended_timeOut (h : timeOut run = some run') : Ended run run' := by
  unfold timeOut at h
  split at h
  · next rest deadline flushing =>
    split at h
    · cases h
      exact .flushTimedOut (by rw [flushing]; rfl)
    · cases h
  · next deadline draining =>
    split at h
    · cases h
      exact .drainTimedOut (by rw [draining]; rfl)
    · cases h
  · cases h

@[simp] theorem phase_beginDrain (run : ClientRun) : (beginDrain run).network.phase = .ended := rfl

@[simp] theorem phase_endAll (run : ClientRun) : (endAll run).network.phase = .ended := rfl

/-- Closing down ends everything if the server is gone, and otherwise goes on to flushing. -/
theorem closeDown_cases (run : ClientRun) :
    (run.signal.reason = some .serverClosed ∧
      closeDown run = { run with
        inbound := run.inbound.close, outbound := run.outbound.abort, network := .finished
        signal := run.signal.callOff }) ∨
    (run.signal.reason ≠ some .serverClosed ∧
      closeDown run = { run with
        inbound := run.inbound.close, outbound := run.outbound.close
        network := .flushing none (run.now + run.drain) }) := by
  unfold closeDown
  by_cases hreason : run.signal.reason = some .serverClosed
  · exact .inl ⟨hreason, if_pos hreason⟩
  · exact .inr ⟨hreason, if_neg hreason⟩

theorem endpoint_closeDown (run : ClientRun) : (closeDown run).endpoint = run.endpoint := by
  obtain ⟨-, heq⟩ | ⟨-, heq⟩ := closeDown_cases run
  · rw [heq]
  · rw [heq]

theorem reason_closeDown (run : ClientRun) :
    (closeDown run).signal.reason = run.signal.reason := by
  obtain ⟨-, heq⟩ | ⟨-, heq⟩ := closeDown_cases run
  · rw [heq]
    rfl
  · rw [heq]

/-- Closing down leaves the active phase and closes the display's mailbox; the display and the
reader are not touched. -/
theorem closeDown_display (run : ClientRun) :
    (closeDown run).network.phase ≠ .active ∧ (closeDown run).inbound = run.inbound.close ∧
      (closeDown run).reader = run.reader ∧ (closeDown run).sink = run.sink ∧
      (closeDown run).display = run.display := by
  obtain ⟨-, heq⟩ | ⟨-, heq⟩ := closeDown_cases run
  · rw [heq]
    exact ⟨by simp [NetworkState.phase], rfl, rfl, rfl, rfl⟩
  · rw [heq]
    exact ⟨by simp [NetworkState.phase], rfl, rfl, rfl, rfl⟩

end Network

/-! ## Sinks -/

namespace Sink

theorem room_le (sink : Sink) (bound : Option Nat) (n : Nat) : sink.room bound n ≤ n := by
  unfold room
  split
  · exact Nat.min_le_left _ _
  · exact Nat.le_refl _

/-- What is taken of a line is at least one byte, and is shown behind everything else. -/
theorem take_taken {sink sink' : Sink} {bytes : Bytes} {n : Nat}
    (h : sink.take bytes = (.taken n, sink')) :
    0 < n ∧ n ≤ bytes.length ∧ sink'.shown = sink.shown ++ bytes.take n := by
  unfold take at h
  dsimp only at h
  split at h
  · cases h
  split at h
  · cases h
  · next hroom =>
    cases h
    refine ⟨Nat.pos_of_ne_zero hroom, ?_, rfl⟩
    exact Nat.le_trans (sink.room_le _ _) (sink.room_le _ _)

end Sink

/-! ## The display -/

namespace Display

/-- What a step of the display is. -/
inductive Did (run : ClientRun) : ClientRun → Prop
  /-- The next message is taken from the inbound mailbox. -/
  | fetched {message : Bytes} {inbound : Mailbox} (waiting : run.display = .waiting)
      (receive : run.inbound.receive = (.message message, inbound)) :
      Did run { run with inbound, display := .showing (line message) }
  /-- The inbound mailbox has ended. -/
  | ended (waiting : run.display = .waiting) (drained : run.inbound.queue.items = [])
      (closed : run.inbound.closed = true) : Did run { run with display := .finished none }
  /-- A part of the line is shown. -/
  | showed {rest : Bytes} {n : Nat} {sink : Sink} {display : DisplayState}
      (showing : run.display = .showing rest) (take : run.sink.take rest = (.taken n, sink))
      (left : display = if rest.length ≤ n then .waiting else .showing (rest.drop n)) :
      Did run { run with sink, display }
  /-- The line cannot be shown. -/
  | broke {rest : Bytes} {fault : Fault} (showing : run.display = .showing rest) :
      Did run { run with display := .finished (some fault), signal := run.signal.callOff }
  /-- From now on the time for showing is limited. -/
  | noticed (called : run.signal.calledOff = true) :
      Did run { run with giveUpAt := some (run.now + run.drain) }
  /-- The time for showing is over. -/
  | gaveUp {rest : Bytes} (showing : run.display = .showing rest)
      (timedOut : timeOut run = some { run with display := .finished none }) :
      Did run { run with display := .finished none }

variable {run run' : ClientRun}

theorem did_step (h : step run = some run') : Did run run' := by
  unfold step at h
  split at h
  · next waiting =>
    split at h
    · next message inbound hreceive =>
      cases h
      exact .fetched waiting hreceive
    · next box hreceive =>
      cases h
      obtain ⟨hnone, hended⟩ := Mailbox.receive_none hreceive (by simp)
      cases hclosed : run.inbound.closed with
      | true => exact .ended waiting hnone hclosed
      | false =>
        rw [hclosed] at hended
        cases hended
    · cases h
  · next rest showing =>
    split at h
    · next n sink htake =>
      cases h
      exact .showed showing htake rfl
    · cases h
      exact .broke showing
    · cases h
  · cases h

theorem did_notice (h : notice run = some run') : Did run run' := by
  unfold notice at h
  split at h
  · next hcan =>
    cases h
    simp only [Bool.and_eq_true] at hcan
    exact .noticed hcan.1.2
  · cases h

theorem did_timeOut (h : timeOut run = some run') : Did run run' := by
  have hout := h
  unfold timeOut at h
  split at h
  · split at h
    · next hcan =>
      cases h
      simp only [Bool.and_eq_true] at hcan
      have hstalled := hcan.1
      unfold stalled at hstalled
      split at hstalled
      · next rest showing => exact .gaveUp showing hout
      · cases hstalled
    · cases h
  · cases h

/-- The display does nothing to the network part, nor to the limits of its mailbox. -/
theorem did_rest (did : Did run run') : run'.network = run.network ∧ run'.reader = run.reader ∧
    run'.endpoint = run.endpoint ∧ run'.inbound.queue.limits = run.inbound.queue.limits := by
  cases did with
  | fetched waiting receive =>
    obtain ⟨-, rfl⟩ := Mailbox.receive_message receive
    exact ⟨rfl, rfl, rfl, by simp [Mailbox.popped]⟩
  | _ => exact ⟨rfl, rfl, rfl, rfl⟩

end Display

/-! ## The whole client -/

namespace ClientRun

/-- What any move of a client is. -/
inductive Did (run : ClientRun) : ClientRun → Prop
  | input {run' : ClientRun} (did : Input.Did run run') : Did run run'
  | sent {run' : ClientRun} (did : Network.Sent run run') : Did run run'
  | received {run' : ClientRun} (did : Network.Received run run') : Did run run'
  | ended {run' : ClientRun} (did : Network.Ended run run') : Did run run'
  | display {run' : ClientRun} (did : Display.Did run run') : Did run run'

theorem did_move {run run' : ClientRun} {move : ClientMove} (h : run.move? move = some run') :
    Did run run' := by
  cases move with
  | input => exact .input (Input.did_step h)
  | inputCalledOff => exact .input (Input.did_callOff h)
  | networkCalledOff => exact .ended (Network.ended_callOff h)
  | receive => exact .received (Network.received_receive h)
  | send => exact .sent (Network.sent_send h)
  | «show» => exact .display (Display.did_step h)
  | noticeStall => exact .display (Display.did_notice h)
  | networkTimeOut => exact .ended (Network.ended_timeOut h)
  | displayTimeOut => exact .display (Display.did_timeOut h)

/-- A move that is not possible changes nothing. -/
theorem step_move (run : ClientRun) (move : ClientMove) :
    run.step (.move move) = run ∨ Did run (run.step (.move move)) := by
  have hstep : run.step (.move move) = (run.move? move).getD run := rfl
  rw [hstep]
  cases hmove : run.move? move with
  | none => exact .inl rfl
  | some run' => exact .inr (did_move hmove)

end ClientRun

end ChatRelay
