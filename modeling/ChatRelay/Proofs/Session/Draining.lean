import ChatRelay.Proofs.Session.Reception
import ChatRelay.Relay.Basic

/-!
# What a closed session still does

A session that has begun to close drains for good (`closed_for_good`). Whatever is done with it from
then on, it writes nothing, takes nothing and gives nothing; it has half-closed its connection once,
and keeps the deadline that the first close has set. All that still moves is what arrives: reading
throws data away and goes on, up to the first answer that ends it (`Endpoint.stop`), and says what
that answer means.

The proof rests on one step (`meet_of_draining`): with nothing in its queue, a draining session can
only become the same session on another endpoint, one that has sent the same.
-/

namespace ChatRelay

/-! ## Reading without decoding -/

/-- Whether a reader that throws data away reads on behind this. -/
def Arrival.passes : Arrival → Bool
  | .data bytes => bytes ≠ []
  | .fault failure => failure.kind = .interrupted

namespace Endpoint

/-- The answer at which a reader that throws data away stops, and what is left behind it. -/
def stop (e : Endpoint) : ReadAnswer × List Arrival :=
  match e.arrivals.dropWhile Arrival.passes with
  | [] => (if e.atEnd then .bytes [] else .fault wouldBlock, [])
  | .data _ :: rest => (.bytes [], rest)
  | .fault fault :: rest => (.fault fault, rest)

/-- The endpoint when everything up to the stop has been read. -/
def readOn (e : Endpoint) : Endpoint := { e with arrivals := e.stop.2, lastRead := some e.stop.1 }

variable {e e' : Endpoint} {limit : Nat}

/-- The stop depends on nothing but what arrives. -/
theorem readOn_eq (harrivals : e'.arrivals.dropWhile Arrival.passes =
      e.arrivals.dropWhile Arrival.passes)
    (hrest : e' = { e with arrivals := e'.arrivals, lastRead := e'.lastRead }) :
    e'.stop = e.stop ∧ e'.readOn = e.readOn := by
  have hend : e'.atEnd = e.atEnd := by rw [hrest]
  have hstop : e'.stop = e.stop := by
    unfold stop
    rw [harrivals, hend]
  refine ⟨hstop, ?_⟩
  unfold readOn
  rw [hstop, hrest]

/-- Data does not stop such a reader. -/
theorem readOn_of_bytes {b : UInt8} {bytes : Bytes} (h : e.read limit = (.bytes (b :: bytes), e')) :
    e'.stop = e.stop ∧ e'.readOn = e.readOn := by
  unfold read at h
  split at h
  · next data rest harrivals =>
    simp only [Prod.mk.injEq, ReadAnswer.bytes.injEq] at h
    obtain ⟨htake, rfl⟩ := h
    have hdata : data ≠ [] := by
      rintro rfl
      simp at htake
    have hpasses : (Arrival.data data).passes = true := by simpa [Arrival.passes] using hdata
    refine readOn_eq ?_ rfl
    rw [harrivals, List.dropWhile_cons_of_pos hpasses]
    show (if data.length ≤ limit then rest else _).dropWhile _ = _
    split
    · rfl
    · -- What is left of a piece that is cut is data as well.
      have hleft : (Arrival.data (data.drop limit)).passes = true := by
        simp [Arrival.passes]
        omega
      rw [List.dropWhile_cons_of_pos hleft]
  · simp at h
  · next harrivals =>
    simp only [Prod.mk.injEq] at h
    obtain ⟨h, -⟩ := h
    split at h <;> simp at h

/-- A call that was interrupted does not stop it either. -/
theorem readOn_of_interrupted {fault : Fault} (h : e.read limit = (.fault fault, e'))
    (hinterrupted : fault.kind = .interrupted) : e'.stop = e.stop ∧ e'.readOn = e.readOn := by
  unfold read at h
  split at h
  · simp at h
  · next failure rest harrivals =>
    simp only [Prod.mk.injEq, ReadAnswer.fault.injEq] at h
    obtain ⟨rfl, rfl⟩ := h
    have hpasses : (Arrival.fault failure).passes = true := by
      simpa [Arrival.passes] using hinterrupted
    refine readOn_eq ?_ rfl
    rw [harrivals, List.dropWhile_cons_of_pos hpasses]
  · simp only [Prod.mk.injEq] at h
    obtain ⟨h, -⟩ := h
    split at h
    · cases h
    · cases h
      cases hinterrupted

/-- What a read leaves that is at the stop is what is left when everything up to it was read. -/
theorem readOn_of_stop {answer : ReadAnswer} (hstop : e.stop = (answer, e'.arrivals))
    (hrest : e' = { e with arrivals := e'.arrivals, lastRead := some answer }) :
    e.stop.1 = answer ∧ e.readOn = e' := by
  refine ⟨congrArg Prod.fst hstop, ?_⟩
  rw [readOn, hstop]
  exact hrest.symm

/-- The end of the stream stops it. -/
theorem stop_of_end (hlimit : 0 < limit) (h : e.read limit = (.bytes [], e')) :
    e.stop.1 = .bytes [] ∧ e.readOn = e' := by
  unfold read at h
  split at h
  · next data rest harrivals =>
    simp only [Prod.mk.injEq, ReadAnswer.bytes.injEq, List.take_eq_nil_iff] at h
    obtain ⟨rfl | rfl, rfl⟩ := h
    · omega
    · refine readOn_of_stop ?_ (by simp)
      simp [stop, harrivals, Arrival.passes]
  · simp at h
  · next harrivals =>
    simp only [Prod.mk.injEq] at h
    obtain ⟨hend, rfl⟩ := h
    refine readOn_of_stop ?_ (by rw [hend])
    simp [stop, harrivals, hend]

/-- A fault stops it, unless the call was interrupted. -/
theorem stop_of_fault {fault : Fault} (h : e.read limit = (.fault fault, e'))
    (hinterrupted : fault.kind ≠ .interrupted) :
    e.stop.1 = .fault fault ∧ e.readOn = e' := by
  unfold read at h
  split at h
  · simp at h
  · next failure rest harrivals =>
    simp only [Prod.mk.injEq, ReadAnswer.fault.injEq] at h
    obtain ⟨rfl, rfl⟩ := h
    refine readOn_of_stop ?_ rfl
    simp [stop, harrivals, Arrival.passes, hinterrupted]
  · next harrivals =>
    simp only [Prod.mk.injEq] at h
    obtain ⟨hfault, rfl⟩ := h
    refine readOn_of_stop ?_ (by rw [hfault])
    simp [stop, harrivals, hfault]

end Endpoint

namespace Session

variable {s : Session}

/-- A session that drains reads up to the stop, and says what it means. -/
theorem readFrom_of_draining (given : List Bytes) (s : Session) (h : s.isDraining = true) :
    readFrom given s = (⟨given, s.endpoint.stop.1.reason⟩,
      { s with endpoint := s.endpoint.readOn }) := by
  fun_induction readFrom given s with
  | case1 given s endpoint hanswer =>
    obtain ⟨hstop, hread⟩ := Endpoint.stop_of_end (by decide) hanswer
    rw [hstop, hread]
    rfl
  | case2 given s b bytes endpoint hanswer frames reason s' hreceived =>
    rw [receive_of_draining (by exact h)] at hreceived
    simp at hreceived
  | case3 given s b bytes endpoint hanswer frames s' hreceived ih =>
    rw [receive_of_draining (by exact h)] at hreceived
    simp only [Prod.mk.injEq, true_and] at hreceived
    obtain ⟨rfl, rfl⟩ := hreceived
    obtain ⟨hstop, hread⟩ := Endpoint.readOn_of_bytes hanswer
    rw [ih h, List.append_nil, hstop, hread]
  | case4 given s fault endpoint hanswer hblocked =>
    have hinterrupted : fault.kind ≠ .interrupted := by
      rw [hblocked]
      decide
    obtain ⟨hstop, hread⟩ := Endpoint.stop_of_fault hanswer hinterrupted
    have hreason : (ReadAnswer.fault fault).reason = none := by
      rw [ReadAnswer.reason, hblocked]
      rfl
    rw [hstop, hread, hreason]
  | case5 given s fault endpoint hanswer hblocked hinterrupted ih =>
    obtain ⟨hstop, hread⟩ := Endpoint.readOn_of_interrupted hanswer hinterrupted
    rw [ih h, hstop, hread]
  | case6 given s fault endpoint hanswer hblocked hinterrupted =>
    obtain ⟨hstop, hread⟩ := Endpoint.stop_of_fault hanswer hinterrupted
    rw [hstop, hread, reason_of_hard_fault hblocked hinterrupted]

theorem readReady_of_draining (h : s.isDraining = true) :
    s.readReady = (⟨[], s.endpoint.stop.1.reason⟩,
      { s with endpoint := s.endpoint.readOn }) :=
  readFrom_of_draining [] s h

/-! ## Whatever is done -/

/-- A session that drains takes no message. -/
theorem enqueue_of_draining (h : s.isDraining = true) (message : Bytes) :
    s.enqueue message = (.error .closed, s) :=
  if_pos h

/-- Nothing but its endpoint changes in a session that drains and holds nothing, and that endpoint
sends nothing. -/
theorem meet_of_draining (h : s.isDraining = true) (hempty : s.outbound.items = [])
    (event : SessionEvent) :
    ∃ endpoint, s.meet event = { s with endpoint } ∧ endpoint.sent = s.endpoint.sent := by
  cases event with
  | enqueue message =>
    rw [meet, enqueue_of_draining h]
    exact ⟨s.endpoint, rfl, rfl⟩
  | read =>
    rw [meet, readReady_of_draining h]
    exact ⟨s.endpoint.readOn, rfl, rfl⟩
  | write =>
    rw [meet, writeReady_of_nil hempty]
    exact ⟨s.endpoint, rfl, rfl⟩
  | close now drain =>
    rw [meet, beginClose_of_draining h]
    exact ⟨s.endpoint, rfl, rfl⟩
  | network change => exact ⟨s.endpoint.undergo change, rfl, Endpoint.sent_undergo _ change⟩

/-- The same of any number of events. -/
theorem foldl_meet_of_draining (h : s.isDraining = true) (hempty : s.outbound.items = [])
    (events : List SessionEvent) :
    ∃ endpoint, events.foldl meet s = { s with endpoint } ∧ endpoint.sent = s.endpoint.sent := by
  induction events generalizing s with
  | nil => exact ⟨s.endpoint, rfl, rfl⟩
  | cons event events ih =>
    obtain ⟨first, hfirst, hsent⟩ := meet_of_draining h hempty event
    rw [List.foldl_cons, hfirst]
    obtain ⟨last, hlast, hrest⟩ := ih (s := { s with endpoint := first }) h hempty
    exact ⟨last, hlast, hrest.trans hsent⟩

/-- A session that has been closed and is to be given up at the deadline: what each of its calls
answers, and what it does to the session. -/
structure ClosedUntil (deadline : Nat) (s : Session) : Prop where
  /-- A read gives no frame. It goes on to the first answer that ends it, and reports the end of the
  stream and every failure but one that only means waiting. -/
  read : s.readReady = (⟨[], s.endpoint.stop.1.reason⟩, { s with endpoint := s.endpoint.readOn })
  write : s.writeReady = (.drained, s)
  enqueue : ∀ message, s.enqueue message = (.error .closed, s)
  offer : ∀ message, Outbox.offer s message = (.error .closed, s)
  close : ∀ now drain, s.beginClose now drain = s
  wants : s.wantsWrite = false
  items : s.outbound.items = []
  queued : s.outbound.queued = 0
  expired : ∀ time, s.drainExpired time = decide (deadline ≤ time)

/-- A session that drains with nothing in its queue is closed. -/
theorem closedUntil_of_draining {deadline : Nat} (hphase : s.phase = .draining deadline)
    (hempty : s.outbound.items = []) (hqueued : s.outbound.queued = 0) :
    s.ClosedUntil deadline := by
  have hdraining : s.isDraining = true := by
    unfold isDraining
    rw [hphase]
  refine ⟨readReady_of_draining hdraining, writeReady_of_nil hempty, enqueue_of_draining hdraining,
    enqueue_of_draining hdraining, beginClose_of_draining hdraining, ?_, hempty, hqueued, ?_⟩
  · rw [wantsWrite, hdraining]
    rfl
  · intro time
    unfold drainExpired
    rw [hphase]

/-- An open session that is closed stays closed until the deadline, and has sent what it had sent. -/
theorem closed_run (h : s.isDraining = false) (now drain : Nat) (events : List SessionEvent) :
    (events.foldl meet (s.beginClose now drain)).endpoint.sent = s.endpoint.halfClose.2.sent ∧
      (events.foldl meet (s.beginClose now drain)).ClosedUntil (now + drain) := by
  have hbegun : s.beginClose now drain =
      { s with
        endpoint := s.endpoint.halfClose.2
        outbound := s.outbound.clear
        decoder := { s.decoder with buffer := [] }
        phase := .draining (now + drain) } :=
    if_neg (by rw [h]; nofun)
  have hempty : (s.beginClose now drain).outbound.items = [] := by rw [hbegun]; rfl
  obtain ⟨last, hlast, hsent⟩ :=
    foldl_meet_of_draining (isDraining_beginClose s now drain) hempty events
  rw [hlast]
  constructor
  · rw [show last.sent = _ from hsent, hbegun]
  · refine closedUntil_of_draining ?_ hempty ?_
    · rw [hbegun]
    · rw [hbegun]
      rfl

/-- Only closing a session half-closes its connection and makes it drain. -/
theorem meet_unclosed (s : Session) {event : SessionEvent}
    (hclose : ∀ now drain, event ≠ .close now drain) :
    (s.meet event).phase = s.phase ∧
      (s.meet event).endpoint.halfCloses = s.endpoint.halfCloses := by
  cases event with
  | enqueue message =>
    rw [meet, endpoint_enqueue]
    exact ⟨phase_enqueue s message, rfl⟩
  | read =>
    have hreads := reads_readReady s
    have hsent := hreads.sent
    simp only [Endpoint.sent, Prod.mk.injEq] at hsent
    exact ⟨hreads.phase, hsent.2.1⟩
  | write =>
    have hwrites := writes_writeReady s
    exact ⟨hwrites.phase, hwrites.halfCloses⟩
  | close now drain => exact absurd rfl (hclose now drain)
  | network change =>
    have hsent := s.endpoint.sent_undergo change
    simp only [Endpoint.sent, Prod.mk.injEq] at hsent
    exact ⟨rfl, hsent.2.1⟩

theorem foldl_meet_unclosed (s : Session) {events : List SessionEvent}
    (hopen : ∀ now drain, .close now drain ∉ events) :
    (events.foldl meet s).phase = s.phase ∧
      (events.foldl meet s).endpoint.halfCloses = s.endpoint.halfCloses := by
  induction events generalizing s with
  | nil => exact ⟨rfl, rfl⟩
  | cons event events ih =>
    have hfirst : ∀ now drain, event ≠ .close now drain :=
      fun now drain heq => hopen now drain (heq ▸ List.mem_cons_self)
    have hlater : ∀ now drain, .close now drain ∉ events :=
      fun now drain hmem => hopen now drain (List.mem_cons_of_mem event hmem)
    obtain ⟨hphase, hcloses⟩ := s.meet_unclosed hfirst
    obtain ⟨hphases, hall⟩ := ih (s.meet event) hlater
    exact ⟨hphases.trans hphase, hall.trans hcloses⟩

/-- **A session that begins to close stays closed and silent.** Whatever was done with it before,
and whatever is done with it and happens to its connection after that, in any order: it has written
what it had written then, and has half-closed its connection once; no read gives a frame, though it
goes on to the end of the stream or to a failure and reports it; no message is taken and nothing
waits; and its deadline is that of the first close, so that once it is to be given up, it is so at
all later times. -/
theorem closed_for_good (id : SessionId) (peer : String) (endpoint : Endpoint) (codec : Codec)
    (limits : QueueLimits) (before : List SessionEvent)
    (hopen : ∀ now drain, .close now drain ∉ before) (now drain : Nat)
    (after : List SessionEvent) :
    let opened := before.foldl meet (new id peer endpoint codec limits)
    let s := after.foldl meet (opened.beginClose now drain)
    s.endpoint.written = opened.endpoint.written ∧
      s.endpoint.halfCloses = endpoint.halfCloses + 1 ∧
      s.ClosedUntil (now + drain) ∧
      ∀ time later (more : List SessionEvent), s.drainExpired time = true → time ≤ later →
        (more.foldl meet s).drainExpired later = true := by
  intro opened s
  obtain ⟨hphase, hcloses⟩ := foldl_meet_unclosed (new id peer endpoint codec limits) hopen
  have hopened : opened.isDraining = false := by
    rw [isDraining, show opened.phase = .opened from hphase]
  obtain ⟨hsent, hs⟩ := closed_run hopened now drain after
  simp only [Endpoint.sent, Prod.mk.injEq] at hsent
  refine ⟨hsent.1, hsent.2.1.trans (congrArg (· + 1) hcloses), hs, ?_⟩
  intro time later more hexpired hle
  obtain ⟨-, hmore⟩ := closed_run hopened now drain (after ++ more)
  rw [List.foldl_append] at hmore
  rw [hs.expired, decide_eq_true_iff] at hexpired
  rw [show (more.foldl meet s).drainExpired later = _ from hmore.expired later,
    decide_eq_true_iff]
  omega

/-- A session with half a frame received, half a message written and a paused producer, on a
connection that cannot be half-closed. It is closed, could write again, hears more, and is closed
once more. -/
theorem closed_for_good_half_written :
    let limits : QueueLimits := ⟨4, 2, none, .blockProducer⟩
    let endpoint : Endpoint := { Endpoint.idle with
      arrivals := [.data [104, 105]], acceptances := [.upTo 1], halfCloseFails := true }
    let before : List SessionEvent := [.read, .enqueue [1, 2, 3], .write, .enqueue [4, 5, 6]]
    let after : List SessionEvent :=
      [.network (.widen true), .write, .enqueue [7], .network (.arrive (.data [10])), .read,
        .close 100 100, .network (.arrive (.data [104, 10])), .network .finish]
    let opened := before.foldl meet (new ⟨7⟩ "" endpoint (.lines none 0) limits)
    let s := after.foldl meet (opened.beginClose 10 5)
    (∀ now drain, .close now drain ∉ before) ∧
      opened.decoder.buffer = [104, 105] ∧ opened.outbound.items = [[2, 3]] ∧
      opened.outbound.headStarted = true ∧ opened.outbound.paused = true ∧
      s.endpoint.written = [1] ∧ s.endpoint.halfCloses = 1 ∧
      s.readReady.1 = ⟨[], some .peerClosed⟩ ∧ s.enqueue [8] = (.error .closed, s) ∧
      s.drainExpired 14 = false ∧ s.drainExpired 15 = true := by
  intro limits endpoint before after opened s
  have hopen : ∀ now drain, .close now drain ∉ before := by simp [before]
  obtain ⟨hwritten, hcloses, hs, -⟩ :=
    closed_for_good ⟨7⟩ "" endpoint (.lines none 0) limits before hopen 10 5 after
  have hread : s.readReady.1 = ⟨[], s.endpoint.stop.1.reason⟩ := congrArg Prod.fst hs.read
  have hstop : s.endpoint.stop.1.reason = some .peerClosed := by decide +kernel
  refine ⟨hopen, ?_, ?_, ?_, ?_, ?_, hcloses, ?_, hs.enqueue [8], ?_, ?_⟩
  · decide +kernel
  · decide +kernel
  · decide +kernel
  · decide +kernel
  · exact hwritten.trans (by decide +kernel)
  · rw [hread, hstop]
  · rw [hs.expired]
    rfl
  · rw [hs.expired]
    rfl

end Session

end ChatRelay
