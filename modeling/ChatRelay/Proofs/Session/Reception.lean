import ChatRelay.Proofs.Frame.Reading
import ChatRelay.Proofs.Session.Handling

/-!
# What a session hears of its stream

A `Reception` goes along with a session that is open, and keeps what its reads have come to: the
frames that they gave, one call after another, and the reason to end, after which it is not read
from any more. However the stream is cut, by whatever failures it is interrupted, and whatever else
is done with the session in between, the frames are those of all bytes that were read, and the
reason to end is a fault of these bytes, or else what the last read has answered
(`frames_of_stream`):

    waiting ++ arrived = read ++ left,   frames = codec.frames read.

Between two calls the session is `Abreast` of what was read: its decoder holds what is incomplete,
and will give with any bytes to come what is still to be given of the whole stream.
-/

namespace ChatRelay

/-! ## What reading means -/

/-- Why a session ends whose last read was answered like this, if nothing in its stream is wrong. -/
def ReadAnswer.reason : ReadAnswer → Option CloseReason
  | .bytes [] => some .peerClosed
  | .bytes (_ :: _) => none
  | .fault failure =>
    if failure.kind ∈ [.wouldBlock, .interrupted] then none
    else if failure.kind ∈ [.connectionReset, .connectionAborted, .brokenPipe] then some .peerReset
    else some (.io failure)

/-- The bytes that come in. -/
def SessionEvent.data : SessionEvent → Bytes
  | .network change => change.data
  | _ => []

/-! ## In the middle of a stream -/

namespace Session

variable {codec : Codec} {read : Bytes} {frames before given : List Bytes} {s t : Session}

/-- An open session has given these frames of what was read, and its decoder will give the others
with what is still to come. -/
structure Abreast (codec : Codec) (read : Bytes) (frames : List Bytes) (s : Session) : Prop where
  opened : s.isDraining = false
  idle : s.decoder.Idle
  gives : ∀ more, codec.Countable (read ++ more) → ∃ later,
    codec.frames (read ++ more) = frames ++ later ∧
      s.decoder.Gives more later (codec.fault (read ++ more))

theorem abreast_new (id : SessionId) (peer : String) (endpoint : Endpoint) (codec : Codec)
    (limits : QueueLimits) : Abreast codec [] [] (.new id peer endpoint codec.reset limits) :=
  ⟨rfl, Decoder.idle_new codec, fun more hcount => ⟨_, rfl, Decoder.gives_new codec more hcount⟩⟩

theorem Abreast.of_same (h : Abreast codec read frames s) (hdecoder : t.decoder = s.decoder)
    (hphase : t.phase = s.phase) : Abreast codec read frames t := by
  refine ⟨?_, hdecoder ▸ h.idle, hdecoder ▸ h.gives⟩
  have hopened := h.opened
  unfold isDraining at hopened ⊢
  rwa [hphase]

/-- A session that has nothing to decode has given all frames of what was read. -/
theorem Abreast.all_given (h : Abreast codec read frames s) (hcount : codec.Countable read) :
    codec.frames read = frames ∧ codec.fault read = none := by
  obtain ⟨later, hframes, hgives⟩ := h.gives [] (by rwa [List.append_nil])
  obtain ⟨rfl, hfault⟩ := hgives.ended h.idle
  rw [List.append_nil, List.append_nil] at hframes
  rw [List.append_nil] at hfault
  exact ⟨hframes, hfault⟩

/-- More bytes are read, and nothing is wrong with them. -/
theorem Abreast.receive (h : Abreast codec read frames s) {bytes : Bytes}
    (hcount : codec.Countable (read ++ bytes))
    (hreceived : s.receive bytes = (given, none, t)) :
    Abreast codec (read ++ bytes) (frames ++ given) t := by
  rw [Session.receive, if_neg (Bool.eq_false_iff.1 h.opened)] at hreceived
  simp only [Prod.mk.injEq, Option.map_eq_none_iff] at hreceived
  obtain ⟨rfl, hnone, rfl⟩ := hreceived
  have hgoesOn : ∀ more, codec.Countable (read ++ bytes ++ more) → ∃ later,
      codec.frames (read ++ bytes ++ more) =
        frames ++ (s.decoder.feed bytes).drain.frames ++ later ∧
      (s.decoder.feed bytes).drain.decoder.Idle ∧
      (s.decoder.feed bytes).drain.decoder.Gives more later
        (codec.fault (read ++ bytes ++ more)) := by
    intro more hmore
    rw [List.append_assoc] at hmore
    obtain ⟨later, hframes, hgives⟩ := h.gives (bytes ++ more) hmore
    obtain ⟨last, rfl, hdrained, -⟩ := hgives.feed.drain
    obtain ⟨hidle, hlast⟩ := hdrained hnone
    rw [List.append_assoc read bytes more]
    exact ⟨last, hframes.trans (List.append_assoc _ _ _).symm, hidle, hlast⟩
  refine ⟨h.opened, ?_, fun more hmore => ?_⟩
  · obtain ⟨-, -, hidle, -⟩ := hgoesOn [] (by rwa [List.append_nil])
    exact hidle
  · obtain ⟨later, hframes, -, hgives⟩ := hgoesOn more hmore
    exact ⟨later, hframes, hgives⟩

/-- More bytes are read, and there is a fault in them. -/
theorem Abreast.receive_fault (h : Abreast codec read frames s) {bytes : Bytes}
    (hcount : codec.Countable (read ++ bytes)) {reason : CloseReason}
    (hreceived : s.receive bytes = (given, some reason, t)) :
    codec.frames (read ++ bytes) = frames ++ given ∧
      ∃ error, codec.fault (read ++ bytes) = some error ∧ reason = .protocol error := by
  rw [Session.receive, if_neg (Bool.eq_false_iff.1 h.opened)] at hreceived
  simp only [Prod.mk.injEq, Option.map_eq_some_iff] at hreceived
  obtain ⟨rfl, ⟨error, herror, rfl⟩, rfl⟩ := hreceived
  obtain ⟨later, hframes, hgives⟩ := h.gives bytes hcount
  rw [← List.append_nil bytes] at hgives
  obtain ⟨last, rfl, -, hfails⟩ := hgives.feed.drain
  obtain ⟨rfl, hfault⟩ := hfails error herror
  rw [List.append_nil] at hframes hfault
  exact ⟨hframes, error, hfault, rfl⟩

/-! ## One call -/

/-- Why a session ends that has read a stream with this fault, or with none, and whose last read was
answered like this. -/
def endReason (fault : Option FrameError) (answer : Option ReadAnswer) : Option CloseReason :=
  match fault with
  | some error => some (.protocol error)
  | none => answer.bind ReadAnswer.reason

theorem reason_of_hard_fault {fault : Fault} (hblocked : fault.kind ≠ .wouldBlock)
    (hinterrupted : fault.kind ≠ .interrupted) :
    (ReadAnswer.fault fault).reason = some (.ofFault fault) := by
  obtain ⟨kind, text⟩ := fault
  cases kind with
  | wouldBlock => exact absurd rfl hblocked
  | interrupted => exact absurd rfl hinterrupted
  | _ => rfl

/-- The answer of a read that has to wait. -/
def Waits (answer : Option ReadAnswer) : Prop :=
  ∃ fault, fault.kind = .wouldBlock ∧ answer = some (.fault fault)

/-- What a call has come to, after which this much has been read: the frames behind those that were
given before, and the reason to end; without one, the call has read on until it would have to
wait. -/
structure Heard (codec : Codec) (read : Bytes) (before : List Bytes)
    (result : ReadOutcome × Session) : Prop where
  frames : codec.frames read = before ++ result.1.frames
  closed : result.1.closed = endReason (codec.fault read) result.2.endpoint.lastRead
  goesOn : result.1.closed = none →
    Abreast codec read (before ++ result.1.frames) result.2 ∧ Waits result.2.endpoint.lastRead

/-- A session whose stream has no fault so far ends by what its last read has answered. -/
theorem Abreast.heard {endpoint : Endpoint} (h : Abreast codec read (before ++ given) s)
    (hcount : codec.Countable read) {answer : ReadAnswer} (hlast : endpoint.lastRead = some answer)
    (hwaits : answer.reason = none → Waits endpoint.lastRead) :
    Heard codec read before (⟨given, answer.reason⟩, { s with endpoint }) := by
  obtain ⟨hframes, hfault⟩ := h.all_given hcount
  refine ⟨hframes, ?_, fun hnone => ⟨h.of_same rfl rfl, hwaits hnone⟩⟩
  rw [hfault, hlast]
  rfl

/-- What is received was waiting in front. -/
theorem waiting_of_received {endpoint : Endpoint} {bytes : Bytes} {closed : Option CloseReason}
    (hanswer : s.endpoint.read readChunk = (.bytes bytes, endpoint))
    (hreceived : Session.receive { s with endpoint } bytes = (given, closed, t)) :
    s.endpoint.waiting = bytes ++ t.endpoint.waiting := by
  have hendpoint := endpoint_receive { s with endpoint } bytes
  rw [hreceived] at hendpoint
  rw [show t.endpoint = endpoint from hendpoint]
  exact Endpoint.waiting_of_read hanswer

/-- A call gives the frames of what it reads, behind those that were given before. -/
theorem Abreast.readFrom (h : Abreast codec read (before ++ given) s)
    (hcount : codec.Countable (read ++ s.endpoint.waiting)) :
    ∃ more, s.endpoint.waiting = more ++ (readFrom given s).2.endpoint.waiting ∧
      Heard codec (read ++ more) before (readFrom given s) := by
  fun_induction Session.readFrom given s generalizing read with
  | case1 given s endpoint hanswer =>
    have hheard := h.heard hcount.of_append (Endpoint.lastRead_of_read hanswer)
      fun hnone => absurd hnone (Option.some_ne_none _)
    refine ⟨[], Endpoint.waiting_of_read hanswer, ?_⟩
    rw [List.append_nil]
    exact hheard
  | case2 given s b bytes endpoint hanswer frames reason s' hreceived =>
    have hwaiting := waiting_of_received hanswer hreceived
    rw [hwaiting, ← List.append_assoc] at hcount
    have hread : Abreast codec read (before ++ given) { s with endpoint } := h.of_same rfl rfl
    obtain ⟨hframes, error, hfault, rfl⟩ := hread.receive_fault hcount.of_append hreceived
    refine ⟨b :: bytes, hwaiting, ?_, ?_, ?_⟩
    · rw [hframes, List.append_assoc]
    · rw [hfault]
      rfl
    · exact fun hnone => absurd hnone (Option.some_ne_none _)
  | case3 given s b bytes endpoint hanswer frames s' hreceived ih =>
    have hwaiting := waiting_of_received hanswer hreceived
    rw [hwaiting, ← List.append_assoc] at hcount
    have hread : Abreast codec read (before ++ given) { s with endpoint } := h.of_same rfl rfl
    have hreceive := hread.receive hcount.of_append hreceived
    rw [List.append_assoc] at hreceive
    obtain ⟨more, hleft, hheard⟩ := ih hreceive hcount
    refine ⟨b :: bytes ++ more, ?_, ?_⟩
    · rw [hwaiting, List.append_assoc, ← hleft]
    · rwa [← List.append_assoc]
  | case4 given s fault endpoint hanswer hblocked =>
    have hlast := Endpoint.lastRead_of_read hanswer
    have hreason : (ReadAnswer.fault fault).reason = none := by
      rw [ReadAnswer.reason, hblocked]
      rfl
    have hheard := h.heard hcount.of_append hlast fun _ => ⟨fault, hblocked, hlast⟩
    refine ⟨[], Endpoint.waiting_of_read hanswer, ?_⟩
    rwa [List.append_nil, ← hreason]
  | case5 given s fault endpoint hanswer hblocked hinterrupted ih =>
    have hwaiting : s.endpoint.waiting = endpoint.waiting := Endpoint.waiting_of_read hanswer
    rw [hwaiting] at hcount ⊢
    exact ih (h.of_same rfl rfl) hcount
  | case6 given s fault endpoint hanswer hblocked hinterrupted =>
    have hreason := reason_of_hard_fault hblocked hinterrupted
    have hheard := h.heard hcount.of_append (Endpoint.lastRead_of_read hanswer)
      fun hnone => absurd (hreason.symm.trans hnone) (Option.some_ne_none _)
    refine ⟨[], Endpoint.waiting_of_read hanswer, ?_⟩
    rwa [List.append_nil, ← hreason]

/-! ## Between two calls -/

theorem decoder_writeReady (s : Session) : s.writeReady.2.decoder = s.decoder := by
  fun_induction writeReady s with
  | case1 s hfront => rfl
  | case2 s head hfront endpoint hanswer => rfl
  | case3 s head hfront n endpoint hanswer ih => exact ih
  | case4 s head hfront fault endpoint hanswer hblocked => rfl
  | case5 s head hfront fault endpoint hanswer hblocked hinterrupted ih => exact ih
  | case6 s head hfront fault endpoint hanswer hblocked hinterrupted => rfl

theorem decoder_enqueue (s : Session) (message : Bytes) :
    (s.enqueue message).2.decoder = s.decoder := by
  unfold enqueue
  split <;> rfl

/-- A session that is neither read from nor closed has as much to decode as before, and what comes
in waits behind the rest. -/
theorem meet_unread (s : Session) {event : SessionEvent} (hread : event ≠ .read)
    (hclose : ∀ now drain, event ≠ .close now drain) :
    (s.meet event).decoder = s.decoder ∧ (s.meet event).phase = s.phase ∧
      (s.meet event).endpoint.waiting = s.endpoint.waiting ++ event.data := by
  cases event with
  | enqueue message =>
    refine ⟨decoder_enqueue s message, phase_enqueue s message, ?_⟩
    rw [meet, endpoint_enqueue]
    exact (List.append_nil _).symm
  | read => exact absurd rfl hread
  | write =>
    have hwrites := writes_writeReady s
    refine ⟨decoder_writeReady s, hwrites.phase, ?_⟩
    have harrivals : s.writeReady.2.endpoint.arrivals = s.endpoint.arrivals :=
      congrArg Prod.fst hwrites.inbound
    rw [meet, Endpoint.waiting, harrivals]
    exact (List.append_nil _).symm
  | close now drain => exact absurd rfl (hclose now drain)
  | network change => exact ⟨rfl, rfl, Endpoint.waiting_undergo _ change⟩

end Session

/-! ## Any number of calls -/

/-- A session that is read from, and what has come of it. -/
structure Reception where
  session : Session
  /-- The frames that were given, call after call. -/
  frames : List Bytes
  /-- Why the session has to end; it is not read from any more then. -/
  closed : Option CloseReason
  /-- What the last read was answered. -/
  last : Option ReadAnswer

namespace Reception

/-- A session that has not been read from. -/
def new (session : Session) : Reception := ⟨session, [], none, none⟩

/-- Reads all there is. -/
def read (r : Reception) : Reception :=
  let (outcome, session) := r.session.readReady
  ⟨session, r.frames ++ outcome.frames, outcome.closed, session.endpoint.lastRead⟩

/-- Carries out one event, but does not read once the session has to end. -/
def step (r : Reception) : SessionEvent → Reception
  | .read => if r.closed = none then r.read else r
  | event => { r with session := r.session.meet event }

/-- Carries out events one after another. -/
def run (r : Reception) (events : List SessionEvent) : Reception := events.foldl step r

/-- What was given is what stands in the bytes that were read. -/
structure Accords (codec : Codec) (read : Bytes) (r : Reception) : Prop where
  frames : codec.frames read = r.frames
  closed : r.closed = Session.endReason (codec.fault read) r.last
  goesOn : r.closed = none →
    Session.Abreast codec read r.frames r.session ∧ (r.last = none ∨ Session.Waits r.last)

variable {codec : Codec} {bytes : Bytes} {r : Reception}

theorem step_unread (r : Reception) {event : SessionEvent} (hread : event ≠ .read) :
    r.step event = { r with session := r.session.meet event } := by
  cases event with
  | read => exact absurd rfl hread
  | _ => rfl

theorem accords_new (id : SessionId) (peer : String) (endpoint : Endpoint) (codec : Codec)
    (limits : QueueLimits) (hcount : codec.Countable []) :
    Accords codec [] (.new (.new id peer endpoint codec.reset limits)) := by
  have habreast := Session.abreast_new id peer endpoint codec limits
  obtain ⟨hframes, hfault⟩ := habreast.all_given hcount
  refine ⟨hframes, ?_, fun _ => ⟨habreast, .inl rfl⟩⟩
  rw [hfault]
  rfl

theorem Accords.read (h : Accords codec bytes r) (hclosed : r.closed = none)
    (hcount : codec.Countable (bytes ++ r.session.endpoint.waiting)) :
    ∃ more, r.session.endpoint.waiting = more ++ r.read.session.endpoint.waiting ∧
      Accords codec (bytes ++ more) r.read := by
  obtain ⟨habreast, -⟩ := h.goesOn hclosed
  have hnone : Session.Abreast codec bytes (r.frames ++ []) r.session := by
    rwa [List.append_nil]
  obtain ⟨more, hwaiting, hheard⟩ := hnone.readFrom hcount
  refine ⟨more, hwaiting, hheard.frames, hheard.closed, fun hopen => ?_⟩
  obtain ⟨hlater, hwaits⟩ := hheard.goesOn hopen
  exact ⟨hlater, .inr hwaits⟩

/-- Whatever happens, what is given stays what stands in the bytes that are read. -/
theorem Accords.step (h : Accords codec bytes r) {event : SessionEvent}
    (hclose : ∀ now drain, event ≠ .close now drain)
    (hcount : codec.Countable (bytes ++ (r.session.endpoint.waiting ++ event.data))) :
    ∃ more, r.session.endpoint.waiting ++ event.data =
        more ++ (r.step event).session.endpoint.waiting ∧
      Accords codec (bytes ++ more) (r.step event) := by
  by_cases hread : event = .read
  · subst hread
    rw [show SessionEvent.data .read = [] from rfl, List.append_nil] at hcount ⊢
    rw [Reception.step]
    by_cases hclosed : r.closed = none
    · rw [if_pos hclosed]
      exact h.read hclosed hcount
    · rw [if_neg hclosed]
      exact ⟨[], rfl, by rwa [List.append_nil]⟩
  · rw [step_unread r hread]
    obtain ⟨hdecoder, hphase, hwaiting⟩ := r.session.meet_unread hread hclose
    refine ⟨[], hwaiting.symm, ?_⟩
    rw [List.append_nil]
    refine ⟨h.frames, h.closed, fun hclosed => ?_⟩
    obtain ⟨habreast, hlast⟩ := h.goesOn hclosed
    exact ⟨habreast.of_same hdecoder hphase, hlast⟩

theorem Accords.run (h : Accords codec bytes r) {events : List SessionEvent}
    (hclose : ∀ now drain, .close now drain ∉ events)
    (hcount : codec.Countable
      (bytes ++ (r.session.endpoint.waiting ++ events.flatMap SessionEvent.data))) :
    ∃ more, r.session.endpoint.waiting ++ events.flatMap SessionEvent.data =
        more ++ (r.run events).session.endpoint.waiting ∧
      Accords codec (bytes ++ more) (r.run events) := by
  induction events generalizing bytes r with
  | nil => exact ⟨[], List.append_nil _, by rwa [List.append_nil]⟩
  | cons event events ih =>
    have hfirst : ∀ now drain, event ≠ .close now drain :=
      fun now drain heq => hclose now drain (heq ▸ List.mem_cons_self)
    have hlater : ∀ now drain, .close now drain ∉ events :=
      fun now drain hmem => hclose now drain (List.mem_cons_of_mem event hmem)
    rw [List.flatMap_cons, ← List.append_assoc r.session.endpoint.waiting] at hcount ⊢
    have hnow : codec.Countable (bytes ++ (r.session.endpoint.waiting ++ event.data)) := by
      rw [← List.append_assoc bytes] at hcount
      exact hcount.of_append
    obtain ⟨more, hstep, haccords⟩ := h.step hfirst hnow
    rw [hstep, List.append_assoc more] at hcount ⊢
    rw [← List.append_assoc bytes] at hcount
    obtain ⟨last, hrun, hend⟩ := ih haccords hlater hcount
    refine ⟨more ++ last, ?_, ?_⟩
    · rw [hrun, List.append_assoc]
      rfl
    · rwa [← List.append_assoc]

theorem reason_ne_protocol (answer : ReadAnswer) (error : FrameError) :
    answer.reason ≠ some (.protocol error) := by
  unfold ReadAnswer.reason
  split
  · nofun
  · nofun
  · split
    · nofun
    · split <;> nofun

/-- **A session hears exactly what stands in its stream.** It is read from as often as wanted, up to
the first reason to end, while data of any size comes in, and failures among it, and while anything
is done with the session except closing it. Nothing that waited or came in is lost: a part of it was
read, and the rest is left. The frames that were given are those of what was read. The session ends
because of a fault in it exactly if there is one; otherwise it ends by the answer of the last read.
Without a reason to end, every call has gone on until it would have had to wait. -/
theorem frames_of_stream (id : SessionId) (peer : String) (endpoint : Endpoint) (codec : Codec)
    (limits : QueueLimits) (events : List SessionEvent)
    (hopen : ∀ now drain, .close now drain ∉ events)
    (hcount : codec.Countable (endpoint.waiting ++ events.flatMap SessionEvent.data)) :
    let r := (new (Session.new id peer endpoint codec.reset limits)).run events
    ∃ read, endpoint.waiting ++ events.flatMap SessionEvent.data =
        read ++ r.session.endpoint.waiting ∧
      r.frames = codec.frames read ∧
      (∀ error, r.closed = some (.protocol error) ↔ codec.fault read = some error) ∧
      (codec.fault read = none → r.closed = r.last.bind ReadAnswer.reason) ∧
      (r.closed = none → r.last = none ∨ Session.Waits r.last) := by
  intro r
  have hnothing : codec.Countable [] := Codec.Countable.of_append (by rwa [List.nil_append])
  obtain ⟨read, hwaiting, h⟩ :=
    (accords_new id peer endpoint codec limits hnothing).run hopen hcount
  rw [List.nil_append] at h
  refine ⟨read, hwaiting, h.frames.symm, ?_, ?_, fun hclosed => (h.goesOn hclosed).2⟩
  · intro error
    rw [h.closed]
    cases codec.fault read with
    | none =>
      refine ⟨fun heq => ?_, nofun⟩
      obtain ⟨answer, -, hreason⟩ := Option.bind_eq_some_iff.1 heq
      exact absurd hreason (reason_ne_protocol answer error)
    | some fault =>
      simp [Session.endReason]
  · intro hfault
    rw [h.closed, hfault]
    rfl

/-- A line of four bytes where three are allowed, after lines that come in pieces; and a connection
that is reset behind an incomplete line. -/
theorem frames_of_stream_line_too_long :
    let codec : Codec := .lines (some 3) 0
    let endpoint : Endpoint := { Endpoint.idle with arrivals :=
      [.data [104, 105, 10, 97], .fault ⟨.interrupted, ""⟩, .data [98, 10],
        .fault Endpoint.wouldBlock, .data [99]] }
    let events : List SessionEvent :=
      [.read, .enqueue [1], .network (.arrive (.data [100, 10, 101, 102, 103, 104, 10, 105])),
        .read]
    let r := (new (Session.new ⟨7⟩ "" endpoint codec.reset .standard)).run events
    let reset : Endpoint := { Endpoint.idle with arrivals :=
      [.data [104, 10, 97], .fault Endpoint.resetByPeer] }
    let r' := (new (Session.new ⟨7⟩ "" reset codec.reset .standard)).run [.read]
    (∀ now drain, .close now drain ∉ events) ∧
      codec.Countable (endpoint.waiting ++ events.flatMap SessionEvent.data) ∧
      r.frames = [[104, 105], [97, 98], [99, 100]] ∧
      r.closed = some (.protocol (.lineTooLong 3)) ∧
      r'.frames = [[104]] ∧ r'.closed = some .peerReset := by
  intro codec endpoint events r reset r'
  have hopen : ∀ now drain, .close now drain ∉ events := by simp [events]
  have hopen' : ∀ now drain, .close now drain ∉ [SessionEvent.read] := by simp
  have hcount : ∀ stream, codec.Countable stream := by
    intro stream max hmax
    left
    rw [← Option.some.inj hmax]
    decide
  have hleft : r.session.endpoint.waiting = [] := by decide +kernel
  have hleft' : r'.session.endpoint.waiting = [] := by decide +kernel
  have hlast : r'.last = some (.fault Endpoint.resetByPeer) := by decide +kernel
  obtain ⟨read, hread, hframes, hclosed, -⟩ :=
    frames_of_stream ⟨7⟩ "" endpoint codec .standard events hopen (hcount _)
  obtain ⟨read', hread', hframes', -, hclosed', -⟩ :=
    frames_of_stream ⟨7⟩ "" reset codec .standard [.read] hopen' (hcount _)
  rw [show (run _ events).session.endpoint.waiting = [] from hleft, List.append_nil] at hread
  rw [show (run _ [.read]).session.endpoint.waiting = [] from hleft', List.append_nil] at hread'
  subst hread hread'
  refine ⟨hopen, hcount _, hframes.trans (by decide), (hclosed _).2 (by decide),
    hframes'.trans (by decide), ?_⟩
  rw [show r'.closed = r'.last.bind ReadAnswer.reason from hclosed' (by decide), hlast]
  rfl

end Reception

end ChatRelay
