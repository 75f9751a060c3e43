import ChatRelay.Proofs.Frame.Reading
import ChatRelay.Server.Task
import ChatRelay.Session.Basic

/-!
# Listening to a connection

A session reads all there is when its turn comes, and a task pulls one message after another. Both
take the same messages from a stream and end for the same reason, however the stream is cut into
pieces and whenever they look at it (`heard_alike`):

    messages   the frames that stand in the stream,
    end        the fault behind them, or else the end of the stream.

A `Hearer` is what the two have in common. `Hearer.Keeps` says what has to be shown of each: that
looking at the connection takes the first of the frames that are still to come, and ends only where
no frame is left. A run follows from that by induction on what happens (`Keeps.hearOut`). In
particular a task, which asks its decoder once more at the end of the stream, gets nothing by it
that a session does not get.
-/

namespace ChatRelay

/-! ## Hearers -/

/-- What happens to a connection to which somebody listens. -/
inductive StreamEvent
  /-- Bytes arrive, at least one. -/
  | arrives (first : UInt8) (others : Bytes)
  /-- Whoever listens takes all there is. -/
  | looks
  deriving DecidableEq, Repr

/-- All bytes that arrive. -/
def StreamEvent.bytes (events : List StreamEvent) : Bytes :=
  events.flatMap fun
    | .arrives first others => first :: others
    | .looks => []

/-- Somebody who listens to a connection. -/
structure Hearer (σ : Type) where
  /-- The network does something to the connection. -/
  undergo : σ → Endpoint.Change → σ
  /-- The hearer takes all there is. -/
  look : σ → ReadOutcome × σ

namespace Hearer

variable {σ : Type}

/-- What is heard up to the first reason to end. -/
def attend (hearer : Hearer σ) (s : σ) : List StreamEvent → ReadOutcome × σ
  | [] => (⟨[], none⟩, s)
  | .arrives first others :: later =>
    hearer.attend (hearer.undergo s (.arrive (.data (first :: others)))) later
  | .looks :: later =>
    match hearer.look s with
    | (⟨frames, some reason⟩, s) => (⟨frames, some reason⟩, s)
    | (⟨frames, none⟩, s) =>
      let (outcome, s) := hearer.attend s later
      (⟨frames ++ outcome.frames, outcome.closed⟩, s)

/-- What is heard of a whole stream: its end comes behind everything else, and is looked at. -/
def hearOut (hearer : Hearer σ) (s : σ) (events : List StreamEvent) : ReadOutcome :=
  match hearer.attend s events with
  | (⟨frames, some reason⟩, _) => ⟨frames, some reason⟩
  | (⟨frames, none⟩, s) =>
    let last := (hearer.look (hearer.undergo s .finish)).1
    ⟨frames ++ last.frames, last.closed⟩

end Hearer

/-- A session is a hearer. -/
def Session.hearer : Hearer Session where
  undergo s change := { s with endpoint := s.endpoint.undergo change }
  look := Session.readReady

namespace Task

/-- Pulls at most `fuel` messages. -/
def pullFor (task : Task) : (fuel : Nat) → ReadOutcome × Task
  | 0 => (⟨[], none⟩, task)
  | fuel + 1 =>
    match task.pull with
    | (.message payload, task) =>
      let (outcome, task) := pullFor task fuel
      (⟨payload :: outcome.frames, outcome.closed⟩, task)
    | (.ending reason, task) => (⟨[], some reason⟩, task)
    | (.nothing, task) => (⟨[], none⟩, task)

/-- Pulls as many messages as a group lets a task pull in its turn. -/
def pullAll (task : Task) : ReadOutcome × Task :=
  task.pullFor (task.reader.decoder.size + Endpoint.unread task.endpoint.arrivals + 2)

/-- A task is a hearer. -/
def hearer : Hearer Task where
  undergo task change := { task with endpoint := task.endpoint.undergo change }
  look := pullAll

end Task

/-- Why a connection ends at the end of what can be read of its stream. -/
def CloseReason.ofStream : Option FrameError → CloseReason
  | none => .peerClosed
  | some error => .protocol error

/-! ## What is still to be heard -/

namespace Hearer

variable {σ : Type}

/-- A hearer in the middle of a stream is described by `Hearing`: whether the stream has ended,
what is still to come, and which frames and which fault are still to be heard. Looking takes the
first of these frames; a reason to end is given behind the last of them, and only there. -/
structure Keeps (hearer : Hearer σ)
    (Hearing : σ → Bool → Bytes → List Bytes → Option FrameError → Prop) : Prop where
  arrives : ∀ {s first others coming frames fault},
    Hearing s false (first :: others ++ coming) frames fault →
      Hearing (hearer.undergo s (.arrive (.data (first :: others)))) false coming frames fault
  finishes : ∀ {s frames fault}, Hearing s false [] frames fault →
    Hearing (hearer.undergo s .finish) true [] frames fault
  looks : ∀ {s ended coming frames fault}, Hearing s ended coming frames fault →
    match hearer.look s with
    | (⟨heard, none⟩, s') =>
      ended = false ∧ ∃ later, frames = heard ++ later ∧ Hearing s' false coming later fault
    | (⟨heard, some reason⟩, _) => heard = frames ∧ reason = .ofStream fault

variable {hearer : Hearer σ}
  {Hearing : σ → Bool → Bytes → List Bytes → Option FrameError → Prop}

/-- Up to the first reason to end, everything heard is the first of what is to be heard. -/
theorem Keeps.attend (h : hearer.Keeps Hearing) (events : List StreamEvent) {s : σ} {coming : Bytes}
    {frames : List Bytes} {fault : Option FrameError}
    (hs : Hearing s false (StreamEvent.bytes events ++ coming) frames fault) :
    match hearer.attend s events with
    | (⟨heard, none⟩, s') => ∃ later, frames = heard ++ later ∧ Hearing s' false coming later fault
    | (⟨heard, some reason⟩, _) => heard = frames ∧ reason = .ofStream fault := by
  induction events generalizing s frames with
  | nil => exact ⟨frames, rfl, hs⟩
  | cons event events ih =>
    cases event with
    | arrives first others =>
      have hstream : StreamEvent.bytes (.arrives first others :: events) ++ coming =
          first :: others ++ (StreamEvent.bytes events ++ coming) := by
        simp [StreamEvent.bytes]
      rw [hstream] at hs
      exact ih (h.arrives hs)
    | looks =>
      have hlook := h.looks hs
      rw [Hearer.attend]
      generalize hearer.look s = answer at hlook ⊢
      obtain ⟨⟨heard, closed⟩, s'⟩ := answer
      cases closed with
      | some reason => exact hlook
      | none =>
        obtain ⟨-, later, rfl, hs'⟩ := hlook
        have hrest := ih hs'
        dsimp only
        generalize hearer.attend s' events = answer at hrest ⊢
        obtain ⟨⟨heard', closed⟩, s''⟩ := answer
        cases closed with
        | some reason =>
          obtain ⟨rfl, rfl⟩ := hrest
          exact ⟨rfl, rfl⟩
        | none =>
          obtain ⟨later', rfl, hs''⟩ := hrest
          exact ⟨later', (List.append_assoc _ _ _).symm, hs''⟩

/-- Of a whole stream everything is heard. -/
theorem Keeps.hearOut (h : hearer.Keeps Hearing) (events : List StreamEvent) {s : σ}
    {frames : List Bytes} {fault : Option FrameError}
    (hs : Hearing s false (StreamEvent.bytes events) frames fault) :
    hearer.hearOut s events = ⟨frames, some (.ofStream fault)⟩ := by
  have hall : Hearing s false (StreamEvent.bytes events ++ []) frames fault := by
    rwa [List.append_nil]
  have hattend := h.attend events hall
  unfold Hearer.hearOut
  generalize hearer.attend s events = answer at hattend ⊢
  obtain ⟨⟨heard, closed⟩, s'⟩ := answer
  cases closed with
  | some reason =>
    obtain ⟨rfl, rfl⟩ := hattend
    rfl
  | none =>
    obtain ⟨later, rfl, hs'⟩ := hattend
    have hlook := h.looks (h.finishes hs')
    dsimp only
    generalize hearer.look (hearer.undergo s' .finish) = answer at hlook ⊢
    obtain ⟨⟨heard', closed⟩, s''⟩ := answer
    cases closed with
    | some reason =>
      obtain ⟨rfl, rfl⟩ := hlook
      rfl
    | none =>
      obtain ⟨hended, -⟩ := hlook
      cases hended

end Hearer

/-! ## Sessions -/

namespace Session

/-- An open session in the middle of a stream, all that has been received being decoded. -/
structure Hearing (s : Session) (ended : Bool) (coming : Bytes) (frames : List Bytes)
    (fault : Option FrameError) : Prop where
  opened : s.isDraining = false
  ended : s.endpoint.atEnd = ended
  idle : s.decoder.Idle
  reading : Reading s.decoder s.endpoint coming frames fault

variable {s : Session} {ended : Bool} {coming : Bytes} {frames : List Bytes}
  {fault : Option FrameError}

theorem receive_of_open (h : s.isDraining = false) (bytes : Bytes) :
    s.receive bytes =
      ((s.decoder.feed bytes).drain.frames,
        (s.decoder.feed bytes).drain.error.map .protocol,
        { s with decoder := (s.decoder.feed bytes).drain.decoder }) := by
  simp [receive, h]

/-- Bytes that are read give the first of the frames, or all of them and the fault. -/
theorem Hearing.receive (h : s.Hearing ended coming frames fault) {endpoint : Endpoint} {b : UInt8}
    {bytes : Bytes} (hread : s.endpoint.read readChunk = (.bytes (b :: bytes), endpoint)) :
    match Session.receive { s with endpoint } (b :: bytes) with
    | (heard, none, s') => ∃ later, frames = heard ++ later ∧ s'.Hearing ended coming later fault
    | (heard, some reason, _) => heard = frames ∧ reason = .ofStream fault := by
  have hbytes : b :: bytes ≠ [] := List.cons_ne_nil b bytes
  have hfed := h.reading.read_bytes hread hbytes
  obtain ⟨-, -, hend, -⟩ := h.reading.healthy.read_bytes hread hbytes
  obtain ⟨later, hframes, hgoesOn, hfails⟩ := hfed.gives.drain
  rw [receive_of_open (by exact h.opened)]
  cases herror : (s.decoder.feed (b :: bytes)).drain.error with
  | none =>
    obtain ⟨hidle, hgives⟩ := hgoesOn herror
    exact ⟨later, hframes, h.opened, hend.trans h.ended, hidle, hfed.healthy, hfed.ended, hgives⟩
  | some error =>
    obtain ⟨rfl, rfl⟩ := hfails error herror
    rw [List.append_nil] at hframes
    exact ⟨hframes.symm, rfl⟩

theorem Hearing.readFrom (h : s.Hearing ended coming frames fault) (given : List Bytes) :
    match Session.readFrom given s with
    | (⟨heard, none⟩, s') => ended = false ∧
      ∃ more later, heard = given ++ more ∧ frames = more ++ later ∧
        s'.Hearing false coming later fault
    | (⟨heard, some reason⟩, _) => heard = given ++ frames ∧ reason = .ofStream fault := by
  fun_induction Session.readFrom given s generalizing frames with
  | case1 given s endpoint hread =>
    obtain ⟨rfl, rfl⟩ := (h.reading.read_end (by decide) hread).ended h.idle
    exact ⟨(List.append_nil _).symm, rfl⟩
  | case2 given s b bytes endpoint hread heard reason s' hreceived =>
    have hreceive := h.receive hread
    rw [hreceived] at hreceive
    obtain ⟨rfl, rfl⟩ := hreceive
    exact ⟨rfl, rfl⟩
  | case3 given s b bytes endpoint hread heard s' hreceived ih =>
    have hreceive := h.receive hread
    rw [hreceived] at hreceive
    obtain ⟨later, rfl, hs'⟩ := hreceive
    have hrest := ih hs'
    generalize Session.readFrom (given ++ heard) s' = answer at hrest ⊢
    obtain ⟨⟨all, closed⟩, s''⟩ := answer
    cases closed with
    | none =>
      obtain ⟨hended, more, later', rfl, rfl, hs''⟩ := hrest
      exact ⟨hended, heard ++ more, later', List.append_assoc _ _ _,
        (List.append_assoc _ _ _).symm, hs''⟩
    | some reason =>
      obtain ⟨rfl, rfl⟩ := hrest
      exact ⟨List.append_assoc _ _ _, rfl⟩
  | case4 given s failure endpoint hread hblocked =>
    obtain ⟨-, hopen, hend, hreading⟩ := h.reading.read_fault hread
    refine ⟨h.ended.symm.trans hopen, [], frames, (List.append_nil _).symm, rfl, ?_⟩
    exact ⟨h.opened, hend, h.idle, hreading⟩
  | case5 given s failure endpoint hread hblocked hinterrupted ih =>
    obtain ⟨rfl, -⟩ := h.reading.read_fault hread
    exact absurd rfl hblocked
  | case6 given s failure endpoint hread hblocked hinterrupted =>
    obtain ⟨rfl, -⟩ := h.reading.read_fault hread
    exact absurd rfl hblocked

/-- A session hears the frames of its stream. -/
theorem keeps_hearing : hearer.Keeps Hearing where
  arrives h := ⟨h.opened, h.ended, h.idle, h.reading.arrive h.ended⟩
  finishes h := ⟨h.opened, rfl, h.idle, h.reading.finish⟩
  looks {s _ _ _ _} h := by
    have hread := h.readFrom []
    have hlook : hearer.look s = Session.readFrom [] s := rfl
    rw [hlook]
    generalize Session.readFrom [] s = answer at hread ⊢
    obtain ⟨⟨heard, closed⟩, s'⟩ := answer
    cases closed with
    | none =>
      obtain ⟨hended, more, later, rfl, rfl, hs'⟩ := hread
      exact ⟨hended, later, rfl, hs'⟩
    | some reason => exact hread

end Session

/-! ## Tasks -/

namespace Task

/-- A task in the middle of a stream, whose reader has not ended. -/
structure Hearing (task : Task) (ended : Bool) (coming : Bytes) (frames : List Bytes)
    (fault : Option FrameError) : Prop where
  unfinished : task.reader = ⟨task.reader.decoder, false, false⟩
  ended : task.endpoint.atEnd = ended
  reading : Reading task.reader.decoder task.endpoint coming frames fault

/-- A bound on the messages that can be pulled. -/
def pullable (task : Task) : Nat :=
  task.reader.decoder.size + Endpoint.unread task.endpoint.arrivals

variable {task : Task} {ended : Bool} {coming : Bytes} {frames : List Bytes}
  {fault : Option FrameError}

/-- What is pulled is the first of the frames, or the reason to end once there is none. -/
theorem Hearing.pull (h : task.Hearing ended coming frames fault) :
    match task.pull with
    | (.message payload, task') => task'.pullable < task.pullable ∧
      ∃ later, frames = payload :: later ∧ task'.Hearing ended coming later fault
    | (.ending reason, _) => frames = [] ∧ reason = .ofStream fault
    | (.nothing, task') => ended = false ∧ task'.Hearing false coming frames fault := by
  have hpull := h.reading.pullFrom
  rw [← FrameReader.pull_of_unfinished, ← h.unfinished] at hpull
  rw [Task.pull]
  generalize task.reader.pull task.endpoint = answer at hpull ⊢
  obtain ⟨pulled, reader, endpoint⟩ := answer
  cases pulled with
  | frame payload =>
    obtain ⟨hreader, hend, hless, later, rfl, hreading⟩ := hpull
    exact ⟨hless, later, rfl, hreader, hend.trans h.ended, hreading⟩
  | failed error =>
    obtain ⟨-, hnotIo, rfl, rfl⟩ := hpull
    cases error with
    | io failure => exact absurd rfl (hnotIo failure)
    | _ => exact ⟨rfl, rfl⟩
  | ended =>
    obtain ⟨-, rfl, rfl⟩ := hpull
    exact ⟨rfl, rfl⟩
  | nothing =>
    obtain ⟨hreader, hopen, hend, hreading⟩ := hpull
    exact ⟨h.ended.symm.trans hopen, hreader, hend, hreading⟩

/-- With enough turns everything is pulled that is there. -/
theorem Hearing.pullFor (h : task.Hearing ended coming frames fault) {fuel : Nat}
    (henough : task.pullable < fuel) :
    match task.pullFor fuel with
    | (⟨heard, none⟩, task') =>
      ended = false ∧ ∃ later, frames = heard ++ later ∧ task'.Hearing false coming later fault
    | (⟨heard, some reason⟩, _) => heard = frames ∧ reason = .ofStream fault := by
  induction fuel generalizing task frames with
  | zero => exact absurd henough (Nat.not_lt_zero _)
  | succ fuel ih =>
    have hpull := h.pull
    rw [Task.pullFor]
    generalize task.pull = answer at hpull ⊢
    obtain ⟨found, task'⟩ := answer
    cases found with
    | message payload =>
      obtain ⟨hless, later, rfl, htask'⟩ := hpull
      have hrest := ih htask' (by omega)
      dsimp only
      generalize task'.pullFor fuel = answer at hrest ⊢
      obtain ⟨⟨heard, closed⟩, task''⟩ := answer
      cases closed with
      | none =>
        obtain ⟨hended, later', rfl, htask''⟩ := hrest
        exact ⟨hended, later', rfl, htask''⟩
      | some reason =>
        obtain ⟨rfl, rfl⟩ := hrest
        exact ⟨rfl, rfl⟩
    | ending reason =>
      obtain ⟨rfl, rfl⟩ := hpull
      exact ⟨rfl, rfl⟩
    | nothing =>
      obtain ⟨hended, htask'⟩ := hpull
      exact ⟨hended, frames, rfl, htask'⟩

/-- A task hears the frames of its stream. -/
theorem keeps_hearing : hearer.Keeps Hearing where
  arrives h := ⟨h.unfinished, h.ended, h.reading.arrive h.ended⟩
  finishes h := ⟨h.unfinished, rfl, h.reading.finish⟩
  looks {task _ _ _ _} h := by
    have henough : task.pullable < task.pullable + 2 := by omega
    have hpull := h.pullFor henough
    have hlook : hearer.look task = task.pullFor (task.pullable + 2) := rfl
    rw [hlook]
    generalize task.pullFor (task.pullable + 2) = answer at hpull ⊢
    obtain ⟨⟨heard, closed⟩, task'⟩ := answer
    cases closed with
    | none => exact hpull
    | some reason => exact hpull

end Task

/-! ## Both -/

/-- **Both kinds of server hear the same.** A session and a task get the same messages from a stream
and end for the same reason, in whatever pieces it arrives at each of them and whenever each of them
looks: the frames that stand in the stream, and the fault behind them or the end. -/
theorem heard_alike (codec : Codec) (id id' : SessionId) (peer peer' : String)
    (limits : QueueLimits) (events others : List StreamEvent)
    (hsame : StreamEvent.bytes others = StreamEvent.bytes events)
    (hcount : codec.Countable (StreamEvent.bytes events)) :
    let stream := StreamEvent.bytes events
    let session := Session.hearer.hearOut (.new id peer .idle codec.reset limits) events
    let task := Task.hearer.hearOut (.new id' peer' .idle codec.reset) others
    session = task ∧ session.frames = codec.frames stream ∧
      session.closed = some (.ofStream (codec.fault stream)) := by
  intro stream session task
  have hreading := Reading.new codec stream hcount
  have hsession : session = ⟨codec.frames stream, some (.ofStream (codec.fault stream))⟩ :=
    Session.keeps_hearing.hearOut events ⟨rfl, rfl, Decoder.idle_new codec, hreading⟩
  have htask : task = ⟨codec.frames stream, some (.ofStream (codec.fault stream))⟩ := by
    refine Task.keeps_hearing.hearOut others ⟨rfl, rfl, ?_⟩
    rw [hsame]
    exact hreading
  exact ⟨hsession.trans htask.symm, by rw [hsession], by rw [hsession]⟩

/-- A line that ends in the second piece of one cut and in the third of another, and a line that
never ends. -/
theorem heard_alike_open_line :
    let events : List StreamEvent :=
      [.arrives 97 [98, 13], .looks, .looks, .arrives 10 [99], .looks]
    let others : List StreamEvent := [.arrives 97 [], .arrives 98 [], .looks, .arrives 13 [10, 99]]
    let session := Session.hearer.hearOut
      (.new ⟨1⟩ "" .idle (.lines (some 2) 0) .standard) events
    let task := Task.hearer.hearOut (.new ⟨2⟩ "" .idle (.lines (some 2) 0)) others
    StreamEvent.bytes others = StreamEvent.bytes events ∧
      (Codec.lines (some 2) 0).Countable (StreamEvent.bytes events) ∧
      session = ⟨[[97, 98]], some .peerClosed⟩ ∧ task = ⟨[[97, 98]], some .peerClosed⟩ := by
  intro events others session task
  have hsame : StreamEvent.bytes others = StreamEvent.bytes events := by decide
  have hcount : (Codec.lines (some 2) 0).Countable (StreamEvent.bytes events) := by
    intro max hmax
    left
    rw [← Option.some.inj hmax]
    decide
  obtain ⟨hboth, hframes, hclosed⟩ := heard_alike (.lines (some 2) 0) ⟨1⟩ ⟨2⟩ "" "" .standard
    events others hsame hcount
  have hsession : session = ⟨[[97, 98]], some .peerClosed⟩ := by
    have hheard : session.frames = [[97, 98]] := hframes.trans (by decide)
    have hended : session.closed = some .peerClosed := hclosed.trans (by decide)
    rw [← hheard, ← hended]
  exact ⟨hsame, hcount, hsession, hboth.symm.trans hsession⟩

end ChatRelay
