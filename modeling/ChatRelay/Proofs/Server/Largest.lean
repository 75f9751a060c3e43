import ChatRelay.Config.Basic
import ChatRelay.Proofs.Frame.Carried
import ChatRelay.Proofs.Queue.Regular
import ChatRelay.Proofs.Session.Handling

/-!
# The largest messages

A server that is told nothing takes payloads of up to `maxPayload` bytes, and gives every session a
queue with as many bytes. What it queues are frames, and a frame has `Codec.overhead` more bytes than
its payload. So a payload that it takes can always be framed again, but within `Codec.overhead` bytes
of the limit the frame is longer than any queue may hold, and every session refuses it, even one
with nothing to send (`delivered_unless_largest`). The longest line of all is such a payload
(`longest_line_refused`).
-/

namespace ChatRelay

namespace Session

variable {s : Session}

/-- The queue of the session has these limits and is regular. -/
structure Queues (limits : QueueLimits) (s : Session) : Prop where
  limits_eq : s.outbound.limits = limits
  regular : s.outbound.Regular

variable {limits : QueueLimits}

theorem Queues.writeReady (h : s.Queues limits) : s.writeReady.2.Queues limits := by
  fun_induction Session.writeReady s with
  | case1 s hfront => exact h
  | case2 s head hfront endpoint hanswer => exact ⟨h.limits_eq, h.regular⟩
  | case3 s head hfront n endpoint hanswer ih =>
    exact ih ⟨(s.outbound.limits_consume _).trans h.limits_eq, h.regular.consume _⟩
  | case4 s head hfront fault endpoint hanswer hblocked => exact ⟨h.limits_eq, h.regular⟩
  | case5 s head hfront fault endpoint hanswer hblocked hinterrupted ih =>
    exact ih ⟨h.limits_eq, h.regular⟩
  | case6 s head hfront fault endpoint hanswer hblocked hinterrupted =>
    exact ⟨h.limits_eq, h.regular⟩

theorem Queues.meet (hcap : limits.maxMessages ≠ some 0) (h : s.Queues limits)
    (event : SessionEvent) : (s.meet event).Queues limits := by
  cases event with
  | enqueue message =>
    show (s.enqueue message).2.Queues limits
    unfold enqueue
    split
    · exact h
    · refine ⟨(s.outbound.limits_push message).trans h.limits_eq, ?_⟩
      exact h.regular.push (h.limits_eq.symm ▸ hcap) message
  | read =>
    have houtbound := (reads_readReady s).outbound
    exact ⟨houtbound ▸ h.limits_eq, houtbound ▸ h.regular⟩
  | write => exact h.writeReady
  | close now drain =>
    show (s.beginClose now drain).Queues limits
    unfold beginClose
    split
    · exact h
    · exact ⟨h.limits_eq, SendQueue.regular_clear _⟩
  | network change => exact ⟨h.limits_eq, h.regular⟩

/-- An open session in which nothing waits takes what is not longer than its queue. -/
theorem enqueue_of_idle (h : s.Queues limits) (hcap : limits.maxMessages ≠ some 0)
    (hopen : s.isDraining = false) (hidle : s.outbound.items = []) (frame : Bytes) :
    (s.enqueue frame).1 =
      if frame.length ≤ limits.highWater then .ok 0
      else .error (.tooLarge frame.length limits.highWater) := by
  have hlimits := h.limits_eq
  have hpaused : s.outbound.paused = false :=
    Bool.eq_false_iff.2 fun hpaused => (h.regular.pause hpaused).2 hidle
  unfold enqueue
  rw [if_neg (by rw [hopen]; exact Bool.false_ne_true)]
  show (s.outbound.push frame).1 = _
  by_cases hle : frame.length ≤ limits.highWater
  · have hfits : SendQueue.fits s.outbound.limits s.outbound.items.length s.outbound.queued
        frame.length = true := by
      by_contra hfull
      exact h.regular.items_ne_nil (hlimits.symm ▸ hcap) (hlimits.symm ▸ hle)
        (Bool.eq_false_iff.2 hfull) hidle
    rw [SendQueue.push, hlimits, if_neg (Nat.not_lt.2 hle), hpaused,
      if_neg Bool.false_ne_true, ← hlimits, hfits, if_pos rfl, hlimits, if_pos hle]
    split <;> rfl
  · rw [SendQueue.push, hlimits, if_pos (Nat.lt_of_not_le hle), if_neg hle]

end Session

namespace ServerConfig

/-- What a server that is told nothing reads is never longer than a payload may be. -/
theorem length_le_of_carries {framing : Framing} {payload : Bytes}
    (h : Codec.Carries { standard with framing }.codec payload) : payload.length ≤ maxPayload := by
  cases framing with
  | lines => exact Decoder.within_some.1 h.2
  | lengthPrefixed => exact h.2

/-- **The largest messages are not delivered.** Whatever a server that is told nothing has read, in
either framing and however it is cut, can be framed again, by a new codec as by the one that read
it. Offered to an open session in which nothing waits, whatever has been done with that before, it
is taken, and nothing is evicted for it, if with what framing adds it is no longer than a payload
may be; and it is refused if it is longer. -/
theorem delivered_unless_largest (framing : Framing) (pieces : List Bytes) :
    let config : ServerConfig := { standard with framing }
    let run := (Decoder.new config.codec).feedAll pieces
    ∀ payload ∈ run.frames, ∃ frame,
      config.codec.encode payload = .ok frame ∧ run.decoder.codec.encode payload = .ok frame ∧
      payload.length ≤ maxPayload ∧ frame.length = payload.length + config.codec.overhead ∧
      ∀ (id : SessionId) (peer : String) (endpoint : Endpoint) (events : List SessionEvent),
        let session := events.foldl Session.meet
          (Session.new id peer endpoint config.codec config.outbound)
        session.isDraining = false → session.outbound.items = [] →
          (session.enqueue frame).1 =
            if payload.length + config.codec.overhead ≤ maxPayload then .ok 0
            else .error (.tooLarge (payload.length + config.codec.overhead) maxPayload) := by
  intro config run payload hpayload
  have hfresh : config.codec.reset = config.codec := by cases framing <;> rfl
  have hsound : (Decoder.new config.codec).Sound := hfresh ▸ Decoder.sound_new config.codec
  have hcarried := Decoder.carries_feedAll hsound pieces
  have hcarries : config.codec.Carries payload := hcarried.carries payload hpayload
  obtain ⟨frame, hframe, hlength⟩ := Codec.encode_of_carries hcarries
  refine ⟨frame, hframe, ?_, length_le_of_carries hcarries, hlength, ?_⟩
  · rw [← hframe]
    exact Codec.encode_of_reset hcarried.reset payload
  · intro id peer endpoint events session hopen hidle
    have hcap : config.outbound.maxMessages ≠ some 0 := nofun
    have hqueues : session.Queues config.outbound :=
      Session.foldl_meet_keeps (fun event hs => hs.meet hcap event) events
        ⟨rfl, SendQueue.regular_new _⟩
    have hanswer := Session.enqueue_of_idle hqueues hcap hopen hidle frame
    rw [hlength] at hanswer
    exact hanswer

/-- A line within the limit is read from its own encoding. -/
theorem frames_of_line {payload : Bytes} (hline : Bytes.newline ∉ payload)
    (hreturn : payload.getLast? ≠ some Bytes.carriageReturn) (hle : payload.length ≤ maxPayload) :
    ((Decoder.new standard.codec).feedAll [payload ++ [Bytes.newline]]).frames = [payload] := by
  have hstrip : Decoder.stripReturn payload = payload := if_neg hreturn
  have hnext : (⟨.lines (some maxPayload) 0, payload ++ [Bytes.newline]⟩ : Decoder).next =
      (.frame (Decoder.stripReturn payload), ⟨.lines (some maxPayload) 0, []⟩) :=
    Decoder.next_line_within hline (Nat.zero_le _) (hstrip.symm ▸ Decoder.within_some.2 hle)
  have hempty : (⟨.lines (some maxPayload) 0, []⟩ : Decoder).next =
      (.incomplete, ⟨.lines (some maxPayload) 0, []⟩) :=
    Decoder.idle_new (.lines (some maxPayload) 0)
  have hdrain : (⟨.lines (some maxPayload) 0, [] ++ (payload ++ [Bytes.newline])⟩ : Decoder).drain =
      ⟨[payload], none, ⟨.lines (some maxPayload) 0, []⟩⟩ := by
    rw [List.nil_append, Decoder.drain_of_frame hnext, Decoder.drain_of_incomplete hempty, hstrip]
    rfl
  exact congrArg Decoder.Drained.frames (Decoder.feedAll_cons_of_drain [] hdrain)

/-- A line as long as the limit is read, can be framed again, and is refused by a session to which
nothing has happened. -/
theorem refused_of_longest {payload : Bytes} (hline : Bytes.newline ∉ payload)
    (hreturn : payload.getLast? ≠ some Bytes.carriageReturn) (hlength : payload.length = maxPayload) :
    ((Decoder.new standard.codec).feedAll [payload ++ [Bytes.newline]]).frames = [payload] ∧
      standard.codec.encode payload = .ok (payload ++ [Bytes.newline]) ∧
      ((Session.new ⟨SessionIds.first⟩ "" .idle standard.codec standard.outbound).enqueue
        (payload ++ [Bytes.newline])).1 = .error (.tooLarge (maxPayload + 1) maxPayload) := by
  have hlast : payload.getLast? ≠ some Bytes.newline :=
    fun hlast => hline (List.mem_of_getLast? hlast)
  have hlong : ¬ (payload ++ [Bytes.newline]).length ≤ standard.outbound.highWater := by
    rw [List.length_append, hlength]
    exact Nat.not_succ_le_self maxPayload
  have hnew : (Session.new ⟨SessionIds.first⟩ "" .idle standard.codec standard.outbound).Queues
      standard.outbound := ⟨rfl, SendQueue.regular_new _⟩
  have hanswer := Session.enqueue_of_idle hnew nofun rfl rfl (payload ++ [Bytes.newline])
  rw [if_neg hlong, List.length_append, hlength] at hanswer
  exact ⟨frames_of_line hline hreturn (Nat.le_of_eq hlength), congrArg Except.ok (if_neg hlast),
    hanswer⟩

/-- The longest line of all that a server reads when it is told nothing is one that it cannot
deliver to anybody. -/
theorem longest_line_refused :
    ((Decoder.new standard.codec).feedAll
        [List.replicate 1048576 97 ++ [Bytes.newline]]).frames = [List.replicate 1048576 97] ∧
      standard.codec.encode (List.replicate 1048576 97) =
        .ok (List.replicate 1048576 97 ++ [Bytes.newline]) ∧
      ((Session.new ⟨SessionIds.first⟩ "" .idle standard.codec standard.outbound).enqueue
          (List.replicate 1048576 97 ++ [Bytes.newline])).1 =
        .error (.tooLarge 1048577 1048576) := by
  refine refused_of_longest (fun hmem => ?_) (fun hlast => ?_) List.length_replicate
  · exact absurd (List.eq_of_mem_replicate hmem) (by decide)
  · exact absurd (List.eq_of_mem_replicate (List.mem_of_getLast? hlast)) (by decide)

end ServerConfig

end ChatRelay
