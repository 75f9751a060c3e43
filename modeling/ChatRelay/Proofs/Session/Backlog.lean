import ChatRelay.Proofs.Frame.Relaying
import ChatRelay.Proofs.Session.Draining

/-!
# What a session keeps of its stream

Whoever sends to a session decides what arrives, but not how much of it is kept. Between two reads
an open session keeps the beginning of one frame within the limit of its codec (`Codec.Keeps`):

* of a line, at most one byte more than the limit, and no newline;
* of a length, fewer than four bytes;
* of a payload behind its length, which is allowed, fewer bytes than it says.

So no complete frame is ever left behind, for as long as no read has given a reason to end the
session; and a session that drains keeps nothing at all (`one_frame_at_most`). One read is many
rounds of receiving and decoding, and each round leaves the decoder like that or ends the session
(`Speaks.keeps_drain`, `keeps_readFrom`).
-/

namespace ChatRelay

/-! ## The beginning of one frame -/

/-- A decoder keeps the beginning of one frame within the limit, and has looked at all of it. The
byte beyond the limit of a line is for the carriage return that may be its last. -/
def Codec.Keeps (codec : Codec) (d : Decoder) : Prop :=
  match codec with
  | .lines maxLength _ =>
    d.codec = .lines maxLength d.buffer.length ∧ Bytes.newline ∉ d.buffer ∧
      ∀ max ∈ maxLength, d.buffer.length ≤ min (max + 1) maxSize
  | .lengthPrefixed maxPayload _ =>
    (d.codec = .lengthPrefixed maxPayload none ∧ d.buffer.length < 4) ∨
      ∃ len, d.codec = .lengthPrefixed maxPayload (some len) ∧ 1 ≤ len ∧ len ≤ maxPayload ∧
        d.buffer.length < len

namespace Decoder

variable {codec : Codec} {d d' : Decoder}

theorem keeps_new (codec : Codec) : codec.Keeps (.new codec.reset) := by
  cases codec with
  | lines maxLength scanned => exact ⟨rfl, List.not_mem_nil, fun _ _ => Nat.zero_le _⟩
  | lengthPrefixed maxPayload pending => exact .inl ⟨rfl, Nat.zero_lt_succ 3⟩

/-- An open line is within the limit as long as it is no fault. -/
theorem lineError_open {maxLength : Option Nat} {buffer : Bytes} (hopen : Bytes.newline ∉ buffer) :
    lineError maxLength buffer = none ↔
      ∀ max ∈ maxLength, buffer.length ≤ min (max + 1) maxSize := by
  cases maxLength with
  | none => simp [lineError]
  | some max =>
    rw [lineError_some_eq_none, Overlong, endedLines_open hopen, openLine_open hopen]
    simp

/-- What is kept is no frame. -/
theorem idle_of_keeps (h : codec.Keeps d) : d.Idle := by
  obtain ⟨own, buffer⟩ := d
  cases codec with
  | lines maxLength scanned =>
    obtain ⟨hcodec, hopen, hlimit⟩ := h
    obtain rfl : own = .lines maxLength buffer.length := hcodec
    have hnext := next_open maxLength buffer.length hopen
    rw [(lineError_open hopen).2 hlimit] at hnext
    exact hnext
  | lengthPrefixed maxPayload pending =>
    obtain ⟨hcodec, hshort⟩ | ⟨len, hcodec, -, -, hwait⟩ := h
    · obtain rfl : own = _ := hcodec
      exact next_short hshort
    · obtain rfl : own = _ := hcodec
      exact next_waiting hwait

theorem speaks_of_keeps (h : codec.Keeps d) : d.Speaks codec := by
  obtain ⟨own, buffer⟩ := d
  cases codec with
  | lines maxLength scanned =>
    obtain ⟨hcodec, hopen, -⟩ := h
    obtain rfl : own = .lines maxLength buffer.length := hcodec
    exact ⟨rfl, Nat.le_refl _, fun hmem => hopen (List.mem_of_mem_take hmem)⟩
  | lengthPrefixed maxPayload pending =>
    obtain ⟨hcodec, -⟩ | ⟨len, hcodec, hpos, hle, -⟩ := h
    · obtain rfl : own = _ := hcodec
      exact ⟨rfl, nofun⟩
    · obtain rfl : own = _ := hcodec
      refine ⟨rfl, fun other hother => ?_⟩
      cases hother
      exact ⟨hpos, hle⟩

/-- A step that gives nothing keeps the beginning of one frame. -/
theorem Speaks.keeps_next (h : d.Speaks codec) (hnext : d.next = (.incomplete, d')) :
    codec.Keeps d' := by
  obtain ⟨hreset, hsound⟩ := h
  have hsound' := (hsound.steps hnext).sound
  obtain ⟨own, buffer⟩ := d
  cases own with
  | lines maxLength scanned =>
    obtain ⟨scanned', rfl⟩ : ∃ scanned', codec = .lines maxLength scanned' := by
      cases codec <;> cases hreset
      exact ⟨_, rfl⟩
    obtain hopen | ⟨line, rest, rfl, hline, hwithin, hle⟩ |
      ⟨max, line, rest, rfl, rfl, hline, hlong, hle⟩ := next_lines_cases maxLength hsound.2
    · rw [next_open maxLength scanned hopen] at hnext
      split at hnext
      · cases hnext
      · next hnone =>
        cases hnext
        exact ⟨rfl, hopen, (lineError_open hopen).1 hnone⟩
    · rw [next_line_within hline hle hwithin] at hnext
      cases hnext
    · rw [next_line_long hline hle hlong] at hnext
      cases hnext
  | lengthPrefixed maxPayload pending =>
    obtain ⟨pending', rfl⟩ : ∃ pending', codec = .lengthPrefixed maxPayload pending' := by
      cases codec <;> cases hreset
      exact ⟨_, rfl⟩
    have hdrain := drain_of_incomplete hnext
    have hrest := incomplete_of_drain maxPayload pending buffer (by rw [hdrain])
    rw [hdrain] at hrest
    refine hrest.imp_right ?_
    rintro ⟨len, hcodec, hwait⟩
    obtain ⟨own', buffer'⟩ := d'
    obtain rfl : own' = _ := hcodec
    obtain ⟨hpos, hle⟩ := hsound' len rfl
    exact ⟨len, rfl, hpos, hle, hwait⟩

/-- Decoding all there is keeps the beginning of one frame, unless it fails. -/
theorem Speaks.keeps_drain (h : d.Speaks codec) (hnone : d.drain.error = none) :
    codec.Keeps d.drain.decoder := by
  induction d using next_induction with
  | frame hnext ih =>
    rw [drain_of_frame hnext] at hnone ⊢
    exact ih (h.next hnext).1 hnone
  | incomplete hnext =>
    rw [drain_of_incomplete hnext]
    exact h.keeps_next hnext
  | failed hnext =>
    rw [drain_of_failed hnext] at hnone
    cases hnone

end Decoder

/-! ## Reading -/

namespace Session

variable {codec : Codec} {s t : Session}

/-- More bytes that are received leave the beginning of one frame, or end the session. -/
theorem keeps_receive (h : codec.Keeps s.decoder) {bytes : Bytes} {frames : List Bytes}
    (hreceived : s.receive bytes = (frames, none, t)) : codec.Keeps t.decoder := by
  unfold receive at hreceived
  split at hreceived
  · cases hreceived
    exact h
  · simp only [Prod.mk.injEq, Option.map_eq_none_iff] at hreceived
    obtain ⟨-, hnone, rfl⟩ := hreceived
    exact ((Decoder.speaks_of_keeps h).feed bytes).keeps_drain hnone

/-- So does a read that gives no reason to end the session. -/
theorem keeps_readFrom (given : List Bytes) (s : Session) (h : codec.Keeps s.decoder)
    (hclosed : (readFrom given s).1.closed = none) :
    codec.Keeps (readFrom given s).2.decoder := by
  fun_induction readFrom given s with
  | case1 given s endpoint hanswer => cases hclosed
  | case2 given s b bytes endpoint hanswer frames reason s' hreceived => cases hclosed
  | case3 given s b bytes endpoint hanswer frames s' hreceived ih =>
    have hread : codec.Keeps ({ s with endpoint } : Session).decoder := h
    exact ih (keeps_receive hread hreceived) hclosed
  | case4 given s fault endpoint hanswer hblocked => exact h
  | case5 given s fault endpoint hanswer hblocked hinterrupted ih => exact ih h hclosed
  | case6 given s fault endpoint hanswer hblocked hinterrupted => cases hclosed

/-! ## Whatever is done -/

/-- What the reads among events give, one after another. -/
def outcomes (s : Session) : List SessionEvent → List ReadOutcome
  | [] => []
  | .read :: later => s.readReady.1 :: outcomes s.readReady.2 later
  | event :: later => outcomes (s.meet event) later

theorem outcomes_unread (s : Session) {event : SessionEvent} (hread : event ≠ .read)
    (later : List SessionEvent) : s.outcomes (event :: later) = (s.meet event).outcomes later := by
  cases event with
  | read => exact absurd rfl hread
  | _ => rfl

/-- As long as a session is not closed and no read has given a reason to end it, it keeps the
beginning of one frame. -/
theorem keeps_run (h : codec.Keeps s.decoder) {events : List SessionEvent}
    (hopen : ∀ now drain, .close now drain ∉ events)
    (hgoesOn : ∀ outcome ∈ s.outcomes events, outcome.closed = none) :
    codec.Keeps (events.foldl meet s).decoder := by
  induction events generalizing s with
  | nil => exact h
  | cons event later ih =>
    have hfirst : ∀ now drain, event ≠ .close now drain :=
      fun now drain heq => hopen now drain (heq ▸ List.mem_cons_self)
    have hlater : ∀ now drain, .close now drain ∉ later :=
      fun now drain hmem => hopen now drain (List.mem_cons_of_mem event hmem)
    by_cases hread : event = .read
    · subst hread
      rw [outcomes, List.forall_mem_cons] at hgoesOn
      exact ih (keeps_readFrom [] s h hgoesOn.1) hlater hgoesOn.2
    · rw [outcomes_unread s hread] at hgoesOn
      refine ih ?_ hlater hgoesOn
      rw [(s.meet_unread hread hfirst).1]
      exact h

/-- A session that drains decodes nothing. -/
theorem decoder_meet_of_draining (h : s.isDraining = true) (event : SessionEvent) :
    (s.meet event).decoder = s.decoder := by
  cases event with
  | enqueue message => exact decoder_enqueue s message
  | read => rw [meet, readReady_of_draining h]
  | write => exact decoder_writeReady s
  | close now drain => rw [meet, beginClose_of_draining h]
  | network change => rfl

/-- A session drains once it has been closed, and not without that. -/
theorem isDraining_meet (s : Session) (event : SessionEvent) :
    (s.meet event).isDraining = true ↔
      s.isDraining = true ∨ ∃ now drain, event = .close now drain := by
  by_cases hclose : ∃ now drain, event = .close now drain
  · obtain ⟨now, drain, rfl⟩ := hclose
    exact iff_of_true (isDraining_beginClose s now drain) (.inr ⟨now, drain, rfl⟩)
  · have hphase := (s.meet_unclosed fun now drain heq => hclose ⟨now, drain, heq⟩).1
    have hsame : (s.meet event).isDraining = s.isDraining := by
      rw [isDraining, hphase, isDraining]
    rw [hsame, or_iff_left hclose]

/-- Nothing is kept by a session that drains. -/
def Discards (s : Session) : Prop := s.isDraining = true → s.decoder.buffer = []

theorem Discards.meet (h : s.Discards) (event : SessionEvent) : (s.meet event).Discards := by
  intro hdraining
  by_cases hbefore : s.isDraining = true
  · rw [decoder_meet_of_draining hbefore]
    exact h hbefore
  · obtain ⟨now, drain, rfl⟩ := ((s.isDraining_meet event).1 hdraining).resolve_left hbefore
    rw [Session.meet, beginClose, if_neg hbefore]

/-- A session that was closed among events drains at the end. -/
theorem isDraining_run (s : Session) {events : List SessionEvent} {now drain : Nat}
    (h : .close now drain ∈ events) : (events.foldl meet s).isDraining = true := by
  obtain ⟨before, after, rfl⟩ := List.append_of_mem h
  rw [List.foldl_append, List.foldl_cons]
  exact foldl_meet_keeps (P := fun t => t.isDraining = true)
    (fun event h => (isDraining_meet _ event).2 (.inl h)) after
    (isDraining_beginClose _ now drain)

/-- **A peer cannot make a session keep more than the beginning of one frame.** Whatever arrives in
whatever pieces, and whatever is done with the session in between, as often as it is read from: as
long as it is not closed and no read has given a reason to end it, it keeps the beginning of one
frame within the limit of its codec, and no frame that is complete. Once it is closed it keeps
nothing, whatever its reads gave before or give after that. -/
theorem one_frame_at_most (id : SessionId) (peer : String) (endpoint : Endpoint) (codec : Codec)
    (limits : QueueLimits) (events : List SessionEvent) :
    let opened := new id peer endpoint codec.reset limits
    let s := events.foldl meet opened
    ((∀ now drain, .close now drain ∉ events) →
      (∀ outcome ∈ opened.outcomes events, outcome.closed = none) →
      codec.Keeps s.decoder ∧ s.decoder.next = (.incomplete, s.decoder)) ∧
    ∀ now drain, .close now drain ∈ events → s.decoder.buffer = [] := by
  intro opened s
  constructor
  · intro hopen hgoesOn
    have hkeeps : codec.Keeps s.decoder := keeps_run (Decoder.keeps_new codec) hopen hgoesOn
    exact ⟨hkeeps, Decoder.idle_of_keeps hkeeps⟩
  · intro now drain hclose
    have hnew : opened.Discards := fun _ => rfl
    have hdiscards : s.Discards :=
      foldl_meet_keeps (P := Discards) (fun event h => Discards.meet h event) events hnew
    exact hdiscards (opened.isDraining_run hclose)

/-- A line as long as it may be, with the carriage return that could be its last byte, is kept
until the session is closed. -/
theorem one_frame_at_most_full_line :
    let codec : Codec := .lines (some 2) 0
    let endpoint : Endpoint := { Endpoint.idle with arrivals := [.data [97, 10, 98, 99, 13]] }
    let opened := new ⟨7⟩ "" endpoint codec.reset .standard
    let read : List SessionEvent := [.read]
    let closed : List SessionEvent := [.read, .close 5 10]
    (opened.outcomes read = [⟨[[97]], none⟩]) ∧
      codec.Keeps (read.foldl meet opened).decoder ∧
      (read.foldl meet opened).decoder.buffer = [98, 99, 13] ∧
      (closed.foldl meet opened).decoder.buffer = [] := by
  intro codec endpoint opened read closed
  have houtcomes : opened.outcomes read = [⟨[[97]], none⟩] := by decide +kernel
  have hopen : ∀ now drain, .close now drain ∉ read := by simp [read]
  have hgoesOn : ∀ outcome ∈ opened.outcomes read, outcome.closed = none := by simp [houtcomes]
  have hkept := one_frame_at_most ⟨7⟩ "" endpoint codec .standard read
  have hclosed := one_frame_at_most ⟨7⟩ "" endpoint codec .standard closed
  exact ⟨houtcomes, (hkept.1 hopen hgoesOn).1, by decide +kernel,
    hclosed.2 5 10 (by simp [closed])⟩

end Session

end ChatRelay
