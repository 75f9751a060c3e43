import ChatRelay.Frame.Reader
import ChatRelay.Proofs.Frame.Lines
import ChatRelay.Proofs.Frame.Prefixed

/-!
# What is still to be read

A decoder in the middle of a stream has some frames still to give, and perhaps a fault behind them:
those that it would give at once if the rest of the stream were there (`Decoder.Gives`). Every step
that it takes is one of three (`Gives.frame`, `Gives.incomplete`, `Gives.failed`): it gives the
first of these frames, or it gives nothing and has the same to give as before, or it fails because
the fault is all that is left. At the beginning of a stream they are the frames and the fault that
stand in it (`Codec.frames`, `Codec.fault`, `gives_new`).

`Reading` adds an endpoint at which a part of the rest has arrived. Both a session and a frame
reader read from such an endpoint, and what the reader pulls is told by `Reading.pullFrom`.
-/

namespace ChatRelay

/-! ## What stands in a stream -/

namespace Codec

/-- The frames of a stream, up to its fault or to what is incomplete. -/
def frames (codec : Codec) (stream : Bytes) : List Bytes :=
  match codec with
  | .lines maxLength _ => Decoder.lineFrames maxLength stream
  | .lengthPrefixed maxPayload _ => (Decoder.readPayloads maxPayload stream).frames

/-- Why a stream cannot be read to its end, if it cannot. -/
def fault (codec : Codec) (stream : Bytes) : Option FrameError :=
  match codec with
  | .lines maxLength _ => Decoder.lineError maxLength stream
  | .lengthPrefixed maxPayload _ => (Decoder.readPayloads maxPayload stream).error

/-- No line of a stream is longer than any buffer; what stands behind its length never is. -/
def Countable (codec : Codec) (stream : Bytes) : Prop :=
  match codec with
  | .lines maxLength _ => Decoder.Countable maxLength stream
  | .lengthPrefixed .. => True

/-- The beginning of a stream is no less countable. -/
theorem Countable.of_append {codec : Codec} {stream more : Bytes}
    (h : codec.Countable (stream ++ more)) : codec.Countable stream := by
  cases codec with
  | lines maxLength scanned =>
    intro max hmax
    refine (h max hmax).imp_right fun hlines line hline => hlines line ?_
    rw [Decoder.endedLines_append]
    exact List.mem_append_left _ hline
  | lengthPrefixed maxPayload pending => trivial

end Codec

namespace Decoder

/-! ## One step in the middle of a stream -/

/-- The first `scanned` bytes at hand hold no newline. -/
def Consistent (d : Decoder) : Prop :=
  match d.codec with
  | .lines _ scanned => scanned ≤ d.buffer.length ∧ Bytes.newline ∉ d.buffer.take scanned
  | .lengthPrefixed .. => True

variable {d d' : Decoder} {payload : Bytes} {error : FrameError}

theorem feed_nil (d : Decoder) : d.feed [] = d := by simp [feed]

theorem feed_feed (d : Decoder) (bytes more : Bytes) :
    (d.feed bytes).feed more = d.feed (bytes ++ more) := by
  simp [feed]

/-- More bytes do not change which of the first hold no newline. -/
theorem Consistent.feed (h : d.Consistent) (bytes : Bytes) : (d.feed bytes).Consistent := by
  obtain ⟨codec, buffer⟩ := d
  cases codec with
  | lines maxLength scanned =>
    obtain ⟨hle, hnone⟩ := h
    simp only at hle hnone
    constructor
    · simp only [Decoder.feed, List.length_append]
      omega
    · simp only [Decoder.feed]
      rwa [List.take_append_of_le_length hle]
  | lengthPrefixed maxPayload pending => trivial

section
variable {maxLength : Option Nat} {scanned : Nat} {buffer : Bytes}

/-- Where the search for a newline begins does not matter. -/
theorem next_scanned (maxLength : Option Nat) (h : Bytes.newline ∉ buffer.take scanned) :
    (⟨.lines maxLength scanned, buffer⟩ : Decoder).next =
      (⟨.lines maxLength 0, buffer⟩ : Decoder).next := by
  by_cases hmem : Bytes.newline ∈ buffer
  · obtain ⟨line, rest, rfl, hline⟩ := List.eq_append_cons_of_mem hmem
    rw [next, next]
    simp only [nextLine, splitLine_line hline (scanned_le_line h),
      splitLine_line hline (Nat.zero_le _)]
  · rw [next_open maxLength scanned hmem, next_open maxLength 0 hmem]

/-- A decoder of lines looks at an open line; at a line within the limit, which it gives; or at one
that is too long. -/
theorem next_lines_cases (maxLength : Option Nat) (h : Bytes.newline ∉ buffer.take scanned) :
    Bytes.newline ∉ buffer ∨
      (∃ line rest, buffer = line ++ Bytes.newline :: rest ∧ Bytes.newline ∉ line ∧
        within maxLength (stripReturn line) = true ∧ scanned ≤ line.length) ∨
      ∃ max line rest, maxLength = some max ∧ buffer = line ++ Bytes.newline :: rest ∧
        Bytes.newline ∉ line ∧ max < (stripReturn line).length ∧ scanned ≤ line.length := by
  by_cases hmem : Bytes.newline ∈ buffer
  · obtain ⟨line, rest, rfl, hline⟩ := List.eq_append_cons_of_mem hmem
    have hle := scanned_le_line h
    by_cases hwithin : within maxLength (stripReturn line) = true
    · exact .inr (.inl ⟨line, rest, rfl, hline, hwithin, hle⟩)
    · cases maxLength with
      | none => exact absurd rfl hwithin
      | some max =>
        rw [within_some, Nat.not_le] at hwithin
        exact .inr (.inr ⟨max, line, rest, rfl, rfl, hline, hwithin, hle⟩)
  · exact .inl hmem

/-- A decoder of payloads gives one or fails, whatever comes behind; or it keeps what is incomplete,
and looks at it again with what comes behind. -/
theorem next_prefixed_cases (maxPayload : Nat) (pending : Option Nat) (buffer : Bytes) :
    (∃ payload rest, ∀ more, (⟨.lengthPrefixed maxPayload pending, buffer ++ more⟩ : Decoder).next =
        (.frame payload, ⟨.lengthPrefixed maxPayload none, rest ++ more⟩)) ∨
      (∃ pending' rest, (⟨.lengthPrefixed maxPayload pending, buffer⟩ : Decoder).next =
          (.incomplete, ⟨.lengthPrefixed maxPayload pending', rest⟩) ∧
        ∀ more, (⟨.lengthPrefixed maxPayload pending, buffer ++ more⟩ : Decoder).next =
          (⟨.lengthPrefixed maxPayload pending', rest ++ more⟩ : Decoder).next) ∨
      ∃ error rest, (∀ fault, error ≠ .io fault) ∧
        ∀ more, (⟨.lengthPrefixed maxPayload pending, buffer ++ more⟩ : Decoder).next =
          (.failed error, ⟨.lengthPrefixed maxPayload none, rest ++ more⟩) := by
  induction pending, buffer using payload_induction maxPayload with
  | short buffer hshort => exact .inr (.inl ⟨none, buffer, next_short hshort, fun _ => rfl⟩)
  | empty header rest hlength hzero =>
    refine .inr (.inr ⟨.emptyFrame, rest, by simp, fun more => ?_⟩)
    rw [List.append_assoc, next_header maxPayload hlength, if_pos hzero]
  | tooLarge header rest hlength hlarge =>
    refine .inr (.inr
      ⟨.payloadTooLarge (bigEndian header) maxPayload, rest, by simp, fun more => ?_⟩)
    rw [List.append_assoc, next_header maxPayload hlength, if_neg (by omega), if_pos hlarge]
  | announced header rest hlength hzero hle ih =>
    have hnext : ∀ more,
        (⟨.lengthPrefixed maxPayload none, header ++ rest ++ more⟩ : Decoder).next =
        (⟨.lengthPrefixed maxPayload (some (bigEndian header)), rest ++ more⟩ : Decoder).next := by
      intro more
      rw [List.append_assoc, next_header maxPayload hlength, if_neg hzero, if_neg (by omega)]
    have hnow := hnext []
    simp only [List.append_nil] at hnow
    simp only [hnext, hnow]
    exact ih
  | waiting len buffer hwait =>
    exact .inr (.inl ⟨some len, buffer, next_waiting hwait, fun _ => rfl⟩)
  | frame payload rest ih =>
    refine .inl ⟨payload, rest, fun more => ?_⟩
    rw [List.append_assoc, next_payload]

end

/-- What is left of a stream behind its first line is no less countable. -/
theorem countable_line {maxLength : Option Nat} {line rest : Bytes} (h : Bytes.newline ∉ line)
    (hcount : Countable maxLength (line ++ Bytes.newline :: rest)) : Countable maxLength rest := by
  intro max hmax
  refine (hcount max hmax).imp_right fun hlines other hother => hlines other ?_
  rw [endedLines_line h]
  exact List.mem_cons_of_mem _ hother

/-- A frame that is complete is given whatever comes behind it. -/
theorem next_feed_of_frame (hd : d.Consistent) (h : d.next = (.frame payload, d')) (more : Bytes) :
    (d.feed more).next = (.frame payload, d'.feed more) ∧ d'.Consistent ∧
      (d.codec.Countable (d.buffer ++ more) → d'.codec.Countable (d'.buffer ++ more)) := by
  obtain ⟨codec, buffer⟩ := d
  cases codec with
  | lines maxLength scanned =>
    obtain hopen | ⟨line, rest, rfl, hline, hwithin, hle⟩ |
      ⟨max, line, rest, rfl, rfl, hline, hlong, hle⟩ := next_lines_cases maxLength hd.2
    · rw [next_open maxLength scanned hopen] at h
      split at h <;> simp at h
    · rw [next_line_within hline hle hwithin] at h
      cases h
      simp only [feed, List.append_assoc, List.cons_append]
      exact ⟨next_line_within hline hle hwithin, ⟨Nat.zero_le _, by simp⟩, countable_line hline⟩
    · rw [next_line_long hline hle hlong] at h
      cases h
  | lengthPrefixed maxPayload pending =>
    obtain ⟨given, rest, hnext⟩ | ⟨pending', rest, hnext, -⟩ | ⟨reason, rest, hreason, hnext⟩ :=
      next_prefixed_cases maxPayload pending buffer
    · have hnow := hnext []
      rw [List.append_nil, List.append_nil, h] at hnow
      cases hnow
      exact ⟨hnext more, trivial, fun _ => trivial⟩
    · rw [hnext] at h
      cases h
    · have hnow := hnext []
      rw [List.append_nil, h] at hnow
      cases hnow

/-- What has been found incomplete is looked at again with the bytes that came later. -/
theorem next_feed_of_incomplete (hd : d.Consistent) (h : d.next = (.incomplete, d'))
    (more : Bytes) :
    (d.feed more).next = (d'.feed more).next ∧ d'.Consistent ∧
      (d.codec.Countable (d.buffer ++ more) → d'.codec.Countable (d'.buffer ++ more)) := by
  obtain ⟨codec, buffer⟩ := d
  cases codec with
  | lines maxLength scanned =>
    obtain hopen | ⟨line, rest, rfl, hline, hwithin, hle⟩ |
      ⟨max, line, rest, rfl, rfl, hline, hlong, hle⟩ := next_lines_cases maxLength hd.2
    · have hkept : d' = ⟨.lines maxLength buffer.length, buffer⟩ := by
        rw [next_open maxLength scanned hopen] at h
        exact (congrArg Prod.snd h).symm
      have hagain : d'.Consistent := by
        rw [hkept]
        exact ⟨Nat.le_refl _, by rwa [List.take_length]⟩
      refine ⟨?_, hagain, ?_⟩
      · rw [hkept] at hagain ⊢
        exact (next_scanned maxLength (hd.feed more).2).trans
          (next_scanned maxLength (hagain.feed more).2).symm
      · rw [hkept]
        exact id
    · rw [next_line_within hline hle hwithin] at h
      cases h
    · rw [next_line_long hline hle hlong] at h
      cases h
  | lengthPrefixed maxPayload pending =>
    obtain ⟨given, rest, hnext⟩ | ⟨pending', rest, hnow, hnext⟩ | ⟨reason, rest, hreason, hnext⟩ :=
      next_prefixed_cases maxPayload pending buffer
    · have hnow := hnext []
      rw [List.append_nil, h] at hnow
      cases hnow
    · rw [hnow] at h
      cases h
      exact ⟨hnext more, trivial, fun _ => trivial⟩
    · have hnow := hnext []
      rw [List.append_nil, h] at hnow
      cases hnow

/-- A fault is found again, behind no frame, whatever comes behind it. -/
theorem drain_feed_of_failed (hd : d.Consistent) (h : d.next = (.failed error, d')) {more : Bytes}
    (hcount : d.codec.Countable (d.buffer ++ more)) :
    (d.feed more).drain.frames = [] ∧ (d.feed more).drain.error = some error := by
  obtain ⟨codec, buffer⟩ := d
  cases codec with
  | lines maxLength scanned =>
    obtain hopen | ⟨line, rest, rfl, hline, hwithin, hle⟩ |
      ⟨max, line, rest, rfl, rfl, hline, hlong, hle⟩ := next_lines_cases maxLength hd.2
    · have hfault : lineError maxLength buffer = some error := by
        rw [next_open maxLength scanned hopen] at h
        split at h
        · next reason hreason =>
          cases h
          exact hreason
        · cases h
      obtain ⟨left, hdrain, -⟩ := drain_lines maxLength scanned (hd.feed more).2
      obtain ⟨hframes, herror⟩ := lines_append_of_some hfault hcount
      simp only [feed] at hdrain ⊢
      rw [hdrain, hframes, herror]
      refine ⟨?_, rfl⟩
      rw [lineFrames, endedLines_open hopen]
      rfl
    · rw [next_line_within hline hle hwithin] at h
      cases h
    · rw [next_line_long hline hle hlong] at h
      cases h
      simp only [feed, List.append_assoc, List.cons_append]
      rw [drain_of_failed (next_line_long hline hle hlong)]
      exact ⟨rfl, rfl⟩
  | lengthPrefixed maxPayload pending =>
    obtain ⟨given, rest, hnext⟩ | ⟨pending', rest, hnow, -⟩ | ⟨reason, rest, hreason, hnext⟩ :=
      next_prefixed_cases maxPayload pending buffer
    · have hnow := hnext []
      rw [List.append_nil, h] at hnow
      cases hnow
    · rw [hnow] at h
      cases h
    · have hnow := hnext []
      rw [List.append_nil, h] at hnow
      cases hnow
      simp only [feed]
      rw [drain_of_failed (hnext more)]
      exact ⟨rfl, rfl⟩

/-- No step fails because of a socket. -/
theorem not_io_of_next (h : d.next = (.failed error, d')) (fault : Fault) : error ≠ .io fault := by
  rintro rfl
  obtain ⟨codec, buffer⟩ := d
  cases codec with
  | lines maxLength scanned =>
    simp only [next, nextLine] at h
    split at h
    all_goals
      obtain ⟨hanswer, -⟩ := Prod.mk.inj h
      split at hanswer <;> cases hanswer
  | lengthPrefixed maxPayload pending =>
    obtain ⟨given, rest, hnext⟩ | ⟨pending', rest, hnow, -⟩ | ⟨reason, rest, hreason, hnext⟩ :=
      next_prefixed_cases maxPayload pending buffer
    · have hnow := hnext []
      rw [List.append_nil, h] at hnow
      cases hnow
    · rw [hnow] at h
      cases h
    · have hnow := hnext []
      rw [List.append_nil, h] at hnow
      cases hnow
      exact hreason fault rfl

theorem size_feed (d : Decoder) (bytes : Bytes) : (d.feed bytes).size = d.size + bytes.length := by
  simp only [size, feed, List.length_append]
  omega

/-- A step that gives nothing does not leave more to decode. -/
theorem size_next_le (h : d.next = (.incomplete, d')) : d'.size ≤ d.size := by
  obtain ⟨codec, buffer⟩ := d
  cases codec with
  | lines maxLength scanned =>
    simp only [next, nextLine] at h
    split at h
    · split at h <;> cases h
    · obtain ⟨-, rfl⟩ := Prod.mk.inj h
      exact Nat.le_refl _
  | lengthPrefixed maxPayload pending =>
    induction pending, buffer using payload_induction maxPayload with
    | short buffer hshort =>
      rw [next_short hshort] at h
      cases h
      exact Nat.le_refl _
    | empty header rest hlength hzero => simp [next_header maxPayload hlength, hzero] at h
    | tooLarge header rest hlength hlarge =>
      rw [next_header maxPayload hlength, if_neg (by omega), if_pos hlarge] at h
      cases h
    | announced header rest hlength hzero hle ih =>
      rw [next_header maxPayload hlength, if_neg hzero, if_neg (by omega)] at h
      have hle := ih h
      simp only [size, List.length_append] at hle ⊢
      omega
    | waiting len buffer hwait =>
      rw [next_waiting hwait] at h
      cases h
      exact Nat.le_refl _
    | frame payload rest ih => simp [next_payload] at h

/-- Nothing comes of what is at hand, and all of that has been looked at. -/
def Idle (d : Decoder) : Prop := d.next = (.incomplete, d)

theorem idle_new (codec : Codec) : (Decoder.new codec.reset).Idle := by
  unfold Idle
  cases codec with
  | lines maxLength scanned =>
    have hnext := next_open maxLength 0 List.not_mem_nil
    have hwithin : lineError maxLength [] = none := by
      cases maxLength with
      | none => rfl
      | some max => simp [lineError, Overlong, endedLines, openLine]
    rw [hwithin] at hnext
    exact hnext
  | lengthPrefixed maxPayload pending => rfl

/-- What a look found incomplete it has looked at. -/
theorem idle_of_incomplete (hd : d.Consistent) (h : d.next = (.incomplete, d')) : d'.Idle := by
  obtain ⟨hsame, -, -⟩ := next_feed_of_incomplete hd h []
  rw [feed_nil, feed_nil, h] at hsame
  exact hsame.symm

/-! ## What is still to be given -/

/-- With `stream` still to come, a decoder has these frames to give, and then this fault. -/
structure Gives (d : Decoder) (stream : Bytes) (frames : List Bytes) (fault : Option FrameError) :
    Prop where
  consistent : d.Consistent
  countable : d.codec.Countable (d.buffer ++ stream)
  frames : (d.feed stream).drain.frames = frames
  fault : (d.feed stream).drain.error = fault

variable {stream bytes : Bytes} {frames : List Bytes} {fault : Option FrameError}

/-- What is given now is the first of the frames. -/
theorem Gives.frame (h : d.Gives stream frames fault) (hnext : d.next = (.frame payload, d')) :
    ∃ later, frames = payload :: later ∧ d'.Gives stream later fault := by
  obtain ⟨hagain, hconsistent, hcount⟩ := next_feed_of_frame h.consistent hnext stream
  have hdrain := drain_of_frame hagain
  refine ⟨(d'.feed stream).drain.frames, ?_, hconsistent, hcount h.countable, rfl, ?_⟩
  · rw [← h.frames, hdrain]
    rfl
  · rw [← h.fault, hdrain]
    rfl

/-- A step that gives nothing leaves the same to give. -/
theorem Gives.incomplete (h : d.Gives stream frames fault) (hnext : d.next = (.incomplete, d')) :
    d'.Gives stream frames fault := by
  obtain ⟨hsame, hconsistent, hcount⟩ := next_feed_of_incomplete h.consistent hnext stream
  have hdrain := drain_eq_of_next hsame
  exact ⟨hconsistent, hcount h.countable, hdrain ▸ h.frames, hdrain ▸ h.fault⟩

/-- A fault is the last of it. -/
theorem Gives.failed (h : d.Gives stream frames fault) (hnext : d.next = (.failed error, d')) :
    frames = [] ∧ fault = some error := by
  obtain ⟨hframes, herror⟩ := drain_feed_of_failed h.consistent hnext h.countable
  exact ⟨h.frames.symm.trans hframes, h.fault.symm.trans herror⟩

/-- Bytes that come are no longer to come. -/
theorem Gives.feed (h : d.Gives (bytes ++ stream) frames fault) :
    (d.feed bytes).Gives stream frames fault := by
  refine ⟨h.consistent.feed bytes, ?_, ?_, ?_⟩
  · have hcount := h.countable
    rwa [← List.append_assoc] at hcount
  · rw [feed_feed]
    exact h.frames
  · rw [feed_feed]
    exact h.fault

/-- At the end of the stream what is incomplete gives nothing any more. -/
theorem Gives.ended (h : d.Gives [] frames fault) (hidle : d.Idle) :
    frames = [] ∧ fault = none := by
  have hdrain := drain_of_incomplete hidle
  have hframes := h.frames
  have hfault := h.fault
  rw [feed_nil, hdrain] at hframes hfault
  exact ⟨hframes.symm, hfault.symm⟩

/-- What is drained is the first of the frames; a fault that ends it is the last of it all. -/
theorem Gives.drain (h : d.Gives stream frames fault) :
    ∃ later, frames = d.drain.frames ++ later ∧
      (d.drain.error = none →
        d.drain.decoder.Idle ∧ d.drain.decoder.Gives stream later fault) ∧
      ∀ error, d.drain.error = some error → later = [] ∧ fault = some error := by
  induction d using next_induction generalizing frames with
  | frame hnext ih =>
    obtain ⟨others, rfl, hleft⟩ := h.frame hnext
    obtain ⟨later, rfl, hgoesOn, hfails⟩ := ih hleft
    rw [drain_of_frame hnext]
    exact ⟨later, rfl, hgoesOn, hfails⟩
  | incomplete hnext =>
    rw [drain_of_incomplete hnext]
    refine ⟨frames, rfl, ?_, ?_⟩
    · intro _
      exact ⟨idle_of_incomplete h.consistent hnext, h.incomplete hnext⟩
    · intro error herror
      cases herror
  | failed hnext =>
    obtain ⟨rfl, rfl⟩ := h.failed hnext
    rw [drain_of_failed hnext]
    refine ⟨[], rfl, ?_, ?_⟩
    · intro hnone
      cases hnone
    · intro reason hreason
      exact ⟨rfl, hreason⟩

/-- At the beginning of a stream everything in it is still to be given. -/
theorem gives_new (codec : Codec) (stream : Bytes) (hcount : codec.Countable stream) :
    (Decoder.new codec.reset).Gives stream (codec.frames stream) (codec.fault stream) := by
  cases codec with
  | lines maxLength scanned =>
    have hscanned : Bytes.newline ∉ stream.take 0 := by simp
    obtain ⟨left, hdrain, -⟩ := drain_lines maxLength 0 hscanned
    refine ⟨⟨Nat.le_refl _, by simp [Decoder.new]⟩, hcount, ?_, ?_⟩
    all_goals
      simp only [Decoder.new, Codec.reset, Decoder.feed, List.nil_append]
      rw [hdrain]
      rfl
  | lengthPrefixed maxPayload pending =>
    have hdrain := drain_eq_readPayloads maxPayload none stream
    refine ⟨trivial, trivial, ?_, ?_⟩
    all_goals
      simp only [Decoder.new, Codec.reset, Decoder.feed, List.nil_append]
      rw [hdrain]
      rfl

end Decoder

/-! ## Endpoints -/

/-- The bytes that a read has given. -/
def ReadAnswer.data : ReadAnswer → Bytes
  | .bytes given => given
  | .fault _ => []

/-- The bytes that come in. -/
def Endpoint.Change.data : Endpoint.Change → Bytes
  | .arrive (.data bytes) => bytes
  | _ => []

namespace Endpoint

/-- The bytes that have arrived and have not been read. -/
def waiting (e : Endpoint) : Bytes :=
  e.arrivals.flatMap fun
    | .data bytes => bytes
    | .fault _ => []

/-- Nothing but bytes has arrived. -/
def Healthy (e : Endpoint) : Prop := ∀ arrival ∈ e.arrivals, ∃ b bytes, arrival = .data (b :: bytes)

variable {e e' : Endpoint} {limit : Nat}

/-- What is read was waiting in front. -/
theorem waiting_of_read {answer : ReadAnswer} (h : e.read limit = (answer, e')) :
    e.waiting = answer.data ++ e'.waiting := by
  unfold Endpoint.read at h
  split at h
  · next data rest harrivals =>
    simp only [Prod.mk.injEq] at h
    obtain ⟨rfl, rfl⟩ := h
    simp only [waiting, harrivals, List.flatMap_cons, ReadAnswer.data]
    by_cases hle : data.length ≤ limit
    · rw [if_pos hle, List.take_of_length_le hle]
    · rw [if_neg hle, List.flatMap_cons, ← List.append_assoc, List.take_append_drop]
  · next fault rest harrivals =>
    simp only [Prod.mk.injEq] at h
    obtain ⟨rfl, rfl⟩ := h
    simp [waiting, harrivals, ReadAnswer.data]
  · next harrivals =>
    simp only [Prod.mk.injEq] at h
    obtain ⟨rfl, rfl⟩ := h
    split
    · simp [waiting, ReadAnswer.data]
    · simp [waiting, ReadAnswer.data]

/-- What comes in waits behind the rest. -/
theorem waiting_undergo (e : Endpoint) (change : Change) :
    (e.undergo change).waiting = e.waiting ++ change.data := by
  cases change with
  | arrive arrival =>
    simp only [undergo, waiting, List.flatMap_append, List.flatMap_singleton]
    cases arrival with
    | data bytes => rfl
    | fault fault => rfl
  | finish => exact (List.append_nil _).symm
  | meet acceptance => exact (List.append_nil _).symm
  | widen unlimited => exact (List.append_nil _).symm
  | hold fault => exact (List.append_nil _).symm

/-- A read that gives bytes gives the first that wait. -/
theorem Healthy.read_bytes (h : e.Healthy) {bytes : Bytes}
    (hread : e.read limit = (.bytes bytes, e')) (hbytes : bytes ≠ []) :
    e'.Healthy ∧ e.waiting = bytes ++ e'.waiting ∧ e'.atEnd = e.atEnd ∧
      bytes.length + unread e'.arrivals ≤ unread e.arrivals := by
  have hwaiting : e.waiting = bytes ++ e'.waiting := waiting_of_read hread
  unfold Endpoint.read at hread
  split at hread
  · next data rest harrivals =>
    simp only [Prod.mk.injEq, ReadAnswer.bytes.injEq] at hread
    obtain ⟨rfl, rfl⟩ := hread
    have hrest : ∀ arrival ∈ rest, ∃ b bytes, arrival = .data (b :: bytes) :=
      fun arrival hmem => h arrival (by simp [harrivals, hmem])
    simp only [hwaiting, Healthy, harrivals, unread, true_and]
    by_cases hle : data.length ≤ limit
    · simp only [if_pos hle, List.take_of_length_le hle]
      refine ⟨hrest, ?_⟩
      omega
    · obtain ⟨b, others, hleft⟩ : ∃ b others, data.drop limit = b :: others :=
        List.exists_cons_of_ne_nil (by
          rw [ne_eq, List.drop_eq_nil_iff]
          exact hle)
      simp only [if_neg hle, List.length_take, unread, List.length_drop]
      refine ⟨?_, by omega⟩
      intro arrival hmem
      rcases List.mem_cons.1 hmem with rfl | hmem
      · exact ⟨b, others, by rw [hleft]⟩
      · exact hrest arrival hmem
  · next harrivals => cases hread
  · next harrivals =>
    simp only [Prod.mk.injEq] at hread
    obtain ⟨hanswer, -⟩ := hread
    split at hanswer
    · cases hanswer
      exact absurd rfl hbytes
    · cases hanswer

/-- A read finds the end only behind everything that has arrived. -/
theorem Healthy.read_end (h : e.Healthy) (hpos : 0 < limit)
    (hread : e.read limit = (.bytes [], e')) : e.atEnd = true ∧ e.waiting = [] := by
  unfold Endpoint.read at hread
  split at hread
  · next data rest harrivals =>
    obtain ⟨b, bytes, hdata⟩ := h (.data data) (by simp [harrivals])
    simp only [Arrival.data.injEq] at hdata
    simp [hdata] at hread
    omega
  · cases hread
  · next harrivals =>
    simp only [Prod.mk.injEq] at hread
    obtain ⟨hanswer, -⟩ := hread
    split at hanswer
    · next hend => exact ⟨hend, by simp [waiting, harrivals]⟩
    · cases hanswer

/-- A read fails only because there is nothing yet. -/
theorem Healthy.read_fault (h : e.Healthy) {fault : Fault}
    (hread : e.read limit = (.fault fault, e')) :
    fault = wouldBlock ∧ e.atEnd = false ∧ e'.Healthy ∧ e'.waiting = e.waiting ∧
      e'.atEnd = false := by
  unfold Endpoint.read at hread
  split at hread
  · cases hread
  · next failure rest harrivals =>
    obtain ⟨b, bytes, hdata⟩ := h (.fault failure) (by simp [harrivals])
    cases hdata
  · next harrivals =>
    simp only [Prod.mk.injEq] at hread
    obtain ⟨hanswer, rfl⟩ := hread
    split at hanswer
    · cases hanswer
    · next hend =>
      cases hanswer
      have hopen : e.atEnd = false := Bool.eq_false_iff.2 hend
      exact ⟨rfl, hopen, h, rfl, hopen⟩

end Endpoint

/-- At the end of a stream nothing comes of what is incomplete. -/
theorem FrameReader.pullAtEnd_of_idle {d : Decoder} (h : d.Idle) :
    FrameReader.pullAtEnd d = (.ended, ⟨⟨d.codec.reset, []⟩, true, true⟩) := by
  rw [Decoder.Idle] at h
  simp only [FrameReader.pullAtEnd, Decoder.nextAtEnd, h]

theorem FrameReader.pull_of_unfinished (d : Decoder) (e : Endpoint) :
    FrameReader.pull ⟨d, false, false⟩ e = FrameReader.pullFrom d e := rfl

/-! ## Decoders at endpoints -/

/-- With what waits at the endpoint, and with `coming` behind it, a decoder has these frames to
give, and then this fault. -/
structure Reading (d : Decoder) (e : Endpoint) (coming : Bytes) (frames : List Bytes)
    (fault : Option FrameError) : Prop where
  healthy : e.Healthy
  /-- Nothing comes behind the end. -/
  ended : e.atEnd = true → coming = []
  gives : d.Gives (e.waiting ++ coming) frames fault

namespace Reading

variable {d : Decoder} {e e' : Endpoint} {coming : Bytes} {frames : List Bytes}
  {fault : Option FrameError} {limit : Nat}

/-- At the beginning everything in the stream is still to be given. -/
theorem new (codec : Codec) (stream : Bytes) (hcount : codec.Countable stream) :
    Reading (.new codec.reset) .idle stream (codec.frames stream) (codec.fault stream) := by
  refine ⟨?_, ?_, Decoder.gives_new codec stream hcount⟩
  · intro arrival hmem
    cases hmem
  · intro hend
    cases hend

/-- Only what arrives matters. -/
theorem of_same (h : Reading d e coming frames fault) (harrivals : e'.arrivals = e.arrivals)
    (hend : e'.atEnd = e.atEnd) : Reading d e' coming frames fault := by
  have hwaiting : e'.waiting = e.waiting := by rw [Endpoint.waiting, harrivals, Endpoint.waiting]
  refine ⟨?_, ?_, ?_⟩
  · rw [Endpoint.Healthy, harrivals]
    exact h.healthy
  · rw [hend]
    exact h.ended
  · rw [hwaiting]
    exact h.gives

/-- Bytes that come are at the endpoint. -/
theorem arrive {first : UInt8} {others : Bytes} (hopen : e.atEnd = false)
    (h : Reading d e (first :: others ++ coming) frames fault) :
    Reading d (e.undergo (.arrive (.data (first :: others)))) coming frames fault := by
  refine ⟨?_, ?_, ?_⟩
  · intro arrival hmem
    simp only [Endpoint.undergo, List.mem_append, List.mem_singleton] at hmem
    rcases hmem with hmem | rfl
    · exact h.healthy arrival hmem
    · exact ⟨first, others, rfl⟩
  · intro hend
    simp only [Endpoint.undergo, hopen] at hend
    cases hend
  · rw [Endpoint.waiting_undergo, List.append_assoc]
    exact h.gives

/-- Nothing more comes once the stream has ended. -/
theorem finish (h : Reading d e [] frames fault) :
    Reading d (e.undergo .finish) [] frames fault :=
  ⟨h.healthy, fun _ => rfl, h.gives⟩

/-- Bytes that are read are at the decoder. -/
theorem read_bytes (h : Reading d e coming frames fault) {bytes : Bytes}
    (hread : e.read limit = (.bytes bytes, e')) (hbytes : bytes ≠ []) :
    Reading (d.feed bytes) e' coming frames fault := by
  obtain ⟨hhealthy, hwaiting, hend, -⟩ := h.healthy.read_bytes hread hbytes
  refine ⟨hhealthy, fun h' => h.ended (hend ▸ h'), ?_⟩
  have hgives := h.gives
  rw [hwaiting, List.append_assoc] at hgives
  exact hgives.feed

/-- At the end everything has been fed to the decoder. -/
theorem read_end (h : Reading d e coming frames fault) (hpos : 0 < limit)
    (hread : e.read limit = (.bytes [], e')) : d.Gives [] frames fault := by
  obtain ⟨hend, hwaiting⟩ := h.healthy.read_end hpos hread
  have hgives := h.gives
  rwa [hwaiting, h.ended hend] at hgives

/-- A read that fails finds nothing, and leaves everything as it is. -/
theorem read_fault (h : Reading d e coming frames fault) {failure : Fault}
    (hread : e.read limit = (.fault failure, e')) :
    failure = Endpoint.wouldBlock ∧ e.atEnd = false ∧ e'.atEnd = false ∧
      Reading d e' coming frames fault := by
  obtain ⟨rfl, hopen, hhealthy, hwaiting, hend⟩ := h.healthy.read_fault hread
  refine ⟨rfl, hopen, hend, hhealthy, ?_, hwaiting ▸ h.gives⟩
  intro h'
  rw [hend] at h'
  cases h'

/-- The decoder gives its first frame. -/
theorem frame (h : Reading d e coming frames fault) {payload : Bytes} {d' : Decoder}
    (hnext : d.next = (.frame payload, d')) :
    ∃ later, frames = payload :: later ∧ Reading d' e coming later fault := by
  obtain ⟨later, rfl, hgives⟩ := h.gives.frame hnext
  exact ⟨later, rfl, h.healthy, h.ended, hgives⟩

/-- The decoder finds no frame. -/
theorem incomplete (h : Reading d e coming frames fault) {d' : Decoder}
    (hnext : d.next = (.incomplete, d')) : Reading d' e coming frames fault :=
  ⟨h.healthy, h.ended, h.gives.incomplete hnext⟩

/-! ## Pulling -/

/-- What a reader pulls from an endpoint: the first frame; or, once no frame is left, the fault or
the end of the stream; or nothing, while the stream goes on. -/
theorem pullFrom (h : Reading d e coming frames fault) :
    match FrameReader.pullFrom d e with
    | (.frame payload, reader, e') =>
      reader = ⟨reader.decoder, false, false⟩ ∧ e'.atEnd = e.atEnd ∧
        reader.decoder.size + Endpoint.unread e'.arrivals <
          d.size + Endpoint.unread e.arrivals ∧
        ∃ later, frames = payload :: later ∧ Reading reader.decoder e' coming later fault
    | (.failed error, reader, _) =>
      reader.finished = true ∧ (∀ failure, error ≠ .io failure) ∧ frames = [] ∧ fault = some error
    | (.ended, reader, _) => reader.finished = true ∧ frames = [] ∧ fault = none
    | (.nothing, reader, e') =>
      reader = ⟨reader.decoder, false, false⟩ ∧ e.atEnd = false ∧ e'.atEnd = false ∧
        Reading reader.decoder e' coming frames fault := by
  fun_induction FrameReader.pullFrom d e with
  | case1 d e payload d' hnext =>
    have hsize := Decoder.size_next_lt hnext
    exact ⟨rfl, rfl, Nat.add_lt_add_right hsize _, h.frame hnext⟩
  | case2 d e error d' hnext =>
    exact ⟨rfl, Decoder.not_io_of_next hnext, h.gives.failed hnext⟩
  | case3 d e d' hnext b bytes e' hread ih =>
    have hbytes : b :: bytes ≠ [] := List.cons_ne_nil b bytes
    have hpulled := ih ((h.incomplete hnext).read_bytes hread hbytes)
    obtain ⟨-, -, hend, hunread⟩ := h.healthy.read_bytes hread hbytes
    have hsize := Decoder.size_next_le hnext
    have hfed := Decoder.size_feed d' (b :: bytes)
    generalize FrameReader.pullFrom (d'.feed (b :: bytes)) e' = answer at hpulled ⊢
    obtain ⟨pulled, reader, left⟩ := answer
    cases pulled with
    | frame payload =>
      obtain ⟨hflags, hsame, hless, hlater⟩ := hpulled
      exact ⟨hflags, hsame.trans hend, by omega, hlater⟩
    | failed error => exact hpulled
    | ended => exact hpulled
    | nothing =>
      obtain ⟨hflags, hopen, hlater⟩ := hpulled
      exact ⟨hflags, hend ▸ hopen, hlater⟩
  | case4 d e d' hnext e' hread pulled reader hpulled =>
    have hidle := Decoder.idle_of_incomplete h.gives.consistent hnext
    have hgives := (h.incomplete hnext).read_end (by decide) hread
    rw [FrameReader.pullAtEnd_of_idle hidle] at hpulled
    cases hpulled
    exact ⟨rfl, hgives.ended hidle⟩
  | case5 d e d' hnext failure e' hread hblocked =>
    obtain ⟨-, hopen, hend, hreading⟩ := (h.incomplete hnext).read_fault hread
    exact ⟨rfl, hopen, hend, hreading⟩
  | case6 d e d' hnext failure e' hread hblocked =>
    obtain ⟨rfl, -⟩ := h.read_fault hread
    exact absurd rfl hblocked

end Reading

end ChatRelay
