import ChatRelay.Proofs.Frame.Drain
import Mathlib.Data.Nat.Digits.Defs

/-!
# Decoding payloads behind their lengths

A decoder of payloads splits what it remembers: a length that has arrived is taken off the bytes at
hand and kept beside them. All the same, what has been found nothing in can be looked at again with
the bytes that came later (`drain_feed`). So feeding a stream in pieces is feeding it whole
(`feedAll_eq_drain`), and what comes of that is read off the stream from its front by
`readPayloads`:

    four bytes of length, then as many bytes of payload, and again

up to a length of zero or beyond the limit, or to what is incomplete (`feedAll_prefixed`).
-/

namespace ChatRelay

namespace Decoder

/-- The number that bytes spell, the most significant first. -/
def bigEndian (bytes : Bytes) : Nat := Nat.ofDigits 256 (bytes.reverse.map UInt8.toNat)

/-- What is to be read of a whole stream: payloads behind their lengths, up to a length that is not
allowed, which is a fault as soon as all four bytes of it are there, or to what is incomplete. -/
def readPayloads (maxPayload : Nat) (stream : Bytes) : Drained :=
  if stream.length < 4 then ⟨[], none, ⟨.lengthPrefixed maxPayload none, stream⟩⟩
  else
    let len := bigEndian (stream.take 4)
    let rest := stream.drop 4
    if len = 0 then ⟨[], some .emptyFrame, ⟨.lengthPrefixed maxPayload none, rest⟩⟩
    else if maxPayload < len then
      ⟨[], some (.payloadTooLarge len maxPayload), ⟨.lengthPrefixed maxPayload none, rest⟩⟩
    else if rest.length < len then ⟨[], none, ⟨.lengthPrefixed maxPayload (some len), rest⟩⟩
    else (readPayloads maxPayload (rest.drop len)).behind [rest.take len]
termination_by stream.length
decreasing_by simp only [List.length_drop]; omega

section
variable {maxPayload len : Nat} {pending : Option Nat} {buffer : Bytes} {d d' : Decoder}

/-! ## One step -/

theorem lengthOf_eq (a b c e : UInt8) : lengthOf a b c e = bigEndian [a, b, c, e] := by
  simp only [lengthOf, bigEndian, List.reverse_cons, List.reverse_nil, List.nil_append,
    List.cons_append, List.map_cons, List.map_nil, Nat.ofDigits_cons, Nat.ofDigits_nil]
  omega

theorem nextPayload_of_lt (h : buffer.length < len) :
    nextPayload maxPayload len buffer =
      (.incomplete, ⟨.lengthPrefixed maxPayload (some len), buffer⟩) := by
  rw [nextPayload, if_pos]
  rw [List.length_take]
  omega

theorem nextPayload_of_le (h : len ≤ buffer.length) :
    nextPayload maxPayload len buffer =
      (.frame (buffer.take len), ⟨.lengthPrefixed maxPayload none, buffer.drop len⟩) := by
  rw [nextPayload, if_neg]
  rw [List.length_take]
  omega

/-- Not all of a length is there. -/
theorem next_short (h : buffer.length < 4) :
    (⟨.lengthPrefixed maxPayload none, buffer⟩ : Decoder).next =
      (.incomplete, ⟨.lengthPrefixed maxPayload none, buffer⟩) := by
  match buffer, h with
  | [], _ => rfl
  | [_], _ => rfl
  | [_, _], _ => rfl
  | [_, _, _], _ => rfl

/-- What a step does with a length depends on the number that it spells. -/
theorem next_header (maxPayload : Nat) {header : Bytes} (h : header.length = 4) (rest : Bytes) :
    (⟨.lengthPrefixed maxPayload none, header ++ rest⟩ : Decoder).next =
      if bigEndian header = 0 then (.failed .emptyFrame, ⟨.lengthPrefixed maxPayload none, rest⟩)
      else if bigEndian header > maxPayload then
        (.failed (.payloadTooLarge (bigEndian header) maxPayload),
          ⟨.lengthPrefixed maxPayload none, rest⟩)
      else (⟨.lengthPrefixed maxPayload (some (bigEndian header)), rest⟩ : Decoder).next := by
  match header, h with
  | [a, b, c, e], _ =>
    rw [← lengthOf_eq]
    rfl

/-- Not all of a payload is there. -/
theorem next_waiting (h : buffer.length < len) :
    (⟨.lengthPrefixed maxPayload (some len), buffer⟩ : Decoder).next =
      (.incomplete, ⟨.lengthPrefixed maxPayload (some len), buffer⟩) :=
  nextPayload_of_lt h

theorem next_payload (payload rest : Bytes) :
    (⟨.lengthPrefixed maxPayload (some payload.length), payload ++ rest⟩ : Decoder).next =
      (.frame payload, ⟨.lengthPrefixed maxPayload none, rest⟩) := by
  have h : nextPayload maxPayload payload.length (payload ++ rest) = _ :=
    nextPayload_of_le (by simp)
  rw [List.take_left, List.drop_left] at h
  exact h

/-- What is at hand is an incomplete length or payload, a length that is not allowed, or a length or
a payload with something behind it. -/
theorem payload_induction (maxPayload : Nat) {P : Option Nat → Bytes → Prop}
    (short : ∀ buffer, buffer.length < 4 → P none buffer)
    (empty : ∀ header rest, header.length = 4 → bigEndian header = 0 → P none (header ++ rest))
    (tooLarge : ∀ header rest, header.length = 4 → maxPayload < bigEndian header →
      P none (header ++ rest))
    (announced : ∀ header rest, header.length = 4 → bigEndian header ≠ 0 →
      bigEndian header ≤ maxPayload → P (some (bigEndian header)) rest → P none (header ++ rest))
    (waiting : ∀ len buffer, buffer.length < len → P (some len) buffer)
    (frame : ∀ payload rest, P none rest → P (some payload.length) (payload ++ rest))
    (pending : Option Nat) (buffer : Bytes) : P pending buffer := by
  induction hn : (⟨.lengthPrefixed maxPayload pending, buffer⟩ : Decoder).size using
    Nat.strongRecOn generalizing pending buffer with
  | ind n ih =>
    cases pending with
    | none =>
      by_cases hshort : buffer.length < 4
      · exact short buffer hshort
      · have hlength : (buffer.take 4).length = 4 := by
          rw [List.length_take]
          omega
        rw [← List.take_append_drop 4 buffer]
        by_cases hzero : bigEndian (buffer.take 4) = 0
        · exact empty _ _ hlength hzero
        · by_cases hlarge : maxPayload < bigEndian (buffer.take 4)
          · exact tooLarge _ _ hlength hlarge
          · refine announced _ _ hlength hzero (Nat.le_of_not_lt hlarge) (ih _ ?_ _ _ rfl)
            simp only [size, List.length_drop] at hn ⊢
            omega
    | some len =>
      by_cases hwait : buffer.length < len
      · exact waiting len buffer hwait
      · have hlength : (buffer.take len).length = len := by
          rw [List.length_take]
          omega
        have h := frame (buffer.take len) (buffer.drop len) (ih _ (by
          simp only [size, List.length_drop] at hn ⊢
          omega) _ _ rfl)
        rwa [hlength, List.take_append_drop] at h

/-! ## Draining what is at hand -/

theorem drain_short (h : buffer.length < 4) :
    (⟨.lengthPrefixed maxPayload none, buffer⟩ : Decoder).drain =
      ⟨[], none, ⟨.lengthPrefixed maxPayload none, buffer⟩⟩ :=
  drain_of_incomplete (next_short h)

theorem drain_empty {header : Bytes} (h : header.length = 4) (hzero : bigEndian header = 0)
    (rest : Bytes) :
    (⟨.lengthPrefixed maxPayload none, header ++ rest⟩ : Decoder).drain =
      ⟨[], some .emptyFrame, ⟨.lengthPrefixed maxPayload none, rest⟩⟩ := by
  have hnext := next_header maxPayload h rest
  rw [if_pos hzero] at hnext
  exact drain_of_failed hnext

theorem drain_tooLarge {header : Bytes} (h : header.length = 4)
    (hlarge : maxPayload < bigEndian header) (rest : Bytes) :
    (⟨.lengthPrefixed maxPayload none, header ++ rest⟩ : Decoder).drain =
      ⟨[], some (.payloadTooLarge (bigEndian header) maxPayload),
        ⟨.lengthPrefixed maxPayload none, rest⟩⟩ := by
  have hnext := next_header maxPayload h rest
  rw [if_neg (by omega), if_pos hlarge] at hnext
  exact drain_of_failed hnext

theorem drain_announced {header : Bytes} (h : header.length = 4) (hzero : bigEndian header ≠ 0)
    (hle : bigEndian header ≤ maxPayload) (rest : Bytes) :
    (⟨.lengthPrefixed maxPayload none, header ++ rest⟩ : Decoder).drain =
      (⟨.lengthPrefixed maxPayload (some (bigEndian header)), rest⟩ : Decoder).drain := by
  have hnext := next_header maxPayload h rest
  rw [if_neg hzero, if_neg (by omega)] at hnext
  exact drain_eq_of_next hnext

theorem drain_waiting (h : buffer.length < len) :
    (⟨.lengthPrefixed maxPayload (some len), buffer⟩ : Decoder).drain =
      ⟨[], none, ⟨.lengthPrefixed maxPayload (some len), buffer⟩⟩ :=
  drain_of_incomplete (next_waiting h)

theorem drain_payload (payload rest : Bytes) :
    (⟨.lengthPrefixed maxPayload (some payload.length), payload ++ rest⟩ : Decoder).drain =
      (⟨.lengthPrefixed maxPayload none, rest⟩ : Decoder).drain.behind [payload] :=
  drain_of_frame (next_payload payload rest)

/-- What is left without a fault is an incomplete length or payload. -/
def Incomplete (maxPayload : Nat) (d : Decoder) : Prop :=
  (d.codec = .lengthPrefixed maxPayload none ∧ d.buffer.length < 4) ∨
    ∃ len, d.codec = .lengthPrefixed maxPayload (some len) ∧ d.buffer.length < len

theorem incomplete_of_drain (maxPayload : Nat) (pending : Option Nat) (buffer : Bytes)
    (h : (⟨.lengthPrefixed maxPayload pending, buffer⟩ : Decoder).drain.error = none) :
    Incomplete maxPayload
      (⟨.lengthPrefixed maxPayload pending, buffer⟩ : Decoder).drain.decoder := by
  induction pending, buffer using payload_induction maxPayload with
  | short buffer hshort =>
    rw [drain_short hshort]
    exact .inl ⟨rfl, hshort⟩
  | empty header rest hlength hzero =>
    rw [drain_empty hlength hzero] at h
    simp at h
  | tooLarge header rest hlength hlarge =>
    rw [drain_tooLarge hlength hlarge] at h
    simp at h
  | announced header rest hlength hzero hle ih =>
    rw [drain_announced hlength hzero hle] at h ⊢
    exact ih h
  | waiting len buffer hwait =>
    rw [drain_waiting hwait]
    exact .inr ⟨len, rfl, hwait⟩
  | frame payload rest ih =>
    rw [drain_payload] at h ⊢
    exact ih h

/-- Draining what is left gives nothing more. -/
theorem drain_of_incompleteness (h : Incomplete maxPayload d) : d.drain = ⟨[], none, d⟩ := by
  obtain ⟨codec, buffer⟩ := d
  rcases h with ⟨rfl, hshort⟩ | ⟨len, rfl, hwait⟩
  · exact drain_short hshort
  · exact drain_waiting hwait

/-- What comes later is decoded where the bytes at hand left off, unless they were at fault. -/
theorem drain_feed (maxPayload : Nat) (pending : Option Nat) (buffer more : Bytes) :
    let before := (⟨.lengthPrefixed maxPayload pending, buffer⟩ : Decoder).drain
    let after := (⟨.lengthPrefixed maxPayload pending, buffer ++ more⟩ : Decoder).drain
    (before.error = none → after = (before.decoder.feed more).drain.behind before.frames) ∧
      ∀ error, before.error = some error →
        after = ⟨before.frames, some error, before.decoder.feed more⟩ := by
  induction pending, buffer using payload_induction maxPayload with
  | short buffer hshort =>
    rw [drain_short hshort]
    refine ⟨fun _ => rfl, fun error h => ?_⟩
    simp at h
  | empty header rest hlength hzero =>
    rw [List.append_assoc, drain_empty hlength hzero, drain_empty hlength hzero]
    refine ⟨fun h => ?_, fun error h => ?_⟩
    · simp at h
    · rw [← h]
      rfl
  | tooLarge header rest hlength hlarge =>
    rw [List.append_assoc, drain_tooLarge hlength hlarge, drain_tooLarge hlength hlarge]
    refine ⟨fun h => ?_, fun error h => ?_⟩
    · simp at h
    · rw [← h]
      rfl
  | announced header rest hlength hzero hle ih =>
    rw [List.append_assoc, drain_announced hlength hzero hle, drain_announced hlength hzero hle]
    exact ih
  | waiting len buffer hwait =>
    rw [drain_waiting hwait]
    refine ⟨fun _ => rfl, fun error h => ?_⟩
    simp at h
  | frame payload rest ih =>
    rw [List.append_assoc, drain_payload, drain_payload]
    obtain ⟨hnone, hsome⟩ := ih
    refine ⟨fun h => ?_, fun error h => ?_⟩
    · rw [hnone h]
      simp [Drained.behind]
    · rw [hsome error h]
      rfl

/-! ## Pieces -/

/-- Two runs over a stream give the same, and keep the same if they did not fail. -/
structure Drained.Agrees (run whole : Drained) : Prop where
  frames : run.frames = whole.frames
  error : run.error = whole.error
  decoder : run.error = none → run.decoder = whole.decoder

/-- Feeding a stream in pieces is feeding it whole. -/
theorem feedAll_eq_drain (pieces : List Bytes) (h : Incomplete maxPayload d) :
    (d.feedAll pieces).Agrees (d.feed pieces.flatten).drain := by
  induction pieces generalizing d with
  | nil =>
    have hsame : d.feed [] = d := by simp [feed]
    rw [List.flatten_nil, hsame, drain_of_incompleteness h]
    exact ⟨rfl, rfl, fun _ => rfl⟩
  | cons piece rest ih =>
    obtain ⟨pending, hcodec⟩ : ∃ pending, d.codec = .lengthPrefixed maxPayload pending := by
      rcases h with ⟨hcodec, -⟩ | ⟨len, hcodec, -⟩
      · exact ⟨none, hcodec⟩
      · exact ⟨some len, hcodec⟩
    obtain ⟨codec, buffer⟩ := d
    obtain rfl : codec = .lengthPrefixed maxPayload pending := hcodec
    obtain ⟨hnone, hsome⟩ := drain_feed maxPayload pending (buffer ++ piece) rest.flatten
    have hwhole : (⟨.lengthPrefixed maxPayload pending, buffer⟩ : Decoder).feed
        (piece :: rest).flatten =
          ⟨.lengthPrefixed maxPayload pending, buffer ++ piece ++ rest.flatten⟩ := by
      simp [feed]
    rw [hwhole]
    cases hdrain : (⟨.lengthPrefixed maxPayload pending, buffer ++ piece⟩ : Decoder).drain with
    | mk frames fault left =>
      rw [hdrain] at hnone hsome
      cases fault with
      | none =>
        have hleft := incomplete_of_drain maxPayload pending (buffer ++ piece) (by rw [hdrain])
        rw [hdrain] at hleft
        have hrest := ih hleft
        rw [feedAll_cons_of_drain rest hdrain, hnone rfl]
        constructor
        · exact congrArg (frames ++ ·) hrest.frames
        · exact hrest.error
        · exact hrest.decoder
      | some error =>
        rw [feedAll_cons_of_error rest hdrain, hsome error rfl]
        refine ⟨rfl, rfl, fun hfailed => ?_⟩
        simp at hfailed

/-! ## Whole streams -/

/-- Draining the bytes of a stream reads its payloads; with a length taken off, it reads the rest of
that payload first. -/
theorem drain_eq_readPayloads (maxPayload : Nat) (pending : Option Nat) (stream : Bytes) :
    (⟨.lengthPrefixed maxPayload pending, stream⟩ : Decoder).drain =
      match pending with
      | none => readPayloads maxPayload stream
      | some len =>
        if stream.length < len then ⟨[], none, ⟨.lengthPrefixed maxPayload (some len), stream⟩⟩
        else (readPayloads maxPayload (stream.drop len)).behind [stream.take len] := by
  induction pending, stream using payload_induction maxPayload with
  | short stream hshort =>
    rw [drain_short hshort]
    unfold readPayloads
    rw [if_pos hshort]
  | empty header rest hlength hzero =>
    rw [drain_empty hlength hzero]
    unfold readPayloads
    rw [if_neg (by simp [hlength]), List.take_left' hlength, List.drop_left' hlength]
    simp only [if_pos hzero]
  | tooLarge header rest hlength hlarge =>
    have hzero : bigEndian header ≠ 0 := by omega
    rw [drain_tooLarge hlength hlarge]
    unfold readPayloads
    rw [if_neg (by simp [hlength]), List.take_left' hlength, List.drop_left' hlength]
    simp only [if_neg hzero, if_pos hlarge]
  | announced header rest hlength hzero hle ih =>
    have hlarge : ¬ maxPayload < bigEndian header := Nat.not_lt.2 hle
    rw [drain_announced hlength hzero hle, ih]
    conv => rhs; unfold readPayloads
    rw [if_neg (by simp [hlength]), List.take_left' hlength, List.drop_left' hlength]
    simp only [if_neg hzero, if_neg hlarge]
  | waiting len stream hwait =>
    rw [drain_waiting hwait]
    simp only [if_pos hwait]
  | frame payload rest ih =>
    have hall : ¬ (payload ++ rest).length < payload.length := by simp
    rw [drain_payload, ih]
    simp only [if_neg hall, List.take_left, List.drop_left]

/-- **Payloads are read alike however the stream is cut.** The frames and the fault are those that
`readPayloads` finds in the stream. Without a fault what is kept is what it leaves: fewer bytes than
a length has, or a length and fewer bytes than it says. With the four bytes of a length that is not
allowed the run is over, and no later piece is looked at. -/
theorem feedAll_prefixed (maxPayload : Nat) (pieces : List Bytes) :
    let run := (Decoder.new (.lengthPrefixed maxPayload none)).feedAll pieces
    let whole := readPayloads maxPayload pieces.flatten
    run.Agrees whole ∧ (run.error = none → Incomplete maxPayload run.decoder) ∧
    (∀ n, (readPayloads maxPayload (pieces.take n).flatten).error ≠ none →
      run = (Decoder.new (.lengthPrefixed maxPayload none)).feedAll (pieces.take n)) ∧
    ∀ others : List Bytes, others.flatten = pieces.flatten →
      ((Decoder.new (.lengthPrefixed maxPayload none)).feedAll others).Agrees run := by
  have hreads : ∀ pieces : List Bytes,
      ((Decoder.new (.lengthPrefixed maxPayload none)).feedAll pieces).Agrees
        (readPayloads maxPayload pieces.flatten) := by
    intro pieces
    have hfresh : Incomplete maxPayload (Decoder.new (.lengthPrefixed maxPayload none)) :=
      .inl ⟨rfl, by simp [Decoder.new]⟩
    have hwhole : (Decoder.new (.lengthPrefixed maxPayload none)).feed pieces.flatten =
        ⟨.lengthPrefixed maxPayload none, pieces.flatten⟩ := rfl
    have h := feedAll_eq_drain pieces hfresh
    rw [hwhole, drain_eq_readPayloads] at h
    exact h
  intro run whole
  have hrun := hreads pieces
  refine ⟨hrun, ?_, ?_, ?_⟩
  · intro hnone
    rw [hrun.decoder hnone]
    have hdrain := drain_eq_readPayloads maxPayload none pieces.flatten
    have hincomplete := incomplete_of_drain maxPayload none pieces.flatten
    rw [hdrain] at hincomplete
    exact hincomplete (hrun.error.symm.trans hnone)
  · intro n hfault
    rw [← (hreads (pieces.take n)).error] at hfault
    obtain ⟨error, herror⟩ := Option.ne_none_iff_exists'.1 hfault
    have hstop := feedAll_append_of_error (pieces.drop n) herror
    rw [List.take_append_drop] at hstop
    exact hstop
  · intro others hsame
    have hothers := hreads others
    rw [hsame] at hothers
    have herror := hothers.error.trans hrun.error.symm
    refine ⟨hothers.frames.trans hrun.frames.symm, herror, fun hnone => ?_⟩
    exact (hothers.decoder hnone).trans (hrun.decoder (herror.symm.trans hnone)).symm

end

end Decoder

end ChatRelay
