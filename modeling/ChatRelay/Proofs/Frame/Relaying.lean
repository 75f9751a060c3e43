import ChatRelay.Frame.Reader
import ChatRelay.Proofs.Frame.RoundTrip

/-!
# Relaying frames

What one connection has sent is decoded, encoded again and decoded by others. That never goes wrong:
whatever a codec carries can be encoded, and somebody with the same codec, however its encoding is
cut, reads one frame from it, finds no fault and has nothing left (`Codec.relays_of_carries`). The
frame is the same behind a length; a line may lose one more carriage return.

A reader that speaks a codec (`Decoder.Speaks`) gives only what the codec carries, from whatever it
is fed (`FrameReader.speaks_pull`).
-/

namespace ChatRelay

/-! ## One frame -/

namespace Codec

variable {codec : Codec} {payload : Bytes}

/-- What somebody with the same codec reads of a frame that is relayed. -/
def heard (codec : Codec) (payload : Bytes) : Bytes :=
  match codec with
  | .lines .. => Decoder.stripReturn payload
  | .lengthPrefixed .. => payload

/-- A frame can be relayed: it can be encoded, and however the encoding is cut, somebody with the
same codec reads one frame, finds no fault and has nothing left. -/
def Relays (codec : Codec) (payload : Bytes) : Prop :=
  ∃ frame, codec.encode payload = .ok frame ∧
    ∀ pieces : List Bytes, pieces.flatten = frame →
      (Decoder.new codec).feedAll pieces = ⟨[codec.heard payload], none, Decoder.new codec⟩

/-- The limit of a codec can be counted: that of a line in a machine word, and that of a payload in
four bytes. -/
def LimitFits (codec : Codec) : Prop :=
  match codec with
  | .lines maxLength _ => ∀ max ∈ maxLength, max ≤ maxSize
  | .lengthPrefixed maxPayload _ => maxPayload < 2 ^ 32

theorem length_stripReturn_le (line : Bytes) : (Decoder.stripReturn line).length ≤ line.length := by
  unfold Decoder.stripReturn
  split
  · rw [List.length_dropLast]
    omega
  · exact Nat.le_refl _

/-- A line that is carried can be relayed. As a line on the wire it is one byte longer, and shorter
again by a carriage return at its end, so that it stays within the limit even at the limit. -/
theorem relays_line {maxLength : Option Nat} (hlimit : ∀ max ∈ maxLength, max ≤ maxSize)
    (h : (Codec.lines maxLength 0).Carries payload) : (Codec.lines maxLength 0).Relays payload := by
  obtain ⟨hline, hwithin⟩ := h
  have hlast : payload.getLast? ≠ some Bytes.newline :=
    fun hlast => hline (List.mem_of_getLast? hlast)
  have hended : Decoder.endedLines (payload ++ [Bytes.newline]) = [payload] :=
    Decoder.endedLines_line hline []
  have hopen : Decoder.openLine (payload ++ [Bytes.newline]) = [] :=
    Decoder.openLine_line hline []
  have hfault : Decoder.lineError maxLength (payload ++ [Bytes.newline]) = none := by
    cases maxLength with
    | none => rfl
    | some max =>
      have hle := Decoder.within_some.1 hwithin
      have hstrip := length_stripReturn_le payload
      rw [Decoder.lineError_some_eq_none, Decoder.Overlong, hended, hopen]
      rintro (⟨line, hmem, hlong⟩ | hlong)
      · rw [List.mem_singleton.1 hmem] at hlong
        omega
      · exact absurd hlong (Nat.not_lt_zero _)
  have hcount : Decoder.Countable maxLength (payload ++ [Bytes.newline]) := by
    intro max hmax
    right
    intro line hmem
    rw [hended, List.mem_singleton] at hmem
    have hle := hlimit max hmax
    rw [Option.mem_def.1 hmax] at hwithin
    rw [hmem]
    exact (Decoder.within_some.1 hwithin).trans hle
  refine ⟨payload ++ [Bytes.newline], ?_, fun pieces hpieces => ?_⟩
  · rw [encode, if_neg hlast]
  · rw [← hpieces] at hended hopen hfault hcount
    rw [Decoder.feedAll_ended hopen hfault hcount, hended]
    rfl

/-- A payload that is carried can be relayed. -/
theorem relays_payload {maxPayload : Nat} (hlimit : maxPayload < 2 ^ 32)
    (h : (Codec.lengthPrefixed maxPayload none).Carries payload) :
    (Codec.lengthPrefixed maxPayload none).Relays payload := by
  have htaken : ∀ other ∈ [payload], Decoder.taken maxPayload other = true :=
    List.forall_mem_singleton.2 (Decoder.taken_iff.2 h)
  refine ⟨_, Decoder.encode_of_taken (htaken payload List.mem_cons_self), fun pieces hpieces => ?_⟩
  have hframed : pieces.flatten = Decoder.framed [payload] :=
    hpieces.trans (List.append_nil _).symm
  have hdrained := Decoder.drain_framed hlimit htaken
  rw [← hframed] at hdrained
  exact (Decoder.feedAll_new_agrees maxPayload pieces).eq_of_drain hdrained

/-- What a codec carries it can relay. -/
theorem relays_of_carries (hlimit : codec.reset.LimitFits) (h : codec.reset.Carries payload) :
    codec.reset.Relays payload := by
  cases codec with
  | lines maxLength scanned => exact relays_line hlimit h
  | lengthPrefixed maxPayload pending => exact relays_payload hlimit h

end Codec

/-! ## Readers -/

/-- A decoder has this codec, and what it remembers is true. -/
structure Decoder.Speaks (codec : Codec) (d : Decoder) : Prop where
  reset : d.codec.reset = codec.reset
  sound : d.Sound

namespace Decoder

variable {codec : Codec} {d d' : Decoder}

theorem speaks_new (codec : Codec) : (Decoder.new codec.reset).Speaks codec := by
  refine ⟨?_, sound_new codec⟩
  cases codec <;> rfl

theorem Speaks.feed (h : d.Speaks codec) (bytes : Bytes) : (d.feed bytes).Speaks codec :=
  ⟨h.reset, h.sound.feed bytes⟩

theorem Speaks.next (h : d.Speaks codec) {answer : Decoded} (hnext : d.next = (answer, d')) :
    d'.Speaks codec ∧ ∀ payload, answer = .frame payload → codec.Carries payload := by
  have hstep := h.sound.steps hnext
  refine ⟨⟨hstep.reset.trans h.reset, hstep.sound⟩, fun payload hframe => ?_⟩
  exact (hstep.carries payload hframe).of_reset h.reset.symm

theorem Speaks.drain (h : d.Speaks codec) :
    d.drain.decoder.Speaks codec ∧ ∀ payload ∈ d.drain.frames, codec.Carries payload := by
  have hdrain := h.sound.drain
  refine ⟨⟨hdrain.reset.trans h.reset, hdrain.sound⟩, fun payload hpayload => ?_⟩
  exact (hdrain.carries payload hpayload).of_reset h.reset.symm

/-- At the end of a stream what is incomplete is thrown away, and the codec starts afresh. -/
theorem Speaks.nextAtEnd (h : d.Speaks codec) {answer : Decoded}
    (hnext : d.nextAtEnd = (answer, d')) :
    d'.Speaks codec ∧ ∀ payload, answer = .frame payload → codec.Carries payload := by
  unfold Decoder.nextAtEnd at hnext
  split at hnext
  · next left hlast =>
    cases hnext
    obtain ⟨hleft, -⟩ := h.next hlast
    refine ⟨?_, nofun⟩
    rw [hleft.reset]
    exact speaks_new codec
  · exact h.next hnext

end Decoder

namespace FrameReader

variable {codec : Codec} {decoder : Decoder}

theorem speaks_pullAtEnd (h : decoder.Speaks codec) :
    (pullAtEnd decoder).2.decoder.Speaks codec ∧
      ∀ payload, (pullAtEnd decoder).1 = .frame payload → codec.Carries payload := by
  unfold pullAtEnd
  split
  · next payload left hnext =>
    obtain ⟨hleft, hcarries⟩ := h.nextAtEnd hnext
    refine ⟨hleft, ?_⟩
    rintro _ ⟨⟩
    exact hcarries payload rfl
  · next error left hnext =>
    refine ⟨(h.nextAtEnd hnext).1, ?_⟩
    rintro _ ⟨⟩
  · next left hnext =>
    refine ⟨(h.nextAtEnd hnext).1, ?_⟩
    rintro _ ⟨⟩

theorem speaks_pullFrom (h : decoder.Speaks codec) (endpoint : Endpoint) :
    (pullFrom decoder endpoint).2.1.decoder.Speaks codec ∧
      ∀ payload, (pullFrom decoder endpoint).1 = .frame payload → codec.Carries payload := by
  fun_induction pullFrom decoder endpoint with
  | case1 decoder endpoint payload left hnext =>
    obtain ⟨hleft, hcarries⟩ := h.next hnext
    refine ⟨hleft, ?_⟩
    rintro _ ⟨⟩
    exact hcarries payload rfl
  | case2 decoder endpoint error left hnext =>
    refine ⟨(h.next hnext).1, ?_⟩
    rintro _ ⟨⟩
  | case3 decoder endpoint left hnext b bytes endpoint' hanswer ih =>
    exact ih ((h.next hnext).1.feed (b :: bytes))
  | case4 decoder endpoint left hnext endpoint' hanswer pulled reader hpulled =>
    have hend := speaks_pullAtEnd (h.next hnext).1
    rw [hpulled] at hend
    exact hend
  | case5 decoder endpoint left hnext fault endpoint' hanswer hblocked =>
    refine ⟨(h.next hnext).1, ?_⟩
    rintro _ ⟨⟩
  | case6 decoder endpoint left hnext fault endpoint' hanswer hblocked =>
    refine ⟨(h.next hnext).1, ?_⟩
    rintro _ ⟨⟩

/-- Whatever is pulled, the codec carries it. -/
theorem speaks_pull {reader : FrameReader} (h : reader.decoder.Speaks codec)
    (endpoint : Endpoint) :
    (reader.pull endpoint).2.1.decoder.Speaks codec ∧
      ∀ payload, (reader.pull endpoint).1 = .frame payload → codec.Carries payload := by
  unfold pull
  split
  · refine ⟨h, ?_⟩
    rintro _ ⟨⟩
  · split
    · exact speaks_pullAtEnd h
    · exact speaks_pullFrom h endpoint

end FrameReader

end ChatRelay
