import ChatRelay.Proofs.Frame.Reading

/-!
# What a codec carries

A decoder gives only frames that its codec can carry (`Codec.Carries`): a line has no newline in it
and is within the limit, and a payload is not empty and within the limit. That is so as long as what
the decoder remembers is true (`Sound`), which every step keeps (`Sound.next`), and so it is of
everything that a decoder gives of a stream (`carries_feedAll`).

What a codec carries it can send, and adds `Codec.overhead` bytes to it (`encode_of_carries`).
-/

namespace ChatRelay

namespace Codec

/-- The frames of a codec. -/
def Carries (codec : Codec) (payload : Bytes) : Prop :=
  match codec with
  | .lines maxLength _ => Bytes.newline ∉ payload ∧ Decoder.within maxLength payload = true
  | .lengthPrefixed maxPayload _ => payload ≠ [] ∧ payload.length ≤ maxPayload

/-- How many bytes a codec adds to a frame when it is sent: a newline or a length. -/
def overhead : Codec → Nat
  | .lines .. => 1
  | .lengthPrefixed .. => 4

variable {codec codec' : Codec} {payload : Bytes}

/-- What is carried does not depend on what is remembered. -/
theorem Carries.of_reset (h : codec.Carries payload) (hreset : codec'.reset = codec.reset) :
    codec'.Carries payload := by
  cases codec <;> cases codec' <;> cases hreset <;> exact h

theorem encode_of_reset (hreset : codec'.reset = codec.reset) (payload : Bytes) :
    codec'.encode payload = codec.encode payload := by
  cases codec <;> cases codec' <;> cases hreset <;> rfl

/-- What a codec carries it can send. -/
theorem encode_of_carries (h : codec.Carries payload) :
    ∃ frame, codec.encode payload = .ok frame ∧
      frame.length = payload.length + codec.overhead := by
  cases codec with
  | lines maxLength scanned =>
    have hlast : payload.getLast? ≠ some Bytes.newline :=
      fun hlast => h.1 (List.mem_of_getLast? hlast)
    refine ⟨payload ++ [Bytes.newline], ?_, List.length_append⟩
    rw [encode, if_neg hlast]
  | lengthPrefixed maxPayload pending =>
    refine ⟨lengthHeader payload.length ++ payload, ?_, ?_⟩
    · rw [encode, if_neg h.1, if_neg (Nat.not_lt.2 h.2)]
    · rw [List.length_append, Nat.add_comm]
      rfl

end Codec

namespace Decoder

variable {d d' : Decoder}

/-- What the decoder remembers is true: there is no newline where it has looked, and the length that
is pending is one that is allowed. -/
def Sound (d : Decoder) : Prop :=
  match d.codec with
  | .lines _ scanned => scanned ≤ d.buffer.length ∧ Bytes.newline ∉ d.buffer.take scanned
  | .lengthPrefixed maxPayload pending => ∀ len ∈ pending, 0 < len ∧ len ≤ maxPayload

theorem sound_new (codec : Codec) : (Decoder.new codec.reset).Sound := by
  cases codec with
  | lines maxLength scanned => exact ⟨Nat.le_refl _, List.not_mem_nil⟩
  | lengthPrefixed maxPayload pending => exact nofun

theorem Sound.feed (h : d.Sound) (bytes : Bytes) : (d.feed bytes).Sound := by
  obtain ⟨codec, buffer⟩ := d
  cases codec with
  | lines maxLength scanned =>
    have hconsistent : (⟨.lines maxLength scanned, buffer⟩ : Decoder).Consistent := h
    exact hconsistent.feed bytes
  | lengthPrefixed maxPayload pending => exact h

theorem not_mem_stripReturn {line : Bytes} (h : Bytes.newline ∉ line) :
    Bytes.newline ∉ stripReturn line := by
  unfold stripReturn
  split
  · exact fun hmem => h (List.dropLast_subset line hmem)
  · exact h

/-- A decoder after one step, of which the codec has the same limit, and what was given. -/
structure Steps (d : Decoder) (answer : Decoded) (d' : Decoder) : Prop where
  sound : d'.Sound
  reset : d'.codec.reset = d.codec.reset
  carries : ∀ payload, answer = .frame payload → d.codec.Carries payload

theorem Sound.nextPayload {maxPayload len : Nat} (hpos : 0 < len) (hle : len ≤ maxPayload)
    (pending : Option Nat) (buffer rest : Bytes) :
    Steps ⟨.lengthPrefixed maxPayload pending, buffer⟩ (Decoder.nextPayload maxPayload len rest).1
      (Decoder.nextPayload maxPayload len rest).2 := by
  by_cases hall : rest.length < len
  · rw [nextPayload_of_lt hall]
    refine ⟨?_, rfl, nofun⟩
    intro other hother
    cases hother
    exact ⟨hpos, hle⟩
  · have hlen := Nat.not_lt.1 hall
    rw [nextPayload_of_le hlen]
    refine ⟨nofun, rfl, ?_⟩
    rintro payload heq
    cases heq
    have htaken : (rest.take len).length = len := by
      rw [List.length_take]
      omega
    exact ⟨List.ne_nil_of_length_pos (htaken.symm ▸ hpos), htaken.symm ▸ hle⟩

/-- Every step leaves what is remembered true, and gives only what the codec carries. -/
theorem Sound.next (h : d.Sound) : Steps d d.next.1 d.next.2 := by
  obtain ⟨codec, buffer⟩ := d
  cases codec with
  | lines maxLength scanned =>
    rcases next_lines_cases maxLength h.2 with
      hopen | ⟨line, rest, rfl, hline, hwithin, hle⟩ | ⟨max, line, rest, rfl, rfl, hline, hlong, hle⟩
    · rw [next_open maxLength scanned hopen]
      refine ⟨⟨Nat.le_refl _, ?_⟩, rfl, ?_⟩
      · rwa [List.take_length]
      · intro payload
        dsimp only
        split <;> exact nofun
    · rw [next_line_within hline hle hwithin]
      refine ⟨⟨Nat.zero_le _, List.not_mem_nil⟩, rfl, ?_⟩
      rintro payload heq
      cases heq
      exact ⟨not_mem_stripReturn hline, hwithin⟩
    · rw [next_line_long hline hle hlong]
      exact ⟨⟨Nat.zero_le _, List.not_mem_nil⟩, rfl, nofun⟩
  | lengthPrefixed maxPayload pending =>
    cases pending with
    | some len =>
      obtain ⟨hpos, hle⟩ := h len rfl
      exact nextPayload hpos hle _ _ _
    | none =>
      show Steps _ (nextPrefixed maxPayload none buffer).1 (nextPrefixed maxPayload none buffer).2
      unfold nextPrefixed
      split
      · next hpending => cases hpending
      · split
        · exact ⟨nofun, rfl, nofun⟩
        next hzero =>
        split
        · exact ⟨nofun, rfl, nofun⟩
        next hle => exact nextPayload (Nat.pos_of_ne_zero hzero) (Nat.not_lt.1 hle) _ _ _
      · exact ⟨nofun, rfl, nofun⟩

theorem Sound.steps (h : d.Sound) {answer : Decoded} (hnext : d.next = (answer, d')) :
    Steps d answer d' := by
  have hstep := h.next
  rwa [hnext] at hstep

/-- A decoder after many steps, and what was given. -/
structure Carried (d : Decoder) (run : Drained) : Prop where
  sound : run.decoder.Sound
  reset : run.decoder.codec.reset = d.codec.reset
  carries : ∀ payload ∈ run.frames, d.codec.Carries payload

theorem Carried.behind {frames : List Bytes} {run : Drained} (h : d'.Carried run)
    (hreset : d'.codec.reset = d.codec.reset) (hframes : ∀ payload ∈ frames,
      d.codec.Carries payload) : d.Carried (run.behind frames) := by
  refine ⟨h.sound, h.reset.trans hreset, fun payload hpayload => ?_⟩
  rcases List.mem_append.1 hpayload with hfirst | hlater
  · exact hframes payload hfirst
  · exact (h.carries payload hlater).of_reset hreset.symm

theorem Sound.drain (h : d.Sound) : d.Carried d.drain := by
  induction d using next_induction with
  | @frame d d' payload hnext ih =>
    have hstep := h.steps hnext
    rw [drain_of_frame hnext]
    refine (ih hstep.sound).behind hstep.reset ?_
    intro given hgiven
    rw [List.mem_singleton.1 hgiven]
    exact hstep.carries payload rfl
  | incomplete hnext =>
    have hstep := h.steps hnext
    rw [drain_of_incomplete hnext]
    exact ⟨hstep.sound, hstep.reset, nofun⟩
  | failed hnext =>
    have hstep := h.steps hnext
    rw [drain_of_failed hnext]
    exact ⟨hstep.sound, hstep.reset, nofun⟩

/-- Everything that a decoder gives of a stream is something that its codec carries. -/
theorem carries_feedAll (h : d.Sound) (pieces : List Bytes) : d.Carried (d.feedAll pieces) := by
  induction pieces generalizing d with
  | nil => exact ⟨h, rfl, nofun⟩
  | cons piece rest ih =>
    have hfirst := (h.feed piece).drain
    obtain ⟨codec, buffer⟩ := d
    change Carried _ (⟨codec, buffer ++ piece⟩ : Decoder).drain at hfirst
    rcases hdrain : (⟨codec, buffer ++ piece⟩ : Decoder).drain with ⟨frames, fault, left⟩
    rw [hdrain] at hfirst
    cases fault with
    | none =>
      rw [feedAll_cons_of_drain rest hdrain]
      exact (ih hfirst.sound).behind hfirst.reset hfirst.carries
    | some error =>
      rw [feedAll_cons_of_error rest hdrain]
      exact ⟨hfirst.sound, hfirst.reset, hfirst.carries⟩

end Decoder

end ChatRelay
