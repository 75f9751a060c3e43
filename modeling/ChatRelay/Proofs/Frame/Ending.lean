import ChatRelay.Proofs.Frame.Reading

/-!
# The end of a stream

A decoder that is told that its stream has ended gives the frames that are complete, and the fault
behind them if there is one, exactly as it would have given them before. What is different is what
becomes of the rest: it is thrown away wherever it is kept, among the bytes at hand, as a length
that is pending, or as the place up to which they were searched. The decoder is then a new one
with the same limit (`rest_discarded`),

    drainAtEnd d = drain d, but with the decoder new if there was no fault,

and so a whole stream gives its frames and nothing of what is incomplete (`readStream_eq`).
-/

namespace ChatRelay

namespace Decoder

variable {d d' : Decoder}

/-! ## One step -/

/-- No step changes the limit. -/
theorem reset_next (d : Decoder) : d.next.2.codec.reset = d.codec.reset := by
  obtain ⟨codec, buffer⟩ := d
  cases codec with
  | lines maxLength scanned =>
    simp only [next, nextLine]
    split <;> rfl
  | lengthPrefixed maxPayload pending =>
    have hpayload : ∀ (len : Nat) (buffer : Bytes),
        (nextPayload maxPayload len buffer).2.codec.reset = .lengthPrefixed maxPayload none := by
      intro len buffer
      unfold nextPayload
      split <;> rfl
    simp only [next]
    unfold nextPrefixed
    split
    · exact hpayload _ _
    · split
      · rfl
      · split
        · rfl
        · exact hpayload _ _
    · rfl

theorem nextAtEnd_of_frame {payload : Bytes} (h : d.next = (.frame payload, d')) :
    d.nextAtEnd = (.frame payload, d') := by
  simp only [nextAtEnd, h]

theorem nextAtEnd_of_failed {error : FrameError} (h : d.next = (.failed error, d')) :
    d.nextAtEnd = (.failed error, d') := by
  simp only [nextAtEnd, h]

/-- What is not complete is thrown away, with all that is remembered of it. -/
theorem nextAtEnd_of_incomplete (h : d.next = (.incomplete, d')) :
    d.nextAtEnd = (.incomplete, .new d.codec.reset) := by
  have hreset := reset_next d
  rw [h] at hreset
  simp only [nextAtEnd, h, hreset]
  rfl

/-! ## All steps -/

theorem reset_of_next {answer : Decoded} (h : d.next = (answer, d')) :
    d'.codec.reset = d.codec.reset := by
  have hreset := reset_next d
  rwa [h] at hreset

/-- At the end of a stream the same is given, and without a fault the decoder starts afresh. -/
theorem drainAtEnd_eq (d : Decoder) :
    d.drainAtEnd = ⟨d.drain.frames, d.drain.error,
      if d.drain.error = none then .new d.codec.reset else d.drain.decoder⟩ := by
  induction d using next_induction with
  | frame hnext ih =>
    rw [drainAtEnd, drainFrom_of_frame (nextAtEnd_of_frame hnext), drain_of_frame hnext,
      ← drainAtEnd, ih, reset_of_next hnext]
    rfl
  | incomplete hnext =>
    rw [drainAtEnd, drainFrom_of_incomplete (nextAtEnd_of_incomplete hnext),
      drain_of_incomplete hnext]
    rfl
  | failed hnext =>
    rw [drainAtEnd, drainFrom_of_failed (nextAtEnd_of_failed hnext), drain_of_failed hnext]
    rfl

/-- There are no more frames than bytes at hand, and one more for a length that is pending. -/
theorem length_drain_le (d : Decoder) : d.drain.frames.length ≤ d.size := by
  induction d using next_induction with
  | frame hnext ih =>
    have hlt := size_next_lt hnext
    rw [drain_of_frame hnext]
    simp only [Drained.behind, List.length_append, List.length_singleton]
    omega
  | incomplete hnext =>
    rw [drain_of_incomplete hnext]
    exact Nat.zero_le _
  | failed hnext =>
    rw [drain_of_failed hnext]
    exact Nat.zero_le _

/-! ## Whole streams -/

/-- The pieces of a stream give what is still to be given of it. -/
theorem Gives.feedAll {pieces frames : List Bytes} {fault : Option FrameError}
    (h : d.Gives pieces.flatten frames fault) (hidle : d.Idle) :
    (d.feedAll pieces).frames = frames ∧ (d.feedAll pieces).error = fault ∧
      ((d.feedAll pieces).error = none → (d.feedAll pieces).decoder.Idle) := by
  induction pieces generalizing d frames with
  | nil =>
    obtain ⟨rfl, rfl⟩ := h.ended hidle
    exact ⟨rfl, rfl, fun _ => hidle⟩
  | cons piece rest ih =>
    rw [List.flatten_cons] at h
    obtain ⟨later, rfl, hgoesOn, hfails⟩ := h.feed.drain
    obtain ⟨codec, buffer⟩ := d
    cases hdrain : (⟨codec, buffer ++ piece⟩ : Decoder).drain with
    | mk given reason left =>
      rw [Decoder.feed, hdrain] at hgoesOn hfails
      rw [Decoder.feed, hdrain]
      cases reason with
      | none =>
        obtain ⟨hleft, hgives⟩ := hgoesOn rfl
        obtain ⟨hframes, hfault, hlast⟩ := ih hgives hleft
        rw [feedAll_cons_of_drain rest hdrain]
        exact ⟨congrArg (given ++ ·) hframes, hfault, hlast⟩
      | some error =>
        obtain ⟨rfl, rfl⟩ := hfails error rfl
        rw [feedAll_cons_of_error rest hdrain, List.append_nil]
        refine ⟨rfl, rfl, ?_⟩
        intro hnone
        cases hnone

/-- A whole stream gives its frames, and nothing of what is incomplete at its end. -/
theorem readStream_eq (codec : Codec) (pieces : List Bytes)
    (hcount : codec.Countable pieces.flatten) :
    ((Decoder.new codec.reset).readStream pieces).frames = codec.frames pieces.flatten ∧
      ((Decoder.new codec.reset).readStream pieces).error = codec.fault pieces.flatten := by
  obtain ⟨hframes, hfault, hidle⟩ :=
    (gives_new codec pieces.flatten hcount).feedAll (idle_new codec)
  unfold readStream
  split
  · next frames left hrun =>
    rw [hrun] at hframes hfault hidle
    have hleft := drain_of_incomplete (hidle rfl)
    rw [drainAtEnd_eq, hleft]
    exact ⟨(List.append_nil frames).trans hframes, hfault⟩
  · exact ⟨hframes, hfault⟩

/-- **The end of a stream discards what is incomplete, and nothing else.** Whatever a decoder
remembers and whatever is at hand: stepping at the end of its stream comes to an end, after no more
frames than there are bytes, and gives the same frames and the same fault as stepping in the middle
of it. Without a fault nothing is left: the decoder has no bytes at hand, has searched none of them
and has no length pending, so that it reads another stream as a new one would. And of a whole
stream, however it is cut, exactly the frames that are complete in it are given. -/
theorem rest_discarded (d : Decoder) :
    let run := d.drainAtEnd
    run.frames = d.drain.frames ∧ run.error = d.drain.error ∧ run.frames.length ≤ d.size ∧
    (run.error = none →
      run.decoder.buffer = [] ∧
      (∀ maxLength scanned, d.codec = .lines maxLength scanned →
        run.decoder.codec = .lines maxLength 0) ∧
      (∀ maxPayload pending, d.codec = .lengthPrefixed maxPayload pending →
        run.decoder.codec = .lengthPrefixed maxPayload none) ∧
      ∀ pieces, run.decoder.readStream pieces = (Decoder.new d.codec.reset).readStream pieces) ∧
    ∀ pieces : List Bytes, d.codec.Countable pieces.flatten →
      let whole := (Decoder.new d.codec.reset).readStream pieces
      whole.frames = d.codec.frames pieces.flatten ∧
        whole.error = d.codec.fault pieces.flatten := by
  intro run
  have hrun : run = _ := drainAtEnd_eq d
  have hframes : run.frames = d.drain.frames := by rw [hrun]
  have herror : run.error = d.drain.error := by rw [hrun]
  refine ⟨hframes, herror, ?_, ?_, ?_⟩
  · rw [hframes]
    exact length_drain_le d
  · intro hnone
    have hfresh : run.decoder = .new d.codec.reset := by
      rw [hrun]
      exact if_pos (herror.symm.trans hnone)
    rw [hfresh]
    refine ⟨rfl, ?_, ?_, fun pieces => rfl⟩
    · intro maxLength scanned hcodec
      rw [hcodec]
      rfl
    · intro maxPayload pending hcodec
      rw [hcodec]
      rfl
  · intro pieces hcount whole
    exact readStream_eq d.codec pieces hcount

/-- A stream that ends behind a length, of whose payload nothing has arrived. -/
theorem rest_discarded_behind_length :
    let opened : Decoder := .new (.lengthPrefixed 8 none)
    let pieces : List Bytes := [[0, 0, 0, 1, 9, 0, 0], [0, 3]]
    let d := (opened.feedAll pieces).decoder
    d = ⟨.lengthPrefixed 8 (some 3), []⟩ ∧ d.drainAtEnd.error = none ∧
      d.drainAtEnd.decoder.codec = .lengthPrefixed 8 none ∧
      (∀ later, d.drainAtEnd.decoder.readStream later = opened.readStream later) ∧
      (opened.readStream pieces).frames = (Codec.lengthPrefixed 8 none).frames pieces.flatten := by
  intro opened pieces d
  have hpending : d = ⟨.lengthPrefixed 8 (some 3), []⟩ := by decide +kernel
  have herror : d.drainAtEnd.error = none := by decide +kernel
  have hcodec : d.codec = .lengthPrefixed 8 (some 3) := by rw [hpending]
  obtain ⟨-, -, -, hfresh, hwhole⟩ := rest_discarded d
  obtain ⟨-, -, hprefixed, hlater⟩ := hfresh herror
  rw [hcodec] at hlater hwhole
  exact ⟨hpending, herror, hprefixed 8 (some 3) hcodec, hlater, (hwhole pieces trivial).1⟩

end Decoder

end ChatRelay
