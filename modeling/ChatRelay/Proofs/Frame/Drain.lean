import ChatRelay.Frame.Stream

/-!
# Decoding step by step

What draining a decoder gives, by the answer of its first step, and what feeding it pieces gives, by
what draining it after the first piece gives. Nothing else about `drain` and `feedAll` is needed to
reason on a stream.
-/

namespace ChatRelay

namespace Decoder

/-- The same end, with more frames before it. -/
def Drained.behind (frames : List Bytes) (drained : Drained) : Drained :=
  { drained with frames := frames ++ drained.frames }

/-! ## Draining -/

/-- The frames that were there before come first. -/
theorem drainFrom_given (step : Decoder → Decoded × Decoder)
    (smaller : ∀ {d d' payload}, step d = (.frame payload, d') → d'.size < d.size)
    (given : List Bytes) (d : Decoder) :
    drainFrom step smaller given d = (drainFrom step smaller [] d).behind given.reverse := by
  induction hn : d.size using Nat.strongRecOn generalizing given d with
  | _ n ih =>
    rw [drainFrom, drainFrom]
    split
    · next payload d' htaken =>
      have hlt : d'.size < n := hn ▸ smaller htaken
      rw [ih _ hlt (payload :: given) d' rfl, ih _ hlt [payload] d' rfl]
      simp [Drained.behind]
    · simp [Drained.behind]
    · simp [Drained.behind]

section
variable {step : Decoder → Decoded × Decoder}
  {smaller : ∀ {d d' payload}, step d = (.frame payload, d') → d'.size < d.size} {d d' : Decoder}

theorem drainFrom_of_frame {payload : Bytes} (h : step d = (.frame payload, d')) :
    drainFrom step smaller [] d = (drainFrom step smaller [] d').behind [payload] := by
  have hgiven := drainFrom_given step smaller [payload] d'
  rw [drainFrom]
  split
  · next first rest htaken =>
    rw [h] at htaken
    simp only [Prod.mk.injEq, Decoded.frame.injEq] at htaken
    obtain ⟨rfl, rfl⟩ := htaken
    simpa using hgiven
  · next htaken => simp [h] at htaken
  · next htaken => simp [h] at htaken

theorem drainFrom_of_incomplete (h : step d = (.incomplete, d')) :
    drainFrom step smaller [] d = ⟨[], none, d'⟩ := by
  rw [drainFrom]
  split
  · next htaken => simp [h] at htaken
  · next rest htaken =>
    rw [h] at htaken
    simp only [Prod.mk.injEq, true_and] at htaken
    rw [htaken, List.reverse_nil]
  · next htaken => simp [h] at htaken

theorem drainFrom_of_failed {error : FrameError} (h : step d = (.failed error, d')) :
    drainFrom step smaller [] d = ⟨[], some error, d'⟩ := by
  rw [drainFrom]
  split
  · next htaken => simp [h] at htaken
  · next htaken => simp [h] at htaken
  · next reason rest htaken =>
    rw [h] at htaken
    simp only [Prod.mk.injEq, Decoded.failed.injEq] at htaken
    obtain ⟨rfl, rfl⟩ := htaken
    rw [List.reverse_nil]

end

variable {d d' : Decoder}

theorem drain_of_frame {payload : Bytes} (h : d.next = (.frame payload, d')) :
    d.drain = d'.drain.behind [payload] :=
  drainFrom_of_frame h

theorem drain_of_incomplete (h : d.next = (.incomplete, d')) : d.drain = ⟨[], none, d'⟩ :=
  drainFrom_of_incomplete h

theorem drain_of_failed {error : FrameError} (h : d.next = (.failed error, d')) :
    d.drain = ⟨[], some error, d'⟩ :=
  drainFrom_of_failed h

/-- A decoder steps until there is no frame. -/
theorem next_induction {P : Decoder → Prop}
    (frame : ∀ {d d' payload}, d.next = (.frame payload, d') → P d' → P d)
    (incomplete : ∀ {d d'}, d.next = (.incomplete, d') → P d)
    (failed : ∀ {d d' error}, d.next = (.failed error, d') → P d) (d : Decoder) : P d := by
  induction hn : d.size using Nat.strongRecOn generalizing d with
  | _ n ih =>
    rcases hnext : d.next with ⟨answer, d'⟩
    cases answer with
    | frame payload => exact frame hnext (ih _ (hn ▸ size_next_lt hnext) d' rfl)
    | incomplete => exact incomplete hnext
    | failed error => exact failed hnext

/-- Decoders that answer the same step alike give the same. -/
theorem drain_eq_of_next {e : Decoder} (h : d.next = e.next) : d.drain = e.drain := by
  cases hnext : e.next with
  | mk answer left =>
    rw [hnext] at h
    cases answer with
    | frame payload => rw [drain_of_frame h, drain_of_frame hnext]
    | incomplete => rw [drain_of_incomplete h, drain_of_incomplete hnext]
    | failed error => rw [drain_of_failed h, drain_of_failed hnext]

/-! ## Feeding pieces -/

variable {codec : Codec} {buffer piece : Bytes} {frames : List Bytes}

/-- Without a fault the pieces go on where the first one ended. -/
theorem feedAll_cons_of_drain (rest : List Bytes)
    (h : (⟨codec, buffer ++ piece⟩ : Decoder).drain = ⟨frames, none, d'⟩) :
    (⟨codec, buffer⟩ : Decoder).feedAll (piece :: rest) = (d'.feedAll rest).behind frames := by
  rw [feedAll, feed, h]
  rfl

/-- A fault in the first piece ends the stream. -/
theorem feedAll_cons_of_error {error : FrameError} (rest : List Bytes)
    (h : (⟨codec, buffer ++ piece⟩ : Decoder).drain = ⟨frames, some error, d'⟩) :
    (⟨codec, buffer⟩ : Decoder).feedAll (piece :: rest) = ⟨frames, some error, d'⟩ := by
  rw [feedAll, feed, h]

/-- After a fault no piece is looked at. -/
theorem feedAll_append_of_error {before : List Bytes} {error : FrameError} (after : List Bytes)
    (h : (d.feedAll before).error = some error) :
    d.feedAll (before ++ after) = d.feedAll before := by
  induction before generalizing d with
  | nil => simp [feedAll] at h
  | cons piece rest ih =>
    obtain ⟨codec, buffer⟩ := d
    rw [List.cons_append]
    cases hdrain : (⟨codec, buffer ++ piece⟩ : Decoder).drain with
    | mk frames fault left =>
      cases fault with
      | none =>
        rw [feedAll_cons_of_drain rest hdrain] at h ⊢
        rw [feedAll_cons_of_drain _ hdrain, ih h]
      | some fault => rw [feedAll_cons_of_error _ hdrain, feedAll_cons_of_error _ hdrain]

end Decoder

end ChatRelay
