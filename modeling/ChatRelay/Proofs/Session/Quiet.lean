import ChatRelay.Session.Basic
import Mathlib.Logic.Relation

/-!
# What a session does by itself

Between two messages that it is given, a session moves in few ways: its endpoint or its decoder
changes, a part of the head of its queue is sent, or it begins to drain. `Moves` lists them, and
`Quiet` is any number of them in a row. Reading, writing and closing are quiet
(`quiet_readReady`, `quiet_writeReady`, `quiet_beginClose`), so that whatever every move keeps is
kept by all three.
-/

namespace ChatRelay

namespace Session

/-- One thing that can happen to a session that is not given a message. -/
inductive Moves (s : Session) : Session → Prop
  /-- The endpoint changes, and nothing is written. -/
  | endpoint (endpoint : Endpoint) (same : endpoint.written = s.endpoint.written) :
      Moves s { s with endpoint }
  /-- More is decoded. -/
  | decoder (decoder : Decoder) : Moves s { s with decoder }
  /-- The first bytes of the head are written. -/
  | sent {head : Bytes} {n : Nat} (endpoint : Endpoint) (front : s.outbound.front? = some head)
      (pos : 0 < n) (le : n ≤ head.length)
      (written : endpoint.written = s.endpoint.written ++ head.take n) :
      Moves s { s with endpoint, outbound := s.outbound.consume n }
  /-- The session begins to drain. -/
  | closed (endpoint : Endpoint) (decoder : Decoder) (deadline : Nat)
      (opened : s.isDraining = false) (same : endpoint.written = s.endpoint.written) :
      Moves s { s with
        endpoint, decoder, outbound := s.outbound.clear, phase := .draining deadline }

/-- The session has become another one without being given a message. -/
def Quiet : Session → Session → Prop := Relation.ReflTransGen Moves

theorem Quiet.refl (s : Session) : Quiet s s := Relation.ReflTransGen.refl

theorem Moves.quiet {s t : Session} (h : Moves s t) : Quiet s t := .single h

theorem Quiet.trans {s t u : Session} (h : Quiet s t) (h' : Quiet t u) : Quiet s u :=
  Relation.ReflTransGen.trans h h'

/-! ## Reading -/

theorem quiet_receive (s : Session) (bytes : Bytes) : Quiet s (s.receive bytes).2.2 := by
  unfold receive
  split
  · exact .refl s
  · exact (Moves.decoder _).quiet

theorem written_of_read {e e' : Endpoint} {limit : Nat} {answer : ReadAnswer}
    (h : e.read limit = (answer, e')) : e'.written = e.written := by
  have := Endpoint.written_read e limit
  rwa [h] at this

theorem quiet_readFrom (given : List Bytes) (s : Session) : Quiet s (readFrom given s).2 := by
  fun_induction readFrom given s with
  | case1 given s endpoint hanswer =>
    exact (Moves.endpoint endpoint (written_of_read hanswer)).quiet
  | case2 given s b bytes endpoint hanswer frames reason s' hreceived =>
    have hread := (Moves.endpoint (s := s) endpoint (written_of_read hanswer)).quiet
    have hreceive := quiet_receive { s with endpoint } (b :: bytes)
    rw [hreceived] at hreceive
    exact hread.trans hreceive
  | case3 given s b bytes endpoint hanswer frames s' hreceived ih =>
    have hread := (Moves.endpoint (s := s) endpoint (written_of_read hanswer)).quiet
    have hreceive := quiet_receive { s with endpoint } (b :: bytes)
    rw [hreceived] at hreceive
    exact (hread.trans hreceive).trans ih
  | case4 given s fault endpoint hanswer hblocked =>
    exact (Moves.endpoint endpoint (written_of_read hanswer)).quiet
  | case5 given s fault endpoint hanswer hblocked hinterrupted ih =>
    exact (Moves.endpoint (s := s) endpoint (written_of_read hanswer)).quiet.trans ih
  | case6 given s fault endpoint hanswer hblocked hinterrupted =>
    exact (Moves.endpoint endpoint (written_of_read hanswer)).quiet

/-- Reading gives frames, and is quiet. -/
theorem quiet_readReady (s : Session) : Quiet s s.readReady.2 := quiet_readFrom [] s

/-! ## Writing -/

/-- Writing sends the head piece by piece, and is quiet. -/
theorem quiet_writeReady (s : Session) : Quiet s s.writeReady.2 := by
  fun_induction writeReady s with
  | case1 s hfront => exact .refl s
  | case2 s head hfront endpoint hanswer =>
    obtain ⟨-, hwritten⟩ := Endpoint.written_of_write_accepted hanswer
    exact (Moves.endpoint endpoint (by simpa using hwritten)).quiet
  | case3 s head hfront n endpoint hanswer ih =>
    obtain ⟨hle, hwritten⟩ := Endpoint.written_of_write_accepted hanswer
    exact (Moves.sent endpoint hfront (Nat.succ_pos n) hle hwritten).quiet.trans ih
  | case4 s head hfront fault endpoint hanswer hblocked =>
    exact (Moves.endpoint endpoint (Endpoint.written_of_write_fault hanswer)).quiet
  | case5 s head hfront fault endpoint hanswer hblocked hinterrupted ih =>
    have hwrite := Endpoint.written_of_write_fault hanswer
    exact (Moves.endpoint (s := s) endpoint hwrite).quiet.trans ih
  | case6 s head hfront fault endpoint hanswer hblocked hinterrupted =>
    exact (Moves.endpoint endpoint (Endpoint.written_of_write_fault hanswer)).quiet

/-! ## Closing -/

/-- Beginning to drain is quiet; a session that drains already stays as it is. -/
theorem quiet_beginClose (s : Session) (now drain : Nat) : Quiet s (s.beginClose now drain) := by
  unfold beginClose
  split
  · exact .refl s
  · next hopen =>
    exact (Moves.closed _ _ _ (Bool.eq_false_iff.2 hopen) (Endpoint.written_halfClose _)).quiet

/-- A change of the endpoint that writes nothing is quiet. -/
theorem quiet_endpoint (s : Session) {endpoint : Endpoint}
    (h : endpoint.written = s.endpoint.written) : Quiet s { s with endpoint } :=
  (Moves.endpoint endpoint h).quiet

/-! ## What stays -/

theorem Quiet.id_eq {s t : Session} (h : Quiet s t) : t.id = s.id := by
  induction h with
  | refl => rfl
  | tail _ hmove ih => cases hmove <;> exact ih

/-- A message that is given to a session does not change who it is. -/
theorem id_enqueue (s : Session) (message : Bytes) :
    (s.enqueue message).2.id = s.id := by
  unfold enqueue
  split <;> rfl

/-- What every move keeps is kept for as long as the session is quiet. -/
theorem Quiet.keeps {P : Session → Prop} (hmoves : ∀ {s t : Session}, Moves s t → P s → P t)
    {s t : Session} (h : Quiet s t) (hs : P s) : P t := by
  induction h with
  | refl => exact hs
  | tail _ hmove ih => exact hmoves hmove ih

end Session

end ChatRelay
