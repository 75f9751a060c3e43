import ChatRelay.Proofs.Session.Wire

/-!
# Sessions that follow a script

A script is all the messages that a session has been given, in order. What the session takes is
some of the script, so that what it writes is a beginning of some of the script as well, with at
most one message cut short (`Begun`, `Follows.begun`). If every message was taken and none evicted,
what an open session has written and what waits in its queue are together the whole script
(`Follows.whole_script`).
-/

namespace ChatRelay

namespace Session

/-- The messages of which something has been written behind the `start`: whole ones, and perhaps
the beginning of one more. -/
inductive Begun (start written : Bytes) : List Bytes → Prop
  | whole (sent : List Bytes) (eq : written = start ++ sent.flatten) : Begun start written sent
  | torn (sent : List Bytes) (part rest : Bytes) (begun : part ≠ []) (unfinished : rest ≠ [])
      (eq : written = start ++ sent.flatten ++ part) : Begun start written (sent ++ [part ++ rest])

/-- A session that has answered the messages of a script. -/
structure Follows (start : Bytes) (script : List Bytes) (answers : List (Except EnqueueError Nat))
    (s : Sender) : Prop where
  wire : Wire start s
  order : s.taken.Sublist script
  /-- Unless something was refused or evicted, everything was taken and is still there. -/
  smooth : (∀ answer ∈ answers, answer = .ok 0) →
    s.taken = script.filter (· ≠ []) ∧ s.evicted = 0

variable {start : Bytes} {script : List Bytes} {answers : List (Except EnqueueError Nat)}
  {s : Sender} {t : Session}

/-! ## Following -/

/-- A new session follows the empty script. -/
theorem follows_new (id : SessionId) (peer : String) (endpoint : Endpoint) (codec : Codec)
    (limits : QueueLimits) :
    Follows endpoint.written [] [] (.new (Session.new id peer endpoint codec limits)) :=
  ⟨wire_new id peer endpoint codec limits, List.Sublist.refl _, fun _ => ⟨rfl, rfl⟩⟩

/-- A session follows its script for as long as it is quiet. -/
theorem Follows.quiet (h : Follows start script answers s) (hquiet : s.session.Quiet t) :
    Follows start script answers { s with session := t } :=
  ⟨hquiet.wire h.wire, h.order, h.smooth⟩

@[simp] theorem session_enqueue (s : Sender) (message : Bytes) :
    (s.enqueue message).session = (s.session.enqueue message).2 := by
  unfold Sender.enqueue
  split
  · next evicted session heq => rw [heq]
  · next error session heq => rw [heq]

/-- A message that the session is given goes on the end of the script. -/
theorem Follows.enqueue (h : Follows start script answers s) (message : Bytes) :
    Follows start (script ++ [message]) (answers ++ [(s.session.enqueue message).1])
      (s.enqueue message) := by
  refine ⟨h.wire.enqueue message, ?_, ?_⟩
  · unfold Sender.enqueue
    split
    · exact h.order.append List.filter_sublist
    · exact h.order.trans (List.sublist_append_left _ _)
  · intro hsmooth
    have hbefore : ∀ answer ∈ answers, answer = .ok 0 := fun answer hanswer =>
      hsmooth answer (List.mem_append_left _ hanswer)
    have hlast : (s.session.enqueue message).1 = .ok 0 :=
      hsmooth _ (List.mem_append_right _ (List.mem_singleton_self _))
    obtain ⟨htaken, hevicted⟩ := h.smooth hbefore
    unfold Sender.enqueue
    split
    · next evicted session heq =>
      rw [heq] at hlast
      cases hlast
      constructor
      · show s.taken ++ _ = _
        rw [htaken, List.filter_append]
      · show s.evicted + 0 = 0
        rw [hevicted]
    · next error session heq =>
      rw [heq] at hlast
      cases hlast

/-! ## What a session that follows a script has written -/

/-- Everything written is the beginning of messages that were taken. -/
theorem Wire.begun (h : Wire start s) :
    ∃ messages, Begun start s.session.endpoint.written messages ∧ messages.Sublist s.taken := by
  have hcut : ∃ sent part, s.session.endpoint.written = start ++ sent.flatten ++ part ∧
      Cut s.taken sent part := by
    cases h with
    | flowing sent part h => exact ⟨sent, part, h.written, h.cut⟩
    | stopped sent part h => exact ⟨sent, part, h.written, h.cut⟩
  obtain ⟨sent, part, hwritten, hcut⟩ := hcut
  by_cases hpart : part = []
  · rw [hpart, List.append_nil] at hwritten
    exact ⟨sent, .whole sent hwritten, hcut.whole⟩
  · obtain ⟨rest, hrest, horder⟩ := hcut.torn hpart
    exact ⟨sent ++ [part ++ rest], .torn sent part rest hpart hrest hwritten, horder⟩

theorem flatten_unsent (part : Bytes) {items : List Bytes} (h : part ≠ [] → items ≠ []) :
    (unsent part items).flatten = part ++ items.flatten := by
  cases items with
  | nil =>
    have hpart : part = [] := Classical.byContradiction fun hne => h hne rfl
    rw [hpart]
    rfl
  | cons head rest => simp [unsent]

/-- An open session that has taken its whole script has written it up to what waits. -/
theorem Follows.whole_script (h : Follows start script answers s)
    (hopen : s.session.isDraining = false) (hsmooth : ∀ answer ∈ answers, answer = .ok 0) :
    s.session.endpoint.written ++ s.session.outbound.items.flatten = start ++ script.flatten := by
  obtain ⟨htaken, hevicted⟩ := h.smooth hsmooth
  cases h.wire with
  | flowing sent part h =>
    -- Nothing was evicted, so what was sent and what waits are all that was taken.
    have hall : sent ++ unsent part s.session.outbound.items = s.taken := by
      refine h.order.eq_of_length ?_
      have hcount := h.count
      omega
    rw [h.written, ← List.flatten_filter_ne_nil (L := script), ← htaken, ← hall,
      List.flatten_append, flatten_unsent part fun hpart => (h.started hpart).2]
    simp only [List.append_assoc]
  | stopped sent part h =>
    have hdrains := h.drains
    rw [hopen] at hdrains
    cases hdrains

end Session

end ChatRelay
