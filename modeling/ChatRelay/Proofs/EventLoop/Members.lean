import ChatRelay.Proofs.EventLoop.Strokes

/-!
# The sessions of a loop

Every session that is there after a stroke was there before it, and things were done with it that
can be done with any session, or it has just begun on a connection that was waiting
(`Stroke.sessions`). What holds of every new session and is kept by everything that can be done with
a session holds therefore of every session of a loop (`Strokes.sessions_keep`): none that drains
holds messages (`silent_acts`).

No two sessions of a loop have one identity (`distinct_acts`).
-/

namespace ChatRelay

/-! ## New sessions -/

namespace SessionPlan

/-- A session that begins: it has been greeted, and nothing else was done with it. -/
def newcomer (plan : SessionPlan) (id : SessionId) (peer : String) (endpoint : Endpoint) :
    Session :=
  plan.greeting.elim (Session.new id peer endpoint plan.codec plan.limits) fun greeting =>
    ((Session.new id peer endpoint plan.codec plan.limits).enqueue greeting).2

variable (plan : SessionPlan) (id : SessionId) (peer : String) (endpoint : Endpoint)

theorem newcomer_meets : ∃ events : List SessionEvent, plan.newcomer id peer endpoint =
    events.foldl Session.meet (Session.new id peer endpoint plan.codec plan.limits) := by
  unfold newcomer
  cases plan.greeting with
  | none => exact ⟨[], rfl⟩
  | some greeting => exact ⟨[.enqueue greeting], rfl⟩

theorem id_newcomer : (plan.newcomer id peer endpoint).id = id := by
  unfold newcomer
  cases plan.greeting with
  | none => rfl
  | some greeting => exact Session.id_enqueue _ _

theorem endpoint_newcomer : (plan.newcomer id peer endpoint).endpoint = endpoint := by
  unfold newcomer
  cases plan.greeting with
  | none => rfl
  | some greeting => exact Session.endpoint_enqueue _ _

theorem phase_newcomer : (plan.newcomer id peer endpoint).phase = .opened := by
  unfold newcomer
  cases plan.greeting with
  | none => rfl
  | some greeting => exact Session.phase_enqueue _ _

end SessionPlan

namespace EventLoop

variable {loop loop' : EventLoop} {slot slot' : Slot} {session : Session} {id : SessionId}
  {welcome : Endpoint → Prop}

/-- A session that begins takes the place behind the others. -/
theorem addSession_eq (loop : EventLoop) (peer : String) (endpoint : Endpoint) :
    (loop.addSession peer endpoint).slots =
        loop.slots.filter (·.id ≠ loop.ids.take.1) ++
          [⟨loop.plan.newcomer loop.ids.take.1 peer endpoint,
            (loop.plan.newcomer loop.ids.take.1 peer endpoint).wantsWrite⟩] ∧
      (loop.addSession peer endpoint).calls = loop.calls ++
        [.register loop.ids.take.1.token
          (loop.plan.newcomer loop.ids.take.1 peer endpoint).wantsWrite] := by
  unfold addSession SessionPlan.newcomer
  cases loop.plan.greeting with
  | none => exact ⟨rfl, rfl⟩
  | some greeting => exact ⟨rfl, rfl⟩

theorem mem_addSession {peer : String} {endpoint : Endpoint}
    (h : slot' ∈ (loop.addSession peer endpoint).slots) :
    slot' ∈ loop.slots ∧ slot'.id ≠ loop.ids.take.1 ∨
      slot' = ⟨loop.plan.newcomer loop.ids.take.1 peer endpoint,
        (loop.plan.newcomer loop.ids.take.1 peer endpoint).wantsWrite⟩ := by
  rw [(addSession_eq loop peer endpoint).1] at h
  rcases List.mem_append.1 h with hold | hnew
  · obtain ⟨hmem, hother⟩ := List.mem_filter.1 hold
    exact .inl ⟨hmem, by simpa using hother⟩
  · exact .inr (List.mem_singleton.1 hnew)

/-! ## Slots after one call -/

/-- Nobody has an identity that is not found. -/
theorem id_ne_of_not_found (h : loop.slot? id = none) (hslot : slot ∈ loop.slots) :
    slot.id ≠ id := by
  simpa using List.find?_eq_none.1 h slot hslot

theorem mem_put (h : slot' ∈ (loop.put session).slots) :
    slot' ∈ loop.slots ∧ slot'.id ≠ session.id ∨
      ∃ slot ∈ loop.slots, slot.id = session.id ∧ slot' = { slot with session } := by
  obtain ⟨slot, hslot, rfl⟩ := List.mem_map.1 h
  by_cases hid : slot.id = session.id
  · rw [if_pos hid]
    exact .inr ⟨slot, hslot, hid, rfl⟩
  · rw [if_neg hid]
    exact .inl ⟨hslot, hid⟩

theorem mem_updateInterest (h : slot' ∈ (loop.updateInterest id).slots) :
    ∃ slot ∈ loop.slots, slot'.session = slot.session ∧ (slot.id ≠ id → slot' = slot) := by
  unfold updateInterest at h
  split at h
  · exact ⟨slot', h, rfl, fun _ => rfl⟩
  dsimp only at h
  split at h
  · exact ⟨slot', h, rfl, fun _ => rfl⟩
  · obtain ⟨slot, hslot, rfl⟩ := List.mem_map.1 h
    refine ⟨slot, hslot, ?_, fun hid => if_neg hid⟩
    split <;> rfl

theorem mem_foldl_updateInterest {ids : List SessionId}
    (h : slot' ∈ (ids.foldl updateInterest loop).slots) :
    ∃ slot ∈ loop.slots, slot'.session = slot.session ∧ (slot.id ∉ ids → slot' = slot) := by
  induction ids generalizing loop with
  | nil => exact ⟨slot', h, rfl, fun _ => rfl⟩
  | cons id ids ih =>
    obtain ⟨between, hbetween, hsession, hsame⟩ := ih h
    obtain ⟨slot, hslot, hsession', hsame'⟩ := mem_updateInterest hbetween
    refine ⟨slot, hslot, hsession.trans hsession', fun hid => ?_⟩
    have hother : slot.id ≠ id := fun heq => hid (heq ▸ List.mem_cons_self)
    have hbetween' : between.id ∉ ids := by
      rw [hsame' hother]
      exact fun hmem => hid (List.mem_cons_of_mem id hmem)
    rw [hsame hbetween', hsame' hother]

theorem mem_release : slot' ∈ (loop.release id).slots ↔ slot' ∈ loop.slots ∧ slot'.id ≠ id := by
  rw [slots_release, List.mem_filter]
  simp

theorem mem_dismiss :
    slot' ∈ (loop.dismiss session).slots ↔ slot' ∈ loop.slots ∧ slot'.id ≠ session.id := by
  rw [dismiss, mem_release]
  constructor
  · rintro ⟨hput, hid⟩
    rcases mem_put hput with hold | ⟨slot, -, -, rfl⟩
    · exact hold
    · exact absurd rfl hid
  · rintro ⟨hslot, hid⟩
    exact ⟨List.mem_map.2 ⟨slot', hslot, if_neg hid⟩, hid⟩

theorem mem_settle (h : slot' ∈ (loop.settle session).slots) :
    slot' ∈ loop.slots ∧ slot'.id ≠ session.id ∨ slot'.session = session := by
  obtain ⟨slot, hslot, hsession, hsame⟩ := mem_updateInterest h
  rcases mem_put hslot with ⟨hold, hid⟩ | ⟨old, -, -, rfl⟩
  · rw [hsame hid]
    exact .inl ⟨hold, hid⟩
  · exact .inr hsession

/-- After a message was offered and those who took it are known, each session has been offered it,
and only the interest of those who took it has changed. -/
theorem mem_spread {origin : SessionId} {payload : Bytes}
    (h : slot' ∈ (loop.spread origin payload).slots) :
    ∃ slot ∈ loop.slots,
      slot'.session = (slot.receive loop.plan.codec origin payload).2.session ∧
      (slot.id ∉ loop.takers origin payload →
        slot' = (slot.receive loop.plan.codec origin payload).2) := by
  obtain ⟨offered, hoffered, hsession, hsame⟩ := mem_foldl_updateInterest h
  obtain ⟨slot, hslot, rfl⟩ := List.mem_map.1 hoffered
  rw [Slot.id_receive] at hsame
  exact ⟨slot, hslot, hsession, hsame⟩

/-! ## What was done with each session -/

theorem session_receive (slot : Slot) (codec : Codec) (origin : SessionId) (payload : Bytes) :
    ∃ events : List SessionEvent,
      (slot.receive codec origin payload).2.session = events.foldl Session.meet slot.session := by
  unfold Slot.receive
  split
  · exact ⟨[], rfl⟩
  next frame hframe =>
  split
  · exact ⟨[], rfl⟩
  · exact ⟨[.enqueue frame], rfl⟩

/-- Each session after a stroke was there before, and has met with something or nothing, or has
just begun. -/
theorem Stroke.sessions (h : Stroke welcome loop loop') (hslot' : slot' ∈ loop'.slots) :
    (∃ slot ∈ loop.slots, ∃ events : List SessionEvent,
        slot'.session = events.foldl Session.meet slot.session) ∨
      ∃ id peer endpoint, welcome endpoint ∧
        slot'.session = loop.plan.newcomer id peer endpoint := by
  have hsame : ∀ slot ∈ loop.slots, slot'.session = slot.session →
      ∃ slot ∈ loop.slots, ∃ events : List SessionEvent,
        slot'.session = events.foldl Session.meet slot.session :=
    fun slot hslot heq => ⟨slot, hslot, [], heq⟩
  cases h with
  | tend tend =>
    left
    cases tend with
    | @settle slot session found served =>
      rcases mem_settle hslot' with ⟨hold, -⟩ | hsession
      · exact hsame slot' hold rfl
      · obtain ⟨events, hevents⟩ := served.meets
        exact ⟨slot, (mem_of_slot? found).1, events, hsession.trans hevents⟩
    | dismiss found => exact hsame slot' (mem_dismiss.1 hslot').1 rfl
    | release id => exact hsame slot' (mem_release.1 hslot').1 rfl
  | spread origin payload =>
    left
    obtain ⟨slot, hslot, hsession, -⟩ := mem_spread hslot'
    obtain ⟨events, hevents⟩ := session_receive slot loop.plan.codec origin payload
    exact ⟨slot, hslot, events, hsession.trans hevents⟩
  | join peer came =>
    rcases mem_addSession hslot' with ⟨hold, -⟩ | rfl
    · exact .inl (hsame slot' hold rfl)
    · exact .inr ⟨_, peer, _, came, rfl⟩
  | @hear slot found =>
    left
    rcases mem_put hslot' with ⟨hold, -⟩ | ⟨old, -, -, rfl⟩
    · exact hsame slot' hold rfl
    · exact ⟨slot, (mem_of_slot? found).1, [.read], rfl⟩
  | @change slot found change =>
    left
    rcases mem_put hslot' with ⟨hold, -⟩ | ⟨old, -, -, rfl⟩
    · exact hsame slot' hold rfl
    · exact ⟨slot, (mem_of_slot? found).1, [.network change], rfl⟩
  | aside plan slots calls => exact .inl (hsame slot' (slots ▸ hslot') rfl)

/-- What everything keeps that can be done with a session, strokes keep of all sessions. -/
theorem Strokes.sessions_keep {P : Session → Prop}
    (hmeet : ∀ {s : Session} event, P s → P (s.meet event))
    (hnew : ∀ id peer endpoint codec limits, welcome endpoint →
      P (Session.new id peer endpoint codec limits))
    (h : Strokes welcome loop loop') (hloop : ∀ slot ∈ loop.slots, P slot.session) :
    ∀ slot ∈ loop'.slots, P slot.session := by
  refine h.keeps (P := fun loop => ∀ slot ∈ loop.slots, P slot.session) ?_ hloop
  intro loop loop' hstroke hall slot' hslot'
  rcases hstroke.sessions hslot' with ⟨slot, hslot, events, heq⟩ | ⟨id, peer, endpoint, hcame, heq⟩
  · rw [heq]
    exact Session.foldl_meet_keeps hmeet events (hall slot hslot)
  · obtain ⟨events, hevents⟩ := loop.plan.newcomer_meets id peer endpoint
    rw [heq, hevents]
    exact Session.foldl_meet_keeps hmeet events (hnew id peer endpoint _ _ hcame)

/-! ## Identities -/

theorem ids_put (loop : EventLoop) (session : Session) :
    (loop.put session).slots.map Slot.id = loop.slots.map Slot.id := by
  rw [put, List.map_map]
  refine List.map_congr_left fun slot _ => ?_
  show Slot.id (if slot.id = session.id then { slot with session } else slot) = slot.id
  by_cases hid : slot.id = session.id
  · rw [if_pos hid]
    exact hid.symm
  · rw [if_neg hid]

theorem ids_updateInterest (loop : EventLoop) (id : SessionId) :
    (loop.updateInterest id).slots.map Slot.id = loop.slots.map Slot.id := by
  unfold updateInterest
  split
  · rfl
  dsimp only
  split
  · rfl
  · show (loop.slots.map _).map Slot.id = _
    rw [List.map_map]
    refine List.map_congr_left fun slot _ => ?_
    show Slot.id (if slot.id = id then _ else slot) = slot.id
    split <;> rfl

theorem ids_foldl_updateInterest (ids : List SessionId) (loop : EventLoop) :
    (ids.foldl updateInterest loop).slots.map Slot.id = loop.slots.map Slot.id := by
  induction ids generalizing loop with
  | nil => rfl
  | cons id ids ih => exact (ih (loop.updateInterest id)).trans (ids_updateInterest loop id)

theorem ids_settle (loop : EventLoop) (session : Session) :
    (loop.settle session).slots.map Slot.id = loop.slots.map Slot.id :=
  (ids_updateInterest _ session.id).trans (ids_put loop session)

theorem distinct_of_ids (h : loop.Distinct)
    (hids : (loop'.slots.map Slot.id).Sublist (loop.slots.map Slot.id)) : loop'.Distinct :=
  hids.nodup h

theorem distinct_release (h : loop.Distinct) (id : SessionId) : (loop.release id).Distinct := by
  refine distinct_of_ids h ?_
  rw [slots_release]
  exact List.filter_sublist.map Slot.id

theorem distinct_put (h : loop.Distinct) (session : Session) : (loop.put session).Distinct := by
  rw [Distinct, ids_put]
  exact h

theorem distinct_spread (h : loop.Distinct) (origin : SessionId) (payload : Bytes) :
    (loop.spread origin payload).Distinct := by
  rw [Distinct, spread, ids_foldl_updateInterest]
  exact distinct_offered h origin payload

theorem distinct_addSession (h : loop.Distinct) (peer : String) (endpoint : Endpoint) :
    (loop.addSession peer endpoint).Distinct := by
  rw [Distinct, (addSession_eq loop peer endpoint).1, List.map_append, List.nodup_append]
  refine ⟨(List.filter_sublist.map Slot.id).nodup h, List.nodup_singleton _, ?_⟩
  intro old hold new hnew
  obtain ⟨slot, hslot, rfl⟩ := List.mem_map.1 hold
  have hother : slot.id ≠ loop.ids.take.1 := by
    simpa using (List.mem_filter.1 hslot).2
  rw [List.mem_singleton.1 hnew]
  show slot.id ≠ (loop.plan.newcomer _ peer endpoint).id
  rw [SessionPlan.id_newcomer]
  exact hother

theorem Stroke.distinct (h : Stroke welcome loop loop') (hloop : loop.Distinct) :
    loop'.Distinct := by
  cases h with
  | tend tend =>
    cases tend with
    | settle found served =>
      rw [Distinct, ids_settle]
      exact hloop
    | dismiss found => exact distinct_release (distinct_put hloop _) _
    | release id => exact distinct_release hloop id
  | spread origin payload => exact distinct_spread hloop origin payload
  | join peer came => exact distinct_addSession hloop peer _
  | hear found => exact distinct_put hloop _
  | change found change => exact distinct_put hloop _
  | aside plan slots calls =>
    rw [Distinct, slots]
    exact hloop

/-! ## Runs -/

theorem acts_keep {P : EventLoop → Prop}
    (hact : ∀ {loop : EventLoop} action, P loop → P (loop.act action)) (h : P loop)
    (actions : List LoopAction) : P (loop.acts actions) := by
  induction actions generalizing loop with
  | nil => exact h
  | cons action actions ih => exact ih (hact action h)

variable (plan : SessionPlan) (sockets : List SocketAddress) (actions : List LoopAction)

theorem distinct_acts : ((EventLoop.new plan sockets).acts actions).Distinct := by
  have hnew : (EventLoop.new plan sockets).Distinct := List.nodup_nil
  refine acts_keep (P := Distinct) (fun {loop} action hloop => ?_) hnew actions
  exact (strokes_act loop action).keeps (P := Distinct) Stroke.distinct hloop

/-- No session that drains holds messages. -/
theorem silent_acts : ∀ slot ∈ ((EventLoop.new plan sockets).acts actions).slots,
    slot.session.Silent := by
  refine acts_keep (P := fun loop => ∀ slot ∈ loop.slots, slot.session.Silent)
    (fun {loop} action hloop => ?_) (fun slot hslot => absurd hslot List.not_mem_nil) actions
  refine (strokes_act loop action).sessions_keep (fun event hs => hs.meet event) ?_ hloop
  intro id peer endpoint codec limits _ hdraining
  cases hdraining

end EventLoop

end ChatRelay
