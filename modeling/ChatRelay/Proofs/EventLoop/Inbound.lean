import ChatRelay.Proofs.EventLoop.Members

/-!
# Nothing is left unread

The poller speaks up once for each change, so what is there to be read has to be read until the
connection would block, and what waits at a listener has to be accepted until it would block, or be
looked at again.

Most of what a loop does leaves each session alone, or reads from it until it would block
(`Attended`). Reading may stop early, at a violation of the framing: then the session is closed, and
closing reads on (`readOut_closeSession`). Of a listener, a pass goes past everything up to a fault,
and that fault says whether it is looked at again (`Visited`). `nothing_left_unread` puts the two
together.
-/

namespace ChatRelay

namespace Session

variable {s t u : Session}

/-- Nothing was read from the session, and it was not closed. -/
structure LeftAlone (s t : Session) : Prop where
  id : t.id = s.id
  inbound : t.endpoint.inbound = s.endpoint.inbound
  phase : t.phase = s.phase

/-- The session was read from until it would block, and perhaps closed. -/
structure ReadOut (s t : Session) : Prop where
  id : t.id = s.id
  out : s.endpoint.ReadOut t.endpoint
  stays : s.isDraining = true → t.isDraining = true

/-- The session was left alone, or read from until it would block. -/
def Attended (s t : Session) : Prop := s.LeftAlone t ∨ s.ReadOut t

theorem LeftAlone.refl (s : Session) : s.LeftAlone s := ⟨rfl, rfl, rfl⟩

theorem LeftAlone.trans (h : s.LeftAlone t) (h' : t.LeftAlone u) : s.LeftAlone u :=
  ⟨h'.id.trans h.id, h'.inbound.trans h.inbound, h'.phase.trans h.phase⟩

theorem Attended.id_eq (h : s.Attended t) : t.id = s.id := by
  rcases h with hleft | hread
  · exact hleft.id
  · exact hread.id

theorem Attended.later (h : s.Attended t) : s.endpoint.Later t.endpoint := by
  rcases h with hleft | hread
  · exact Endpoint.later_of_inbound hleft.inbound
  · exact hread.out.later

/-- A session that drains goes on draining. -/
theorem Attended.stays (h : s.Attended t) (hdraining : s.isDraining = true) :
    t.isDraining = true := by
  rcases h with hleft | hread
  · unfold isDraining at hdraining ⊢
    rwa [hleft.phase]
  · exact hread.stays hdraining

theorem ReadOut.of_attended (h : s.Attended t) (h' : t.ReadOut u) : s.ReadOut u :=
  ⟨h'.id.trans h.id_eq, h'.out.of_later h.later, fun hdraining => h'.stays (h.stays hdraining)⟩

/-- Who has been read from until it would block stays so. -/
theorem ReadOut.attended (h : s.ReadOut t) (h' : t.Attended u) : s.ReadOut u := by
  rcases h' with hleft | hread
  · exact ⟨hleft.id.trans h.id, h.out.of_inbound hleft.inbound, fun hdraining =>
      Attended.stays (.inl hleft) (h.stays hdraining)⟩
  · exact .of_attended (.inr h) hread

theorem Attended.trans (h : s.Attended t) (h' : t.Attended u) : s.Attended u := by
  rcases h with hleft | hread
  · rcases h' with hleft' | hread'
    · exact .inl (hleft.trans hleft')
    · exact .inr (.of_attended (.inl hleft) hread')
  · exact .inr (hread.attended h')

theorem leftAlone_writeReady (s : Session) : s.LeftAlone s.writeReady.2 :=
  have hwrites := writes_writeReady s
  ⟨hwrites.id, hwrites.inbound, hwrites.phase⟩

/-- Closing a session reads on until it would block, if it stays. -/
theorem readOut_close (s : Session) (now drain : Nat)
    (waits : (s.beginClose now drain).readReady.1.closed = none) :
    s.ReadOut (s.beginClose now drain).readReady.2 := by
  have hreads := reads_readReady (s.beginClose now drain)
  refine ⟨id_readReady_beginClose s now drain, ?_, fun _ => ?_⟩
  · exact (readOut_readReady waits).of_later
      (Endpoint.later_of_inbound (inbound_beginClose s now drain))
  · rw [hreads.isDraining, isDraining_beginClose]

theorem Served.attended (h : s.Served t) : s.Attended t := by
  cases h with
  | wrote going => exact .inl (leftAlone_writeReady s)
  | @closed u before now drain waits =>
    rcases before with rfl | rfl
    · exact .inr (readOut_close _ now drain waits)
    · exact .inr (.of_attended (.inl (leftAlone_writeReady s)) (readOut_close _ now drain waits))

end Session

namespace EventLoop

variable {loop loop' loop'' : EventLoop} {slot slot' : Slot} {session : Session} {id : SessionId}

/-! ## Attending to sessions -/

/-- Every session that is there was left alone, or read from until it would block, and nothing
happened at the listeners. -/
structure Attended (loop loop' : EventLoop) : Prop where
  listeners : loop'.listeners = loop.listeners
  retries : loop'.retries = loop.retries
  slots : ∀ slot' ∈ loop'.slots, ∃ slot ∈ loop.slots, slot.session.Attended slot'.session

theorem Attended.refl (loop : EventLoop) : Attended loop loop :=
  ⟨rfl, rfl, fun slot hslot => ⟨slot, hslot, .inl (.refl _)⟩⟩

theorem Attended.trans (h : Attended loop loop') (h' : Attended loop' loop'') :
    Attended loop loop'' := by
  refine ⟨h'.listeners.trans h.listeners, h'.retries.trans h.retries, fun slot'' hslot'' => ?_⟩
  obtain ⟨slot', hslot', hlater⟩ := h'.slots slot'' hslot''
  obtain ⟨slot, hslot, hfirst⟩ := h.slots slot' hslot'
  exact ⟨slot, hslot, hfirst.trans hlater⟩

theorem attended_foldl {α : Type} {f : EventLoop → α → EventLoop}
    (hf : ∀ loop a, Attended loop (f loop a)) (as : List α) (loop : EventLoop) :
    Attended loop (as.foldl f loop) :=
  foldl_related Attended.refl Attended.trans hf as loop

theorem listeners_updateInterest (loop : EventLoop) (id : SessionId) :
    (loop.updateInterest id).listeners = loop.listeners ∧
      (loop.updateInterest id).retries = loop.retries := by
  unfold updateInterest
  split
  · exact ⟨rfl, rfl⟩
  dsimp only
  split <;> exact ⟨rfl, rfl⟩

theorem listeners_release (loop : EventLoop) (id : SessionId) :
    (loop.release id).listeners = loop.listeners ∧ (loop.release id).retries = loop.retries := by
  unfold release
  split <;> exact ⟨rfl, rfl⟩

theorem attended_updateInterest (loop : EventLoop) (id : SessionId) :
    Attended loop (loop.updateInterest id) := by
  obtain ⟨hlisteners, hretries⟩ := listeners_updateInterest loop id
  refine ⟨hlisteners, hretries, fun slot' hslot' => ?_⟩
  obtain ⟨slot, hslot, hsession, -⟩ := mem_updateInterest hslot'
  exact ⟨slot, hslot, .inl (hsession ▸ .refl _)⟩

theorem attended_release (loop : EventLoop) (id : SessionId) : Attended loop (loop.release id) := by
  obtain ⟨hlisteners, hretries⟩ := listeners_release loop id
  exact ⟨hlisteners, hretries, fun slot' hslot' =>
    ⟨slot', (mem_release.1 hslot').1, .inl (.refl _)⟩⟩

theorem Tend.attended (h : Tend loop loop') : Attended loop loop' := by
  cases h with
  | @settle slot session found served =>
    obtain ⟨hlisteners, hretries⟩ := listeners_updateInterest (loop.put session) session.id
    refine ⟨hlisteners, hretries, fun slot' hslot' => ?_⟩
    rcases mem_settle hslot' with ⟨hold, -⟩ | hsession
    · exact ⟨slot', hold, .inl (.refl _)⟩
    · exact ⟨slot, (mem_of_slot? found).1, hsession ▸ served.attended⟩
  | @dismiss slot session found =>
    obtain ⟨hlisteners, hretries⟩ := listeners_release (loop.put session) session.id
    exact ⟨hlisteners, hretries, fun slot' hslot' =>
      ⟨slot', (mem_dismiss.1 hslot').1, .inl (.refl _)⟩⟩
  | release id => exact attended_release loop id

theorem Tends.attended (h : Tends loop loop') : Attended loop loop' := by
  induction h with
  | refl => exact .refl loop
  | tail _ hlast ih => exact ih.trans hlast.attended

/-- Offering a message leaves every session alone. -/
theorem attended_offered (loop : EventLoop) (origin : SessionId) (payload : Bytes) :
    Attended loop (loop.offered origin payload) := by
  refine ⟨rfl, rfl, fun slot' hslot' => ?_⟩
  obtain ⟨slot, hslot, rfl⟩ := List.mem_map.1 hslot'
  refine ⟨slot, hslot, .inl ⟨Slot.id_receive _ _ _ slot, ?_, ?_⟩⟩
  · unfold Slot.receive
    split
    · rfl
    split
    · rfl
    · exact congrArg Endpoint.inbound (Session.endpoint_enqueue _ _)
  · unfold Slot.receive
    split
    · rfl
    split
    · rfl
    · exact Session.phase_enqueue _ _

theorem attended_route (origin : SessionId) (loop : EventLoop) (payload : Bytes) :
    Attended loop (loop.route origin payload) := by
  have hspread : Attended loop (loop.spread origin payload) :=
    (attended_offered loop origin payload).trans (attended_foldl attended_updateInterest _ _)
  exact hspread.trans (tends_route origin loop payload).attended

/-! ## Who is read from -/

/-- A session that is closed and stays was read from until it would block. -/
theorem readOut_closeSession {reason : CloseReason}
    (hslot' : slot' ∈ (loop.closeSession id reason).slots) (hid : slot'.id = id) :
    ∃ slot ∈ loop.slots, slot.session.ReadOut slot'.session := by
  cases hgone : reason.gone with
  | true =>
    rw [closeSession_of_gone hgone] at hslot'
    exact absurd hid (mem_release.1 hslot').2
  | false =>
    cases found : loop.slot? id with
    | none =>
      obtain ⟨slot, hslot, hattended⟩ :=
        (tends_closeSession loop id reason).attended.slots slot' hslot'
      exact absurd (hattended.id_eq.symm.trans hid) (id_ne_of_not_found found hslot)
    | some slot =>
      obtain ⟨hslot, hsame⟩ := mem_of_slot? found
      have hclosed : (slot.session.beginClose loop.now loop.plan.drain).readReady.2.id = id :=
        (Session.id_readReady_beginClose _ _ _).trans hsame
      rcases closeSession_of_not_gone found hgone with ⟨heq, hwaits⟩ | ⟨heq, -⟩
      · rw [heq] at hslot'
        have hsession := (mem_settle hslot').resolve_left fun hother =>
          hother.2 (hid.trans hclosed.symm)
        exact ⟨slot, hslot, hsession ▸ Session.readOut_close _ _ _ hwaits⟩
      · rw [heq] at hslot'
        exact absurd (hid.trans hclosed.symm) (mem_dismiss.1 hslot').2

/-- While the frames of a session are relayed, everybody is attended to, and nobody comes. -/
theorem mem_relayed (found : loop.slot? id = some slot) {frames : List Bytes}
    (hslot' : slot' ∈ (frames.foldl (route id) (loop.put slot.session.readReady.2)).slots) :
    (slot'.id ≠ id ∧ ∃ old ∈ loop.slots, old.session.Attended slot'.session) ∨
      slot'.id = id ∧ slot.session.readReady.2.Attended slot'.session := by
  have hread : slot.session.readReady.2.id = id :=
    (Session.reads_readReady slot.session).id.trans (mem_of_slot? found).2
  obtain ⟨between, hbetween, hattended⟩ := (attended_foldl (attended_route id) frames
    (loop.put slot.session.readReady.2)).slots slot' hslot'
  have hid : slot'.id = between.id := hattended.id_eq
  rcases mem_put hbetween with ⟨hthere, hother⟩ | ⟨old, -, -, rfl⟩
  · refine .inl ⟨?_, between, hthere, hattended⟩
    rw [hid]
    exact fun heq => hother (heq.trans hread.symm)
  · exact .inr ⟨hid.trans hread, hattended⟩

/-- After reading, everybody was attended to, and whoever was read from is read out. -/
theorem attended_readReady (loop : EventLoop) (id : SessionId) :
    Attended loop (loop.readReady id) ∧
      ∀ slot' ∈ (loop.readReady id).slots, slot'.id = id →
        ∃ slot ∈ loop.slots, slot.session.ReadOut slot'.session := by
  cases found : loop.slot? id with
  | none =>
    have hsame : loop.readReady id = loop := by simp only [readReady, found]
    rw [hsame]
    exact ⟨.refl loop, fun slot' hslot' hid => absurd hid (id_ne_of_not_found found hslot')⟩
  | some slot =>
    obtain ⟨hslot, hsame⟩ := mem_of_slot? found
    have hreads := Session.reads_readReady slot.session
    have hrelayed := attended_foldl (attended_route id) slot.session.readReady.1.frames
      (loop.put slot.session.readReady.2)
    simp only [readReady, found]
    generalize hbetween : slot.session.readReady.1.frames.foldl (route id)
      (loop.put slot.session.readReady.2) = between at hrelayed
    -- What is done in the end attends to everybody, and reads out whoever has been read from.
    have hend : ∀ {final : EventLoop}, Attended between final →
        (∀ slot' ∈ final.slots, slot'.id = id →
          ∃ slot ∈ loop.slots, slot.session.ReadOut slot'.session) →
        Attended loop final ∧ ∀ slot' ∈ final.slots, slot'.id = id →
          ∃ slot ∈ loop.slots, slot.session.ReadOut slot'.session := by
      intro final hfinal hread
      refine ⟨⟨hfinal.listeners.trans hrelayed.listeners,
        hfinal.retries.trans hrelayed.retries, fun slot' hslot' => ?_⟩, hread⟩
      by_cases hid : slot'.id = id
      · obtain ⟨old, hold, hout⟩ := hread slot' hslot' hid
        exact ⟨old, hold, .inr hout⟩
      · obtain ⟨mid, hmid, hlater⟩ := hfinal.slots slot' hslot'
        rcases mem_relayed found (hbetween ▸ hmid) with ⟨-, old, hold, hfirst⟩ | ⟨hmine, -⟩
        · exact ⟨old, hold, hfirst.trans hlater⟩
        · exact absurd (hlater.id_eq.trans hmine) hid
    split
    · next hclosed =>
      refine hend (.refl between) fun slot' hslot' hid => ⟨slot, hslot, ?_⟩
      rcases mem_relayed found (hbetween ▸ hslot') with ⟨hother, -⟩ | ⟨-, hattended⟩
      · exact absurd hid hother
      · exact Session.ReadOut.attended ⟨hreads.id, Session.readOut_readReady hclosed, fun h =>
          hreads.isDraining.trans h⟩ hattended
    split
    · exact hend (attended_release between id) fun slot' hslot' hid =>
        absurd hid (mem_release.1 hslot').2
    · refine hend (tends_closeSession between id _).attended fun slot' hslot' hid => ?_
      obtain ⟨mid, hmid, hout⟩ := readOut_closeSession hslot' hid
      rcases mem_relayed found (hbetween ▸ hmid) with ⟨hother, -⟩ | ⟨-, hattended⟩
      · exact absurd (hout.id.symm.trans hid) hother
      · refine ⟨slot, hslot, (hout.id.trans hattended.id_eq).trans hreads.id, ?_, fun h => ?_⟩
        · exact hout.out.of_later (hreads.later.trans hattended.later)
        · exact hout.stays (hattended.stays (hreads.isDraining.trans h))

/-- A session that is stopped and stays drains, and was read from until it would block. -/
theorem readOut_stopSession (hslot' : slot' ∈ (loop.stopSession id).slots) (hid : slot'.id = id) :
    slot'.session.isDraining = true ∧
      ∃ slot ∈ loop.slots, slot.session.ReadOut slot'.session := by
  cases found : loop.slot? id with
  | none =>
    have hsame : loop.stopSession id = loop := by simp only [stopSession, found]
    rw [hsame] at hslot'
    exact absurd hid (id_ne_of_not_found found hslot')
  | some slot =>
    obtain ⟨session, hsession, heq | ⟨heq, before, hbefore, rfl, hwaits⟩⟩ :=
      stopSession_cases found
    · rw [heq] at hslot'
      exact absurd (hid.trans hsession.symm) (mem_dismiss.1 hslot').2
    · rw [heq] at hslot'
      have hclosed := (mem_settle hslot').resolve_left fun hother =>
        hother.2 (hid.trans hsession.symm)
      have hout := before.readOut_close loop.now loop.plan.drain hwaits
      have hdraining := Session.isDraining_beginClose before loop.now loop.plan.drain
      rw [hclosed]
      refine ⟨(Session.reads_readReady _).isDraining.trans hdraining, slot,
        (mem_of_slot? found).1, ?_⟩
      rcases hbefore with rfl | rfl
      · exact hout
      · exact .of_attended (.inl (Session.leftAlone_writeReady slot.session)) hout

theorem readOut_foldl_stopSession (ids : List SessionId)
    (hslot' : slot' ∈ (ids.foldl stopSession loop).slots) (hid : slot'.id ∈ ids) :
    slot'.session.isDraining = true ∧
      ∃ slot ∈ loop.slots, slot.session.ReadOut slot'.session := by
  induction ids generalizing loop with
  | nil => cases hid
  | cons id ids ih =>
    by_cases hlater : slot'.id ∈ ids
    · obtain ⟨hdraining, between, hbetween, hout⟩ := ih hslot' hlater
      obtain ⟨slot, hslot, hattended⟩ :=
        (tends_stopSession loop id).attended.slots between hbetween
      exact ⟨hdraining, slot, hslot, .of_attended hattended hout⟩
    · have hnow : slot'.id = id := (List.mem_cons.1 hid).resolve_right hlater
      obtain ⟨between, hbetween, hattended⟩ :=
        (tends_foldl tends_stopSession ids (loop.stopSession id)).attended.slots slot' hslot'
      obtain ⟨hdraining, slot, hslot, hout⟩ :=
        readOut_stopSession hbetween (hattended.id_eq.symm.trans hnow)
      exact ⟨hattended.stays hdraining, slot, hslot, hout.attended hattended⟩

/-- After stopping, everybody who is left drains and is read out. -/
theorem readOut_beginShutdown (hslot' : slot' ∈ loop.beginShutdown.slots) :
    slot'.session.isDraining = true ∧
      ∃ slot ∈ loop.slots, slot.session.ReadOut slot'.session := by
  obtain ⟨slot, hslot, hattended⟩ := (tends_beginShutdown loop).attended.slots slot' hslot'
  have hid : slot'.id ∈ loop.slots.map Slot.id :=
    List.mem_map.2 ⟨slot, hslot, hattended.id_eq.symm⟩
  have hstopped : slot' ∈ ((loop.slots.map Slot.id).foldl stopSession loop.deaf).slots := hslot'
  obtain ⟨hdraining, old, hold, hout⟩ := readOut_foldl_stopSession _ hstopped hid
  exact ⟨hdraining, old, hold, hout⟩

/-! ## Who is accepted -/

/-- Accepting changes nobody, and whoever comes was waiting. -/
theorem mem_acceptFrom (backlog : List Incoming)
    (hslot' : slot' ∈ (loop.acceptFrom backlog).1.slots) :
    slot' ∈ loop.slots ∨ slot'.session.phase = .opened ∧
      ∃ peer, .connection peer slot'.session.endpoint ∈ backlog := by
  induction backlog generalizing loop with
  | nil => exact .inl hslot'
  | cons incoming rest ih =>
    have hrest : ∀ {peer}, .connection peer slot'.session.endpoint ∈ rest →
        .connection peer slot'.session.endpoint ∈ incoming :: rest :=
      List.mem_cons_of_mem incoming
    cases incoming with
    | connection peer endpoint =>
      have hlater : slot' ∈ ((loop.addSession peer endpoint).acceptFrom rest).1.slots := hslot'
      rcases ih hlater with hthere | ⟨hopen, peer', hmem⟩
      · rcases mem_addSession hthere with ⟨hold, -⟩ | rfl
        · exact .inl hold
        · refine .inr ⟨loop.plan.phase_newcomer _ peer endpoint, peer, ?_⟩
          rw [loop.plan.endpoint_newcomer]
          exact List.mem_cons_self
      · exact .inr ⟨hopen, peer', hrest hmem⟩
    | fault fault =>
      unfold acceptFrom at hslot'
      split at hslot'
      · rcases ih hslot' with hthere | ⟨hopen, peer, hmem⟩
        · exact .inl hthere
        · exact .inr ⟨hopen, peer, hrest hmem⟩
      · exact .inl hslot'

/-- Whoever is there after a pass over a backlog was there before, or was waiting. -/
theorem mem_acceptReady {token : Nat} (hslot' : slot' ∈ (loop.acceptReady token).slots) :
    slot' ∈ loop.slots ∨ slot'.session.phase = .opened ∧ loop.Waiting slot'.session.endpoint := by
  unfold acceptReady at hslot'
  split at hslot'
  · exact .inl hslot'
  next listener found =>
  have hthere : slot' ∈ (loop.acceptFrom listener.backlog).1.slots := by
    dsimp only at hslot'
    split at hslot' <;> exact hslot'
  exact (mem_acceptFrom listener.backlog hthere).imp_right fun ⟨hopen, peer, hmem⟩ =>
    ⟨hopen, listener, List.mem_of_find?_eq_some found, peer, hmem⟩

theorem mem_foldl_acceptReady (tokens : List Nat)
    (hslot' : slot' ∈ (tokens.foldl acceptReady loop).slots) :
    slot' ∈ loop.slots ∨ slot'.session.phase = .opened ∧ loop.Waiting slot'.session.endpoint := by
  induction tokens generalizing loop with
  | nil => exact .inl hslot'
  | cons token tokens ih =>
    rcases ih hslot' with hthere | ⟨hopen, hwaits⟩
    · exact mem_acceptReady hthere
    · exact .inr ⟨hopen, waiting_acceptReady hwaits⟩

/-! ## Passing over backlogs -/

/-- The backlog of a listener has been gone over, up to a fault; unless it is said that nobody waits
any more, the listener is to be looked at again. -/
def Visited (token : Nat) (loop loop' : EventLoop) : Prop :=
  ∀ l ∈ loop.listeners, l.token = token → ∃ l' ∈ loop'.listeners, l'.token = token ∧
    ∃ fault, Passed l.backlog l'.backlog fault ∧ l'.lastFault = some fault ∧
      (fault.kind = .wouldBlock ∨ token ∈ loop'.retries)

/-- Every listener has a token of its own, and is to be looked at again at most once. -/
structure Listens (loop : EventLoop) : Prop where
  tokens : (loop.listeners.map Listener.token).Nodup
  retries : loop.retries.Nodup

theorem tokens_acceptReady (loop : EventLoop) (token : Nat) :
    (loop.acceptReady token).listeners.map Listener.token = loop.listeners.map Listener.token := by
  cases found : loop.listeners.find? (·.token = token) with
  | none => simp only [acceptReady, found]
  | some listener =>
    obtain ⟨rest, fault, -, hlisteners, -⟩ := listeners_acceptReady found
    rw [hlisteners, List.map_map]
    refine List.map_congr_left fun l _ => ?_
    simp only [Function.comp_apply]
    split <;> rfl

theorem retries_acceptReady (loop : EventLoop) (token : Nat) :
    (loop.acceptReady token).retries = loop.retries ∨
      token ∉ loop.retries ∧ (loop.acceptReady token).retries = loop.retries ++ [token] := by
  cases found : loop.listeners.find? (·.token = token) with
  | none => simp only [acceptReady, found, true_or]
  | some listener =>
    obtain ⟨rest, fault, -, -, hretries⟩ := listeners_acceptReady found
    rw [hretries]
    split
    · exact .inl rfl
    · next hfresh => exact .inr ⟨fun hmem => hfresh (.inr hmem), rfl⟩

theorem nodup_acceptReady (h : loop.retries.Nodup) (token : Nat) :
    (loop.acceptReady token).retries.Nodup := by
  rcases retries_acceptReady loop token with heq | ⟨hfresh, heq⟩
  · exact heq ▸ h
  · rw [heq]
    exact List.nodup_append.2 ⟨h, List.nodup_singleton token, fun old hold new hnew heq =>
      hfresh (List.mem_singleton.1 hnew ▸ heq ▸ hold)⟩

theorem Listens.acceptReady (h : loop.Listens) (token : Nat) :
    (loop.acceptReady token).Listens :=
  ⟨tokens_acceptReady loop token ▸ h.tokens, nodup_acceptReady h.retries token⟩

theorem listeners_foldl_acceptReady (tokens : List Nat) (loop : EventLoop) :
    (tokens.foldl acceptReady loop).listeners.map Listener.token =
        loop.listeners.map Listener.token ∧
      (loop.retries.Nodup → (tokens.foldl acceptReady loop).retries.Nodup) := by
  induction tokens generalizing loop with
  | nil => exact ⟨rfl, id⟩
  | cons token tokens ih =>
    obtain ⟨htokens, hretries⟩ := ih (loop.acceptReady token)
    exact ⟨htokens.trans (tokens_acceptReady loop token), fun hnodup =>
      hretries (nodup_acceptReady hnodup token)⟩

theorem visited_acceptReady (h : loop.Listens) (token : Nat) :
    Visited token loop (loop.acceptReady token) := by
  intro l hl htoken
  obtain ⟨listener, found⟩ :
      ∃ listener, loop.listeners.find? (·.token = token) = some listener := by
    apply Option.isSome_iff_exists.1
    rw [List.find?_isSome]
    exact ⟨l, hl, decide_eq_true htoken⟩
  have hsame : listener = l :=
    List.inj_on_of_nodup_map h.tokens (List.mem_of_find?_eq_some found) hl
      ((by simpa using List.find?_some found : listener.token = token).trans htoken.symm)
  obtain ⟨rest, fault, hpassed, hlisteners, hretries⟩ := listeners_acceptReady found
  refine ⟨{ l with backlog := rest, lastFault := some fault }, ?_, htoken, fault, hsame ▸ hpassed,
    rfl, ?_⟩
  · rw [hlisteners]
    exact List.mem_map.2 ⟨l, hl, if_pos htoken⟩
  · rw [hretries]
    split
    · next hknown => exact hknown
    · exact .inr List.mem_concat_self

/-- Other listeners are as they were. -/
theorem mem_listeners_acceptReady {l : Listener} {token : Nat} (hl : l ∈ loop.listeners)
    (hother : l.token ≠ token) : l ∈ (loop.acceptReady token).listeners := by
  cases found : loop.listeners.find? (·.token = token) with
  | none => simpa only [acceptReady, found] using hl
  | some listener =>
    obtain ⟨rest, fault, -, hlisteners, -⟩ := listeners_acceptReady found
    rw [hlisteners]
    exact List.mem_map.2 ⟨l, hl, if_neg hother⟩

theorem Visited.foldl_acceptReady {token : Nat} {tokens : List Nat} (h : Visited token loop loop')
    (hother : token ∉ tokens) : Visited token loop (tokens.foldl acceptReady loop') := by
  induction tokens generalizing loop' with
  | nil => exact h
  | cons other tokens ih =>
    rw [List.mem_cons, not_or] at hother
    refine ih (fun l hl htoken => ?_) hother.2
    obtain ⟨l', hl', htoken', fault, hpassed, hlast, hend⟩ := h l hl htoken
    have hne : l'.token ≠ other := fun heq => hother.1 (htoken'.symm.trans heq)
    refine ⟨l', mem_listeners_acceptReady hl' hne, htoken', fault, hpassed, hlast,
      hend.imp_right fun hmem => ?_⟩
    rcases retries_acceptReady loop' other with heq | ⟨-, heq⟩
    · exact heq ▸ hmem
    · exact heq ▸ List.mem_append_left _ hmem

/-- Going over the backlogs of several listeners goes over each of them. -/
theorem visited_foldl_acceptReady {token : Nat} {tokens : List Nat} (h : loop.Listens)
    (hnodup : tokens.Nodup) (hmem : token ∈ tokens) :
    Visited token loop (tokens.foldl acceptReady loop) := by
  induction tokens generalizing loop with
  | nil => cases hmem
  | cons first tokens ih =>
    obtain ⟨hfirst, hrest⟩ := List.nodup_cons.1 hnodup
    by_cases hsame : token = first
    · subst hsame
      exact (visited_acceptReady h token).foldl_acceptReady hfirst
    · intro l hl htoken
      have hlater := ih (h.acceptReady first) hrest ((List.mem_cons.1 hmem).resolve_left hsame)
      exact hlater l (mem_listeners_acceptReady hl (htoken ▸ hsame)) htoken

theorem visited_retryAccepts {token : Nat} (h : loop.Listens) (hmem : token ∈ loop.retries) :
    Visited token loop loop.retryAccepts := by
  have hforget : Listens { loop with retries := [] } := ⟨h.tokens, List.nodup_nil⟩
  exact visited_foldl_acceptReady hforget h.retries hmem

/-! ## Runs -/

/-- In an action the listeners keep their tokens or are given up, and none comes to be listed twice
among those to be looked at again. -/
theorem listeners_act (loop : EventLoop) (action : LoopAction) :
    ((loop.act action).listeners.map Listener.token = loop.listeners.map Listener.token ∨
        (loop.act action).listeners = []) ∧
      (loop.retries.Nodup → (loop.act action).retries.Nodup) := by
  have hattended : ∀ {loop' : EventLoop}, Attended loop loop' →
      (loop'.listeners.map Listener.token = loop.listeners.map Listener.token ∨
          loop'.listeners = []) ∧ (loop.retries.Nodup → loop'.retries.Nodup) := fun h =>
    ⟨.inl (congrArg (List.map Listener.token) h.listeners), fun hnodup => h.retries ▸ hnodup⟩
  cases action with
  | dispatch readiness =>
    cases readiness with
    | accept token =>
      exact ⟨.inl (tokens_acceptReady loop token), fun hnodup => nodup_acceptReady hnodup token⟩
    | read id => exact hattended (attended_readReady loop id).1
    | write id => exact hattended (tends_writeReady loop id).attended
    | failed id => exact hattended (tends_errorReady loop id).attended
  | retry =>
    have hretried := listeners_foldl_acceptReady loop.retries { loop with retries := [] }
    exact ⟨.inl hretried.1, fun _ => hretried.2 List.nodup_nil⟩
  | expire => exact hattended (tends_expireDrains loop).attended
  | stop =>
    have hstopped := (tends_beginShutdown loop).attended
    exact ⟨.inr hstopped.listeners, fun hnodup => hstopped.retries ▸ hnodup⟩
  | leaveAll => exact hattended (tends_releaseAll loop).attended
  | outside outside =>
    cases outside with
    | comes token incoming =>
      refine ⟨.inl ?_, id⟩
      show (loop.listeners.map _).map Listener.token = _
      rw [List.map_map]
      refine List.map_congr_left fun l _ => ?_
      simp only [Function.comp_apply]
      split <;> rfl
    | changes id change =>
      show ((loop.happen (.changes id change)).listeners.map Listener.token = _ ∨ _) ∧ _
      unfold act happen
      dsimp only
      split
      · exact ⟨.inl rfl, fun h => h⟩
      · exact ⟨.inl rfl, fun h => h⟩
  | clock now => exact ⟨.inl rfl, id⟩

/-- Nobody listens again. -/
theorem listeners_act_of_deaf (h : loop.listeners = []) (action : LoopAction) :
    (loop.act action).listeners = [] := by
  rcases (listeners_act loop action).1 with hsame | hnone
  · rwa [h, List.map_nil, List.map_eq_nil_iff] at hsame
  · exact hnone

theorem Listens.act (h : loop.Listens) (action : LoopAction) : (loop.act action).Listens := by
  obtain ⟨hsame | hnone, hretries⟩ := listeners_act loop action
  · exact ⟨hsame ▸ h.tokens, hretries h.retries⟩
  · exact ⟨hnone ▸ List.nodup_nil, hretries h.retries⟩

/-- The listeners have the tokens from one on. -/
theorem listenerTokens_new (plan : SessionPlan) (sockets : List SocketAddress) :
    (EventLoop.new plan sockets).listeners.map Listener.token =
      List.range' firstListenerToken sockets.length := by
  apply List.ext_getElem <;> simp [EventLoop.new]

theorem listens_acts (plan : SessionPlan) (sockets : List SocketAddress)
    (actions : List LoopAction) : ((EventLoop.new plan sockets).acts actions).Listens := by
  have hnew : (EventLoop.new plan sockets).Listens := by
    refine ⟨?_, List.nodup_nil⟩
    rw [listenerTokens_new]
    exact List.nodup_range' 1
  exact acts_keep (fun action hloop => hloop.act action) hnew actions

/-- At the point of a turn where listeners are looked at again, they are as the turn found them, or
have just been given up. -/
theorem listeners_heeded (loop : EventLoop) (deadline : Option Nat) (turn : Turn) :
    ((loop.heeded deadline turn).listeners = loop.listeners ∨
        (loop.heeded deadline turn).listeners = []) ∧
      (loop.heeded deadline turn).retries = loop.retries := by
  unfold heeded heedStop
  split
  · have hstopped := (tends_beginShutdown { loop with now := turn.start }).attended
    exact ⟨.inr hstopped.listeners, hstopped.retries⟩
  · exact ⟨.inl rfl, rfl⟩

end EventLoop

/-- The sessions that are read from in an action, whether there is something to read or not. -/
def LoopAction.reads (action : LoopAction) (id : SessionId) : Bool :=
  match action with
  | .dispatch (.read other) => other = id
  | .stop => true
  | _ => false

namespace EventLoop

variable {loop loop' loop'' : EventLoop} {slot slot' : Slot} {session : Session} {id : SessionId}

/-- After an action of the loop, each session was read from until it would block, or is as it was
and is not one to be read from or closed, or has just come. -/
theorem sessions_act {action : LoopAction} (hours : ∀ outside, action ≠ .outside outside)
    (hslot' : slot' ∈ (loop.act action).slots) :
    (∃ slot ∈ loop.slots, slot.session.ReadOut slot'.session) ∨
      (action.reads slot'.id = false ∧ ∃ slot ∈ loop.slots,
        slot.session.LeftAlone slot'.session) ∨
      (action.accepts = true ∧ slot'.session.phase = .opened ∧
        loop.Waiting slot'.session.endpoint) := by
  -- Where a session is attended to, it is left alone or read out.
  have hattended : Attended loop (loop.act action) → (action.reads slot'.id = false ∨
      ∃ slot ∈ loop.slots, slot.session.ReadOut slot'.session) →
      (∃ slot ∈ loop.slots, slot.session.ReadOut slot'.session) ∨
        (action.reads slot'.id = false ∧ ∃ slot ∈ loop.slots,
          slot.session.LeftAlone slot'.session) := by
    intro hattended hreads
    rcases hreads with hquiet | hout
    · obtain ⟨slot, hslot, hleft | hout⟩ := hattended.slots slot' hslot'
      · exact .inr ⟨hquiet, slot, hslot, hleft⟩
      · exact .inl ⟨slot, hslot, hout⟩
    · exact .inl hout
  have hcame : (action.reads slot'.id = false ∧ action.accepts = true) →
      slot' ∈ loop.slots ∨ slot'.session.phase = .opened ∧ loop.Waiting slot'.session.endpoint →
      (action.reads slot'.id = false ∧ ∃ slot ∈ loop.slots,
        slot.session.LeftAlone slot'.session) ∨
      (action.accepts = true ∧ slot'.session.phase = .opened ∧
        loop.Waiting slot'.session.endpoint) := by
    rintro ⟨hquiet, haccepts⟩ (hold | hnew)
    · exact .inl ⟨hquiet, slot', hold, .refl _⟩
    · exact .inr ⟨haccepts, hnew⟩
  cases action with
  | dispatch readiness =>
    cases readiness with
    | accept token => exact .inr (hcame ⟨rfl, rfl⟩ (mem_acceptReady hslot'))
    | read id =>
      obtain ⟨hall, hout⟩ := attended_readReady loop id
      refine or_assoc.1 (.inl (hattended hall ?_))
      by_cases hid : slot'.id = id
      · exact .inr (hout slot' hslot' hid)
      · exact .inl (decide_eq_false (Ne.symm hid))
    | write id =>
      exact or_assoc.1 (.inl (hattended (tends_writeReady loop id).attended (.inl rfl)))
    | failed id =>
      exact or_assoc.1 (.inl (hattended (tends_errorReady loop id).attended (.inl rfl)))
  | retry =>
    have hwas := mem_foldl_acceptReady loop.retries hslot'
    exact .inr (hcame ⟨rfl, rfl⟩ hwas)
  | expire => exact or_assoc.1 (.inl (hattended (tends_expireDrains loop).attended (.inl rfl)))
  | stop => exact .inl (readOut_beginShutdown hslot').2
  | leaveAll => exact or_assoc.1 (.inl (hattended (tends_releaseAll loop).attended (.inl rfl)))
  | outside outside => exact absurd rfl (hours outside)
  | clock now => exact .inr (.inl ⟨rfl, slot', hslot', .refl _⟩)

/-- **Nothing is left unread.** Wherever a run has come to, each session that is read from or closed
in an action and stays was read from until it would block, with nothing of what had come by then
left in front of it; every other one is as it was, or has just come. Each listener that is gone over
is gone over until nobody waits there any more, or is one of those to be looked at again, each of
which is listed once; and all of these are gone over on the next turn, unless the run ends with it.
-/
theorem nothing_left_unread (plan : SessionPlan) (sockets : List SocketAddress)
    (actions : List LoopAction) :
    let loop := (EventLoop.new plan sockets).acts actions
    (∀ action : LoopAction, (∀ outside, action ≠ .outside outside) →
      ∀ slot' ∈ (loop.act action).slots,
        (∃ slot ∈ loop.slots, slot.session.ReadOut slot'.session) ∨
        (action.reads slot'.id = false ∧ ∃ slot ∈ loop.slots,
          slot.session.LeftAlone slot'.session) ∨
        (action.accepts = true ∧ slot'.session.phase = .opened ∧
          loop.Waiting slot'.session.endpoint)) ∧
    loop.retries.Nodup ∧
    (∀ token, Visited token loop (loop.act (.dispatch (.accept token)))) ∧
    (∀ token ∈ loop.retries, Visited token loop (loop.act .retry)) ∧
    (∀ deadline turn,
      loop.turn deadline turn = .ended (loop.heeded deadline turn).releaseAll (.ok ()) ∨
      ∃ between later, (loop.turn deadline turn).loop = (between.act .retry).acts later ∧
        (between.listeners = loop.listeners ∨ between.listeners = []) ∧
        ∀ token ∈ loop.retries, Visited token between (between.act .retry)) := by
  intro loop
  have hlistens : loop.Listens := listens_acts plan sockets actions
  refine ⟨fun action hours slot' hslot' => sessions_act hours hslot', hlistens.retries,
    fun token => visited_acceptReady hlistens token,
    fun token hmem => visited_retryAccepts hlistens hmem, fun deadline turn => ?_⟩
  refine (turn_cases loop deadline turn).imp_right fun ⟨later, hlater⟩ => ?_
  obtain ⟨hlisteners, hretries⟩ := loop.listeners_heeded deadline turn
  have hexpire := (tends_expireDrains (loop.heeded deadline turn)).attended
  have hbetween : ((loop.heeded deadline turn).act .expire).Listens := by
    obtain ⟨before, hbefore⟩ := loop.heeded_acts deadline turn
    rw [hbefore]
    exact (acts_keep (fun action hloop => hloop.act action) hlistens before).act .expire
  refine ⟨(loop.heeded deadline turn).act .expire, later, hlater, ?_, fun token hmem => ?_⟩
  · exact hlisteners.imp hexpire.listeners.trans hexpire.listeners.trans
  · refine visited_retryAccepts hbetween ?_
    rw [← hretries] at hmem
    exact hexpire.retries ▸ hmem

end EventLoop

end ChatRelay
