import ChatRelay.Proofs.EventLoop.Inbound

/-!
# Stopping is final

Once a loop has begun to stop, it is `Over`: it has no listeners, and whoever is left drains with
nothing to send. Nothing can change that. Nobody is accepted, because there is nowhere to come to;
nothing is relayed, because sessions that drain give no frames; and so all that happens is quiet
(`Over.quiet`), and sessions only go (`Fades`), each for a reason (`LoopAction.LetsGo`).
-/

namespace ChatRelay

namespace Session

variable {s t u : Session}

/-- The session drains, nothing waits in it, and all that changes is what it reads. -/
structure Fades (s t : Session) : Prop where
  id : t.id = s.id
  phase : t.phase = s.phase
  written : t.endpoint.written = s.endpoint.written
  empty : t.outbound.items = []

/-- A session that drains and has nothing to send writes nothing by itself. -/
theorem Quiet.fades (h : s.Quiet t) (hdraining : s.isDraining = true)
    (hempty : s.outbound.items = []) : s.Fades t := by
  refine h.keeps (P := s.Fades) ?_ ⟨rfl, rfl, rfl, hempty⟩
  intro u v hmoves hu
  have hu' : u.isDraining = true := by
    unfold isDraining at hdraining ⊢
    rwa [hu.phase]
  cases hmoves with
  | endpoint endpoint same => exact ⟨hu.id, hu.phase, same.trans hu.written, hu.empty⟩
  | decoder decoder => exact ⟨hu.id, hu.phase, hu.written, hu.empty⟩
  | sent endpoint front pos le written =>
    rw [SendQueue.front?, hu.empty] at front
    cases front
  | closed endpoint decoder deadline opened same =>
    rw [hu'] at opened
    cases opened

end Session

/-- Why a session that drains is let go of in an action: the end of its stream or an error is found
or told of, its time is over, or everybody is let go of. -/
def LoopAction.LetsGo (action : LoopAction) (now : Nat) (session : Session) : Prop :=
  match action with
  | .dispatch (.read id) =>
    session.id = id ∧ ∃ reason, session.readReady.1.closed = some reason ∧ reason.gone = true
  | .dispatch (.failed id) => session.id = id
  | .expire => session.drainExpired now = true
  | .stop => ∃ reason, session.readReady.1.closed = some reason ∧ reason.gone = true
  | .leaveAll => True
  | _ => False

namespace EventLoop

variable {loop loop' loop'' : EventLoop} {slot slot' : Slot} {session : Session} {id : SessionId}

/-- The loop has begun to stop. -/
structure Over (loop : EventLoop) : Prop where
  listeners : loop.listeners = []
  distinct : loop.Distinct
  draining : ∀ slot ∈ loop.slots, slot.session.isDraining = true
  empty : ∀ slot ∈ loop.slots, slot.session.outbound.items = []

theorem over_beginShutdown (hdistinct : loop.Distinct)
    (hsilent : ∀ slot ∈ loop.slots, slot.session.Silent) : loop.beginShutdown.Over := by
  have hattended := (tends_beginShutdown loop).attended
  have hdraining : ∀ slot ∈ loop.beginShutdown.slots, slot.session.isDraining = true :=
    fun slot hslot => (readOut_beginShutdown hslot).1
  refine ⟨hattended.listeners, (quiet_beginShutdown hdistinct).distinct hdistinct, hdraining, ?_⟩
  have hstill := (strokes_act loop .stop).sessions_keep (P := Session.Silent)
    (fun event hs => hs.meet event) (fun _ _ _ _ _ _ hnew => nomatch hnew) hsilent
  exact fun slot hslot => hstill slot hslot (hdraining slot hslot)

/-! ## Nobody is accepted -/

theorem acceptReady_of_deaf (h : loop.listeners = []) (token : Nat) :
    loop.acceptReady token = loop := by
  simp only [acceptReady, h, List.find?_nil]

theorem retryAccepts_of_deaf (h : loop.listeners = []) :
    loop.retryAccepts = { loop with retries := [] } := by
  unfold retryAccepts
  generalize loop.retries = tokens
  induction tokens with
  | nil => rfl
  | cons token tokens ih =>
    have hdeaf : EventLoop.listeners { loop with retries := [] } = [] := h
    rw [List.foldl_cons, acceptReady_of_deaf hdeaf, ih]

/-! ## Nothing is relayed -/

/-- A session that drains gives no frames, and goes when its stream is over. -/
theorem readReady_of_draining (found : loop.slot? id = some slot)
    (hdraining : slot.session.isDraining = true) :
    loop.readReady id = loop.put slot.session.readReady.2 ∧
        slot.session.readReady.1.closed = none ∨
      loop.readReady id = loop.dismiss slot.session.readReady.2 ∧
        ∃ reason, slot.session.readReady.1.closed = some reason ∧ reason.gone = true := by
  have hid : slot.session.readReady.2.id = id :=
    (Session.reads_readReady slot.session).id.trans (mem_of_slot? found).2
  have hframes := Session.frames_of_draining hdraining
  simp only [readReady, found, hframes, List.foldl_nil, hdraining, if_true, dismiss, hid]
  cases hclosed : slot.session.readReady.1.closed with
  | none => exact .inl ⟨rfl, rfl⟩
  | some reason => exact .inr ⟨rfl, reason, rfl, Session.gone_of_draining hdraining hclosed⟩

/-- Nothing is written to a session that drains. -/
theorem Over.writeReady (h : loop.Over) (id : SessionId) : loop.writeReady id = loop := by
  cases found : loop.slot? id with
  | none => simp only [EventLoop.writeReady, found]
  | some slot =>
    have hdraining := h.draining slot (mem_of_slot? found).1
    simp only [EventLoop.writeReady, found, hdraining, if_true]

theorem quiet_readReady_of_draining (h : loop.Over) (id : SessionId) :
    Quiet loop (loop.readReady id) := by
  cases found : loop.slot? id with
  | none =>
    have hsame : loop.readReady id = loop := by simp only [readReady, found]
    rw [hsame]
    exact .refl loop
  | some slot =>
    have hput := quiet_put found (Session.quiet_readReady slot.session)
    rcases readReady_of_draining found (h.draining slot (mem_of_slot? found).1) with
      ⟨heq, -⟩ | ⟨heq, -⟩
    · rw [heq]
      exact hput
    · rw [heq]
      exact hput.trans (quiet_release (hput.distinct h.distinct) _)

/-- Whatever a loop does that has begun to stop, nobody gets a message and nobody comes. -/
theorem Over.quiet (h : loop.Over) (action : LoopAction) : Quiet loop (loop.act action) := by
  cases action with
  | dispatch readiness =>
    cases readiness with
    | accept token =>
      show Quiet loop (loop.acceptReady token)
      rw [acceptReady_of_deaf h.listeners]
      exact .refl loop
    | read id => exact quiet_readReady_of_draining h id
    | write id => exact quiet_writeReady h.distinct id
    | failed id => exact quiet_errorReady h.distinct id
  | retry =>
    show Quiet loop loop.retryAccepts
    rw [retryAccepts_of_deaf h.listeners]
    exact quiet_of_same rfl rfl rfl rfl
  | expire => exact quiet_expireDrains h.distinct
  | stop => exact quiet_beginShutdown h.distinct
  | leaveAll => exact quiet_foldl (fun _ id h => quiet_release h id) _ h.distinct
  | outside outside => exact quiet_happen loop outside
  | clock now => exact quiet_of_same rfl rfl rfl rfl

theorem Over.fades (h : loop.Over) (hquiet : Quiet loop loop') :
    ∀ slot' ∈ loop'.slots, ∃ slot ∈ loop.slots, slot.session.Fades slot'.session := by
  intro slot' hslot'
  obtain ⟨slot, hslot, hsession⟩ := hquiet.slots slot' hslot'
  exact ⟨slot, hslot, hsession.fades (h.draining slot hslot) (h.empty slot hslot)⟩

theorem Over.act (h : loop.Over) (action : LoopAction) : (loop.act action).Over := by
  have hquiet := h.quiet action
  refine ⟨listeners_act_of_deaf h.listeners action, hquiet.distinct h.distinct, ?_, ?_⟩
  · intro slot' hslot'
    obtain ⟨slot, hslot, hfades⟩ := h.fades hquiet slot' hslot'
    have hdraining := h.draining slot hslot
    unfold Session.isDraining at hdraining ⊢
    rwa [hfades.phase]
  · intro slot' hslot'
    obtain ⟨slot, hslot, hfades⟩ := h.fades hquiet slot' hslot'
    exact hfades.empty

theorem Over.acts (h : loop.Over) (actions : List LoopAction) :
    (loop.acts actions).Over ∧ Quiet loop (loop.acts actions) := by
  induction actions generalizing loop with
  | nil => exact ⟨h, .refl loop⟩
  | cons action actions ih =>
    obtain ⟨hover, hquiet⟩ := ih (h.act action)
    exact ⟨hover, (h.quiet action).trans hquiet⟩

/-! ## Who goes, and why -/

theorem mem_settle_of_ne (hslot : slot ∈ loop.slots) (hother : slot.id ≠ session.id) :
    slot ∈ (loop.settle session).slots := by
  have hput : slot ∈ (loop.put session).slots := List.mem_map.2 ⟨slot, hslot, if_neg hother⟩
  unfold settle updateInterest
  split
  · exact hput
  dsimp only
  split
  · exact hput
  · exact List.mem_map.2 ⟨slot, hput, if_neg hother⟩

/-- Stopping a session does nothing to the others. -/
theorem mem_stopSession_of_ne (hslot : slot ∈ loop.slots) (hother : slot.id ≠ id) :
    slot ∈ (loop.stopSession id).slots := by
  cases found : loop.slot? id with
  | none => simpa only [stopSession, found] using hslot
  | some old =>
    obtain ⟨session, rfl, heq | ⟨heq, -⟩⟩ := stopSession_cases found
    · rw [heq]
      exact mem_dismiss.2 ⟨hslot, hother⟩
    · rw [heq]
      exact mem_settle_of_ne hslot hother

theorem mem_foldl_stopSession {ids : List SessionId} (hslot : slot ∈ loop.slots)
    (hother : slot.id ∉ ids) : slot ∈ (ids.foldl stopSession loop).slots := by
  induction ids generalizing loop with
  | nil => exact hslot
  | cons id ids ih =>
    rw [List.mem_cons, not_or] at hother
    exact ih (mem_stopSession_of_ne hslot hother.1) hother.2

/-- A session that drains and is stopped once more goes only when its stream is over. -/
theorem stopSession_of_draining (found : loop.slot? id = some slot)
    (hdraining : slot.session.isDraining = true) :
    loop.stopSession id = loop.settle slot.session.readReady.2 ∨
      ∃ reason, slot.session.readReady.1.closed = some reason ∧ reason.gone = true := by
  have hwants : slot.session.wantsWrite = false := by
    rw [Session.wantsWrite, hdraining]
    rfl
  have hclose : loop.stopSession id = loop.closeSession id .shutdown := by
    simp only [stopSession, found, hwants, Bool.false_eq_true, if_false]
  have hshutdown : CloseReason.shutdown.gone = false := rfl
  have hcases := closeSession_of_not_gone found hshutdown
  rw [← hclose, Session.beginClose_of_draining hdraining] at hcases
  rcases hcases with ⟨heq, -⟩ | ⟨-, hclosed⟩
  · exact .inl heq
  · obtain ⟨reason, hreason⟩ := Option.ne_none_iff_exists'.1 hclosed
    exact .inr ⟨reason, hreason, Session.gone_of_draining hdraining hreason⟩

theorem closed_of_stopped {ids : List SessionId} (hdistinct : loop.Distinct) (hids : ids.Nodup)
    (hslot : slot ∈ loop.slots) (hdraining : slot.session.isDraining = true)
    (hgone : slot.id ∉ (ids.foldl stopSession loop).slots.map Slot.id) :
    ∃ reason, slot.session.readReady.1.closed = some reason ∧ reason.gone = true := by
  induction ids generalizing loop with
  | nil => exact absurd (List.mem_map_of_mem hslot) hgone
  | cons id ids ih =>
    obtain ⟨hnotin, hnodup⟩ := List.nodup_cons.1 hids
    by_cases hid : slot.id = id
    · have found := slot?_of_mem hdistinct hslot
      rw [hid] at found
      rcases stopSession_of_draining found hdraining with heq | hclosed
      · -- It is still there when it has been stopped, and so it is in the end.
        have hstays : id ∈ (loop.stopSession id).slots.map Slot.id := by
          rw [heq, ids_settle, ← hid]
          exact List.mem_map_of_mem hslot
        obtain ⟨later, hlater, hsame⟩ := List.mem_map.1 hstays
        have hend := mem_foldl_stopSession hlater (hsame ▸ hnotin)
        exact absurd (List.mem_map.2 ⟨later, hend, hsame.trans hid.symm⟩) hgone
      · exact hclosed
    · have hdistinct' := (quiet_stopSession hdistinct id).distinct hdistinct
      exact ih hdistinct' hnodup (mem_stopSession_of_ne hslot hid) hgone

/-- Whoever is not there any more was let go of for a reason. -/
theorem Over.letsGo (h : loop.Over) {action : LoopAction} (hslot : slot ∈ loop.slots)
    (hgone : slot.id ∉ (loop.act action).slots.map Slot.id) :
    action.LetsGo loop.now slot.session := by
  -- Where the sessions have the identities that they had, nobody is gone.
  have hthere : slot.id ∈ loop.slots.map Slot.id := List.mem_map_of_mem hslot
  have hstays : (loop.act action).slots.map Slot.id ≠ loop.slots.map Slot.id :=
    fun hids => hgone (hids ▸ hthere)
  have hdismissed : ∀ session : Session, loop.act action = loop.dismiss session →
      slot.id = session.id := by
    intro session heq
    by_contra hother
    refine hgone ?_
    rw [heq]
    exact List.mem_map_of_mem (mem_dismiss.2 ⟨hslot, hother⟩)
  cases action with
  | dispatch readiness =>
    cases readiness with
    | accept token =>
      have hsame : loop.act (.dispatch (.accept token)) = loop :=
        acceptReady_of_deaf h.listeners token
      exact absurd (by rw [hsame]) hstays
    | read id =>
      cases found : loop.slot? id with
      | none =>
        have hsame : loop.act (.dispatch (.read id)) = loop := by
          show loop.readReady id = loop
          simp only [readReady, found]
        exact absurd (by rw [hsame]) hstays
      | some old =>
        obtain ⟨hold, hid⟩ := mem_of_slot? found
        rcases readReady_of_draining found (h.draining old hold) with ⟨heq, -⟩ | ⟨heq, hclosed⟩
        · have hput : loop.act (.dispatch (.read id)) = loop.put old.session.readReady.2 := heq
          exact absurd (by rw [hput, ids_put]) hstays
        · have hmine : slot.id = id :=
            (hdismissed _ heq).trans ((Session.reads_readReady old.session).id.trans hid)
          obtain rfl := eq_of_slot? h.distinct found hslot hmine
          exact ⟨hmine, hclosed⟩
    | write id =>
      have hsame : loop.act (.dispatch (.write id)) = loop := h.writeReady id
      exact absurd (by rw [hsame]) hstays
    | failed id =>
      cases found : loop.slot? id with
      | none =>
        have hsame : loop.act (.dispatch (.failed id)) = loop := by
          show loop.errorReady id = loop
          simp only [errorReady, found]
        exact absurd (by rw [hsame]) hstays
      | some old =>
        obtain ⟨session, hid, heq⟩ := errorReady_of_found found
        exact (hdismissed session heq).trans hid
  | retry =>
    have hsame : (loop.act .retry).slots = loop.slots := by
      show loop.retryAccepts.slots = loop.slots
      rw [retryAccepts_of_deaf h.listeners]
    exact absurd (by rw [hsame]) hstays
  | expire =>
    have hexpired : slot.id ∈
        (loop.slots.filter (·.session.drainExpired loop.now)).map Slot.id := by
      by_contra hfresh
      refine hgone (List.mem_map_of_mem ?_)
      show slot ∈ loop.expireDrains.slots
      rw [expireDrains, slots_foldl_release]
      exact List.mem_filter.2 ⟨hslot, decide_eq_true hfresh⟩
    obtain ⟨old, hold, hid⟩ := List.mem_map.1 hexpired
    obtain ⟨hmem, hover⟩ := List.mem_filter.1 hold
    rw [List.inj_on_of_nodup_map h.distinct hmem hslot hid] at hover
    exact hover
  | stop =>
    have hdeaf : loop.deaf.Distinct := h.distinct
    exact closed_of_stopped hdeaf h.distinct hslot (h.draining slot hslot) hgone
  | leaveAll => trivial
  | outside outside =>
    cases outside with
    | comes token incoming => exact absurd rfl hstays
    | changes id change =>
      refine absurd ?_ hstays
      show (loop.happen (.changes id change)).slots.map Slot.id = _
      unfold happen
      dsimp only
      split
      · rfl
      · exact ids_put loop _
  | clock now => exact absurd rfl hstays

/-! ## Half-closing once -/

theorem waiting_of_listeners (h : loop'.listeners = loop.listeners) {endpoint : Endpoint}
    (hwaits : loop'.Waiting endpoint) : loop.Waiting endpoint := by
  unfold Waiting at hwaits
  rwa [h] at hwaits

theorem waiting_foldl_acceptReady (tokens : List Nat) {endpoint : Endpoint}
    (h : (tokens.foldl acceptReady loop).Waiting endpoint) : loop.Waiting endpoint := by
  induction tokens generalizing loop with
  | nil => exact h
  | cons token tokens ih => exact waiting_acceptReady (ih h)

/-- Nobody begins to wait but those who come. -/
theorem waiting_act {action : LoopAction} {endpoint : Endpoint}
    (h : (loop.act action).Waiting endpoint) : loop.Waiting endpoint ∨
      ∃ token peer, action = .outside (.comes token (.connection peer endpoint)) := by
  cases action with
  | dispatch readiness =>
    left
    cases readiness with
    | accept token => exact waiting_acceptReady h
    | read id => exact waiting_of_listeners (attended_readReady loop id).1.listeners h
    | write id => exact waiting_of_listeners (tends_writeReady loop id).attended.listeners h
    | failed id => exact waiting_of_listeners (tends_errorReady loop id).attended.listeners h
  | retry =>
    left
    have hforgotten : Waiting { loop with retries := [] } endpoint :=
      waiting_foldl_acceptReady loop.retries h
    exact hforgotten
  | expire => exact .inl (waiting_of_listeners (tends_expireDrains loop).attended.listeners h)
  | stop =>
    obtain ⟨listener, hlistener, -⟩ := h
    have hnone : loop.beginShutdown.listeners = [] := (tends_beginShutdown loop).attended.listeners
    have hmem : listener ∈ loop.beginShutdown.listeners := hlistener
    rw [hnone] at hmem
    cases hmem
  | leaveAll => exact .inl (waiting_of_listeners (tends_releaseAll loop).attended.listeners h)
  | outside outside =>
    cases outside with
    | comes token incoming =>
      obtain ⟨listener, hlistener, peer, hmem⟩ := h
      obtain ⟨old, hold, rfl⟩ := List.mem_map.1 hlistener
      split at hmem
      · rcases List.mem_append.1 hmem with hthere | hnew
        · exact .inl ⟨old, hold, peer, hthere⟩
        · exact .inr ⟨token, peer, by rw [List.mem_singleton.1 hnew]⟩
      · exact .inl ⟨old, hold, peer, hmem⟩
    | changes id change =>
      left
      refine waiting_of_listeners ?_ h
      show (loop.happen (.changes id change)).listeners = loop.listeners
      unfold happen
      dsimp only
      split <;> rfl
  | clock now => exact .inl h

/-- All connections that come in these actions are new: nobody has half-closed them. -/
def NewConnections (actions : List LoopAction) : Prop :=
  ∀ token peer endpoint, .outside (.comes token (.connection peer endpoint)) ∈ actions →
    endpoint.halfCloses = 0

/-- What waits is new, and what is drained was half-closed once. -/
structure HalfClosed (loop : EventLoop) : Prop where
  waiting : ∀ endpoint, loop.Waiting endpoint → endpoint.halfCloses = 0
  once : ∀ slot ∈ loop.slots, slot.session.ClosedOnce

theorem closedOnce_act (hwaiting : ∀ endpoint, loop.Waiting endpoint → endpoint.halfCloses = 0)
    (h : ∀ slot ∈ loop.slots, slot.session.ClosedOnce) (action : LoopAction) :
    ∀ slot ∈ (loop.act action).slots, slot.session.ClosedOnce :=
  (strokes_act loop action).sessions_keep (fun event hs => hs.meet event)
    (fun _ _ endpoint _ _ hwaits => hwaiting endpoint hwaits) h

theorem HalfClosed.acts (h : loop.HalfClosed) {actions : List LoopAction}
    (hnew : NewConnections actions) : (loop.acts actions).HalfClosed := by
  induction actions generalizing loop with
  | nil => exact h
  | cons action actions ih =>
    refine ih ⟨fun endpoint hwaits => ?_, closedOnce_act h.waiting h.once action⟩
      fun token peer endpoint hmem => hnew token peer endpoint (List.mem_cons_of_mem action hmem)
    rcases waiting_act hwaits with hold | ⟨token, peer, rfl⟩
    · exact h.waiting endpoint hold
    · exact hnew token peer endpoint List.mem_cons_self

theorem halfClosed_acts (plan : SessionPlan) (sockets : List SocketAddress)
    {actions : List LoopAction} (hnew : NewConnections actions) :
    ((EventLoop.new plan sockets).acts actions).HalfClosed := by
  refine HalfClosed.acts ⟨?_, fun slot hslot => absurd hslot List.not_mem_nil⟩ hnew
  rintro endpoint ⟨listener, hlistener, peer, hmem⟩
  obtain ⟨i, hi, rfl⟩ := List.mem_mapIdx.1 hlistener
  cases hmem

/-- A loop that has begun to stop has nobody waiting. -/
theorem Over.closedOnce (h : loop.Over) (honce : ∀ slot ∈ loop.slots, slot.session.ClosedOnce)
    (actions : List LoopAction) :
    ∀ slot ∈ (loop.acts actions).slots, slot.session.ClosedOnce := by
  induction actions generalizing loop with
  | nil => exact honce
  | cons action actions ih =>
    refine ih (h.act action) (closedOnce_act ?_ honce action)
    rintro endpoint ⟨listener, hlistener, -⟩
    rw [h.listeners] at hlistener
    cases hlistener

/-! ## Runs that stop -/

/-- Whether a run has begun to stop, or has come to its end by stopping. -/
def Progress.stopping : Progress → Bool
  | .running _ deadline => deadline.isSome
  | .ended _ (.ok _) => true
  | .ended _ (.error _) => false

/-- A turn on which a run begins to stop goes on from there. -/
theorem turn_stopping {turn : Turn} (h : (loop.turn none turn).stopping = true) :
    ∃ later, (loop.turn none turn).loop =
      ({ loop with now := turn.start }.beginShutdown).acts later := by
  cases hasked : turn.stopAsked with
  | true =>
    have hheeded : loop.heeded none turn = { loop with now := turn.start }.beginShutdown := by
      simp only [heeded, heedStop, hasked]
    rw [← hheeded]
    rcases turn_cases loop none turn with hended | ⟨later, hlater⟩
    · exact ⟨[.leaveAll], by rw [hended]; rfl⟩
    · exact ⟨.expire :: .retry :: later, hlater⟩
  | false =>
    -- Nothing was asked for, so the run goes on as it did, or has failed.
    exfalso
    unfold EventLoop.turn at h
    simp only [heedStop, hasked, Option.any_none, Bool.false_eq_true, if_false] at h
    split at h
    · cases h
    · split at h <;> cases h

theorem run_stopping {progress : Progress} {turns : List Turn}
    (h : (run progress turns).stopping = true) : progress.stopping = true ∨
      ∃ before later, (run progress turns).loop =
        ((progress.loop.acts before).beginShutdown).acts later := by
  induction turns generalizing progress with
  | nil => exact .inl h
  | cons turn turns ih =>
    cases progress with
    | ended loop result => exact .inl h
    | running loop deadline =>
      have hnext : (run (loop.turn deadline turn) turns).stopping = true := h
      show _ ∨ ∃ before later, (run (loop.turn deadline turn) turns).loop = _
      rcases ih hnext with hturn | ⟨before, later, hlater⟩
      · cases deadline with
        | some deadline => exact .inl rfl
        | none =>
          obtain ⟨first, hfirst⟩ := turn_stopping hturn
          obtain ⟨later, hlater⟩ := loop_run_acts (loop.turn none turn) turns
          refine .inr ⟨[.clock turn.start], first ++ later, ?_⟩
          rw [hlater, hfirst, acts_append]
          rfl
      · obtain ⟨first, hfirst⟩ := loop.loop_turn_acts deadline turn
        refine .inr ⟨first ++ before, later, ?_⟩
        rw [hlater, hfirst, acts_append]
        rfl

/-- **Stopping is final.** In whatever state a loop begins to stop, it has no listeners afterwards,
and each session that is left drains, holds no messages, and has been half-closed once. Whatever
happens later, nobody comes and nothing is relayed; those who are left are some of those who were,
and nothing more has been written to them or to those who are gone; everybody goes once, and only at
the end of their stream, at an error, at their deadline, or when all are let go of. A run that has
begun to stop is in such a state, and when a run has ended nobody is left. -/
theorem stopping_is_final (plan : SessionPlan) (sockets : List SocketAddress) :
    (∀ before : List LoopAction,
      let stopped := ((EventLoop.new plan sockets).acts before).beginShutdown
      stopped.listeners = [] ∧ (stopped.slots.map Slot.id).Nodup ∧
      (∀ slot ∈ stopped.slots, slot.session.isDraining = true ∧ slot.session.outbound.items = [] ∧
        (NewConnections before → slot.session.endpoint.halfCloses = 1)) ∧
      ∀ later : List LoopAction,
        let loop := stopped.acts later
        loop.listeners = [] ∧ loop.relayed = stopped.relayed ∧
        (∀ slot ∈ loop.slots,
          (∃ old ∈ stopped.slots, old.session.Fades slot.session) ∧
          (NewConnections before → slot.session.endpoint.halfCloses = 1)) ∧
        (∃ gone, loop.released = stopped.released ++ gone ∧
          (∀ session ∈ gone, ∃ old ∈ stopped.slots, old.session.Fades session) ∧
          (loop.slots.map Slot.id ++ gone.map Session.id).Perm (stopped.slots.map Slot.id)) ∧
        ∀ action : LoopAction, ∀ slot ∈ loop.slots,
          slot.id ∉ (loop.act action).slots.map Slot.id →
            action.LetsGo loop.now slot.session) ∧
    (∀ turns : List Turn,
      let progress := run (.running (EventLoop.new plan sockets) none) turns
      (progress.stopping = true → ∃ before later, progress.loop =
        (((EventLoop.new plan sockets).acts before).beginShutdown).acts later) ∧
      ∀ loop result, progress = .ended loop result → loop.slots = []) := by
  constructor
  · intro before stopped
    have hover : stopped.Over :=
      over_beginShutdown (distinct_acts plan sockets before) (silent_acts plan sockets before)
    have honce : NewConnections before → ∀ slot ∈ stopped.slots, slot.session.ClosedOnce := by
      intro hnew
      have hbefore := halfClosed_acts plan sockets hnew
      exact closedOnce_act hbefore.waiting hbefore.once .stop
    have hcount : ∀ {slot : Slot}, slot.session.isDraining = true → slot.session.ClosedOnce →
        slot.session.endpoint.halfCloses = 1 := by
      intro slot hdraining hclosed
      rw [hclosed, if_pos hdraining]
    refine ⟨hover.listeners, hover.distinct, ?_, ?_⟩
    · intro slot hslot
      have hdraining := hover.draining slot hslot
      exact ⟨hdraining, hover.empty slot hslot, fun hnew =>
        hcount hdraining (honce hnew slot hslot)⟩
    · intro later loop
      obtain ⟨hlater, hquiet⟩ := hover.acts later
      obtain ⟨gone, hreleased, hgone, hperm⟩ := hquiet.released
      refine ⟨hlater.listeners, hquiet.relayed, ?_, ⟨gone, hreleased, ?_, hperm⟩, ?_⟩
      · intro slot hslot
        exact ⟨hover.fades hquiet slot hslot, fun hnew =>
          hcount (hlater.draining slot hslot) (hover.closedOnce (honce hnew) later slot hslot)⟩
      · intro session hsession
        obtain ⟨old, hold, hfades⟩ := hgone session hsession
        exact ⟨old, hold, hfades.fades (hover.draining old hold) (hover.empty old hold)⟩
      · intro action slot hslot hleft
        exact hlater.letsGo hslot hleft
  · intro turns progress
    refine ⟨fun hstopping => ?_, fun loop result hended => slots_of_ended hended⟩
    rcases run_stopping hstopping with hbegun | hafter
    · cases hbegun
    · exact hafter

end EventLoop

end ChatRelay
