import ChatRelay.Proofs.Relay.Tally
import ChatRelay.Proofs.Session.Quiet
import ChatRelay.Server.EventLoop.Run
import Mathlib.Data.List.Nodup

/-!
# What a loop does besides relaying

A loop gives messages to its sessions in two places: a greeting when a session begins, and what is
relayed. Everything else is quiet: each session that is there afterwards, or has been let go of on
the way, comes from one that was there before by being quiet itself, and none is lost,

    loop'.slots ++ gone ~ loop.slots    (by identity),    loop'.released = loop.released ++ gone.

Every handler but `addSession` and `route` is shown to be `Quiet` here. That letting go takes off
one session and no more needs sessions of different identities, `Distinct`.
-/

namespace ChatRelay

namespace Slot

/-- A slot after a message for everyone, with its answer if it was asked: it is not if the message
came from it, or cannot be encoded. -/
def receive (codec : Codec) (origin : SessionId) (payload : Bytes) (slot : Slot) :
    List (Except EnqueueError Nat) × Slot :=
  match codec.encode payload with
  | .error _ => ([], slot)
  | .ok frame =>
    if slot.id = origin then ([], slot)
    else
      let (answer, slot) := slot.offer frame
      ([answer], slot)

@[simp] theorem id_receive (codec : Codec) (origin : SessionId) (payload : Bytes) (slot : Slot) :
    (slot.receive codec origin payload).2.id = slot.id := by
  unfold receive
  split
  · rfl
  split
  · rfl
  · exact Session.id_enqueue _ _

end Slot

namespace EventLoop

open scoped List

/-- No two sessions have one identity. -/
def Distinct (loop : EventLoop) : Prop := (loop.slots.map Slot.id).Nodup

/-- The loop has become another one without giving a message to any session. -/
structure Quiet (loop loop' : EventLoop) : Prop where
  plan : loop'.plan = loop.plan
  relayed : loop'.relayed = loop.relayed
  slots : ∀ slot' ∈ loop'.slots, ∃ slot ∈ loop.slots, slot.session.Quiet slot'.session
  released : ∃ gone, loop'.released = loop.released ++ gone ∧
    (∀ session ∈ gone, ∃ slot ∈ loop.slots, slot.session.Quiet session) ∧
    (loop'.slots.map Slot.id ++ gone.map Session.id).Perm (loop.slots.map Slot.id)

variable {loop loop' loop'' : EventLoop}

/-! ## Doing several things -/

/-- A loop is quiet when nobody is let go of and every session that has changed was quiet. -/
theorem quiet_of_map {f : Slot → Slot} (hplan : loop'.plan = loop.plan)
    (hrelayed : loop'.relayed = loop.relayed) (hreleased : loop'.released = loop.released)
    (hslots : loop'.slots = loop.slots.map f) (hid : ∀ slot, (f slot).id = slot.id)
    (hquiet : ∀ slot ∈ loop.slots, ∃ old ∈ loop.slots, old.session.Quiet (f slot).session) :
    Quiet loop loop' := by
  refine ⟨hplan, hrelayed, ?_, [], ?_, ?_, ?_⟩
  · intro slot' hslot'
    rw [hslots] at hslot'
    obtain ⟨slot, hslot, rfl⟩ := List.mem_map.1 hslot'
    exact hquiet slot hslot
  · rw [hreleased, List.append_nil]
  · intro session hsession
    exact absurd hsession List.not_mem_nil
  · have hids : loop'.slots.map Slot.id = loop.slots.map Slot.id := by
      rw [hslots, List.map_map]
      exact List.map_congr_left fun slot _ => hid slot
    rw [List.map_nil, List.append_nil, hids]

/-- A loop is quiet when nothing changes but what no session knows of. -/
theorem quiet_of_same (hplan : loop'.plan = loop.plan) (hrelayed : loop'.relayed = loop.relayed)
    (hslots : loop'.slots = loop.slots) (hreleased : loop'.released = loop.released) :
    Quiet loop loop' := by
  have hmap : loop'.slots = loop.slots.map fun slot => slot := by
    rw [hslots, List.map_id']
  refine quiet_of_map hplan hrelayed hreleased hmap (fun _ => rfl) ?_
  intro slot hslot
  exact ⟨slot, hslot, .refl _⟩

theorem Quiet.refl (loop : EventLoop) : Quiet loop loop := quiet_of_same rfl rfl rfl rfl

theorem Quiet.trans (h : Quiet loop loop') (h' : Quiet loop' loop'') : Quiet loop loop'' := by
  obtain ⟨gone, hreleased, hgone, hperm⟩ := h.released
  obtain ⟨gone', hreleased', hgone', hperm'⟩ := h'.released
  refine ⟨h'.plan.trans h.plan, h'.relayed.trans h.relayed, ?_, gone ++ gone', ?_, ?_, ?_⟩
  · intro slot'' hslot''
    obtain ⟨slot', hslot', hquiet'⟩ := h'.slots slot'' hslot''
    obtain ⟨slot, hslot, hquiet⟩ := h.slots slot' hslot'
    exact ⟨slot, hslot, hquiet.trans hquiet'⟩
  · rw [hreleased', hreleased, List.append_assoc]
  · intro session hsession
    rcases List.mem_append.1 hsession with hfirst | hlater
    · exact hgone session hfirst
    · obtain ⟨slot', hslot', hquiet'⟩ := hgone' session hlater
      obtain ⟨slot, hslot, hquiet⟩ := h.slots slot' hslot'
      exact ⟨slot, hslot, hquiet.trans hquiet'⟩
  · calc loop''.slots.map Slot.id ++ (gone ++ gone').map Session.id
        = loop''.slots.map Slot.id ++ (gone.map Session.id ++ gone'.map Session.id) := by
          rw [List.map_append]
      _ ~ loop''.slots.map Slot.id ++ (gone'.map Session.id ++ gone.map Session.id) :=
          List.perm_append_comm.append_left _
      _ = loop''.slots.map Slot.id ++ gone'.map Session.id ++ gone.map Session.id := by
          rw [List.append_assoc]
      _ ~ loop'.slots.map Slot.id ++ gone.map Session.id := hperm'.append_right _
      _ ~ loop.slots.map Slot.id := hperm

/-- A quiet loop gets no second session of one identity. -/
theorem Quiet.distinct (h : Quiet loop loop') (hdistinct : loop.Distinct) : loop'.Distinct := by
  obtain ⟨gone, -, -, hperm⟩ := h.released
  exact (List.nodup_append.1 (hperm.symm.nodup hdistinct)).1

/-- What each thing keeps, and what can be put together, doing one thing after another keeps. -/
theorem foldl_related {α : Type} {R : EventLoop → EventLoop → Prop} {f : EventLoop → α → EventLoop}
    (hrefl : ∀ loop, R loop loop)
    (htrans : ∀ {loop loop' loop''}, R loop loop' → R loop' loop'' → R loop loop'')
    (hf : ∀ loop a, R loop (f loop a)) (as : List α) (loop : EventLoop) :
    R loop (as.foldl f loop) := by
  induction as generalizing loop with
  | nil => exact hrefl loop
  | cons a as ih => exact htrans (hf loop a) (ih (f loop a))

/-- Doing one quiet thing after another is quiet. -/
theorem quiet_foldl {α : Type} {f : EventLoop → α → EventLoop}
    (hf : ∀ loop a, loop.Distinct → Quiet loop (f loop a)) (as : List α) (h : loop.Distinct) :
    Quiet loop (as.foldl f loop) := by
  induction as generalizing loop with
  | nil => exact .refl loop
  | cons a as ih =>
    have hfirst := hf loop a h
    exact hfirst.trans (ih (hfirst.distinct h))

/-! ## Slots -/

theorem mem_of_slot? {id : SessionId} {slot : Slot} (h : loop.slot? id = some slot) :
    slot ∈ loop.slots ∧ slot.id = id := by
  refine ⟨List.mem_of_find?_eq_some h, ?_⟩
  simpa using List.find?_some h

/-- A session that is found is the only one of its identity. -/
theorem eq_of_slot? (h : loop.Distinct) {id : SessionId} {slot old : Slot}
    (found : loop.slot? id = some slot) (hold : old ∈ loop.slots) (hid : old.id = id) :
    old = slot := by
  obtain ⟨hmem, hslot⟩ := mem_of_slot? found
  exact List.inj_on_of_nodup_map h hold hmem (hid.trans hslot.symm)

/-- A session is found by its identity. -/
theorem slot?_of_mem (h : loop.Distinct) {slot : Slot} (hslot : slot ∈ loop.slots) :
    loop.slot? slot.id = some slot := by
  obtain ⟨found, hfound⟩ : ∃ found, loop.slot? slot.id = some found := by
    apply Option.isSome_iff_exists.1
    simp only [slot?, List.find?_isSome, decide_eq_true_eq]
    exact ⟨slot, hslot, rfl⟩
  exact hfound.trans (congrArg some (eq_of_slot? h hfound hslot rfl).symm)

/-- Putting back a session that has been quiet is quiet. -/
theorem quiet_put {id : SessionId} {slot : Slot} {session : Session}
    (hslot : loop.slot? id = some slot) (h : slot.session.Quiet session) :
    Quiet loop (loop.put session) := by
  obtain ⟨hmem, -⟩ := mem_of_slot? hslot
  refine quiet_of_map rfl rfl rfl rfl ?_ ?_
  · intro old
    show Slot.id (if old.id = session.id then { old with session } else old) = old.id
    by_cases hsame : old.id = session.id
    · rw [if_pos hsame]
      exact hsame.symm
    · rw [if_neg hsame]
  · intro old hold
    split
    · exact ⟨slot, hmem, h⟩
    · exact ⟨old, hold, .refl _⟩

/-- What the poller is asked for is not known to the session. -/
theorem quiet_updateInterest (loop : EventLoop) (id : SessionId) :
    Quiet loop (loop.updateInterest id) := by
  unfold updateInterest
  split
  · exact .refl loop
  next slot hslot =>
  dsimp only
  split
  · exact .refl loop
  refine quiet_of_map rfl rfl rfl rfl ?_ ?_
  · intro old
    show Slot.id (if old.id = id then _ else old) = old.id
    split <;> rfl
  · intro old hold
    refine ⟨old, hold, ?_⟩
    split <;> exact .refl _

/-! ## Ending sessions -/

/-- Letting go of a session moves it to those that are gone. -/
theorem quiet_release (h : loop.Distinct) (id : SessionId) : Quiet loop (loop.release id) := by
  unfold release
  split
  · exact .refl loop
  next slot hslot =>
  obtain ⟨hmem, hid⟩ := mem_of_slot? hslot
  refine ⟨rfl, rfl, ?_, [{ slot.session with endpoint := slot.session.endpoint.halfClose.2 }],
    rfl, ?_, ?_⟩
  · intro slot' hslot'
    exact ⟨slot', (List.mem_filter.1 hslot').1, .refl _⟩
  · intro session hsession
    rw [List.mem_singleton.1 hsession]
    exact ⟨slot, hmem, Session.quiet_endpoint _ (Endpoint.written_halfClose _)⟩
  · have herase : (loop.slots.filter (·.id ≠ id)).map Slot.id =
        (loop.slots.map Slot.id).erase id := by
      rw [h.erase_eq_filter, List.filter_map]
      congr 1
      refine List.filter_congr fun old _ => ?_
      by_cases hold : old.id = id <;> simp [hold]
    have hid' : id ∈ loop.slots.map Slot.id := hid ▸ List.mem_map_of_mem hmem
    show ((loop.slots.filter (·.id ≠ id)).map Slot.id ++ [slot.id]).Perm _
    rw [herase, hid]
    exact List.perm_append_comm.trans (List.perm_cons_erase hid').symm

/-- Ending a session gives it nothing to send. -/
theorem quiet_closeSession (h : loop.Distinct) (id : SessionId) (reason : CloseReason) :
    Quiet loop (loop.closeSession id reason) := by
  -- The sessions that may drain are all closed alike.
  have hdrain : Quiet loop (loop.closeSession id .shutdown) := by
    simp only [closeSession]
    split
    · exact .refl loop
    next slot hslot =>
    have hclose := Session.quiet_beginClose slot.session loop.now loop.plan.drain
    have hput := quiet_put hslot (hclose.trans (Session.quiet_readReady _))
    split
    · exact hput.trans (quiet_release (hput.distinct h) id)
    · exact hput.trans (quiet_updateInterest _ id)
  cases reason with
  | peerClosed | peerReset => exact quiet_release h id
  | io fault => exact quiet_release h id
  | overflow | shutdown => exact hdrain
  | protocol error => exact hdrain

/-- Letting go of those whose time is over is quiet. -/
theorem quiet_expireDrains (h : loop.Distinct) : Quiet loop loop.expireDrains :=
  quiet_foldl (fun _ id h => quiet_release h id) _ h

/-! ## Writing and errors -/

/-- Writing sends what was queued before. -/
theorem quiet_writeReady (h : loop.Distinct) (id : SessionId) :
    Quiet loop (loop.writeReady id) := by
  unfold writeReady
  split
  · exact .refl loop
  next slot hslot =>
  split
  · exact .refl loop
  have hput := quiet_put hslot (Session.quiet_writeReady slot.session)
  dsimp only
  split
  · exact hput.trans (quiet_updateInterest _ id)
  · exact hput.trans (quiet_updateInterest _ id)
  · exact hput.trans (quiet_closeSession (hput.distinct h) id _)

/-- An error ends a session. -/
theorem quiet_errorReady (h : loop.Distinct) (id : SessionId) :
    Quiet loop (loop.errorReady id) := by
  unfold errorReady
  split
  · exact .refl loop
  next slot hslot =>
  have hput := quiet_put hslot
    (Session.quiet_endpoint slot.session (Endpoint.written_takeError slot.session.endpoint))
  exact hput.trans (quiet_closeSession (hput.distinct h) id _)

/-! ## Stopping -/

/-- The last attempt at writing is quiet as well. -/
theorem quiet_stopSession (h : loop.Distinct) (id : SessionId) :
    Quiet loop (loop.stopSession id) := by
  unfold stopSession
  split
  · exact .refl loop
  next slot hslot =>
  split
  · have hput := quiet_put hslot (Session.quiet_writeReady slot.session)
    dsimp only
    split
    · exact hput.trans (quiet_closeSession (hput.distinct h) id _)
    · exact hput.trans (quiet_closeSession (hput.distinct h) id _)
    · exact hput.trans (quiet_closeSession (hput.distinct h) id _)
  · exact quiet_closeSession h id _

/-- Stopping gives nothing to any session. -/
theorem quiet_beginShutdown (h : loop.Distinct) : Quiet loop loop.beginShutdown := by
  unfold beginShutdown
  have hlisteners : Quiet loop { loop with
      listeners := []
      calls := loop.calls ++ loop.listeners.map (.deregister ·.token) } :=
    quiet_of_same rfl rfl rfl rfl
  exact hlisteners.trans
    (quiet_foldl (fun _ id h => quiet_stopSession h id) _ (hlisteners.distinct h))

/-- What happens outside gives nothing to any session. -/
theorem quiet_happen (loop : EventLoop) (outside : Outside) : Quiet loop (loop.happen outside) := by
  cases outside with
  | comes token incoming => exact quiet_of_same rfl rfl rfl rfl
  | changes id change =>
    unfold happen
    dsimp only
    split
    · exact .refl loop
    next slot hslot =>
    exact quiet_put hslot (Session.quiet_endpoint _ (Endpoint.written_undergo _ change))

/-! ## Relaying -/

/-- The loop when a message has been offered to everyone, and nobody has been ended yet. -/
def offered (loop : EventLoop) (origin : SessionId) (payload : Bytes) : EventLoop :=
  { loop with
    relayed := loop.relayed ++ [(origin, payload)]
    slots := loop.slots.map fun slot => (slot.receive loop.plan.codec origin payload).2 }

theorem ids_offered (loop : EventLoop) (origin : SessionId) (payload : Bytes) :
    (loop.offered origin payload).slots.map Slot.id = loop.slots.map Slot.id := by
  rw [offered, List.map_map]
  exact List.map_congr_left fun slot _ => Slot.id_receive _ _ _ slot

theorem distinct_offered {loop : EventLoop} (h : loop.Distinct) (origin : SessionId)
    (payload : Bytes) : (loop.offered origin payload).Distinct := by
  rw [Distinct, ids_offered]
  exact h

/-- Those who take a message for everyone. -/
def takers (loop : EventLoop) (origin : SessionId) (payload : Bytes) : List SessionId :=
  match loop.plan.codec.encode payload with
  | .error _ => []
  | .ok frame => (relay origin frame loop.slots).1.queued

/-- Those who overflow with it. -/
def overflowing (loop : EventLoop) (origin : SessionId) (payload : Bytes) : List SessionId :=
  match loop.plan.codec.encode payload with
  | .error _ => []
  | .ok frame => (relay origin frame loop.slots).1.disconnect

/-- The loop when a message has been offered to everyone and the interest of those who took it is
known, before those who overflow are ended. -/
def spread (origin : SessionId) (loop : EventLoop) (payload : Bytes) : EventLoop :=
  (loop.takers origin payload).foldl updateInterest (loop.offered origin payload)

theorem route_eq (origin : SessionId) (loop : EventLoop) (payload : Bytes) :
    loop.route origin payload =
      (loop.overflowing origin payload).foldl (closeSession · · .overflow)
        (loop.spread origin payload) := by
  cases hencode : loop.plan.codec.encode payload with
  | error error =>
    have hoffered : loop.offered origin payload =
        { loop with relayed := loop.relayed ++ [(origin, payload)] } := by
      simp [offered, Slot.receive, hencode]
    simp only [route, overflowing, spread, takers, hencode, List.foldl_nil, hoffered]
  | ok frame =>
    have hslots : (loop.offered origin payload).slots = (relay origin frame loop.slots).2 := by
      rw [relay_members]
      refine List.map_congr_left fun slot _ => ?_
      show (slot.receive _ origin payload).2 =
        if slot.id = origin then slot else (slot.offer frame).2
      simp only [Slot.receive, hencode]
      split <;> rfl
    have hoffered : loop.offered origin payload = { loop with
        relayed := loop.relayed ++ [(origin, payload)]
        slots := (relay origin frame loop.slots).2 } := by
      rw [← hslots]
      rfl
    simp only [route, overflowing, spread, takers, hencode, hoffered]

/-- Making known who has something to send is quiet. -/
theorem quiet_spread {loop : EventLoop} (h : loop.Distinct) (origin : SessionId)
    (payload : Bytes) : Quiet (loop.offered origin payload) (loop.spread origin payload) :=
  quiet_foldl (fun loop id _ => quiet_updateInterest loop id) (loop.takers origin payload)
    (distinct_offered h origin payload)

/-- Relaying is offering to everyone, and quiet after that. -/
theorem quiet_route {loop : EventLoop} (h : loop.Distinct) (origin : SessionId)
    (payload : Bytes) : Quiet (loop.offered origin payload) (loop.route origin payload) := by
  have hspread := quiet_spread h origin payload
  have hdistinct := hspread.distinct (distinct_offered h origin payload)
  rw [route_eq]
  exact hspread.trans
    (quiet_foldl (fun loop id h => quiet_closeSession h id .overflow) _ hdistinct)

end EventLoop

end ChatRelay
