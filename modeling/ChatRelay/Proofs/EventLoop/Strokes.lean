import ChatRelay.Proofs.EventLoop.Actions
import ChatRelay.Proofs.EventLoop.Quiet
import ChatRelay.Proofs.Session.Handling

/-!
# What the actions of a loop are made of

A loop deals with one session at a time, in two ways: it *settles* the session, which stays and
whose interest is made known to the poller, or it *dismisses* it (`Tend`). Writing, errors, closing
and stopping are made of these, and so is what relaying does to those that overflow. Relaying first
*spreads* the message: it offers it to everyone, and makes known the interest of those who took it.

`Stroke` lists these with everything else of which the actions are made (`strokes_act`). What every
stroke keeps is kept by every action, so the handlers are opened here only.
-/

namespace ChatRelay

namespace Session

/-- What has become of a session that a loop has dealt with and keeps: something was written, or it
was closed and then read until it would block. -/
inductive Served (s : Session) : Session → Prop
  | wrote (going : ∀ reason, s.writeReady.1 ≠ .failed reason) : Served s s.writeReady.2
  | closed {t : Session} (before : t = s ∨ t = s.writeReady.2) (now drain : Nat)
      (waits : (t.beginClose now drain).readReady.1.closed = none) :
      Served s (t.beginClose now drain).readReady.2

variable {s t : Session}

theorem id_readReady_beginClose (s : Session) (now drain : Nat) :
    (s.beginClose now drain).readReady.2.id = s.id :=
  (reads_readReady (s.beginClose now drain)).id.trans (id_beginClose s now drain)

theorem Served.id_eq (h : s.Served t) : t.id = s.id := by
  cases h with
  | wrote going => exact (writes_writeReady s).id
  | @closed u before now drain waits =>
    have hread := id_readReady_beginClose u now drain
    rcases before with rfl | rfl
    · exact hread
    · exact hread.trans (writes_writeReady s).id

/-- Dealing with a session is doing things with it that can be done with any. -/
theorem Served.meets (h : s.Served t) : ∃ events : List SessionEvent, t = events.foldl meet s := by
  cases h with
  | wrote going => exact ⟨[.write], rfl⟩
  | closed before now drain waits =>
    rcases before with rfl | rfl
    · exact ⟨[.close now drain, .read], rfl⟩
    · exact ⟨[.write, .close now drain, .read], rfl⟩

end Session

namespace EventLoop

variable {loop loop' : EventLoop} {slot : Slot} {session : Session} {id : SessionId}

/-! ## Putting sessions back -/

/-- Puts a session back, and makes known what it wants. -/
def settle (loop : EventLoop) (session : Session) : EventLoop :=
  (loop.put session).updateInterest session.id

/-- Puts a session back, and lets go of it. -/
def dismiss (loop : EventLoop) (session : Session) : EventLoop :=
  (loop.put session).release session.id

theorem slot?_put (found : loop.slot? session.id = some slot) :
    (loop.put session).slot? session.id = some { slot with session } := by
  unfold slot? at found ⊢
  have hid : ((fun slot : Slot => decide (slot.id = session.id)) ∘ fun slot : Slot =>
      if slot.id = session.id then { slot with session } else slot) =
      fun slot => decide (slot.id = session.id) := by
    funext old
    by_cases hold : old.id = session.id
    · simp only [Function.comp_apply, hold]
      exact decide_eq_true rfl
    · simp only [Function.comp_apply, if_neg hold]
  have hslot : slot.id = session.id := by simpa using List.find?_some found
  rw [put, List.find?_map, hid, found, Option.map_some, if_pos hslot]

/-- Only the last state of a session that is put back counts. -/
theorem put_put {t : Session} (h : t.id = session.id) : (loop.put session).put t = loop.put t := by
  have hslots : ((loop.put session).put t).slots = (loop.put t).slots := by
    simp only [put, List.map_map]
    refine List.map_congr_left fun old _ => ?_
    by_cases hold : old.id = session.id
    · simp only [Function.comp_apply, h, hold]
      exact if_pos rfl
    · simp only [Function.comp_apply, if_neg hold, h]
  show { loop with slots := ((loop.put session).put t).slots } = loop.put t
  rw [hslots]
  rfl

theorem settle_put {t : Session} (h : t.id = session.id) :
    (loop.put session).settle t = loop.settle t := by
  rw [settle, put_put h, ← settle]

theorem dismiss_put {t : Session} (h : t.id = session.id) :
    (loop.put session).dismiss t = loop.dismiss t := by
  rw [dismiss, put_put h, ← dismiss]

/-! ## Dealing with one session -/

/-- What a loop does to one of its sessions. -/
inductive Tend (loop : EventLoop) : EventLoop → Prop
  | settle {slot : Slot} {session : Session} (found : loop.slot? session.id = some slot)
      (served : slot.session.Served session) : Tend loop (loop.settle session)
  | dismiss {slot : Slot} {session : Session} (found : loop.slot? session.id = some slot) :
      Tend loop (loop.dismiss session)
  | release (id : SessionId) : Tend loop (loop.release id)

/-- Dealing with sessions one after another. -/
def Tends : EventLoop → EventLoop → Prop := Relation.ReflTransGen Tend

theorem Tends.refl (loop : EventLoop) : Tends loop loop := Relation.ReflTransGen.refl

theorem Tend.tends (h : Tend loop loop') : Tends loop loop' := .single h

theorem Tends.trans {loop'' : EventLoop} (h : Tends loop loop') (h' : Tends loop' loop'') :
    Tends loop loop'' :=
  Relation.ReflTransGen.trans h h'

theorem tends_foldl {α : Type} {f : EventLoop → α → EventLoop}
    (hf : ∀ loop a, Tends loop (f loop a)) (as : List α) (loop : EventLoop) :
    Tends loop (as.foldl f loop) :=
  foldl_related Tends.refl Tends.trans hf as loop

/-- A session whose connection is of no use is let go of. -/
theorem closeSession_of_gone {reason : CloseReason} (h : reason.gone = true) :
    loop.closeSession id reason = loop.release id := by
  cases reason with
  | peerClosed | peerReset => rfl
  | io fault => rfl
  | overflow | shutdown => cases h
  | protocol error => cases h

/-- Any other session that is closed is read from, and stays only if it would block. -/
theorem closeSession_of_not_gone (found : loop.slot? id = some slot) {reason : CloseReason}
    (h : reason.gone = false) :
    (loop.closeSession id reason =
        loop.settle (slot.session.beginClose loop.now loop.plan.drain).readReady.2 ∧
      (slot.session.beginClose loop.now loop.plan.drain).readReady.1.closed = none) ∨
    (loop.closeSession id reason =
        loop.dismiss (slot.session.beginClose loop.now loop.plan.drain).readReady.2 ∧
      (slot.session.beginClose loop.now loop.plan.drain).readReady.1.closed ≠ none) := by
  have hid : (slot.session.beginClose loop.now loop.plan.drain).readReady.2.id = id :=
    (Session.id_readReady_beginClose _ _ _).trans (mem_of_slot? found).2
  have hclose : loop.closeSession id reason = loop.closeSession id .shutdown := by
    cases reason with
    | peerClosed | peerReset => cases h
    | io fault => cases h
    | overflow | shutdown => rfl
    | protocol error => rfl
  rw [hclose, settle, dismiss, hid]
  simp only [closeSession, found]
  split
  · next reason' hclosed => exact .inr ⟨rfl, by rw [hclosed]; simp⟩
  · next hclosed => exact .inl ⟨rfl, hclosed⟩

theorem tends_closeSession (loop : EventLoop) (id : SessionId) (reason : CloseReason) :
    Tends loop (loop.closeSession id reason) := by
  cases hgone : reason.gone with
  | true =>
    rw [closeSession_of_gone hgone]
    exact (Tend.release id).tends
  | false =>
    cases found : loop.slot? id with
    | none =>
      have hsame : loop.closeSession id reason = loop := by
        cases reason with
        | peerClosed | peerReset => cases hgone
        | io fault => cases hgone
        | overflow | shutdown => simp only [closeSession, found]
        | protocol error => simp only [closeSession, found]
      rw [hsame]
      exact .refl loop
    | some slot =>
      have hid : (slot.session.beginClose loop.now loop.plan.drain).readReady.2.id = id :=
        (Session.id_readReady_beginClose _ _ _).trans (mem_of_slot? found).2
      rcases closeSession_of_not_gone found hgone with ⟨heq, hwaits⟩ | ⟨heq, -⟩
      · rw [heq]
        exact (Tend.settle (hid.symm ▸ found) (.closed (.inl rfl) _ _ hwaits)).tends
      · rw [heq]
        exact (Tend.dismiss (hid.symm ▸ found)).tends

/-- What becomes of a session when there is room to write. -/
theorem writeReady_cases (found : loop.slot? id = some slot)
    (hopen : slot.session.isDraining = false) :
    (loop.writeReady id = loop.settle slot.session.writeReady.2 ∧
      ∀ reason, slot.session.writeReady.1 ≠ .failed reason) ∨
    loop.writeReady id = loop.dismiss slot.session.writeReady.2 := by
  have hid : slot.session.writeReady.2.id = id :=
    (Session.writes_writeReady _).id.trans (mem_of_slot? found).2
  have hwrote := Session.wrote_writeReady slot.session
  simp only [writeReady, found, hopen, settle, dismiss, hid]
  generalize slot.session.writeReady = result at hwrote
  cases hwrote with
  | drained empty => exact .inl ⟨rfl, nofun⟩
  | pending blocked => exact .inl ⟨rfl, nofun⟩
  | failed gone =>
    right
    exact closeSession_of_gone gone

theorem tends_writeReady (loop : EventLoop) (id : SessionId) : Tends loop (loop.writeReady id) := by
  cases found : loop.slot? id with
  | none =>
    have hsame : loop.writeReady id = loop := by simp only [writeReady, found]
    rw [hsame]
    exact .refl loop
  | some slot =>
    have hid : slot.session.writeReady.2.id = id :=
      (Session.writes_writeReady _).id.trans (mem_of_slot? found).2
    cases hopen : slot.session.isDraining with
    | true =>
      have hsame : loop.writeReady id = loop := by simp only [writeReady, found, hopen, if_true]
      rw [hsame]
      exact .refl loop
    | false =>
      rcases writeReady_cases found hopen with ⟨heq, hgoing⟩ | heq
      · rw [heq]
        exact (Tend.settle (hid.symm ▸ found) (.wrote hgoing)).tends
      · rw [heq]
        exact (Tend.dismiss (hid.symm ▸ found)).tends

/-- A session in error is dismissed. -/
theorem errorReady_of_found (found : loop.slot? id = some slot) :
    ∃ session, session.id = id ∧ loop.errorReady id = loop.dismiss session := by
  refine ⟨{ slot.session with endpoint := slot.session.endpoint.takeError.2 },
    (mem_of_slot? found).2, ?_⟩
  have hid : slot.session.id = id := (mem_of_slot? found).2
  simp only [errorReady, found, dismiss, hid]
  cases hheld : slot.session.endpoint.takeError.1 with
  | none => exact closeSession_of_gone rfl
  | some fault => exact closeSession_of_gone (CloseReason.gone_ofFault fault)

theorem tends_errorReady (loop : EventLoop) (id : SessionId) : Tends loop (loop.errorReady id) := by
  cases found : loop.slot? id with
  | none =>
    have hsame : loop.errorReady id = loop := by simp only [errorReady, found]
    rw [hsame]
    exact .refl loop
  | some slot =>
    obtain ⟨session, rfl, heq⟩ := errorReady_of_found found
    rw [heq]
    exact (Tend.dismiss found).tends

/-- What becomes of a session when the server stops. -/
theorem stopSession_cases (found : loop.slot? id = some slot) :
    ∃ session, session.id = id ∧
      (loop.stopSession id = loop.dismiss session ∨
        loop.stopSession id = loop.settle session ∧
          ∃ before, (before = slot.session ∨ before = slot.session.writeReady.2) ∧
            session = (before.beginClose loop.now loop.plan.drain).readReady.2 ∧
            (before.beginClose loop.now loop.plan.drain).readReady.1.closed = none) := by
  have hslot : slot.session.id = id := (mem_of_slot? found).2
  have hwritten : slot.session.writeReady.2.id = id :=
    (Session.writes_writeReady _).id.trans hslot
  have hshutdown : CloseReason.shutdown.gone = false := rfl
  have hclosed : ∀ before : Session, before.id = id →
      (before.beginClose loop.now loop.plan.drain).readReady.2.id = id := fun before hbefore =>
    (Session.id_readReady_beginClose _ _ _).trans hbefore
  simp only [stopSession, found]
  split
  · -- The session is put back after the last attempt at writing, and then closed.
    have hfound : (loop.put slot.session.writeReady.2).slot? id =
        some { slot with session := slot.session.writeReady.2 } := by
      have hthere : loop.slot? slot.session.writeReady.2.id = some slot := hwritten.symm ▸ found
      have hput := slot?_put hthere
      rwa [hwritten] at hput
    have hshut : ∃ session, session.id = id ∧
        ((loop.put slot.session.writeReady.2).closeSession id .shutdown = loop.dismiss session ∨
          (loop.put slot.session.writeReady.2).closeSession id .shutdown = loop.settle session ∧
            ∃ before, (before = slot.session ∨ before = slot.session.writeReady.2) ∧
              session = (before.beginClose loop.now loop.plan.drain).readReady.2 ∧
              (before.beginClose loop.now loop.plan.drain).readReady.1.closed = none) := by
      have hid := hclosed _ hwritten
      refine ⟨_, hid, ?_⟩
      rcases closeSession_of_not_gone hfound hshutdown with
        ⟨heq, hwaits⟩ | ⟨heq, -⟩
      · right
        refine ⟨?_, _, .inr rfl, rfl, hwaits⟩
        rw [heq]
        exact settle_put (hid.trans hwritten.symm)
      · left
        rw [heq]
        exact dismiss_put (hid.trans hwritten.symm)
    have hwrote := Session.wrote_writeReady slot.session
    cases houtcome : slot.session.writeReady.1 with
    | drained => exact hshut
    | pending => exact hshut
    | failed reason =>
      have hgone : reason.gone = true := by
        generalize slot.session.writeReady = result at hwrote houtcome
        cases hwrote with
        | drained empty => cases houtcome
        | pending blocked => cases houtcome
        | failed gone =>
          cases houtcome
          exact gone
      refine ⟨slot.session.writeReady.2, hwritten, .inl ?_⟩
      rw [dismiss, hwritten]
      exact closeSession_of_gone hgone
  · refine ⟨_, hclosed _ hslot, ?_⟩
    rcases closeSession_of_not_gone found hshutdown with ⟨heq, hwaits⟩ | ⟨heq, -⟩
    · exact .inr ⟨heq, _, .inl rfl, rfl, hwaits⟩
    · exact .inl heq

theorem tends_stopSession (loop : EventLoop) (id : SessionId) :
    Tends loop (loop.stopSession id) := by
  cases found : loop.slot? id with
  | none =>
    have hsame : loop.stopSession id = loop := by simp only [stopSession, found]
    rw [hsame]
    exact .refl loop
  | some slot =>
    obtain ⟨session, rfl, heq | ⟨heq, before, hbefore, rfl, hwaits⟩⟩ := stopSession_cases found
    · rw [heq]
      exact (Tend.dismiss found).tends
    · rw [heq]
      exact (Tend.settle found (.closed hbefore _ _ hwaits)).tends

theorem tends_expireDrains (loop : EventLoop) : Tends loop loop.expireDrains :=
  tends_foldl (fun _ id => (Tend.release id).tends) _ loop

theorem tends_releaseAll (loop : EventLoop) : Tends loop loop.releaseAll :=
  tends_foldl (fun _ id => (Tend.release id).tends) _ loop

/-- The loop when it has given up its listeners. -/
def deaf (loop : EventLoop) : EventLoop :=
  { loop with
    listeners := []
    calls := loop.calls ++ loop.listeners.map (.deregister ·.token) }

theorem tends_beginShutdown (loop : EventLoop) : Tends loop.deaf loop.beginShutdown :=
  tends_foldl tends_stopSession _ loop.deaf

/-! ## Relaying -/

theorem tends_route (origin : SessionId) (loop : EventLoop) (payload : Bytes) :
    Tends (loop.spread origin payload) (loop.route origin payload) := by
  rw [route_eq]
  exact tends_foldl (fun loop id => tends_closeSession loop id .overflow) _ _

/-! ## Accepting -/

/-- Somebody waits at a listener with this connection. -/
def Waiting (loop : EventLoop) (endpoint : Endpoint) : Prop :=
  ∃ listener ∈ loop.listeners, ∃ peer, .connection peer endpoint ∈ listener.backlog

/-- What a pass over a backlog goes past. -/
def goesOn : Incoming → Bool
  | .connection _ _ => true
  | .fault fault => passedOver fault.kind

/-- A pass over a backlog has gone past everything, or up to a fault that ended it. -/
def Passed (backlog rest : List Incoming) (fault : Fault) : Prop :=
  ∃ taken : List Incoming, (∀ incoming ∈ taken, goesOn incoming = true) ∧
    (backlog = taken ∧ rest = [] ∧ fault = Endpoint.wouldBlock ∨
      backlog = taken ++ .fault fault :: rest ∧ goesOn (.fault fault) = false)

theorem Passed.cons {backlog rest : List Incoming} {fault : Fault} (h : Passed backlog rest fault)
    {incoming : Incoming} (hgoes : goesOn incoming = true) :
    Passed (incoming :: backlog) rest fault := by
  obtain ⟨taken, htaken, hend⟩ := h
  refine ⟨incoming :: taken, ?_, ?_⟩
  · intro other hother
    rcases List.mem_cons.1 hother with rfl | hold
    · exact hgoes
    · exact htaken other hold
  · rcases hend with ⟨rfl, hrest⟩ | ⟨rfl, hgoes⟩
    · exact .inl ⟨rfl, hrest⟩
    · exact .inr ⟨rfl, hgoes⟩

/-- What is left of a backlog was there before. -/
theorem Passed.sublist {backlog rest : List Incoming} {fault : Fault}
    (h : Passed backlog rest fault) : rest.Sublist backlog := by
  obtain ⟨taken, -, ⟨-, rfl, -⟩ | ⟨rfl, -⟩⟩ := h
  · exact List.nil_sublist _
  · exact (List.sublist_cons_self _ _).trans (List.sublist_append_right _ _)

theorem passed_acceptFrom (backlog : List Incoming) (loop : EventLoop) :
    Passed backlog (loop.acceptFrom backlog).2.1 (loop.acceptFrom backlog).2.2 := by
  induction backlog generalizing loop with
  | nil => exact ⟨[], by simp, .inl ⟨rfl, rfl, rfl⟩⟩
  | cons incoming rest ih =>
    cases incoming with
    | connection peer endpoint => exact (ih (loop.addSession peer endpoint)).cons rfl
    | fault fault =>
      unfold acceptFrom
      split
      · next hgoes => exact (ih loop).cons hgoes
      · next hends => exact ⟨[], by simp, .inr ⟨rfl, Bool.eq_false_iff.2 hends⟩⟩

/-- Accepting does not look at the listeners, nor at those to be looked at again. -/
theorem listeners_acceptFrom (backlog : List Incoming) (loop : EventLoop) :
    (loop.acceptFrom backlog).1.listeners = loop.listeners ∧
      (loop.acceptFrom backlog).1.retries = loop.retries := by
  induction backlog generalizing loop with
  | nil => exact ⟨rfl, rfl⟩
  | cons incoming rest ih =>
    cases incoming with
    | connection peer endpoint => exact ih (loop.addSession peer endpoint)
    | fault fault =>
      unfold acceptFrom
      split
      · exact ih loop
      · exact ⟨rfl, rfl⟩

/-- What a pass over the backlog of a listener does to the listeners. -/
theorem listeners_acceptReady {token : Nat} {listener : Listener}
    (found : loop.listeners.find? (·.token = token) = some listener) :
    ∃ rest fault, Passed listener.backlog rest fault ∧
      (loop.acceptReady token).listeners = loop.listeners.map (fun l =>
        if l.token = token then { l with backlog := rest, lastFault := some fault } else l) ∧
      (loop.acceptReady token).retries =
        if fault.kind = .wouldBlock ∨ token ∈ loop.retries then loop.retries
        else loop.retries ++ [token] := by
  have hsame := listeners_acceptFrom listener.backlog loop
  have hpassed := passed_acceptFrom listener.backlog loop
  rcases hpass : loop.acceptFrom listener.backlog with ⟨passed, rest, fault⟩
  rw [hpass] at hsame hpassed
  obtain ⟨hlisteners, hretries⟩ := hsame
  refine ⟨rest, fault, hpassed, ?_, ?_⟩
  · simp only [acceptReady, found, hpass]
    rw [← hlisteners]
    split <;> rfl
  · simp only [acceptReady, found, hpass]
    rw [← hretries]
    split <;> rfl

/-- Nobody begins to wait while others are accepted. -/
theorem waiting_acceptReady {token : Nat} {endpoint : Endpoint}
    (h : (loop.acceptReady token).Waiting endpoint) : loop.Waiting endpoint := by
  cases found : loop.listeners.find? (·.token = token) with
  | none =>
    have hsame : loop.acceptReady token = loop := by simp only [acceptReady, found]
    rwa [hsame] at h
  | some listener =>
    obtain ⟨rest, fault, hpassed, hlisteners, -⟩ := listeners_acceptReady found
    obtain ⟨l', hl', peer, hmem⟩ := h
    rw [hlisteners] at hl'
    obtain ⟨l, hl, rfl⟩ := List.mem_map.1 hl'
    split at hmem
    · exact ⟨listener, List.mem_of_find?_eq_some found, peer, hpassed.sublist.subset hmem⟩
    · exact ⟨l, hl, peer, hmem⟩

/-! ## Strokes -/

/-- One of the things of which all actions are made, where sessions begin only on `welcome`
connections. -/
inductive Stroke (welcome : Endpoint → Prop) (loop : EventLoop) : EventLoop → Prop
  | tend {loop' : EventLoop} (tend : Tend loop loop') : Stroke welcome loop loop'
  | spread (origin : SessionId) (payload : Bytes) : Stroke welcome loop (loop.spread origin payload)
  | join (peer : String) {endpoint : Endpoint} (came : welcome endpoint) :
      Stroke welcome loop (loop.addSession peer endpoint)
  | hear {slot : Slot} (found : loop.slot? slot.id = some slot) :
      Stroke welcome loop (loop.put slot.session.readReady.2)
  | change {slot : Slot} (found : loop.slot? slot.id = some slot) (change : Endpoint.Change) :
      Stroke welcome loop (loop.put
        { slot.session with endpoint := slot.session.endpoint.undergo change })
  /-- What does not concern the sessions. -/
  | aside {loop' : EventLoop} (plan : loop'.plan = loop.plan) (slots : loop'.slots = loop.slots)
      (calls : ∃ tokens : List Nat, loop'.calls = loop.calls ++ tokens.map .deregister)
      (ids : loop'.ids = loop.ids) (released : loop'.released = loop.released) :
      Stroke welcome loop loop'

/-- One stroke after another. -/
def Strokes (welcome : Endpoint → Prop) : EventLoop → EventLoop → Prop :=
  Relation.ReflTransGen (Stroke welcome)

variable {welcome : Endpoint → Prop}

theorem Strokes.refl (loop : EventLoop) : Strokes welcome loop loop := Relation.ReflTransGen.refl

theorem Stroke.strokes (h : Stroke welcome loop loop') : Strokes welcome loop loop' := .single h

theorem Strokes.trans {loop'' : EventLoop} (h : Strokes welcome loop loop')
    (h' : Strokes welcome loop' loop'') : Strokes welcome loop loop'' :=
  Relation.ReflTransGen.trans h h'

theorem Tends.strokes (h : Tends loop loop') : Strokes welcome loop loop' := by
  induction h with
  | refl => exact .refl loop
  | tail _ hlast ih => exact ih.trans (Stroke.tend hlast).strokes

/-- What every stroke keeps is kept by strokes one after another. -/
theorem Strokes.keeps {P : EventLoop → Prop}
    (hstroke : ∀ {loop loop' : EventLoop}, Stroke welcome loop loop' → P loop → P loop')
    (h : Strokes welcome loop loop') (hloop : P loop) : P loop' := by
  induction h with
  | refl => exact hloop
  | tail _ hlast ih => exact hstroke hlast ih

theorem strokes_foldl {α : Type} {f : EventLoop → α → EventLoop}
    (hf : ∀ loop a, Strokes welcome loop (f loop a)) (as : List α) (loop : EventLoop) :
    Strokes welcome loop (as.foldl f loop) :=
  foldl_related Strokes.refl Strokes.trans hf as loop

/-- A loop of which only other things change than sessions and calls. -/
theorem strokes_of_same (hplan : loop'.plan = loop.plan) (hslots : loop'.slots = loop.slots)
    (hcalls : loop'.calls = loop.calls) (hids : loop'.ids = loop.ids)
    (hreleased : loop'.released = loop.released) : Strokes welcome loop loop' := by
  have hnone : loop'.calls = loop.calls ++ ([] : List Nat).map .deregister := by
    rw [hcalls, List.map_nil, List.append_nil]
  exact (Stroke.aside hplan hslots ⟨[], hnone⟩ hids hreleased).strokes

theorem strokes_acceptFrom (backlog : List Incoming) (loop : EventLoop)
    (h : ∀ peer endpoint, .connection peer endpoint ∈ backlog → welcome endpoint) :
    Strokes welcome loop (loop.acceptFrom backlog).1 := by
  induction backlog generalizing loop with
  | nil => exact .refl loop
  | cons incoming rest ih =>
    have hrest := fun peer endpoint hmem => h peer endpoint (List.mem_cons_of_mem incoming hmem)
    cases incoming with
    | connection peer endpoint =>
      have hcame : welcome endpoint := h peer endpoint List.mem_cons_self
      exact (Stroke.join peer hcame).strokes.trans (ih (loop.addSession peer endpoint) hrest)
    | fault fault =>
      unfold acceptFrom
      split
      · exact ih loop hrest
      · exact .refl loop

theorem strokes_acceptReady (loop : EventLoop) (token : Nat)
    (h : ∀ endpoint, loop.Waiting endpoint → welcome endpoint) :
    Strokes welcome loop (loop.acceptReady token) := by
  unfold acceptReady
  split
  · exact .refl loop
  next listener found =>
  have hbacklog : ∀ peer endpoint, .connection peer endpoint ∈ listener.backlog →
      welcome endpoint := fun peer endpoint hmem =>
    h endpoint ⟨listener, List.mem_of_find?_eq_some found, peer, hmem⟩
  refine (strokes_acceptFrom listener.backlog loop hbacklog).trans ?_
  dsimp only
  split
  · exact strokes_of_same rfl rfl rfl rfl rfl
  · exact strokes_of_same rfl rfl rfl rfl rfl

theorem strokes_foldl_acceptReady (tokens : List Nat) (loop : EventLoop)
    (h : ∀ endpoint, loop.Waiting endpoint → welcome endpoint) :
    Strokes welcome loop (tokens.foldl acceptReady loop) := by
  induction tokens generalizing loop with
  | nil => exact .refl loop
  | cons token tokens ih =>
    have hlater := ih (loop.acceptReady token) fun endpoint hwaits =>
      h endpoint (waiting_acceptReady hwaits)
    exact (strokes_acceptReady loop token h).trans hlater

theorem strokes_route (origin : SessionId) (loop : EventLoop) (payload : Bytes) :
    Strokes welcome loop (loop.route origin payload) :=
  (Stroke.spread origin payload).strokes.trans (tends_route origin loop payload).strokes

/-- What comes after reading is relaying, and dealing with the session. -/
theorem strokes_readReady (loop : EventLoop) (id : SessionId) :
    Strokes welcome loop (loop.readReady id) := by
  cases found : loop.slot? id with
  | none =>
    have hsame : loop.readReady id = loop := by simp only [readReady, found]
    rw [hsame]
    exact .refl loop
  | some slot =>
    obtain ⟨-, rfl⟩ := mem_of_slot? found
    have hrelayed : Strokes welcome loop
        (slot.session.readReady.1.frames.foldl (route slot.id)
          (loop.put slot.session.readReady.2)) :=
      (Stroke.hear found).strokes.trans (strokes_foldl (strokes_route slot.id) _ _)
    simp only [readReady, found]
    split
    · exact hrelayed
    split
    · exact hrelayed.trans (Tend.release slot.id).tends.strokes
    · exact hrelayed.trans (tends_closeSession _ slot.id _).strokes

theorem strokes_happen (loop : EventLoop) (outside : Outside) :
    Strokes welcome loop (loop.happen outside) := by
  cases outside with
  | comes token incoming => exact strokes_of_same rfl rfl rfl rfl rfl
  | changes id change =>
    unfold happen
    dsimp only
    split
    · exact .refl loop
    next slot found =>
    obtain ⟨-, rfl⟩ := mem_of_slot? found
    exact (Stroke.change found change).strokes

/-- An action in which no connections are accepted is made of strokes, and takes in nobody. -/
theorem strokes_act_of_not_accepts {action : LoopAction} (h : action.accepts = false) :
    Strokes welcome loop (loop.act action) := by
  cases action with
  | dispatch readiness =>
    cases readiness with
    | accept token => cases h
    | read id => exact strokes_readReady loop id
    | write id => exact (tends_writeReady loop id).strokes
    | failed id => exact (tends_errorReady loop id).strokes
  | retry => cases h
  | expire => exact (tends_expireDrains loop).strokes
  | stop =>
    have hdeaf : Stroke welcome loop loop.deaf :=
      .aside rfl rfl ⟨loop.listeners.map (·.token), by rw [List.map_map]; rfl⟩ rfl rfl
    exact hdeaf.strokes.trans (tends_beginShutdown loop).strokes
  | leaveAll => exact (tends_releaseAll loop).strokes
  | outside outside => exact strokes_happen loop outside
  | clock now => exact strokes_of_same rfl rfl rfl rfl rfl

/-- Every action is made of strokes, and takes in those only who waited before it. -/
theorem strokes_act (loop : EventLoop) (action : LoopAction) :
    Strokes loop.Waiting loop (loop.act action) := by
  cases haccepts : action.accepts with
  | false => exact strokes_act_of_not_accepts haccepts
  | true =>
    cases action with
    | dispatch readiness =>
      cases readiness with
      | accept token => exact strokes_acceptReady loop token fun _ => id
      | read id | write id | failed id => cases haccepts
    | retry =>
      have hforget : Strokes loop.Waiting loop { loop with retries := [] } :=
        strokes_of_same rfl rfl rfl rfl rfl
      exact hforget.trans (strokes_foldl_acceptReady loop.retries _ fun _ => id)
    | expire | stop | leaveAll => cases haccepts
    | outside outside => cases haccepts
    | clock now => cases haccepts

end EventLoop

end ChatRelay
