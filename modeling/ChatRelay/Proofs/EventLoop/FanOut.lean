import ChatRelay.Proofs.EventLoop.Members
import ChatRelay.Proofs.EventLoop.Watch
import ChatRelay.Proofs.Session.Script
import Mathlib.Data.List.Sort

/-!
# Who receives what

Whatever has been relayed by then, `relayed`, every session that a loop has ever had has been sent
some of

    script = greeting ++ the encodings of relayed.drop joined without those of its own

in order, each at most once and only the last of them cut short; and what two sessions have both
received they have received in the same order (`fan_out`). A session that refused and evicted
nothing and is still open has been sent its whole script, up to what waits in its queue.

The invariant `Accounted` says that each session follows its script. It is kept by everything quiet
(`Reaches.quiet`) and by one message that is offered to everyone (`Reaches.offered`), and what the
loop does is made of these.
-/

namespace ChatRelay

/-! ## What there is to receive -/

namespace SessionPlan

variable {plan : SessionPlan} {relayed : List (SessionId × Bytes)} {joined : Nat} {id : SessionId}
  {origin : SessionId} {payload : Bytes}

/-- What a message that was relayed is for a session: its place and its encoding, or nothing if it
is its own or has none. -/
def dueOf (plan : SessionPlan) (id : SessionId) :
    (SessionId × Bytes) × Nat → Option (Nat × Bytes)
  | ((origin, payload), i) =>
    if origin = id then none else (plan.codec.encode payload).toOption.map (i, ·)

/-- What there is to receive for a session that came when `joined` messages had been relayed: the
encodings of the later ones that are not its own, each with its place among those relayed. -/
def due (plan : SessionPlan) (relayed : List (SessionId × Bytes)) (joined : Nat) (id : SessionId) :
    List (Nat × Bytes) :=
  ((relayed.drop joined).zipIdx joined).filterMap (plan.dueOf id)

/-- Everything that such a session is given to send. -/
def script (plan : SessionPlan) (relayed : List (SessionId × Bytes)) (joined : Nat)
    (id : SessionId) : List Bytes :=
  plan.greeting.toList ++ (plan.due relayed joined id).map Prod.snd

theorem dueOf_eq_some {i : Nat} {entry : Nat × Bytes} :
    plan.dueOf id ((origin, payload), i) = some entry ↔
      origin ≠ id ∧ ∃ frame, plan.codec.encode payload = .ok frame ∧ (i, frame) = entry := by
  unfold dueOf
  by_cases hown : origin = id
  · simp [hown]
  · cases hencode : plan.codec.encode payload <;> simp [hown, hencode, Except.toOption]

/-- What is due is the encoding of a message that was relayed later and is not its own. -/
theorem mem_due {i : Nat} {frame : Bytes} (h : (i, frame) ∈ plan.due relayed joined id) :
    ∃ origin payload, relayed[i]? = some (origin, payload) ∧ origin ≠ id ∧ joined ≤ i ∧
      plan.codec.encode payload = .ok frame := by
  obtain ⟨⟨⟨origin, payload⟩, j⟩, hmem, hentry⟩ := List.mem_filterMap.1 h
  obtain ⟨hother, encoded, hencode, heq⟩ := dueOf_eq_some.1 hentry
  obtain ⟨rfl, rfl⟩ := Prod.mk.inj heq
  obtain ⟨hle, hget⟩ := List.mk_mem_zipIdx_iff_le_and_getElem?_sub.1 hmem
  rw [List.getElem?_drop, Nat.add_sub_cancel' hle] at hget
  exact ⟨origin, payload, hget, hother, hle, hencode⟩

/-- The places among those relayed increase. -/
theorem pairwise_due (plan : SessionPlan) (relayed : List (SessionId × Bytes)) (joined : Nat)
    (id : SessionId) : (plan.due relayed joined id).Pairwise (·.1 < ·.1) := by
  have hplaces : ((relayed.drop joined).zipIdx joined).Pairwise (·.2 < ·.2) := by
    rw [← List.pairwise_map (f := Prod.snd) (R := (· < ·)), List.zipIdx_map_snd]
    exact List.pairwise_lt_range'
  refine List.pairwise_filterMap.2 (hplaces.imp ?_)
  rintro ⟨⟨origin, payload⟩, i⟩ ⟨⟨origin', payload'⟩, j⟩ hlt entry hentry entry' hentry'
  obtain ⟨-, frame, -, rfl⟩ := dueOf_eq_some.1 hentry
  obtain ⟨-, frame', -, rfl⟩ := dueOf_eq_some.1 hentry'
  exact hlt

theorem due_append (h : joined ≤ relayed.length) :
    plan.due (relayed ++ [(origin, payload)]) joined id =
      plan.due relayed joined id ++ (plan.dueOf id ((origin, payload), relayed.length)).toList := by
  have hplace : joined + (relayed.drop joined).length = relayed.length := by
    rw [List.length_drop]
    omega
  rw [due, List.drop_append_of_le_length h, List.zipIdx_append, List.filterMap_append, hplace]
  rfl

/-- Nothing but the greeting is there for a session that has just come. -/
theorem script_new (plan : SessionPlan) (relayed : List (SessionId × Bytes)) (id : SessionId) :
    plan.script relayed relayed.length id = plan.greeting.toList := by
  rw [script, due, List.drop_length]
  exact List.append_nil _

/-- A message of its own, or one that cannot be encoded, adds nothing to the script of a session. -/
theorem script_same (h : joined ≤ relayed.length)
    (hnone : plan.dueOf id ((origin, payload), relayed.length) = none) :
    plan.script (relayed ++ [(origin, payload)]) joined id = plan.script relayed joined id := by
  rw [script, due_append h, hnone, Option.toList_none, List.append_nil]
  rfl

/-- A message adds its encoding to the script of everyone else. -/
theorem script_other (h : joined ≤ relayed.length) (hother : origin ≠ id) {frame : Bytes}
    (hframe : plan.codec.encode payload = .ok frame) :
    plan.script (relayed ++ [(origin, payload)]) joined id =
      plan.script relayed joined id ++ [frame] := by
  have hdue : plan.dueOf id ((origin, payload), relayed.length) = some (relayed.length, frame) :=
    dueOf_eq_some.2 ⟨hother, frame, hframe, rfl⟩
  rw [script, due_append h, hdue, List.map_append, ← List.append_assoc]
  rfl

/-- A script only grows. -/
theorem script_sublist (h : joined ≤ relayed.length) :
    (plan.script relayed joined id).Sublist
      (plan.script (relayed ++ [(origin, payload)]) joined id) := by
  rw [script, script, due_append h, List.map_append, ← List.append_assoc]
  exact List.sublist_append_left _ _

end SessionPlan

namespace Watch

variable {plan : SessionPlan} {relayed : List (SessionId × Bytes)} {id : SessionId}
  {origin : SessionId} {payload : Bytes}

/-! ## Sessions that follow their scripts -/

/-- A session that has been told some of its script, and nothing else. -/
structure Told (plan : SessionPlan) (relayed : List (SessionId × Bytes)) (stay : Stay)
    (session : Session) : Prop where
  joined : stay.joined ≤ relayed.length
  told : ∃ sender : Sender, sender.session = session ∧ Session.Wire stay.before sender ∧
    sender.taken.Sublist (plan.script relayed stay.joined session.id)

/-- A session that has answered to all of its script. -/
structure Hears (plan : SessionPlan) (relayed : List (SessionId × Bytes)) (stay : Stay)
    (session : Session) : Prop where
  joined : stay.joined ≤ relayed.length
  hears : ∃ sender : Sender, sender.session = session ∧
    Session.Follows stay.before (plan.script relayed stay.joined session.id) stay.answers sender

variable {stay : Stay} {session session' : Session} {slot : Slot}

theorem Hears.told (h : Hears plan relayed stay session) : Told plan relayed stay session := by
  obtain ⟨sender, hsession, hfollows⟩ := h.hears
  exact ⟨h.joined, sender, hsession, hfollows.wire, hfollows.order⟩

theorem Hears.quiet (h : Hears plan relayed stay session) (hquiet : session.Quiet session') :
    Hears plan relayed stay session' := by
  obtain ⟨sender, rfl, hfollows⟩ := h.hears
  refine ⟨h.joined, { sender with session := session' }, rfl, ?_⟩
  rw [hquiet.id_eq]
  exact hfollows.quiet hquiet

/-- What has been told stays told when more is relayed. -/
theorem Told.later (h : Told plan relayed stay session) :
    Told plan (relayed ++ [(origin, payload)]) stay session := by
  obtain ⟨sender, hsession, hwire, horder⟩ := h.told
  refine ⟨?_, sender, hsession, hwire, horder.trans (SessionPlan.script_sublist h.joined)⟩
  rw [List.length_append]
  exact Nat.le_add_right_of_le h.joined

/-- A session that is offered a message for everyone goes on with its script. -/
theorem Hears.receive (h : Hears plan relayed stay slot.session) (origin : SessionId)
    (payload : Bytes) :
    Hears plan (relayed ++ [(origin, payload)])
      { stay with answers := stay.answers ++ (slot.receive plan.codec origin payload).1 }
      (slot.receive plan.codec origin payload).2.session := by
  obtain ⟨sender, hsession, hfollows⟩ := h.hears
  have hjoined : stay.joined ≤ (relayed ++ [(origin, payload)]).length := by
    rw [List.length_append]
    exact Nat.le_add_right_of_le h.joined
  -- Whether it is asked and whether the message is due to it are decided alike.
  unfold Slot.receive
  split
  · next error hencode =>
    have hnone : plan.dueOf slot.session.id ((origin, payload), relayed.length) = none := by
      simp [SessionPlan.dueOf, hencode, Except.toOption]
    refine ⟨hjoined, sender, hsession, ?_⟩
    rw [SessionPlan.script_same h.joined hnone, List.append_nil]
    exact hfollows
  next frame hencode =>
  split
  · next hown =>
    have hnone : plan.dueOf slot.session.id ((origin, payload), relayed.length) = none :=
      if_pos hown.symm
    refine ⟨hjoined, sender, hsession, ?_⟩
    rw [SessionPlan.script_same h.joined hnone, List.append_nil]
    exact hfollows
  · next hother =>
    refine ⟨hjoined, sender.enqueue frame, ?_, ?_⟩
    · rw [Session.session_enqueue, hsession]
      rfl
    · have hid : (slot.offer frame).2.session.id = slot.session.id := Session.id_enqueue _ _
      have hscript : plan.script (relayed ++ [(origin, payload)]) stay.joined slot.session.id =
          plan.script relayed stay.joined slot.session.id ++ [frame] :=
        SessionPlan.script_other h.joined (Ne.symm hother) hencode
      show Session.Follows _ (plan.script _ stay.joined (slot.offer frame).2.session.id)
        (stay.answers ++ [(slot.session.enqueue frame).1]) _
      rw [hid, hscript, ← hsession]
      rw [← hsession] at hfollows
      exact hfollows.enqueue frame

/-- A session that has just come has heard its greeting. -/
theorem hears_newcomer (w : Watch) (peer : String) (endpoint : Endpoint) :
    Hears w.loop.plan w.loop.relayed (w.welcome peer endpoint)
      (w.loop.plan.newcomer w.loop.ids.take.1 peer endpoint) := by
  have hnew := Session.follows_new w.loop.ids.take.1 peer endpoint w.loop.plan.codec
    w.loop.plan.limits
  have hscript : w.loop.plan.script w.loop.relayed (w.welcome peer endpoint).joined
      w.loop.ids.take.1 = w.loop.plan.greeting.toList := w.loop.plan.script_new _ _
  have hheard : ∃ sender : Sender,
      sender.session = w.loop.plan.newcomer w.loop.ids.take.1 peer endpoint ∧
      Session.Follows endpoint.written w.loop.plan.greeting.toList
        (w.welcome peer endpoint).answers sender := by
    unfold SessionPlan.newcomer welcome
    cases w.loop.plan.greeting with
    | none => exact ⟨_, rfl, hnew⟩
    | some greeting => exact ⟨_, Session.session_enqueue _ _, hnew.enqueue greeting⟩
  refine ⟨Nat.le_refl _, ?_⟩
  rw [SessionPlan.id_newcomer, hscript]
  exact hheard

/-! ## The invariant -/

/-- Every session follows its script, those that are gone as far as they came. -/
structure Accounted (plan : SessionPlan) (w : Watch) : Prop where
  same_plan : w.loop.plan = plan
  distinct : w.loop.Distinct
  here : ∀ slot ∈ w.loop.slots, Hears plan w.loop.relayed (w.stays slot.id) slot.session
  gone : ∀ member ∈ w.gone, Told plan w.loop.relayed member.2 member.1

/-- On the way from where the watch is, the loop has come here, every session follows its script,
and none has been lost. -/
structure Reaches (plan : SessionPlan) (w : Watch) (loop : EventLoop)
    (answers : SessionId → List (Except EnqueueError Nat)) : Prop where
  accounted : Accounted plan (w.goTo loop answers)
  released : w.loop.released.length ≤ loop.released.length
  count : loop.slots.length + loop.released.length =
    w.loop.slots.length + w.loop.released.length

variable {w : Watch} {loop loop' : EventLoop}
  {answers : SessionId → List (Except EnqueueError Nat)}

/-- Where the watch is already. -/
theorem reaches_self (h : Accounted plan w) : Reaches plan w w.loop fun _ => [] := by
  have hself : w.goTo w.loop (fun _ => []) = w := by
    simp [goTo]
  exact ⟨hself.symm ▸ h, Nat.le_refl _, rfl⟩

/-- While the loop is quiet, every session goes on following its script. -/
theorem Reaches.quiet (h : Reaches plan w loop answers) (hquiet : EventLoop.Quiet loop loop') :
    Reaches plan w loop' answers := by
  obtain ⟨left, hreleased, hleft, hperm⟩ := hquiet.released
  have hcount := hperm.length_eq
  simp only [List.length_append, List.length_map] at hcount
  have hlength : loop'.released.length = loop.released.length + left.length := by
    rw [hreleased, List.length_append]
  have hbefore := h.released
  have hsame := h.count
  refine ⟨⟨?_, ?_, ?_, ?_⟩, by omega, by omega⟩
  · exact hquiet.plan.trans h.accounted.same_plan
  · exact hquiet.distinct h.accounted.distinct
  · intro slot' hslot'
    obtain ⟨slot, hslot, hsession⟩ := hquiet.slots slot' hslot'
    have hid : slot'.id = slot.id := hsession.id_eq
    show Hears plan loop'.relayed _ _
    rw [hid, hquiet.relayed]
    exact (h.accounted.here slot hslot).quiet hsession
  · intro member hmember
    show Told plan loop'.relayed _ _
    rw [hquiet.relayed]
    simp only [goTo, hreleased, List.drop_append_of_le_length hbefore, List.map_append,
      ← List.append_assoc] at hmember
    rcases List.mem_append.1 hmember with hold | hnew
    · exact h.accounted.gone member hold
    · obtain ⟨session, hsession, rfl⟩ := List.mem_map.1 hnew
      obtain ⟨slot, hslot, hslot'⟩ := hleft session hsession
      have hid : session.id = slot.id := hslot'.id_eq
      dsimp only
      rw [hid]
      exact ((h.accounted.here slot hslot).quiet hslot').told

/-- A message that is offered to everyone goes on the scripts of the others. -/
theorem Reaches.offered (h : Reaches plan w loop answers) (origin : SessionId) (payload : Bytes) :
    Reaches plan w (loop.offered origin payload)
      fun id => answers id ++ loop.answerTo origin payload id := by
  refine ⟨⟨?_, ?_, ?_, ?_⟩, h.released, ?_⟩
  · exact h.accounted.same_plan
  · exact EventLoop.distinct_offered h.accounted.distinct origin payload
  · intro slot' hslot'
    obtain ⟨slot, hslot, rfl⟩ := List.mem_map.1 hslot'
    have hplan : loop.plan = plan := h.accounted.same_plan
    have hfound : loop.slot? slot.id = some slot :=
      EventLoop.slot?_of_mem h.accounted.distinct hslot
    have hanswer : loop.answerTo origin payload slot.id =
        (slot.receive plan.codec origin payload).1 := by
      rw [EventLoop.answerTo, hfound, hplan]
    have hears := (h.accounted.here slot hslot).receive origin payload
    rw [Slot.id_receive, hplan]
    simp only [goTo, hanswer, ← List.append_assoc]
    exact hears
  · intro member hmember
    rcases List.mem_append.1 hmember with hold | hleft
    · exact (h.accounted.gone member (List.mem_append_left _ hold)).later
    · obtain ⟨session, hsession, rfl⟩ := List.mem_map.1 hleft
      have htold : Told plan (loop.relayed ++ [(origin, payload)]) _ session :=
        (h.accounted.gone _ (List.mem_append_right _ (List.mem_map_of_mem hsession))).later
      exact ⟨htold.joined, htold.told⟩
  · show (loop.slots.map _).length + loop.released.length = _
    rw [List.length_map]
    exact h.count

/-- Relaying a message keeps every session at its script. -/
theorem Reaches.route (h : Reaches plan w loop answers) (origin : SessionId) (payload : Bytes) :
    Reaches plan w (loop.route origin payload)
      fun id => answers id ++ loop.answerTo origin payload id :=
  (h.offered origin payload).quiet (EventLoop.quiet_route h.accounted.distinct origin payload)

/-- Relaying messages one after another keeps every session at its script. -/
theorem Reaches.relayAll (h : Reaches plan w loop answers) (origin : SessionId)
    (payloads : List Bytes) :
    Reaches plan w (payloads.foldl (EventLoop.route origin) loop)
      fun id => answers id ++ loop.answersTo origin payloads id := by
  induction payloads generalizing loop answers with
  | nil =>
    simp only [EventLoop.answersTo, List.append_nil]
    exact h
  | cons payload payloads ih =>
    have hlater := ih (h.route origin payload)
    simp only [EventLoop.answersTo, ← List.append_assoc]
    exact hlater

/-! ## Events -/

/-- A session that is read from has its messages relayed, and is ended at most. -/
theorem reaches_read (h : Accounted plan w) (id : SessionId) :
    Reaches plan w (w.loop.readReady id) (w.loop.answersIn (.read id)) := by
  cases hslot : w.loop.slot? id with
  | none =>
    have hanswers : w.loop.answersIn (.read id) = fun _ => [] := by
      funext other
      simp only [EventLoop.answersIn, hslot]
    have hloop : w.loop.readReady id = w.loop := by
      simp only [EventLoop.readReady, hslot]
    rw [hanswers, hloop]
    exact reaches_self h
  | some slot =>
    have hput := EventLoop.quiet_put hslot (Session.quiet_readReady slot.session)
    have hrelayed := ((reaches_self h).quiet hput).relayAll id slot.session.readReady.1.frames
    have hanswers : w.loop.answersIn (.read id) = fun other => [] ++
        (w.loop.put slot.session.readReady.2).answersTo id slot.session.readReady.1.frames
          other := by
      funext other
      simp only [EventLoop.answersIn, hslot, List.nil_append]
    rw [hanswers]
    simp only [EventLoop.readReady, hslot]
    split
    · exact hrelayed
    split
    · exact hrelayed.quiet (EventLoop.quiet_release hrelayed.accounted.distinct id)
    · exact hrelayed.quiet (EventLoop.quiet_closeSession hrelayed.accounted.distinct id _)

/-- Every event but a session that begins leads on from the sessions that are there. -/
theorem reaches_perform (h : Accounted plan w) (event : LoopEvent) (hjoin : event.isJoin = false) :
    Reaches plan w (w.loop.perform event) (w.loop.answersIn event) := by
  have hself := reaches_self h
  cases event with
  | join peer endpoint => cases hjoin
  | read id => exact reaches_read h id
  | write id => exact hself.quiet (EventLoop.quiet_writeReady h.distinct id)
  | failed id => exact hself.quiet (EventLoop.quiet_errorReady h.distinct id)
  | expire => exact hself.quiet (EventLoop.quiet_expireDrains h.distinct)
  | stop => exact hself.quiet (EventLoop.quiet_beginShutdown h.distinct)
  | outside outside => exact hself.quiet (EventLoop.quiet_happen w.loop outside)
  | clock now => exact hself.quiet (EventLoop.quiet_of_same rfl rfl rfl rfl)

/-- A session that begins follows its script from the greeting on. -/
theorem Accounted.join (h : Accounted plan w) (peer : String) (endpoint : Endpoint) :
    Accounted plan (w.join peer endpoint) := by
  obtain rfl := h.same_plan
  refine ⟨rfl, EventLoop.distinct_addSession h.distinct peer endpoint, ?_, ?_⟩
  · intro slot hslot
    show Hears w.loop.plan w.loop.relayed
      (if slot.id = w.loop.ids.take.1 then w.welcome peer endpoint else w.stays slot.id) _
    rcases EventLoop.mem_addSession hslot with ⟨hold, hother⟩ | hnew
    · rw [if_neg hother]
      exact h.here slot hold
    · have hid : slot.id = w.loop.ids.take.1 := by
        rw [hnew]
        exact SessionPlan.id_newcomer _ _ _ _
      rw [if_pos hid, hnew]
      exact hears_newcomer w peer endpoint
  · intro member hmember
    show Told w.loop.plan w.loop.relayed _ _
    rcases List.mem_append.1 hmember with hold | hreplaced
    · exact h.gone member hold
    · obtain ⟨slot, hslot, rfl⟩ := List.mem_map.1 hreplaced
      exact (h.here slot (List.mem_filter.1 hslot).1).told

theorem step_eq {event : LoopEvent} (hjoin : event.isJoin = false) :
    w.step event = w.goTo (w.loop.perform event) (w.loop.answersIn event) := by
  cases event with
  | join peer endpoint => cases hjoin
  | _ => rfl

theorem Accounted.step (h : Accounted plan w) (event : LoopEvent) :
    Accounted plan (w.step event) := by
  by_cases hjoin : event.isJoin = false
  · rw [step_eq hjoin]
    exact (reaches_perform h event hjoin).accounted
  · cases event with
    | join peer endpoint => exact h.join peer endpoint
    | _ => exact absurd rfl hjoin

theorem Accounted.run (h : Accounted plan w) (events : List LoopEvent) :
    Accounted plan (w.run events) := by
  unfold Watch.run
  induction events generalizing w with
  | nil => exact h
  | cons event events ih => exact ih (h.step event)

/-- Nobody has come yet, and everybody who has is accounted for. -/
theorem accounted_new (plan : SessionPlan) (sockets : List SocketAddress) :
    Accounted plan (.new plan sockets) := by
  refine ⟨rfl, List.nodup_nil, ?_, ?_⟩
  · intro slot hslot
    exact absurd hslot List.not_mem_nil
  · intro member hmember
    exact absurd hmember List.not_mem_nil

/-- A session that begins is one member more, and no other event adds or loses one. -/
theorem members_step (h : Accounted plan w) (event : LoopEvent) :
    (w.step event).members.length = w.members.length + if event.isJoin then 1 else 0 := by
  by_cases hjoin : event.isJoin = false
  · obtain ⟨-, hreleased, hcount⟩ := reaches_perform h event hjoin
    rw [step_eq hjoin, hjoin]
    simp only [members, goTo, List.length_append, List.length_map, List.length_drop]
    simp only [Bool.false_eq_true, if_false]
    omega
  · cases event with
    | join peer endpoint =>
      have hslots := (w.loop.addSession_eq peer endpoint).1
      have hsplit : w.loop.slots.length =
          (w.loop.slots.filter (·.id = w.loop.ids.take.1)).length +
            (w.loop.slots.filter (·.id ≠ w.loop.ids.take.1)).length := by
        rw [w.loop.slots.length_eq_length_filter_add (·.id = w.loop.ids.take.1)]
        simp
      simp only [step, Watch.join, members, EventLoop.perform, hslots, List.length_append,
        List.length_map, List.length_singleton, LoopEvent.isJoin, if_true]
      omega
    | _ => exact absurd rfl hjoin

theorem members_run (h : Accounted plan w) (events : List LoopEvent) :
    (w.run events).members.length = w.members.length + events.countP LoopEvent.isJoin := by
  unfold Watch.run
  induction events generalizing w with
  | nil => rfl
  | cons event events ih =>
    have hfirst := members_step h event
    have hlater := ih (h.step event)
    rw [List.foldl_cons, hlater, hfirst, List.countP_cons]
    omega

/-! ## What has been received -/

/-- A way to read what has been written to a session: some of the greeting, and some of what is due
to it, each with its place among the messages relayed. -/
structure Received (plan : SessionPlan) (relayed : List (SessionId × Bytes)) (stay : Stay)
    (session : Session) (hello : List Bytes) (got : List (Nat × Bytes)) : Prop where
  begun : Session.Begun stay.before session.endpoint.written (hello ++ got.map Prod.snd)
  hello : hello.Sublist plan.greeting.toList
  got : got.Sublist (plan.due relayed stay.joined session.id)

/-- What has been told can be read. -/
theorem received_of_told (h : Told plan relayed stay session) :
    ∃ hello got, Received plan relayed stay session hello got := by
  obtain ⟨sender, rfl, hwire, horder⟩ := h.told
  obtain ⟨messages, hbegun, hmessages⟩ := hwire.begun
  obtain ⟨hello, frames, rfl, hhello, hframes⟩ :=
    List.sublist_append_iff.1 (hmessages.trans horder)
  obtain ⟨got, hgot, rfl⟩ := List.sublist_map_iff.1 hframes
  exact ⟨hello, got, hbegun, hhello, hgot⟩

/-- What two sessions have both received they have received in the same order. -/
theorem same_order {stay₁ stay₂ : Stay} {session₁ session₂ : Session}
    {hello₁ hello₂ : List Bytes} {got₁ got₂ : List (Nat × Bytes)}
    (h₁ : Received plan relayed stay₁ session₁ hello₁ got₁)
    (h₂ : Received plan relayed stay₂ session₂ hello₂ got₂) :
    got₁.filter (· ∈ got₂) = got₂.filter (· ∈ got₁) := by
  have hirrefl : Std.Irrefl fun a b : Nat × Bytes => a.1 < b.1 := ⟨fun a => Nat.lt_irrefl a.1⟩
  have hanti : Std.Antisymm fun a b : Nat × Bytes => a.1 < b.1 :=
    ⟨fun a b hlt hgt => absurd hgt (Nat.lt_asymm hlt)⟩
  have hsorted₁ := ((plan.pairwise_due relayed _ _).sublist h₁.got).filter (· ∈ got₂)
  have hsorted₂ := ((plan.pairwise_due relayed _ _).sublist h₂.got).filter (· ∈ got₁)
  refine hsorted₁.eq_of_mem_iff hsorted₂ fun entry => ?_
  simp only [List.mem_filter, decide_eq_true_eq]
  exact and_comm

/-- **Who receives what.** However events follow one another, every session that has ever come has
been sent some of the greeting and of the messages relayed after it came, but for its own, in order,
each at most once, and all of them whole but the last; two sessions have received what both have
received in the same order; and a session that is open and has refused and evicted nothing has been
sent everything there was for it, up to what waits in its queue. -/
theorem fan_out (plan : SessionPlan) (sockets : List SocketAddress) (events : List LoopEvent) :
    let w := (Watch.new plan sockets).run events
    let relayed := w.loop.relayed
    (w.members.length = events.countP LoopEvent.isJoin ∧
      ∀ member ∈ w.members, ∃ hello got, Received plan relayed member.2 member.1 hello got) ∧
    (∀ stay session hello got, Received plan relayed stay session hello got →
      ∀ entry ∈ got, ∃ origin payload, relayed[entry.1]? = some (origin, payload) ∧
        origin ≠ session.id ∧ stay.joined ≤ entry.1 ∧
        plan.codec.encode payload = .ok entry.2) ∧
    (∀ stay₁ stay₂ session₁ session₂ hello₁ hello₂ got₁ got₂,
      Received plan relayed stay₁ session₁ hello₁ got₁ →
      Received plan relayed stay₂ session₂ hello₂ got₂ →
      got₁.filter (· ∈ got₂) = got₂.filter (· ∈ got₁)) ∧
    (∀ slot ∈ w.loop.slots, slot.session.isDraining = false →
      (∀ answer ∈ (w.stays slot.id).answers, answer = .ok 0) →
      slot.session.endpoint.written ++ slot.session.outbound.items.flatten =
        (w.stays slot.id).before ++
          (plan.script relayed (w.stays slot.id).joined slot.id).flatten) := by
  intro w relayed
  have h : Accounted plan w := (accounted_new plan sockets).run events
  refine ⟨⟨?_, ?_⟩, ?_, ?_, ?_⟩
  · have hcount := members_run (accounted_new plan sockets) events
    rw [hcount]
    exact Nat.zero_add _
  · intro member hmember
    rcases List.mem_append.1 hmember with hhere | hgone
    · obtain ⟨slot, hslot, rfl⟩ := List.mem_map.1 hhere
      exact received_of_told (h.here slot hslot).told
    · exact received_of_told (h.gone member hgone)
  · rintro stay session hello got hreceived ⟨i, frame⟩ hentry
    exact SessionPlan.mem_due (hreceived.got.subset hentry)
  · intro stay₁ stay₂ session₁ session₂ hello₁ hello₂ got₁ got₂ h₁ h₂
    exact same_order h₁ h₂
  · intro slot hslot hopen hsmooth
    obtain ⟨sender, hsession, hfollows⟩ := (h.here slot hslot).hears
    rw [← hsession] at hopen
    rw [← hsession]
    exact hfollows.whole_script hopen hsmooth

end Watch

end ChatRelay
