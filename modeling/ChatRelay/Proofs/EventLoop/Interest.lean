import ChatRelay.Proofs.EventLoop.Members

/-!
# Interest in writing

The poller speaks up once for each change, so a session whose messages wait must have asked for
write events, and must have used up the last one that came. The first is the invariant `Fresh`: what
was last asked of the poller for a session is what its slot says, and that is what the session wants
(`fresh_acts`). It is broken for one session at a time, from when the session is put back until its
interest is made known, and for all who take a message while it is spread; `stale` says for whom.

The second is what a write that leaves something does: it has ended where it would block
(`blocked_writeReady`). Together they say that nothing waits for a write event that never comes
(`write_interest`).
-/

namespace ChatRelay

/-! ## What the poller has been asked -/

/-- Whether write events are asked for under a token, if the call is about that. -/
def PollerCall.interest? (token : Nat) : PollerCall → Option Bool
  | .register other writable | .reregister other writable =>
    if other = token then some writable else none
  | .deregister _ => none

namespace EventLoop

/-- Whether write events were asked for under a token when that was last said. -/
def asked (calls : List PollerCall) (token : Nat) : Option Bool :=
  (calls.filterMap (PollerCall.interest? token)).getLast?

theorem asked_append (calls made : List PollerCall) (token : Nat) :
    asked (calls ++ made) token = (asked made token).or (asked calls token) := by
  rw [asked, List.filterMap_append, List.getLast?_append]
  rfl

theorem asked_deregister (tokens : List Nat) (token : Nat) :
    asked (tokens.map .deregister) token = none := by
  have hnone : (tokens.map PollerCall.deregister).filterMap (PollerCall.interest? token) = [] := by
    simp [PollerCall.interest?]
  rw [asked, hnone]
  rfl

theorem asked_singleton (call : PollerCall) (token : Nat) :
    asked [call] token = call.interest? token := by
  unfold asked
  cases h : call.interest? token <;> simp [h]

theorem token_ne {id other : SessionId} (h : other ≠ id) : other.token ≠ id.token :=
  fun heq => h (congrArg SessionId.mk heq)

/-- What was asked last was asked for in a call. -/
theorem mem_of_asked {calls : List PollerCall} {token : Nat} {writable : Bool}
    (h : asked calls token = some writable) :
    .reregister token writable ∈ calls ∨ .register token writable ∈ calls := by
  obtain ⟨call, hcall, hinterest⟩ := List.mem_filterMap.1 (List.mem_of_getLast? h)
  cases call with
  | register other w =>
    right
    simp only [PollerCall.interest?] at hinterest
    split at hinterest
    · next heq =>
      cases hinterest
      exact heq ▸ hcall
    · cases hinterest
  | reregister other w =>
    left
    simp only [PollerCall.interest?] at hinterest
    split at hinterest
    · next heq =>
      cases hinterest
      exact heq ▸ hcall
    · cases hinterest
  | deregister other => cases hinterest

/-- Nobody was registered when nothing was asked for. -/
theorem not_mem_of_asked_none {calls : List PollerCall} {token : Nat} (h : asked calls token = none)
    (writable : Bool) : .register token writable ∉ calls := by
  intro hmem
  have hnil : calls.filterMap (PollerCall.interest? token) = [] := List.getLast?_eq_none_iff.1 h
  have hsome : (PollerCall.register token writable).interest? token = some writable := if_pos rfl
  have hthere : writable ∈ calls.filterMap (PollerCall.interest? token) :=
    List.mem_filterMap.2 ⟨_, hmem, hsome⟩
  rw [hnil] at hthere
  cases hthere

variable {loop loop' loop'' : EventLoop} {slot slot' : Slot} {session : Session} {id : SessionId}
  {welcome : Endpoint → Prop} {stale : SessionId → Prop}

/-! ## Calls -/

/-- Calls are only added. Whoever is there and was not before has been registered, and nobody has
but on a `welcome` connection. -/
def Registers (welcome : Endpoint → Prop) (loop loop' : EventLoop) : Prop :=
  ∃ made, loop'.calls = loop.calls ++ made ∧
    (∀ id ∈ loop'.slots.map Slot.id,
      id ∈ loop.slots.map Slot.id ∨ ∃ writable, .register id.token writable ∈ made) ∧
    ∀ token writable, .register token writable ∈ made → ∃ endpoint, welcome endpoint

/-- Nobody is registered where nobody comes. -/
theorem registers_of_ids {made : List PollerCall} (hcalls : loop'.calls = loop.calls ++ made)
    (hids : (loop'.slots.map Slot.id).Sublist (loop.slots.map Slot.id))
    (hnone : ∀ token writable, .register token writable ∉ made) : Registers welcome loop loop' :=
  ⟨made, hcalls, fun _ hid => .inl (hids.subset hid), fun token writable hmem =>
    absurd hmem (hnone token writable)⟩

theorem registers_of_same (hcalls : loop'.calls = loop.calls)
    (hids : loop'.slots.map Slot.id = loop.slots.map Slot.id) : Registers welcome loop loop' :=
  registers_of_ids (hcalls.trans (List.append_nil _).symm) (hids ▸ List.Sublist.refl _)
    fun _ _ => List.not_mem_nil

theorem Registers.refl (loop : EventLoop) : Registers welcome loop loop := registers_of_same rfl rfl

theorem Registers.trans (h : Registers welcome loop loop') (h' : Registers welcome loop' loop'') :
    Registers welcome loop loop'' := by
  obtain ⟨made, hcalls, hids, hcame⟩ := h
  obtain ⟨made', hcalls', hids', hcame'⟩ := h'
  refine ⟨made ++ made', by rw [hcalls', hcalls, List.append_assoc], fun id hid => ?_,
    fun token writable hmem => ?_⟩
  · rcases hids' id hid with hold | ⟨writable, hnew⟩
    · exact (hids id hold).imp_right fun ⟨writable, hnew⟩ =>
        ⟨writable, List.mem_append_left made' hnew⟩
    · exact .inr ⟨writable, List.mem_append_right made hnew⟩
  · rcases List.mem_append.1 hmem with hfirst | hlater
    · exact hcame token writable hfirst
    · exact hcame' token writable hlater

theorem registers_put (loop : EventLoop) (session : Session) :
    Registers welcome loop (loop.put session) :=
  registers_of_same rfl (ids_put loop session)

theorem registers_updateInterest (loop : EventLoop) (id : SessionId) :
    Registers welcome loop (loop.updateInterest id) := by
  have hids := ids_updateInterest loop id
  have hcalls : (loop.updateInterest id).calls = loop.calls ∨
      ∃ wants, (loop.updateInterest id).calls = loop.calls ++ [.reregister id.token wants] := by
    unfold updateInterest
    split
    · exact .inl rfl
    dsimp only
    split
    · exact .inl rfl
    · exact .inr ⟨_, rfl⟩
  rcases hcalls with hsame | ⟨wants, hmade⟩
  · exact registers_of_same hsame hids
  · exact registers_of_ids hmade (hids ▸ List.Sublist.refl _) (by simp)

theorem registers_foldl_updateInterest (ids : List SessionId) (loop : EventLoop) :
    Registers welcome loop (ids.foldl updateInterest loop) :=
  foldl_related Registers.refl Registers.trans registers_updateInterest ids loop

theorem calls_release (loop : EventLoop) (id : SessionId) :
    ∃ tokens : List Nat, (loop.release id).calls = loop.calls ++ tokens.map .deregister := by
  unfold release
  split
  · exact ⟨[], (List.append_nil _).symm⟩
  · exact ⟨[id.token], rfl⟩

theorem registers_release (loop : EventLoop) (id : SessionId) :
    Registers welcome loop (loop.release id) := by
  obtain ⟨tokens, htokens⟩ := calls_release loop id
  refine registers_of_ids htokens ?_ (by simp)
  rw [slots_release]
  exact List.filter_sublist.map Slot.id

theorem Stroke.registers (h : Stroke welcome loop loop') : Registers welcome loop loop' := by
  cases h with
  | tend tend =>
    cases tend with
    | @settle slot session found served =>
      exact (registers_put loop session).trans (registers_updateInterest _ session.id)
    | @dismiss slot session found =>
      exact (registers_put loop session).trans (registers_release _ session.id)
    | release id => exact registers_release loop id
  | spread origin payload =>
    have hoffered : Registers welcome loop (loop.offered origin payload) :=
      registers_of_same rfl (ids_offered loop origin payload)
    exact hoffered.trans (registers_foldl_updateInterest _ _)
  | @join peer endpoint came =>
    obtain ⟨hslots, hcalls⟩ := addSession_eq loop peer endpoint
    refine ⟨_, hcalls, fun id hid => ?_, fun _ _ _ => ⟨endpoint, came⟩⟩
    obtain ⟨slot, hslot, rfl⟩ := List.mem_map.1 hid
    rcases mem_addSession hslot with ⟨hold, -⟩ | rfl
    · exact .inl (List.mem_map_of_mem hold)
    · right
      refine ⟨(loop.plan.newcomer loop.ids.take.1 peer endpoint).wantsWrite, ?_⟩
      show PollerCall.register (SessionId.token (loop.plan.newcomer _ peer endpoint).id) _ ∈ _
      rw [loop.plan.id_newcomer loop.ids.take.1 peer endpoint]
      exact List.mem_singleton_self _
  | hear found => exact registers_put loop _
  | change found change => exact registers_put loop _
  | aside plan slots calls =>
    obtain ⟨tokens, hcalls⟩ := calls
    exact registers_of_ids hcalls (slots ▸ List.Sublist.refl _) (by simp)

theorem Strokes.registers (h : Strokes welcome loop loop') : Registers welcome loop loop' :=
  h.keeps (P := Registers welcome loop) (fun hstroke hbefore => hbefore.trans hstroke.registers)
    (.refl loop)

/-! ## Taking a message -/

theorem writable_receive (slot : Slot) (codec : Codec) (origin : SessionId) (payload : Bytes) :
    (slot.receive codec origin payload).2.writable = slot.writable := by
  unfold Slot.receive
  split
  · rfl
  split <;> rfl

/-- A session that does not take a message wants what it wanted. -/
theorem wantsWrite_receive {origin : SessionId} {payload : Bytes} (hslot : slot ∈ loop.slots)
    (hrefuses : slot.id ∉ loop.takers origin payload) :
    (slot.receive loop.plan.codec origin payload).2.session.wantsWrite =
      slot.session.wantsWrite := by
  unfold Slot.receive
  split
  · rfl
  next frame hframe =>
  split
  · rfl
  next hother =>
  simp only [takers, hframe, relay_tally] at hrefuses
  -- It was asked, so its answer is a refusal, and refusing changes nothing of what waits.
  have hanswer : ∃ error, (slot.session.enqueue frame).1 = .error error := by
    cases hanswer : (slot.session.enqueue frame).1 with
    | error error => exact ⟨error, rfl⟩
    | ok evicted =>
      refine absurd (List.mem_map.2 ⟨slot, List.mem_filter.2 ⟨hslot, ?_⟩, rfl⟩) hrefuses
      rw [decide_eq_true_iff]
      refine ⟨hother, ?_⟩
      show Standing.of (slot.session.enqueue frame).1 = _
      rw [hanswer]
      rfl
  obtain ⟨error, herror⟩ := hanswer
  show (slot.session.enqueue frame).2.wantsWrite = _
  unfold Session.wantsWrite Session.isDraining
  rw [Session.phase_enqueue, Session.items_enqueue_of_error herror]

/-! ## Interest is up to date -/

/-- What the poller was last asked for a session is what the slot says, and it is what the session
wants, but for the sessions that are `stale`. -/
structure Fresh (stale : SessionId → Prop) (loop : EventLoop) : Prop where
  distinct : loop.Distinct
  known : ∀ slot ∈ loop.slots, asked loop.calls slot.id.token = some slot.writable
  wanted : ∀ slot ∈ loop.slots, ¬ stale slot.id → slot.writable = slot.session.wantsWrite

theorem Fresh.mono {stale' : SessionId → Prop} (h : Fresh stale loop)
    (hstale : ∀ id, stale id → stale' id) : Fresh stale' loop :=
  ⟨h.distinct, h.known, fun slot hslot hfresh =>
    h.wanted slot hslot fun hold => hfresh (hstale slot.id hold)⟩

/-- A session that is put back may want something else. -/
theorem Fresh.put (h : Fresh stale loop) (session : Session) :
    Fresh (fun id => stale id ∨ id = session.id) (loop.put session) := by
  refine ⟨distinct_put h.distinct session, ?_, ?_⟩
  · intro slot' hslot'
    rcases mem_put hslot' with ⟨hold, -⟩ | ⟨slot, hslot, hid, rfl⟩
    · exact h.known slot' hold
    · have hknown := h.known slot hslot
      rwa [hid] at hknown
  · intro slot' hslot' hfresh
    rcases mem_put hslot' with ⟨hold, -⟩ | ⟨slot, hslot, hid, rfl⟩
    · exact h.wanted slot' hold fun hstale => hfresh (.inl hstale)
    · exact absurd (.inr rfl) hfresh

/-- A session that is put back and wants what it wanted leaves everything up to date. -/
theorem Fresh.put_same (h : Fresh stale loop) (found : loop.slot? session.id = some slot)
    (hwants : session.wantsWrite = slot.session.wantsWrite) : Fresh stale (loop.put session) := by
  have hput := h.put session
  refine ⟨hput.distinct, hput.known, ?_⟩
  intro slot' hslot' hfresh
  rcases mem_put hslot' with ⟨hold, -⟩ | ⟨old, hold, hid, rfl⟩
  · exact h.wanted slot' hold hfresh
  · obtain rfl := eq_of_slot? h.distinct found hold hid
    exact (h.wanted old hold (hid.symm ▸ hfresh)).trans hwants.symm

/-- A session whose interest is made known is up to date. -/
theorem Fresh.updateInterest (h : Fresh stale loop) (id : SessionId) :
    Fresh (fun other => stale other ∧ other ≠ id) (loop.updateInterest id) := by
  have hdistinct : (loop.updateInterest id).Distinct := by
    rw [Distinct, ids_updateInterest]
    exact h.distinct
  -- Nothing changes for the other sessions.
  have hother : ∀ slot ∈ loop.slots, slot.id ≠ id → ¬ (stale slot.id ∧ slot.id ≠ id) →
      slot.writable = slot.session.wantsWrite := fun slot hslot hid hfresh =>
    h.wanted slot hslot fun hstale => hfresh ⟨hstale, hid⟩
  cases found : loop.slot? id with
  | none =>
    have hsame : loop.updateInterest id = loop := by simp only [EventLoop.updateInterest, found]
    rw [hsame]
    exact ⟨h.distinct, h.known, fun slot hslot =>
      hother slot hslot (id_ne_of_not_found found hslot)⟩
  | some slot =>
    by_cases hwants : slot.session.wantsWrite = slot.writable
    · have hsame : loop.updateInterest id = loop := by
        simp only [EventLoop.updateInterest, found, if_pos hwants]
      rw [hsame]
      refine ⟨h.distinct, h.known, fun old hold hfresh => ?_⟩
      by_cases hid : old.id = id
      · rw [eq_of_slot? h.distinct found hold hid]
        exact hwants.symm
      · exact hother old hold hid hfresh
    · have hcalls : (loop.updateInterest id).calls =
          loop.calls ++ [.reregister id.token slot.session.wantsWrite] := by
        simp only [EventLoop.updateInterest, found, if_neg hwants]
        rfl
      have hslots : (loop.updateInterest id).slots = loop.slots.map fun old =>
          if old.id = id then { old with writable := slot.session.wantsWrite } else old := by
        simp only [EventLoop.updateInterest, found, if_neg hwants]
        rfl
      refine ⟨hdistinct, ?_, ?_⟩
      · intro slot' hslot'
        rw [hslots] at hslot'
        obtain ⟨old, hold, rfl⟩ := List.mem_map.1 hslot'
        rw [hcalls, asked_append]
        by_cases hid : old.id = id
        · rw [if_pos hid]
          show (asked _ old.id.token).or _ = _
          rw [hid, asked_singleton, PollerCall.interest?, if_pos rfl, Option.some_or]
        · rw [if_neg hid, asked_singleton, PollerCall.interest?, if_neg (token_ne (Ne.symm hid)),
            Option.none_or]
          exact h.known old hold
      · intro slot' hslot' hfresh
        rw [hslots] at hslot'
        obtain ⟨old, hold, rfl⟩ := List.mem_map.1 hslot'
        by_cases hid : old.id = id
        · rw [if_pos hid, eq_of_slot? h.distinct found hold hid]
        · rw [if_neg hid] at hfresh ⊢
          exact hother old hold hid hfresh

/-- Making known the interest of many sessions leaves none of them stale. -/
theorem Fresh.foldl_updateInterest (ids : List SessionId) (h : Fresh stale loop) :
    Fresh (fun other => stale other ∧ other ∉ ids) (ids.foldl EventLoop.updateInterest loop) := by
  induction ids generalizing loop stale with
  | nil => exact h.mono fun other hstale => ⟨hstale, List.not_mem_nil⟩
  | cons id ids ih =>
    refine (ih (h.updateInterest id)).mono fun other hstale => ⟨hstale.1.1, ?_⟩
    rw [List.mem_cons, not_or]
    exact ⟨hstale.1.2, hstale.2⟩

theorem Fresh.settle (h : Fresh stale loop) (session : Session) :
    Fresh stale (loop.settle session) :=
  ((h.put session).updateInterest session.id).mono fun _ hstale => hstale.1.resolve_right hstale.2

theorem Fresh.release (h : Fresh stale loop) (id : SessionId) : Fresh stale (loop.release id) := by
  refine ⟨distinct_release h.distinct id, ?_, ?_⟩
  · intro slot hslot
    obtain ⟨tokens, htokens⟩ := calls_release loop id
    rw [htokens, asked_append, asked_deregister, Option.none_or]
    exact h.known slot (mem_release.1 hslot).1
  · intro slot hslot
    exact h.wanted slot (mem_release.1 hslot).1

theorem Fresh.dismiss (h : Fresh stale loop) (session : Session) :
    Fresh stale (loop.dismiss session) := by
  have hreleased := (h.put session).release session.id
  refine ⟨hreleased.distinct, hreleased.known, fun slot hslot => ?_⟩
  exact h.wanted slot (mem_dismiss.1 hslot).1

/-- Only those who take a message may want something else after it was offered, and their interest
is made known. -/
theorem Fresh.spread (h : Fresh stale loop) (origin : SessionId) (payload : Bytes) :
    Fresh stale (loop.spread origin payload) := by
  have hoffered : Fresh (fun id => stale id ∨ id ∈ loop.takers origin payload)
      (loop.offered origin payload) := by
    refine ⟨distinct_offered h.distinct origin payload, ?_, ?_⟩
    · intro slot' hslot'
      obtain ⟨slot, hslot, rfl⟩ := List.mem_map.1 hslot'
      rw [Slot.id_receive, writable_receive]
      exact h.known slot hslot
    · intro slot' hslot' hfresh
      obtain ⟨slot, hslot, rfl⟩ := List.mem_map.1 hslot'
      rw [Slot.id_receive, not_or] at hfresh
      rw [writable_receive, wantsWrite_receive hslot hfresh.2]
      exact h.wanted slot hslot hfresh.1
  exact (hoffered.foldl_updateInterest _).mono fun _ hstale => hstale.1.resolve_right hstale.2

theorem Fresh.join (h : Fresh stale loop) (peer : String) (endpoint : Endpoint) :
    Fresh stale (loop.addSession peer endpoint) := by
  have hid := loop.plan.id_newcomer loop.ids.take.1 peer endpoint
  refine ⟨distinct_addSession h.distinct peer endpoint, ?_, ?_⟩
  · intro slot' hslot'
    rw [(addSession_eq loop peer endpoint).2, asked_append]
    rcases mem_addSession hslot' with ⟨hold, hother⟩ | rfl
    · rw [asked_singleton, PollerCall.interest?, if_neg (token_ne hother.symm), Option.none_or]
      exact h.known slot' hold
    · show (asked _ (SessionId.token (loop.plan.newcomer _ peer endpoint).id)).or _ = _
      rw [hid, asked_singleton, PollerCall.interest?, if_pos rfl, Option.some_or]
  · intro slot' hslot' hfresh
    rcases mem_addSession hslot' with ⟨hold, -⟩ | rfl
    · exact h.wanted slot' hold hfresh
    · rfl

theorem Stroke.fresh (h : Stroke welcome loop loop') (hloop : Fresh stale loop) :
    Fresh stale loop' := by
  cases h with
  | tend tend =>
    cases tend with
    | settle found served => exact hloop.settle _
    | dismiss found => exact hloop.dismiss _
    | release id => exact hloop.release id
  | spread origin payload => exact hloop.spread origin payload
  | join peer came => exact hloop.join peer _
  | @hear slot found =>
    have hreads := Session.reads_readReady slot.session
    exact hloop.put_same (hreads.id ▸ found) hreads.wantsWrite
  | @change slot found change => exact hloop.put_same found rfl
  | aside plan slots calls =>
    obtain ⟨tokens, hcalls⟩ := calls
    refine ⟨by rw [Distinct, slots]; exact hloop.distinct, ?_, slots ▸ hloop.wanted⟩
    intro slot hslot
    rw [hcalls, asked_append, asked_deregister, Option.none_or]
    exact hloop.known slot (slots ▸ hslot)

theorem Fresh.act (h : Fresh stale loop) (action : LoopAction) : Fresh stale (loop.act action) :=
  (strokes_act loop action).keeps (P := Fresh stale) Stroke.fresh h

/-- Whatever a loop has done, nobody's interest is out of date. -/
theorem fresh_acts (plan : SessionPlan) (sockets : List SocketAddress)
    (actions : List LoopAction) :
    Fresh (fun _ => False) ((EventLoop.new plan sockets).acts actions) := by
  have hnew : Fresh (fun _ => False) (EventLoop.new plan sockets) :=
    ⟨List.nodup_nil, fun slot hslot => absurd hslot List.not_mem_nil,
      fun slot hslot => absurd hslot List.not_mem_nil⟩
  exact acts_keep (fun action hloop => hloop.act action) hnew actions

/-! ## Write events -/

/-- Every session asks for write events exactly if it is open and something waits in it. -/
def UpToDate (loop : EventLoop) : Prop :=
  Fresh (fun _ => False) loop ∧ ∀ slot ∈ loop.slots, slot.session.Silent

theorem UpToDate.act (h : loop.UpToDate) (action : LoopAction) : (loop.act action).UpToDate := by
  refine ⟨h.1.act action, ?_⟩
  refine (strokes_act loop action).sessions_keep (fun event hs => hs.meet event) ?_ h.2
  intro id peer endpoint codec limits _ hdraining
  cases hdraining

theorem upToDate_acts (plan : SessionPlan) (sockets : List SocketAddress)
    (actions : List LoopAction) : ((EventLoop.new plan sockets).acts actions).UpToDate :=
  ⟨fresh_acts plan sockets actions, silent_acts plan sockets actions⟩

/-- What waits makes the session ask for write events. -/
theorem UpToDate.asked_of_waiting (h : loop.UpToDate) (hslot : slot ∈ loop.slots)
    (hwaiting : slot.session.outbound.items ≠ []) :
    asked loop.calls slot.id.token = some true := by
  have hopen : slot.session.isDraining = false :=
    Bool.eq_false_iff.2 fun hdraining => hwaiting (h.2 slot hslot hdraining)
  rw [h.1.known slot hslot, h.1.wanted slot hslot not_false, Session.wantsWrite, hopen]
  simp [hwaiting]

/-- A session in which nothing waits does not. -/
theorem UpToDate.asked_of_idle (h : loop.UpToDate) (hslot : slot ∈ loop.slots)
    (hidle : slot.session.outbound.items = []) :
    asked loop.calls slot.id.token = some false := by
  rw [h.1.known slot hslot, h.1.wanted slot hslot not_false, Session.wantsWrite, hidle]
  simp

/-- Writing that leaves something has ended where it would block. -/
theorem blocked_writeReady (h : loop.UpToDate) (hslot' : slot' ∈ (loop.writeReady id).slots)
    (hid : slot'.id = id) (hwaiting : slot'.session.outbound.items ≠ []) :
    slot'.session.endpoint.WriteBlocked := by
  cases found : loop.slot? id with
  | none =>
    have hsame : loop.writeReady id = loop := by simp only [writeReady, found]
    rw [hsame] at hslot'
    exact absurd hid (id_ne_of_not_found found hslot')
  | some slot =>
    obtain ⟨hslot, hsame⟩ := mem_of_slot? found
    cases hdraining : slot.session.isDraining with
    | true =>
      have hkeep : loop.writeReady id = loop := by
        simp only [writeReady, found, hdraining, if_true]
      rw [hkeep] at hslot'
      obtain rfl := eq_of_slot? h.1.distinct found hslot' hid
      exact absurd (h.2 slot' hslot' hdraining) hwaiting
    | false =>
      have hwritten : slot.session.writeReady.2.id = id :=
        (Session.writes_writeReady slot.session).id.trans hsame
      rcases writeReady_cases found hdraining with ⟨heq, hgoing⟩ | heq
      · rw [heq] at hslot'
        have hsession := (mem_settle hslot').resolve_left fun hother =>
          hother.2 (hid.trans hwritten.symm)
        have hwrote := Session.wrote_writeReady slot.session
        rw [hsession] at hwaiting ⊢
        generalize slot.session.writeReady = result at hwrote hgoing hwaiting
        cases hwrote with
        | drained empty => exact absurd empty hwaiting
        | pending blocked => exact blocked
        | failed gone => exact absurd rfl (hgoing _)
      · rw [heq] at hslot'
        exact absurd (hid.trans hwritten.symm) (mem_dismiss.1 hslot').2

/-- What is asked of the poller in an action. -/
def callsOf (loop : EventLoop) (action : LoopAction) : List PollerCall :=
  (loop.act action).calls.drop loop.calls.length

theorem calls_act (loop : EventLoop) (action : LoopAction) :
    (loop.act action).calls = loop.calls ++ loop.callsOf action := by
  obtain ⟨made, hcalls, -⟩ := (strokes_act loop action).registers
  rw [callsOf, hcalls, List.drop_left]

/-- Only where connections are accepted is anybody registered. -/
theorem accepts_of_register {action : LoopAction} {token : Nat} {writable : Bool}
    (h : .register token writable ∈ loop.callsOf action) : action.accepts = true := by
  cases haccepts : action.accepts with
  | true => rfl
  | false =>
    have hstrokes : Strokes (fun _ => False) loop (loop.act action) :=
      strokes_act_of_not_accepts haccepts
    obtain ⟨made, hcalls, -, hcame⟩ := hstrokes.registers
    rw [callsOf, hcalls, List.drop_left] at h
    obtain ⟨endpoint, hnobody⟩ := hcame token writable h
    exact hnobody.elim

/-- Whether the poller owes a session a write event after an action. Asking for write events, also
again, makes it owe one. The event is no longer owed when it has come, unless writing would have
blocked: then it will come when there is room. -/
def owedAfter (loop : EventLoop) (action : LoopAction) (owed : SessionId → Prop)
    (id : SessionId) : Prop :=
  match asked (loop.callsOf action) id.token with
  | some writable => writable = true
  | none =>
    if action = .dispatch (.write id) then
      ∃ slot ∈ (loop.act action).slots, slot.id = id ∧ slot.session.endpoint.WriteBlocked
    else owed id

/-- Whether the poller owes a session a write event after actions one after another. -/
def owes (loop : EventLoop) (owed : SessionId → Prop) : List LoopAction → SessionId → Prop
  | [] => owed
  | action :: later => (loop.act action).owes (loop.owedAfter action owed) later

/-- Whoever has something to send is owed a write event. -/
def Owed (loop : EventLoop) (owed : SessionId → Prop) : Prop :=
  ∀ slot ∈ loop.slots, slot.session.outbound.items ≠ [] → owed slot.id

theorem Owed.act {owed : SessionId → Prop} (hdate : loop.UpToDate) (h : loop.Owed owed)
    (action : LoopAction) : (loop.act action).Owed (loop.owedAfter action owed) := by
  intro slot' hslot' hwaiting
  have hasked := (hdate.act action).asked_of_waiting hslot' hwaiting
  obtain ⟨made, hmade, hids, -⟩ := (strokes_act loop action).registers
  have hcalls : loop.callsOf action = made := by rw [callsOf, hmade, List.drop_left]
  rw [hmade, asked_append] at hasked
  unfold owedAfter
  rw [hcalls]
  cases hnew : asked made slot'.id.token with
  | some writable =>
    rw [hnew, Option.some_or] at hasked
    exact Option.some.inj hasked
  | none =>
    rw [hnew, Option.none_or] at hasked
    dsimp only
    split
    · next hwrite =>
      subst hwrite
      exact ⟨slot', hslot', rfl, blocked_writeReady hdate hslot' rfl hwaiting⟩
    · -- Nobody has come, and the session asked for write events before: something waited then.
      have hold : slot'.id ∈ loop.slots.map Slot.id := by
        rcases hids _ (List.mem_map_of_mem hslot') with hold | ⟨writable, hregistered⟩
        · exact hold
        · exact absurd hregistered (not_mem_of_asked_none hnew writable)
      obtain ⟨slot, hslot, hid⟩ := List.mem_map.1 hold
      rw [← hid] at hasked ⊢
      refine h slot hslot fun hidle => ?_
      rw [hdate.asked_of_idle hslot hidle] at hasked
      cases hasked

theorem Owed.acts {owed : SessionId → Prop} (hdate : loop.UpToDate) (h : loop.Owed owed)
    (actions : List LoopAction) : (loop.acts actions).Owed (loop.owes owed actions) := by
  induction actions generalizing loop owed with
  | nil => exact h
  | cons action actions ih => exact ih (hdate.act action) (h.act hdate action)

/-- **Nothing waits for a write event that never comes.** Whatever a loop has done, every session
asks for write events exactly if it is open and something waits in it, and the poller was told so.
When something begins to wait in an open session, the poller is asked again, unless the identity has
gone to a session that was just accepted and registered; writing that leaves something has ended
where it would block; and so whoever has something to send is owed a write event. -/
theorem write_interest (plan : SessionPlan) (sockets : List SocketAddress)
    (actions : List LoopAction) :
    let loop := (EventLoop.new plan sockets).acts actions
    (∀ slot ∈ loop.slots,
      slot.writable = (!slot.session.isDraining && slot.session.outbound.items != []) ∧
        asked loop.calls slot.id.token = some slot.writable) ∧
    (∀ action, (loop.act action).calls = loop.calls ++ loop.callsOf action ∧
      ∀ slot ∈ loop.slots, slot.session.isDraining = false → slot.session.outbound.items = [] →
        ∀ slot' ∈ (loop.act action).slots, slot'.id = slot.id →
          slot'.session.outbound.items ≠ [] →
          .reregister slot.id.token true ∈ loop.callsOf action ∨
            action.accepts = true ∧ .register slot.id.token true ∈ loop.callsOf action) ∧
    (∀ id, ∀ slot ∈ (loop.act (.dispatch (.write id))).slots, slot.id = id →
      slot.session.outbound.items ≠ [] → slot.session.endpoint.WriteBlocked) ∧
    (∀ slot ∈ loop.slots, slot.session.outbound.items ≠ [] →
      (EventLoop.new plan sockets).owes (fun _ => False) actions slot.id) := by
  intro loop
  have hdate : loop.UpToDate := upToDate_acts plan sockets actions
  refine ⟨?_, ?_, ?_, ?_⟩
  · intro slot hslot
    exact ⟨hdate.1.wanted slot hslot not_false, hdate.1.known slot hslot⟩
  · intro action
    refine ⟨calls_act loop action, ?_⟩
    intro slot hslot _ hidle slot' hslot' hid hwaiting
    have hasked := (hdate.act action).asked_of_waiting hslot' hwaiting
    rw [calls_act, asked_append, hid, hdate.asked_of_idle hslot hidle] at hasked
    have hnew : asked (loop.callsOf action) slot.id.token = some true := by
      cases hnew : asked (loop.callsOf action) slot.id.token with
      | none =>
        rw [hnew, Option.none_or] at hasked
        cases hasked
      | some writable =>
        rw [hnew, Option.some_or] at hasked
        exact hasked
    exact (mem_of_asked hnew).imp_right fun hregistered =>
      ⟨accepts_of_register hregistered, hregistered⟩
  · intro id slot hslot hid hwaiting
    exact blocked_writeReady hdate hslot hid hwaiting
  · have hnew : (EventLoop.new plan sockets).Owed fun _ => False :=
      fun slot hslot => absurd hslot List.not_mem_nil
    exact hnew.acts (upToDate_acts plan sockets []) actions

end EventLoop

end ChatRelay
