import ChatRelay.Proofs.EventLoop.Inbound

/-!
# Tokens

The poller knows everything by a token. The waker has the first one, the listeners have those behind
it, and the token of a session is its number, which nobody compares with the others.

What a loop does gives tokens away to those who come, and to nobody else: these are the identities
that are handed out next, and with those who came before they are all the sessions that are there
or gone (`Begins`, `begins_act`). So the tokens of a run are known (`begins_acts`), and they are
apart exactly as long as the listeners are few, or nobody has come (`tokens_apart`). Of many
listeners, one has the token of the first session, and nothing that the session sends is ever read
(`first_session_unheard`).
-/

namespace ChatRelay

/-! ## Identities handed out -/

namespace SessionIds

/-- Handing out some identities and then more is handing out all of them. -/
theorem takeMany_add (ids : SessionIds) (m n : Nat) :
    ids.takeMany (m + n) =
      ((ids.takeMany m).1 ++ ((ids.takeMany m).2.takeMany n).1,
        ((ids.takeMany m).2.takeMany n).2) := by
  induction m generalizing ids with
  | zero =>
    rw [Nat.zero_add]
    rfl
  | succ m ih =>
    rw [Nat.succ_add]
    simp only [takeMany, ih, List.cons_append]

/-- Up to the largest machine word, identities are handed out in their order. -/
theorem takeMany_of_room {n : Nat} {ids : SessionIds} (h : ids.next + n ≤ maxSize) :
    (ids.takeMany n).1 = (List.range' ids.next n).map SessionId.mk := by
  induction n generalizing ids with
  | zero => rfl
  | succ n ih =>
    have hnext : ids.take.2 = ⟨ids.next + 1⟩ :=
      congrArg SessionIds.mk (Nat.mod_eq_of_lt (by omega))
    have hroom : ids.take.2.next + n ≤ maxSize := by
      rw [hnext]
      show ids.next + 1 + n ≤ maxSize
      omega
    have hlater := ih hroom
    rw [hnext] at hlater
    rw [List.range'_succ, List.map_cons, ← hlater, ← hnext]
    rfl

end SessionIds

/-! ## Tokens given away -/

/-- The token that is given away in a call, if one is. -/
def PollerCall.registered? : PollerCall → Option Nat
  | .register token _ => some token
  | .reregister _ _ | .deregister _ => none

namespace EventLoop

variable {loop loop' loop'' : EventLoop} {came came' : List SessionId} {id : SessionId}
  {welcome : Endpoint → Prop}

/-- The tokens that were given away, one after another. -/
def tokens (loop : EventLoop) : List Nat := loop.calls.filterMap PollerCall.registered?

/-- The sessions that have begun, where the waker and some listeners were given tokens before. -/
def begun (listeners : Nat) (loop : EventLoop) : List SessionId :=
  (loop.tokens.drop (1 + listeners)).map .ofToken

/-- The sessions that are there or gone. -/
def members (loop : EventLoop) : List SessionId :=
  loop.slots.map Slot.id ++ loop.released.map Session.id

/-- The loop has become another one while some sessions began: they have the identities that were
handed out next, tokens were given to them and to nobody else, and all who are there or gone were so
before, or are among them. -/
structure Begins (came : List SessionId) (loop loop' : EventLoop) : Prop where
  ids : loop.ids.takeMany came.length = (came, loop'.ids)
  tokens : loop'.tokens = loop.tokens ++ came.map SessionId.token
  members : ∀ id, id ∈ loop'.members ↔ id ∈ loop.members ∨ id ∈ came

/-- Nobody begins where no identity is handed out and no token is given away. -/
theorem begins_none (hids : loop'.ids = loop.ids) (htokens : loop'.tokens = loop.tokens)
    (hmembers : ∀ id, id ∈ loop'.members ↔ id ∈ loop.members) : Begins [] loop loop' := by
  refine ⟨?_, ?_, fun id => ?_⟩
  · rw [hids]
    rfl
  · rw [htokens, List.map_nil, List.append_nil]
  · rw [hmembers id]
    simp

theorem Begins.refl (loop : EventLoop) : Begins [] loop loop := begins_none rfl rfl fun _ => .rfl

theorem Begins.trans (h : Begins came loop loop') (h' : Begins came' loop' loop'') :
    Begins (came ++ came') loop loop'' := by
  refine ⟨?_, ?_, fun id => ?_⟩
  · rw [List.length_append, SessionIds.takeMany_add, h.ids, h'.ids]
  · rw [h'.tokens, h.tokens, List.append_assoc, List.map_append]
  · rw [h'.members, h.members, List.mem_append, or_assoc]

/-! ## What gives no token away -/

theorem tokens_append {made : List PollerCall} (hcalls : loop'.calls = loop.calls ++ made)
    (hnone : ∀ call ∈ made, call.registered? = none) : loop'.tokens = loop.tokens := by
  have hmade : made.filterMap PollerCall.registered? = [] := List.filterMap_eq_nil_iff.2 hnone
  rw [tokens, hcalls, List.filterMap_append, hmade, List.append_nil, tokens]

/-- Nobody begins where the same sessions are there and gone. -/
theorem begins_of_same (hids : loop'.ids = loop.ids) (htokens : loop'.tokens = loop.tokens)
    (hslots : loop'.slots.map Slot.id = loop.slots.map Slot.id)
    (hreleased : loop'.released = loop.released) : Begins [] loop loop' := by
  refine begins_none hids htokens fun id => ?_
  rw [members, members, hslots, hreleased]

theorem begins_put (loop : EventLoop) (session : Session) : Begins [] loop (loop.put session) :=
  begins_of_same rfl rfl (ids_put loop session) rfl

theorem begins_updateInterest (loop : EventLoop) (id : SessionId) :
    Begins [] loop (loop.updateInterest id) := by
  have hrest : (loop.updateInterest id).ids = loop.ids ∧
      (loop.updateInterest id).tokens = loop.tokens ∧
      (loop.updateInterest id).released = loop.released := by
    unfold updateInterest
    split
    · exact ⟨rfl, rfl, rfl⟩
    dsimp only
    split
    · exact ⟨rfl, rfl, rfl⟩
    · exact ⟨rfl, tokens_append rfl (by simp [PollerCall.registered?]), rfl⟩
  obtain ⟨hids, htokens, hreleased⟩ := hrest
  exact begins_of_same hids htokens (ids_updateInterest loop id) hreleased

theorem begins_foldl_updateInterest (ids : List SessionId) (loop : EventLoop) :
    Begins [] loop (ids.foldl updateInterest loop) :=
  foldl_related Begins.refl Begins.trans begins_updateInterest ids loop

theorem mem_ids_without {slots : List Slot} {other : SessionId} :
    other ∈ (slots.filter (·.id ≠ id)).map Slot.id ↔ other ∈ slots.map Slot.id ∧ other ≠ id := by
  have hfilter : (slots.filter (·.id ≠ id)).map Slot.id = (slots.map Slot.id).filter (· ≠ id) := by
    rw [List.filter_map]
    rfl
  rw [hfilter, List.mem_filter, decide_eq_true_iff]

/-- Who is let go of is gone. -/
theorem begins_release (loop : EventLoop) (id : SessionId) : Begins [] loop (loop.release id) := by
  unfold release
  split
  · exact .refl loop
  next slot found =>
  obtain ⟨hslot, rfl⟩ := mem_of_slot? found
  have hthere : slot.id ∈ loop.slots.map Slot.id := List.mem_map_of_mem hslot
  refine begins_none rfl (tokens_append rfl (by simp [PollerCall.registered?])) fun other => ?_
  simp only [members, call, List.map_append, List.map_singleton, List.mem_append,
    List.mem_singleton, mem_ids_without]
  constructor
  · rintro (⟨hstays, -⟩ | hgone | rfl)
    · exact .inl hstays
    · exact .inr hgone
    · exact .inl hthere
  · rintro (hold | hgone)
    · by_cases hother : other = slot.id
      · exact .inr (.inr hother)
      · exact .inl ⟨hold, hother⟩
    · exact .inr (.inl hgone)

theorem Tend.begins (h : Tend loop loop') : Begins [] loop loop' := by
  cases h with
  | @settle slot session found served =>
    exact (begins_put loop session).trans (begins_updateInterest _ session.id)
  | @dismiss slot session found =>
    exact (begins_put loop session).trans (begins_release _ session.id)
  | release id => exact begins_release loop id

theorem begins_spread (origin : SessionId) (loop : EventLoop) (payload : Bytes) :
    Begins [] loop (loop.spread origin payload) := by
  have hoffered : Begins [] loop (loop.offered origin payload) :=
    begins_of_same rfl rfl (ids_offered loop origin payload) rfl
  exact hoffered.trans (begins_foldl_updateInterest _ _)

/-! ## Who begins -/

/-- Whoever comes has the identity that is handed out next. A session that still had it is dropped,
but its identity is there again. -/
theorem begins_addSession (loop : EventLoop) (peer : String) (endpoint : Endpoint) :
    Begins [loop.ids.take.1] loop (loop.addSession peer endpoint) := by
  obtain ⟨hslots, hcalls⟩ := addSession_eq loop peer endpoint
  have hnew : Slot.id ⟨loop.plan.newcomer loop.ids.take.1 peer endpoint,
      (loop.plan.newcomer loop.ids.take.1 peer endpoint).wantsWrite⟩ = loop.ids.take.1 :=
    loop.plan.id_newcomer loop.ids.take.1 peer endpoint
  have hreleased : (loop.addSession peer endpoint).released = loop.released := rfl
  refine ⟨rfl, ?_, fun other => ?_⟩
  · rw [tokens, hcalls, List.filterMap_append]
    rfl
  simp only [members, hslots, hreleased, List.map_append, List.map_singleton, hnew,
    List.mem_append, List.mem_singleton, mem_ids_without]
  constructor
  · rintro ((⟨hold, -⟩ | hcame) | hgone)
    · exact .inl (.inl hold)
    · exact .inr hcame
    · exact .inl (.inr hgone)
  · rintro ((hold | hgone) | hcame)
    · by_cases hother : other = loop.ids.take.1
      · exact .inl (.inr hother)
      · exact .inl (.inl ⟨hold, hother⟩)
    · exact .inr hgone
    · exact .inl (.inr hcame)

/-- With each stroke some sessions begin, or nobody. -/
theorem Stroke.begins (h : Stroke welcome loop loop') : ∃ came, Begins came loop loop' := by
  cases h with
  | tend tend => exact ⟨[], tend.begins⟩
  | spread origin payload => exact ⟨[], begins_spread origin loop payload⟩
  | join peer came => exact ⟨_, begins_addSession loop peer _⟩
  | hear found => exact ⟨[], begins_put loop _⟩
  | change found change => exact ⟨[], begins_put loop _⟩
  | aside plan slots calls ids released =>
    obtain ⟨tokens, hcalls⟩ := calls
    have hnone : ∀ call ∈ tokens.map PollerCall.deregister, call.registered? = none := by
      simp [PollerCall.registered?]
    exact ⟨[], begins_of_same ids (tokens_append hcalls hnone) (slots ▸ rfl) released⟩

theorem begins_act (loop : EventLoop) (action : LoopAction) :
    ∃ came, Begins came loop (loop.act action) := by
  refine (strokes_act loop action).keeps (P := fun loop' => ∃ came, Begins came loop loop') ?_
    ⟨[], .refl loop⟩
  rintro _ _ hstroke ⟨came, hbefore⟩
  obtain ⟨came', hnow⟩ := hstroke.begins
  exact ⟨came ++ came', hbefore.trans hnow⟩

/-! ## Runs -/

/-- The waker and the listeners are given the first tokens. -/
theorem tokens_new (plan : SessionPlan) (sockets : List SocketAddress) :
    (EventLoop.new plan sockets).tokens =
      wakeToken :: List.range' firstListenerToken sockets.length := by
  have hcalls : (EventLoop.new plan sockets).calls = .register wakeToken false ::
      (List.range' firstListenerToken sockets.length).map fun token => .register token false := by
    refine congrArg (List.cons _) ?_
    apply List.ext_getElem <;> simp
  have hwaker : (PollerCall.register wakeToken false).registered? = some wakeToken := rfl
  have hlisteners : PollerCall.registered? ∘ (fun token => .register token false) = some := rfl
  rw [tokens, hcalls, List.filterMap_cons_some hwaker, List.filterMap_map, hlisteners,
    List.filterMap_some]

/-- Those who come to a new loop are those who have begun. -/
theorem Begins.begun_eq {plan : SessionPlan} {sockets : List SocketAddress}
    (h : Begins came (EventLoop.new plan sockets) loop) : loop.begun sockets.length = came := by
  have hfirst : (wakeToken :: List.range' firstListenerToken sockets.length).length =
      1 + sockets.length := by
    rw [List.length_cons, List.length_range', Nat.add_comm]
  rw [begun, h.tokens, tokens_new, ← hfirst, List.drop_left, List.map_map]
  exact List.map_id came

/-- What a run gives away, it gives to the sessions that have begun in it. -/
theorem begins_acts (plan : SessionPlan) (sockets : List SocketAddress)
    (actions : List LoopAction) :
    Begins (((EventLoop.new plan sockets).acts actions).begun sockets.length)
      (EventLoop.new plan sockets) ((EventLoop.new plan sockets).acts actions) := by
  obtain ⟨came, hcame⟩ : ∃ came, Begins came (EventLoop.new plan sockets)
      ((EventLoop.new plan sockets).acts actions) := by
    refine acts_keep (P := fun loop => ∃ came, Begins came (EventLoop.new plan sockets) loop) ?_
      ⟨[], .refl _⟩ actions
    rintro loop action ⟨came, hbefore⟩
    obtain ⟨came', hnow⟩ := begins_act loop action
    exact ⟨came ++ came', hbefore.trans hnow⟩
  rwa [hcame.begun_eq]

theorem listenerTokens_acts (plan : SessionPlan) (sockets : List SocketAddress)
    (actions : List LoopAction) :
    let loop := (EventLoop.new plan sockets).acts actions
    loop.listeners.map Listener.token = List.range' firstListenerToken sockets.length ∨
      loop.listeners = [] := by
  refine acts_keep (P := fun loop => loop.listeners.map Listener.token =
    List.range' firstListenerToken sockets.length ∨ loop.listeners = []) ?_
    (.inl (listenerTokens_new plan sockets)) actions
  intro loop action hbefore
  rcases hbefore with htokens | hnone
  · exact (listeners_act loop action).1.imp_left fun hsame => hsame.trans htokens
  · exact .inr (listeners_act_of_deaf hnone action)

/-- Tokens up to the number of the listeners are theirs, until they are given up. -/
theorem mem_listenerTokens_acts (plan : SessionPlan) (sockets : List SocketAddress)
    (actions : List LoopAction) (token : Nat) :
    let loop := (EventLoop.new plan sockets).acts actions
    token ∈ loop.listeners.map Listener.token ↔
      0 < token ∧ token ≤ sockets.length ∧ loop.listeners ≠ [] := by
  intro loop
  have hkept : loop.listeners ≠ [] → loop.listeners.map Listener.token =
      List.range' firstListenerToken sockets.length :=
    (listenerTokens_acts plan sockets actions).resolve_right
  constructor
  · intro hmem
    have hheard : loop.listeners ≠ [] := by
      intro hnone
      rw [hnone] at hmem
      cases hmem
    rw [hkept hheard, List.mem_range'_1] at hmem
    exact ⟨hmem.1, Nat.lt_one_add_iff.1 hmem.2, hheard⟩
  · rintro ⟨hpos, hle, hheard⟩
    rw [hkept hheard, List.mem_range'_1]
    exact ⟨hpos, Nat.lt_one_add_iff.2 hle⟩

end EventLoop

/-! ## Events of sessions -/

/-- What an event asks to be done for a session. -/
def PollEvent.workFor (event : PollEvent) (id : SessionId) : List Readiness :=
  if event.failed then [.failed id]
  else
    (if event.readable || event.readClosed then [.read id] else []) ++
      if event.writable then [.write id] else []

namespace EventLoop

variable {loop : EventLoop} {id : SessionId}

/-- An event under the token of a session is for the session, unless a listener has that token. -/
theorem readiness_of_session (loop : EventLoop) {event : PollEvent}
    (htoken : event.token = id.token) (hwake : id.token ≠ wakeToken) :
    loop.readiness event =
      if id.token ∈ loop.listeners.map Listener.token then [.accept id.token]
      else event.workFor id := by
  have hlistens : loop.listeners.any (·.token = id.token) = true ↔
      id.token ∈ loop.listeners.map Listener.token := by
    simp
  simp only [readiness, htoken, if_neg hwake, hlistens]
  rfl

/-- Tokens of listeners and of sessions are apart unless the ones reach the others. -/
theorem nodup_tokens_iff (listeners sessions : Nat) :
    (wakeToken :: (List.range' firstListenerToken listeners ++
      List.range' SessionIds.first sessions)).Nodup ↔
        listeners < SessionIds.first ∨ sessions = 0 := by
  have hwaker : wakeToken ∉ List.range' firstListenerToken listeners ++
      List.range' SessionIds.first sessions := by
    simp [wakeToken, firstListenerToken, SessionIds.first]
  have hlisteners : (List.range' firstListenerToken listeners).Nodup := List.nodup_range' 1
  have hsessions : (List.range' SessionIds.first sessions).Nodup := List.nodup_range' 1
  rw [List.nodup_cons, List.nodup_append]
  simp only [hwaker, hlisteners, hsessions, not_false_eq_true, true_and, List.mem_range'_1]
  have hone : firstListenerToken = 1 := rfl
  constructor
  · intro hapart
    by_contra hnot
    have hmany : SessionIds.first ≤ listeners := by omega
    have hlistener : firstListenerToken ≤ SessionIds.first ∧
        SessionIds.first < firstListenerToken + listeners :=
      ⟨by decide, by omega⟩
    exact hapart SessionIds.first hlistener SessionIds.first (by omega) rfl
  · intro hfew token htoken other hother heq
    omega

/-- **Tokens are apart as long as the listeners are few.** In a run in which the numbers do not come
round, the waker has the first token, the listeners have those behind it, and the sessions that are
there or gone have their numbers, from 1024 on. These are pairwise different exactly if there are
fewer than 1024 listeners, or no session has begun. An event under the token of a session is then
for the session; where there are more listeners, it is for one of them if the number of the session
is not above theirs, until the listeners are given up. -/
theorem tokens_apart (plan : SessionPlan) (sockets : List SocketAddress)
    (actions : List LoopAction)
    (hfew : (((EventLoop.new plan sockets).acts actions).begun sockets.length).length <
      maxSize + 1 - SessionIds.first) :
    let loop := (EventLoop.new plan sockets).acts actions
    let begun := loop.begun sockets.length
    loop.tokens = wakeToken :: (List.range' firstListenerToken sockets.length ++
      begun.map SessionId.token) ∧
    begun = (List.range' SessionIds.first begun.length).map SessionId.mk ∧
    (∀ id, id ∈ loop.members ↔ id ∈ begun) ∧
    (loop.tokens.Nodup ↔ sockets.length < SessionIds.first ∨ begun = []) ∧
    ∀ id ∈ begun, ∀ event : PollEvent, event.token = id.token →
      loop.readiness event =
        if id.number ≤ sockets.length ∧ loop.listeners ≠ [] then [.accept id.token]
        else event.workFor id := by
  intro loop begun
  have hbegins : Begins begun (EventLoop.new plan sockets) loop := begins_acts plan sockets actions
  have htokens : loop.tokens = wakeToken :: (List.range' firstListenerToken sockets.length ++
      begun.map SessionId.token) := by
    rw [hbegins.tokens, tokens_new, List.cons_append]
  have hroom : SessionIds.new.next + begun.length ≤ maxSize := by
    show SessionIds.first + begun.length ≤ maxSize
    change begun.length < _ at hfew
    omega
  have hnumbers : begun = (List.range' SessionIds.first begun.length).map SessionId.mk :=
    (congrArg Prod.fst hbegins.ids).symm.trans (SessionIds.takeMany_of_room hroom)
  have hgiven : begun.map SessionId.token = List.range' SessionIds.first begun.length := by
    rw [hnumbers, List.map_map, List.length_map, List.length_range']
    exact List.map_id _
  refine ⟨htokens, hnumbers, fun id => ?_, ?_, fun id hid event htoken => ?_⟩
  · rw [hbegins.members]
    exact or_iff_right List.not_mem_nil
  · rw [htokens, hgiven, nodup_tokens_iff, List.length_eq_zero_iff]
  · have hnumber : id.token ∈ List.range' SessionIds.first begun.length :=
      hgiven ▸ List.mem_map_of_mem hid
    have hfirst : SessionIds.first ≤ id.token := (List.mem_range'_1.1 hnumber).1
    have hwake : id.token ≠ wakeToken := Nat.ne_of_gt (Nat.lt_of_lt_of_le (by decide) hfirst)
    have htaken : id.token ∈ loop.listeners.map Listener.token ↔
        id.number ≤ sockets.length ∧ loop.listeners ≠ [] :=
      (mem_listenerTokens_acts plan sockets actions id.token).trans
        (and_iff_right (Nat.pos_of_ne_zero hwake))
    simp only [readiness_of_session loop htoken hwake, htaken]

/-- Two listeners, to one of which somebody came. -/
theorem tokens_apart_two_listeners :
    let plan : SessionPlan := ⟨.lines none 0, .standard, none, nanos 3000, nanos 100⟩
    let sockets : List SocketAddress := [⟨.localhost, 27015⟩, ⟨.localhost, 27016⟩]
    let actions : List LoopAction :=
      [.outside (.comes 2 (.connection "a" .idle)), .dispatch (.accept 2)]
    let loop := (EventLoop.new plan sockets).acts actions
    (loop.begun sockets.length).length < maxSize + 1 - SessionIds.first ∧
      loop.tokens = [0, 1, 2, 1024] ∧ loop.tokens.Nodup ∧
      ∀ event : PollEvent, event.token = 1024 → loop.readiness event = event.workFor ⟨1024⟩ := by
  intro plan sockets actions loop
  have hbegun : loop.begun sockets.length = [⟨1024⟩] := by decide +kernel
  have hfew : (loop.begun sockets.length).length < maxSize + 1 - SessionIds.first := by
    rw [hbegun]
    decide
  obtain ⟨htokens, -, -, hapart, hevents⟩ := tokens_apart plan sockets actions hfew
  refine ⟨hfew, ?_, hapart.2 (.inl (by decide)), fun event htoken => ?_⟩
  · rw [htokens, hbegun]
    rfl
  · have hfor := hevents ⟨1024⟩ (hbegun ▸ List.mem_singleton_self _) event htoken
    rwa [if_neg (by decide)] at hfor

/-! ## Too many listeners -/

/-- Accepting the only one who waits begins a session, and leaves nobody waiting there. -/
theorem acceptReady_of_one {token : Nat} {listener : Listener} {peer : String} {endpoint : Endpoint}
    (found : loop.listeners.find? (·.token = token) = some listener)
    (hone : listener.backlog = [.connection peer endpoint]) :
    loop.acceptReady token = { loop.addSession peer endpoint with
      listeners := loop.listeners.map fun l =>
        if l.token = token then { l with backlog := [], lastFault := some Endpoint.wouldBlock }
        else l } := by
  have hblocked : Endpoint.wouldBlock.kind = .wouldBlock := rfl
  simp only [acceptReady, found, hone, acceptFrom, hblocked, true_or, if_true]
  rfl

/-- Nobody is accepted where nobody waits. -/
theorem slots_acceptReady (h : ∀ l ∈ loop.listeners, l.backlog = []) (token : Nat) :
    (loop.acceptReady token).slots = loop.slots := by
  unfold acceptReady
  split
  · rfl
  next listener found =>
  rw [h listener (List.mem_of_find?_eq_some found)]
  dsimp only [acceptFrom]
  split <;> rfl

/-- When the first who comes to a new loop was accepted, a session has begun, and nobody waits. -/
theorem acts_welcome (plan : SessionPlan) (socket : SocketAddress) (others : List SocketAddress)
    (peer : String) (endpoint : Endpoint) :
    ∃ listeners : List Listener, listeners ≠ [] ∧ (∀ l ∈ listeners, l.backlog = []) ∧
      (EventLoop.new plan (socket :: others)).acts
          [.outside (.comes 1 (.connection peer endpoint)), .dispatch (.accept 1)] =
        { (EventLoop.new plan (socket :: others)).addSession peer endpoint with
          listeners := listeners } := by
  have found : ((EventLoop.new plan (socket :: others)).happen
      (.comes 1 (.connection peer endpoint))).listeners.find? (·.token = 1) =
        some ⟨1, socket, [.connection peer endpoint], none⟩ := by
    simp [happen, EventLoop.new, List.mapIdx_cons, firstListenerToken]
  refine ⟨_, ?_, ?_, acceptReady_of_one found rfl⟩
  · rw [ne_eq, List.map_eq_nil_iff]
    exact List.ne_nil_of_mem (List.mem_of_find?_eq_some found)
  · intro l hl
    obtain ⟨waiting, hwaiting, rfl⟩ := List.mem_map.1 hl
    obtain ⟨old, hold, rfl⟩ := List.mem_map.1 hwaiting
    have hempty : old.backlog = [] := by
      obtain ⟨i, hi, rfl⟩ := List.mem_mapIdx.1 hold
      rfl
    by_cases hfirst : old.token = 1
    · simp [hfirst]
    · simp [hfirst, hempty]

/-- From 1024 listeners on, one has the token of the first session that begins, and whatever the
poller says of the session is taken for the listener. So the session stays as it came. -/
theorem first_session_of_many (plan : SessionPlan) (socket : SocketAddress)
    (others : List SocketAddress) (hmany : SessionIds.first ≤ (socket :: others).length)
    (peer : String) (endpoint : Endpoint) :
    let loop := (EventLoop.new plan (socket :: others)).acts
      [.outside (.comes 1 (.connection peer endpoint)), .dispatch (.accept 1)]
    let session := plan.newcomer ⟨SessionIds.first⟩ peer endpoint
    loop.begun (socket :: others).length = [⟨SessionIds.first⟩] ∧ ¬ loop.tokens.Nodup ∧
      loop.slots = [⟨session, session.wantsWrite⟩] ∧
      ∀ event : PollEvent, event.token = SessionIds.first →
        loop.readiness event = [.accept SessionIds.first] ∧
          (loop.handle event).slots = loop.slots := by
  intro loop session
  obtain ⟨listeners, hheard, hnobody, hloop⟩ := acts_welcome plan socket others peer endpoint
  change loop = { (EventLoop.new plan (socket :: others)).addSession peer endpoint with
    listeners := listeners } at hloop
  have hlisteners : loop.listeners = listeners := hloop ▸ rfl
  have hslots : loop.slots = [⟨session, session.wantsWrite⟩] := by
    rw [hloop]
    exact (addSession_eq (EventLoop.new plan (socket :: others)) peer endpoint).1
  have hsame : Begins [] ((EventLoop.new plan (socket :: others)).addSession peer endpoint)
      loop := by
    rw [hloop]
    exact begins_of_same rfl rfl rfl rfl
  have hbegins : Begins [⟨SessionIds.first⟩] (EventLoop.new plan (socket :: others)) loop :=
    (begins_addSession _ peer endpoint).trans hsame
  refine ⟨hbegins.begun_eq, ?_, hslots, fun event htoken => ?_⟩
  · have hshared := nodup_tokens_iff (socket :: others).length 1
    rw [hbegins.tokens, tokens_new, List.cons_append]
    intro hnodup
    have hfew := (hshared.1 hnodup).resolve_right Nat.one_ne_zero
    exact absurd hmany (Nat.not_le_of_lt hfew)
  · have hlistener : SessionIds.first ∈ loop.listeners.map Listener.token :=
      (mem_listenerTokens_acts plan (socket :: others) _ SessionIds.first).2
        ⟨by decide, hmany, hlisteners ▸ hheard⟩
    have hwake : SessionId.token ⟨SessionIds.first⟩ ≠ wakeToken := by decide
    have hreadiness : loop.readiness event = [.accept SessionIds.first] :=
      (readiness_of_session loop htoken hwake).trans (if_pos hlistener)
    refine ⟨hreadiness, ?_⟩
    rw [handle, hreadiness]
    exact slots_acceptReady (hlisteners ▸ hnobody) SessionIds.first

/-- Of 1024 listeners, the last one has the token of the first session: a message that has come in
for the session is not read. -/
theorem first_session_unheard :
    let plan : SessionPlan := ⟨.lines none 0, .standard, none, nanos 3000, nanos 100⟩
    let sockets : List SocketAddress := List.replicate 1024 ⟨.localhost, 0⟩
    let endpoint := { Endpoint.idle with arrivals := [.data (Bytes.ofText "hello\n")] }
    let loop := (EventLoop.new plan sockets).acts
      [.outside (.comes 1 (.connection "a" endpoint)), .dispatch (.accept 1)]
    loop.begun sockets.length = [⟨1024⟩] ∧ ¬ loop.tokens.Nodup ∧
      (loop.slots.map fun slot => slot.session.readReady.1.frames) = [[Bytes.ofText "hello"]] ∧
      ∀ event : PollEvent, event.token = 1024 →
        loop.readiness event = [.accept 1024] ∧ (loop.handle event).slots = loop.slots := by
  intro plan sockets endpoint loop
  obtain ⟨hbegun, hshared, hslots, hevents⟩ := first_session_of_many plan ⟨.localhost, 0⟩
    (List.replicate 1023 ⟨.localhost, 0⟩) (by rw [List.length_cons, List.length_replicate]; decide)
    "a" endpoint
  refine ⟨hbegun, hshared, ?_, hevents⟩
  have hread : loop.slots.map (fun slot => slot.session.readReady.1.frames) =
      [(plan.newcomer ⟨1024⟩ "a" endpoint).readReady.1.frames] := congrArg (List.map _) hslots
  rw [hread]
  decide +kernel

end EventLoop

end ChatRelay
