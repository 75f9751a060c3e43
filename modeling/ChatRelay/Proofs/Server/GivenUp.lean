import ChatRelay.Proofs.Relay.Tally
import ChatRelay.Proofs.Session.Handling
import ChatRelay.Server.Exchange
import Mathlib.Data.List.Nodup

/-!
# Connections that are given up

A connection that overflows is given up: its mailbox is aborted, and nothing is offered to it any
more. What becomes of that which it still sends depends on who gives it up.

* A session that drains gives no frames (`frames_of_draining`), so the event loop has nothing of it
  to relay.
* An exchange relays what such a connection sends until it leaves. Everybody who is present is
  offered its messages as those of any other (`relayed_after_overflow`), and takes them
  (`heard_after_overflow`).
-/

namespace ChatRelay

/-! ## Commands in order -/

/-- Every connection joins once, before anything else, and sends nothing once it has left; those
who are here have joined, and those who are gone have left. -/
def orderlyFrom (here gone : List SessionId) : List ExchangeCommand → Bool
  | [] => true
  | .join subscriber :: later =>
    subscriber.id ∉ here && subscriber.id ∉ gone && orderlyFrom (subscriber.id :: here) gone later
  | .relay origin _ :: later => origin ∈ here && orderlyFrom here gone later
  | .leave id :: later => id ∈ here && orderlyFrom (here.erase id) (id :: gone) later

/-- Commands as connections give them, from the beginning. -/
def Orderly (commands : List ExchangeCommand) : Prop := orderlyFrom [] [] commands = true

instance (commands : List ExchangeCommand) : Decidable (Orderly commands) :=
  inferInstanceAs (Decidable (_ = _))

/-- Nobody joins who has been there before. -/
theorem join_of_orderlyFrom {here gone : List SessionId} {commands : List ExchangeCommand}
    (h : orderlyFrom here gone commands = true) {subscriber : Subscriber}
    (hjoin : .join subscriber ∈ commands) : subscriber.id ∉ here ∧ subscriber.id ∉ gone := by
  induction commands generalizing here gone with
  | nil => cases hjoin
  | cons command later ih =>
    cases command with
    | join first =>
      simp only [orderlyFrom, Bool.and_eq_true, decide_eq_true_eq] at h
      rcases List.mem_cons.1 hjoin with heq | hlater
      · cases heq
        exact h.1
      · obtain ⟨hhere, hgone⟩ := ih h.2 hlater
        exact ⟨fun hmem => hhere (List.mem_cons_of_mem _ hmem), hgone⟩
    | relay origin payload =>
      simp only [orderlyFrom, Bool.and_eq_true] at h
      exact ih h.2 (by simpa using hjoin)
    | leave id =>
      simp only [orderlyFrom, Bool.and_eq_true] at h
      obtain ⟨hhere, hgone⟩ := ih h.2 (by simpa using hjoin)
      refine ⟨fun hmem => ?_, fun hmem => hgone (List.mem_cons_of_mem _ hmem)⟩
      by_cases heq : subscriber.id = id
      · exact hgone (heq ▸ List.mem_cons_self)
      · exact hhere ((List.mem_erase_of_ne heq).2 hmem)

/-! ## Seats -/

namespace Seat

/-- A seat to which nothing is offered, and whose mailbox has ended. -/
structure Mute (seat : Seat) : Prop where
  absent : seat.present = false
  closed : seat.subscriber.box.closed = true
  empty : seat.subscriber.box.queue.items = []

/-- What a message of somebody else makes of a seat. -/
def meet (seat : Seat) (frame : Bytes) : Seat :=
  if Standing.of (seat.offer frame).1 = .disconnect then (seat.offer frame).2.giveUp
  else (seat.offer frame).2

variable {seat : Seat}

@[simp] theorem id_offer (seat : Seat) (frame : Bytes) : (seat.offer frame).2.id = seat.id := by
  unfold offer
  split <;> rfl

@[simp] theorem id_meet (seat : Seat) (frame : Bytes) : (seat.meet frame).id = seat.id := by
  unfold meet
  split
  · exact id_offer seat frame
  · exact id_offer seat frame

theorem mute_giveUp (seat : Seat) : seat.giveUp.Mute := ⟨rfl, rfl, rfl⟩

/-- Nobody who is absent is offered anything. -/
theorem offer_of_absent (h : seat.present = false) (frame : Bytes) :
    seat.offer frame = (.error .closed, seat) := by
  rw [offer, if_neg (by simp [h])]

theorem meet_of_absent (h : seat.present = false) (frame : Bytes) : seat.meet frame = seat := by
  rw [meet, offer_of_absent h, if_neg nofun]

end Seat

/-! ## Exchanges -/

namespace Exchange

/-- Every connection has at most one seat. -/
def Distinct (exchange : Exchange) : Prop := (exchange.seats.map Seat.id).Nodup

/-- A connection has been given up. -/
def HasGivenUp (exchange : Exchange) (x : SessionId) : Prop :=
  ∃ seat ∈ exchange.seats, seat.id = x ∧ seat.Mute

variable {exchange : Exchange} {x : SessionId}

theorem codec_step (exchange : Exchange) (command : ExchangeCommand) :
    (exchange.step command).codec = exchange.codec := by
  cases command with
  | join subscriber => rfl
  | leave id => rfl
  | relay origin payload =>
    simp only [step, relayPayload]
    split <;> rfl

theorem codec_run (exchange : Exchange) (commands : List ExchangeCommand) :
    (exchange.run commands).codec = exchange.codec := by
  unfold run
  induction commands generalizing exchange with
  | nil => rfl
  | cons command later ih => exact (ih _).trans (codec_step exchange command)

/-- Those who are to be given up are those who are asked and overflow. -/
theorem mem_disconnect {origin : SessionId} {frame : Bytes} {seats : List Seat} :
    x ∈ (relay origin frame seats).1.disconnect ↔
      ∃ seat ∈ seats, seat.id = x ∧ seat.id ≠ origin ∧
        Standing.of (seat.offer frame).1 = .disconnect := by
  rw [relay_tally]
  simp only [standingAt, List.mem_map, List.mem_filter, decide_eq_true_eq]
  constructor
  · rintro ⟨seat, ⟨hmem, hother, hover⟩, hid⟩
    exact ⟨seat, hmem, hid, hother, hover⟩
  · rintro ⟨seat, hmem, hid, hother, hover⟩
    exact ⟨seat, ⟨hmem, hother, hover⟩, hid⟩

/-- A message is met by everybody but the one it came from. -/
theorem seats_relay (hdistinct : exchange.Distinct) (origin : SessionId) {payload frame : Bytes}
    (hframe : exchange.codec.encode payload = .ok frame) :
    (exchange.step (.relay origin payload)).seats = exchange.seats.map fun seat =>
      if seat.id = origin then seat else seat.meet frame := by
  simp only [step, relayPayload, hframe, onSeats, relay_members, List.map_map]
  refine List.map_congr_left fun seat hseat => ?_
  have hidentity : Outbox.id seat = seat.id := rfl
  have hoffer : Outbox.offer seat frame = seat.offer frame := rfl
  simp only [Function.comp_apply, hidentity, hoffer, mem_disconnect]
  by_cases hown : seat.id = origin
  · simp only [if_pos hown]
    rw [if_neg]
    rintro ⟨other, -, hid, hother, -⟩
    exact hother (hid.trans hown)
  · simp only [if_neg hown, Seat.id_offer, Seat.meet]
    -- A seat with the identity of this one is this one.
    have hsame : (∃ other ∈ exchange.seats, other.id = seat.id ∧ other.id ≠ origin ∧
        Standing.of (other.offer frame).1 = .disconnect) ↔
          Standing.of (seat.offer frame).1 = .disconnect := by
      constructor
      · rintro ⟨other, hmem, hid, -, hover⟩
        rwa [List.inj_on_of_nodup_map hdistinct hmem hseat hid] at hover
      · intro hover
        exact ⟨seat, hseat, rfl, hown, hover⟩
    simp only [hsame]

theorem seats_relay_refused (origin : SessionId) {payload : Bytes} {error : FrameError}
    (herror : exchange.codec.encode payload = .error error) :
    (exchange.step (.relay origin payload)).seats = exchange.seats := by
  simp only [step, relayPayload, herror]

/-! ## Steps -/

theorem Distinct.step (h : exchange.Distinct) (command : ExchangeCommand) :
    (exchange.step command).Distinct := by
  unfold Distinct at h ⊢
  cases command with
  | join subscriber =>
    simp only [Exchange.step, List.map_append, List.map_cons, List.map_nil]
    refine List.Nodup.append (h.sublist (List.filter_sublist.map _)) (List.nodup_singleton _) ?_
    intro id hold hnew
    obtain ⟨seat, hseat, rfl⟩ := List.mem_map.1 hold
    have hother := (List.mem_filter.1 hseat).2
    rw [decide_eq_true_eq] at hother
    exact hother (List.mem_singleton.1 hnew)
  | leave id =>
    have hids : ∀ seat : Seat,
        (if seat.id ∈ [id] then { seat with present := false } else seat).id = seat.id := by
      intro seat
      split <;> rfl
    simpa only [Exchange.step, onSeats, List.map_map, Function.comp_def, hids] using h
  | relay origin payload =>
    cases hframe : exchange.codec.encode payload with
    | error error => rwa [seats_relay_refused origin hframe]
    | ok frame =>
      have hids : ∀ seat : Seat,
          (if seat.id = origin then seat else seat.meet frame).id = seat.id := by
        intro seat
        split
        · rfl
        · exact seat.id_meet frame
      simpa only [seats_relay h origin hframe, List.map_map, Function.comp_def, hids] using h

/-- Who overflows is given up. -/
theorem hasGivenUp_relay (hdistinct : exchange.Distinct) {origin : SessionId} {payload : Bytes}
    (hx : x ∈ (exchange.relayPayload origin payload).1.disconnect) :
    (exchange.step (.relay origin payload)).HasGivenUp x := by
  cases hframe : exchange.codec.encode payload with
  | error error =>
    simp only [relayPayload, hframe, Tally.empty] at hx
    cases hx
  | ok frame =>
    simp only [relayPayload, hframe] at hx
    obtain ⟨seat, hseat, hid, hother, hover⟩ := mem_disconnect.1 hx
    refine ⟨seat.meet frame, ?_, ?_, ?_⟩
    · rw [seats_relay hdistinct origin hframe]
      exact List.mem_map.2 ⟨seat, hseat, if_neg hother⟩
    · rw [Seat.id_meet, hid]
    · rw [Seat.meet, if_pos hover]
      exact Seat.mute_giveUp _

/-- Who has been given up stays so, unless it joins again. -/
theorem HasGivenUp.step (h : exchange.HasGivenUp x) (hdistinct : exchange.Distinct)
    {command : ExchangeCommand}
    (hjoin : ∀ subscriber, command = .join subscriber → subscriber.id ≠ x) :
    (exchange.step command).HasGivenUp x := by
  obtain ⟨seat, hseat, hid, hmute⟩ := h
  cases command with
  | join subscriber =>
    have hother : seat.id ≠ subscriber.id := fun heq => hjoin subscriber rfl (heq.symm.trans hid)
    have hstays : seat ∈ exchange.seats.filter (·.id ≠ subscriber.id) :=
      List.mem_filter.2 ⟨hseat, decide_eq_true hother⟩
    exact ⟨seat, List.mem_append_left _ hstays, hid, hmute⟩
  | leave id =>
    refine ⟨_, List.mem_map_of_mem hseat, ?_, ?_⟩
    · split
      · exact hid
      · exact hid
    · split
      · exact ⟨rfl, hmute.closed, hmute.empty⟩
      · exact hmute
  | relay origin payload =>
    cases hframe : exchange.codec.encode payload with
    | error error =>
      refine ⟨seat, ?_, hid, hmute⟩
      rwa [seats_relay_refused origin hframe]
    | ok frame =>
      refine ⟨seat, ?_, hid, hmute⟩
      rw [seats_relay hdistinct origin hframe]
      refine List.mem_map.2 ⟨seat, hseat, ?_⟩
      rw [Seat.meet_of_absent hmute.absent, ite_self]

/-! ## Runs -/

theorem Distinct.run (h : exchange.Distinct) (commands : List ExchangeCommand) :
    (exchange.run commands).Distinct := by
  unfold Exchange.run
  induction commands generalizing exchange with
  | nil => exact h
  | cons command later ih => exact ih (h.step command)

theorem HasGivenUp.run (h : exchange.HasGivenUp x) (hdistinct : exchange.Distinct)
    {commands : List ExchangeCommand}
    (hjoin : ∀ subscriber, .join subscriber ∈ commands → subscriber.id ≠ x) :
    (exchange.run commands).HasGivenUp x := by
  unfold Exchange.run
  induction commands generalizing exchange with
  | nil => exact h
  | cons command later ih =>
    refine ih (h.step hdistinct ?_) (hdistinct.step command) ?_
    · rintro subscriber rfl
      exact hjoin subscriber List.mem_cons_self
    · intro subscriber hlater
      exact hjoin subscriber (List.mem_cons_of_mem _ hlater)

/-- Everybody who has a seat has joined. -/
def Known (here gone : List SessionId) (exchange : Exchange) : Prop :=
  ∀ seat ∈ exchange.seats, seat.id ∈ here ∨ seat.id ∈ gone

/-- Changing some seats makes nobody known or unknown. -/
theorem Known.map {here gone : List SessionId} (h : exchange.Known here gone)
    {change : Seat → Seat} (hid : ∀ seat, (change seat).id = seat.id) {after : Exchange}
    (hseats : after.seats = exchange.seats.map change) : after.Known here gone := by
  intro seat hseat
  rw [hseats] at hseat
  obtain ⟨old, hold, rfl⟩ := List.mem_map.1 hseat
  rw [hid]
  exact h old hold

theorem Known.relay {here gone : List SessionId} (h : exchange.Known here gone)
    (hdistinct : exchange.Distinct) (origin : SessionId) (payload : Bytes) :
    (exchange.step (.relay origin payload)).Known here gone := by
  cases hframe : exchange.codec.encode payload with
  | error error =>
    intro seat hseat
    rw [seats_relay_refused origin hframe] at hseat
    exact h seat hseat
  | ok frame =>
    refine h.map (fun seat => ?_) (seats_relay hdistinct origin hframe)
    split
    · rfl
    · exact seat.id_meet frame

/-- While commands come in order, whoever has a seat has joined, so that it does not join again. -/
theorem known_run {here gone : List SessionId} {before after : List ExchangeCommand}
    (horderly : orderlyFrom here gone (before ++ after) = true) (hdistinct : exchange.Distinct)
    (hknown : exchange.Known here gone) :
    ∃ here' gone', orderlyFrom here' gone' after = true ∧
      (exchange.run before).Known here' gone' := by
  induction before generalizing exchange here gone with
  | nil => exact ⟨here, gone, horderly, hknown⟩
  | cons command before ih =>
    have hdistinct' := hdistinct.step command
    cases command with
    | join subscriber =>
      simp only [List.cons_append, orderlyFrom, Bool.and_eq_true] at horderly
      refine ih horderly.2 hdistinct' fun seat hseat => ?_
      rcases List.mem_append.1 hseat with hold | hnew
      · rcases hknown seat (List.mem_filter.1 hold).1 with hhere | hgone
        · exact .inl (List.mem_cons_of_mem _ hhere)
        · exact .inr hgone
      · rw [List.mem_singleton.1 hnew]
        exact .inl List.mem_cons_self
    | relay origin payload =>
      simp only [List.cons_append, orderlyFrom, Bool.and_eq_true] at horderly
      exact ih horderly.2 hdistinct' (hknown.relay hdistinct origin payload)
    | leave id =>
      simp only [List.cons_append, orderlyFrom, Bool.and_eq_true] at horderly
      refine ih horderly.2 hdistinct' (Known.map (fun seat hseat => ?_) (fun seat => ?_) rfl)
      · by_cases hid : seat.id = id
        · exact .inr (hid ▸ List.mem_cons_self)
        · rcases hknown seat hseat with hhere | hgone
          · exact .inl ((List.mem_erase_of_ne hid).2 hhere)
          · exact .inr (List.mem_cons_of_mem _ hgone)
      · split <;> rfl

/-! ## What a connection sends after it has been given up -/

/-- **Who is given up is not silent.** After a connection has overflowed, its mailbox has ended and
stays so; but as long as it has not left, each message that it sends is offered to everybody who is
present, as one from any other connection is. A session that drains, in contrast, gives no
frames. -/
theorem relayed_after_overflow (codec : Codec) (before after : List ExchangeCommand)
    (origin x : SessionId) (payload : Bytes)
    (horderly : Orderly (before ++ .relay origin payload :: after))
    (hx : x ∈ (((new codec).run before).relayPayload origin payload).1.disconnect) :
    let exchange := (new codec).run (before ++ .relay origin payload :: after)
    exchange.HasGivenUp x ∧
      (∀ message frame, codec.encode message = .ok frame →
        (exchange.step (.relay x message)).seats = exchange.seats.map (·.meet frame)) ∧
      ∀ s : Session, s.isDraining = true → s.readReady.1.frames = [] := by
  intro exchange
  have hnew : (new codec).Distinct := List.nodup_nil
  have hbefore : ((new codec).run before).Distinct := hnew.run before
  have hdistinct : exchange.Distinct := hnew.run _
  have hgiven : exchange.HasGivenUp x := by
    have hsplit : exchange =
        (((new codec).run before).step (.relay origin payload)).run after := by
      simp only [exchange, Exchange.run, List.foldl_append, List.foldl_cons]
    obtain ⟨here, gone, hlater, hknown⟩ :=
      known_run horderly hnew (fun seat hseat => nomatch hseat)
    simp only [orderlyFrom, Bool.and_eq_true] at hlater
    rw [hsplit]
    refine (hasGivenUp_relay hbefore hx).run (hbefore.step _) fun subscriber hjoin hid => ?_
    -- It overflowed, so it had a seat; who has one has joined, and does not join again.
    obtain ⟨seat, hseat, hseatId, -⟩ := hasGivenUp_relay hbefore hx
    obtain ⟨hhere, hgone⟩ := join_of_orderlyFrom hlater.2 hjoin
    rcases hknown.relay hbefore origin payload seat hseat with hold | hold
    · exact hhere (by rwa [hid, ← hseatId])
    · exact hgone (by rwa [hid, ← hseatId])
  refine ⟨hgiven, ?_, fun s => Session.frames_of_draining⟩
  intro message frame hframe
  have hcodec : exchange.codec = codec := codec_run _ _
  rw [seats_relay hdistinct x (hcodec.symm ▸ hframe)]
  refine List.map_congr_left fun seat hseat => ?_
  obtain ⟨mute, hmem, hid, hmute⟩ := hgiven
  by_cases hown : seat.id = x
  · obtain rfl := List.inj_on_of_nodup_map hdistinct hseat hmem (hown.trans hid.symm)
    rw [if_pos hown, Seat.meet_of_absent hmute.absent]
  · rw [if_neg hown]

/-- The second of two messages is too much for the second connection, which is given up. -/
theorem relayed_after_overflow_second :
    let limits : QueueLimits := ⟨8, 4, none, .disconnect⟩
    let before : List ExchangeCommand :=
      [.join ⟨⟨1⟩, .new .standard⟩, .join ⟨⟨2⟩, .new limits⟩, .relay ⟨1⟩ [49, 50, 51, 52, 53]]
    let exchange := (new (.lines none 0)).run (before ++ [.relay ⟨1⟩ [49, 50, 51, 52, 53]])
    Orderly (before ++ [.relay ⟨1⟩ [49, 50, 51, 52, 53]]) ∧
      ⟨2⟩ ∈ (((new (.lines none 0)).run before).relayPayload
        ⟨1⟩ [49, 50, 51, 52, 53]).1.disconnect ∧
      exchange.HasGivenUp ⟨2⟩ ∧
      (exchange.step (.relay ⟨2⟩ [104, 105])).seats =
        exchange.seats.map (·.meet [104, 105, 10]) := by
  intro limits before exchange
  have horderly : Orderly (before ++ [.relay ⟨1⟩ [49, 50, 51, 52, 53]]) := by decide
  have hx : ⟨2⟩ ∈ (((new (.lines none 0)).run before).relayPayload ⟨1⟩
      [49, 50, 51, 52, 53]).1.disconnect := by decide
  obtain ⟨hgiven, hrelayed, -⟩ :=
    relayed_after_overflow (.lines none 0) before [] ⟨1⟩ ⟨2⟩ _ horderly hx
  exact ⟨horderly, hx, hgiven, hrelayed [104, 105] _ (by decide)⟩

/-- What a connection sends after it has been given up reaches the mailbox of another one. -/
theorem heard_after_overflow :
    let limits : QueueLimits := ⟨8, 4, none, .disconnect⟩
    let before : List ExchangeCommand :=
      [.join ⟨⟨1⟩, .new .standard⟩, .join ⟨⟨2⟩, .new limits⟩, .relay ⟨1⟩ [49, 50, 51, 52, 53]]
    let overflow : List ExchangeCommand := [.relay ⟨1⟩ [49, 50, 51, 52, 53]]
    let later : List ExchangeCommand := [.relay ⟨2⟩ [104, 105]]
    Orderly (before ++ overflow ++ later) ∧
      ⟨2⟩ ∈ (((new (.lines none 0)).run before).relayPayload
        ⟨1⟩ [49, 50, 51, 52, 53]).1.disconnect ∧
      ((new (.lines none 0)).run (before ++ overflow ++ later)).box? ⟨1⟩ ≠
        ((new (.lines none 0)).run (before ++ overflow)).box? ⟨1⟩ := by
  decide

end Exchange
end ChatRelay
