import ChatRelay.Proofs.Relay.Tally
import ChatRelay.Proofs.Session.Quiet
import ChatRelay.Relay.Room

/-!
# Receivers do not disturb each other

A `GuestBook` goes along with a room and keeps what each receiver has given away when it was
drained, also of those who have left. Whoever else is there and whatever becomes of them, every
receiver ends as it would by itself,

    guest.replay (ownSteps guest.id later),

where `later` is what has happened in the room since it came, and its own steps are one offer of
every message that was relayed while it was there and did not come from it, and the closing and
draining that named it, in order (`isolated`).
-/

namespace ChatRelay

/-! ## What a receiver does by itself -/

/-- One thing that is done to a single receiver. -/
inductive OwnStep
  | offer (frame : Bytes)
  | close
  | drain (sizes : List Nat) (times : Nat)

/-- A receiver with what it has given away. -/
structure Guest where
  member : Member
  gave : List DrainReport

namespace Guest

/-- The identity of the receiver. -/
abbrev id (guest : Guest) : SessionId := Outbox.id guest.member

/-- Carries out one step. -/
def perform (guest : Guest) : OwnStep → Guest
  | .offer frame => { guest with member := (Outbox.offer guest.member frame).2 }
  | .close => { guest with member := guest.member.close }
  | .drain sizes times =>
    ⟨(guest.member.drain sizes times).2, guest.gave ++ [(guest.member.drain sizes times).1]⟩

/-- Carries out steps one after another. -/
def replay (guest : Guest) (steps : List OwnStep) : Guest := steps.foldl perform guest

end Guest

namespace RoomEvent

/-- What an event is for a receiver that is there and stays. -/
def ownStep (id : SessionId) : RoomEvent → Option OwnStep
  | .relay origin frame => if origin = id then none else some (.offer frame)
  | .close named => if named = id then some .close else none
  | .drain named sizes times => if named = id then some (.drain sizes times) else none
  | .join _ => none
  | .leave _ => none

/-- Whether a receiver leaves. -/
def isLeave (id : SessionId) : RoomEvent → Bool
  | .leave named => named = id
  | _ => false

/-- Nobody comes and nobody leaves. -/
structure Keeps (event : RoomEvent) : Prop where
  leave : ∀ id, event.isLeave id = false
  join : ∀ member, event ≠ .join member

theorem keeps_relay (origin : SessionId) (frame : Bytes) : Keeps (.relay origin frame) :=
  ⟨fun _ => rfl, fun _ => nofun⟩

theorem keeps_close (id : SessionId) : Keeps (.close id) := ⟨fun _ => rfl, fun _ => nofun⟩

theorem keeps_drain (id : SessionId) (sizes : List Nat) (times : Nat) :
    Keeps (.drain id sizes times) :=
  ⟨fun _ => rfl, fun _ => nofun⟩

theorem join_or_leave_or_keeps (event : RoomEvent) :
    (∃ member, event = .join member) ∨ (∃ id, event = .leave id) ∨ event.Keeps := by
  cases event with
  | join member => exact .inl ⟨member, rfl⟩
  | leave id => exact .inr (.inl ⟨id, rfl⟩)
  | relay origin frame => exact .inr (.inr (keeps_relay origin frame))
  | close id => exact .inr (.inr (keeps_close id))
  | drain id sizes times => exact .inr (.inr (keeps_drain id sizes times))

end RoomEvent

/-- What happens to a receiver until it leaves. -/
def ownSteps (id : SessionId) (events : List RoomEvent) : List OwnStep :=
  (events.takeWhile fun event => !event.isLeave id).filterMap (RoomEvent.ownStep id)

/-! ## A room with a guest book -/

/-- The room after events, one after another. -/
def Room.after (members : List Member) (events : List RoomEvent) : List Member :=
  events.foldl (fun members event => (Room.step members event).2) members

/-- The reports of an answer. -/
def RoomAnswer.reports : RoomAnswer → List DrainReport
  | .drained reports => reports
  | _ => []

/-- The receivers of a room, and those who have left it. -/
structure GuestBook where
  here : List Guest
  gone : List Guest

namespace GuestBook

/-- Nobody has given anything away or left. -/
def new (members : List Member) : GuestBook := ⟨members.map (⟨·, []⟩), []⟩

/-- The receivers of the room. -/
def members (book : GuestBook) : List Member := book.here.map Guest.member

/-- Notes the reports of those with an identity, one for each, in order. -/
def deal (id : SessionId) : List DrainReport → List Guest → List Guest
  | report :: reports, guest :: guests =>
    if guest.id = id then { guest with gave := guest.gave ++ [report] } :: deal id reports guests
    else guest :: deal id (report :: reports) guests
  | _, guests => guests

/-- Notes what the receivers have become. -/
def become (guests : List Guest) (members : List Member) : List Guest :=
  List.zipWith (fun guest member => { guest with member }) guests members

/-- Goes along with one event of the room. -/
def step (book : GuestBook) (event : RoomEvent) : GuestBook :=
  let (answer, members) := Room.step book.members event
  match event with
  | .join member => { book with here := book.here ++ [⟨member, []⟩] }
  | .leave id => ⟨book.here.filter (·.id ≠ id), book.gone ++ book.here.filter (·.id = id)⟩
  | .drain id _ _ => { book with here := become (deal id answer.reports book.here) members }
  | _ => { book with here := become book.here members }

/-- Goes along with events one after another. -/
def run (book : GuestBook) (events : List RoomEvent) : GuestBook := events.foldl step book

end GuestBook

/-! ## Identities -/

theorem Member.id_offer (member : Member) (frame : Bytes) :
    Outbox.id (Outbox.offer member frame).2 = Outbox.id member := by
  cases member with
  | inl session => exact session.id_enqueue frame
  | inr subscriber => rfl

theorem Member.id_close (member : Member) : Outbox.id member.close = Outbox.id member := by
  cases member with
  | inl session => exact (session.quiet_beginClose 0 0).id_eq
  | inr subscriber => rfl

theorem Member.id_drain (member : Member) (sizes : List Nat) (times : Nat) :
    Outbox.id (member.drain sizes times).2 = Outbox.id member := by
  cases member with
  | inl session => exact (Session.quiet_writeReady _).id_eq
  | inr subscriber => rfl

/-- Whatever is done to a receiver, it keeps its identity. -/
theorem Guest.id_perform (guest : Guest) (step : OwnStep) : (guest.perform step).id = guest.id := by
  cases step with
  | offer frame => exact Member.id_offer guest.member frame
  | close => exact Member.id_close guest.member
  | drain sizes times => exact Member.id_drain guest.member sizes times

/-! ## One event -/

namespace Guest

/-- What one event makes of a receiver that stays. -/
def meet (guest : Guest) (event : RoomEvent) : Guest :=
  guest.replay (event.ownStep guest.id).toList

variable {guest : Guest} {event : RoomEvent}

theorem meet_of_none (h : event.ownStep guest.id = none) : guest.meet event = guest := by
  rw [meet, h]
  rfl

theorem meet_of_some {step : OwnStep} (h : event.ownStep guest.id = some step) :
    guest.meet event = guest.perform step := by
  rw [meet, h]
  rfl

theorem id_meet (guest : Guest) (event : RoomEvent) : (guest.meet event).id = guest.id := by
  cases h : event.ownStep guest.id with
  | none => rw [meet_of_none h]
  | some step => rw [meet_of_some h, id_perform]

theorem meet_relay (guest : Guest) (origin : SessionId) (frame : Bytes) :
    guest.meet (.relay origin frame) = { guest with
      member :=
        if guest.id = origin then guest.member else (Outbox.offer guest.member frame).2 } := by
  by_cases hown : guest.id = origin
  · simp [meet, replay, RoomEvent.ownStep, hown]
  · simp [meet, replay, perform, RoomEvent.ownStep, hown, Ne.symm hown]

theorem meet_close (guest : Guest) (id : SessionId) :
    guest.meet (.close id) = { guest with
      member := if guest.id = id then guest.member.close else guest.member } := by
  by_cases hid : guest.id = id
  · simp [meet, replay, perform, RoomEvent.ownStep, hid]
  · simp [meet, replay, RoomEvent.ownStep, hid, Ne.symm hid]

theorem meet_drain_own {id : SessionId} (h : guest.id = id) (sizes : List Nat) (times : Nat) :
    guest.meet (.drain id sizes times) = guest.perform (.drain sizes times) := by
  simp [meet, replay, RoomEvent.ownStep, h]

theorem meet_drain_other {id : SessionId} (h : guest.id ≠ id) (sizes : List Nat) (times : Nat) :
    guest.meet (.drain id sizes times) = guest := by
  simp [meet, replay, RoomEvent.ownStep, Ne.symm h]

/-- A receiver that meets an event and stays goes on from there. -/
theorem replay_ownSteps_cons (hstays : event.isLeave guest.id = false) (later : List RoomEvent) :
    guest.replay (ownSteps guest.id (event :: later)) =
      (guest.meet event).replay (ownSteps guest.id later) := by
  rw [ownSteps, List.takeWhile_cons, hstays]
  cases h : event.ownStep guest.id with
  | none => rw [meet_of_none h, Bool.not_false, if_pos rfl, List.filterMap_cons_none h]; rfl
  | some step => rw [meet_of_some h, Bool.not_false, if_pos rfl, List.filterMap_cons_some h]; rfl

end Guest

theorem Room.drain_own {id : SessionId} {member : Member} (h : Outbox.id member = id)
    (sizes : List Nat) (times : Nat) (rest : List Member) :
    Room.drain id sizes times (member :: rest) =
      ((member.drain sizes times).1 :: (Room.drain id sizes times rest).1,
        (member.drain sizes times).2 :: (Room.drain id sizes times rest).2) := by
  simp only [Room.drain, if_pos h]

theorem Room.drain_other {id : SessionId} {member : Member} (h : Outbox.id member ≠ id)
    (sizes : List Nat) (times : Nat) (rest : List Member) :
    Room.drain id sizes times (member :: rest) =
      ((Room.drain id sizes times rest).1, member :: (Room.drain id sizes times rest).2) := by
  simp only [Room.drain, if_neg h]

theorem Room.drain_members (id : SessionId) (sizes : List Nat) (times : Nat)
    (members : List Member) :
    (Room.drain id sizes times members).2 = members.map fun member =>
      if Outbox.id member = id then (member.drain sizes times).2 else member := by
  induction members with
  | nil => rfl
  | cons member rest ih =>
    rw [List.map_cons, ← ih]
    by_cases hid : Outbox.id member = id
    · rw [drain_own hid, if_pos hid]
    · rw [drain_other hid, if_neg hid]

namespace GuestBook

theorem become_map (guests : List Guest) (change : Member → Member) :
    become guests ((guests.map Guest.member).map change) =
      guests.map fun guest => { guest with member := change guest.member } := by
  rw [become, List.map_map, List.zipWith_map_right, List.zipWith_self]
  rfl

theorem deal_own {id : SessionId} {guest : Guest} (h : guest.id = id) (report : DrainReport)
    (reports : List DrainReport) (guests : List Guest) :
    deal id (report :: reports) (guest :: guests) =
      { guest with gave := guest.gave ++ [report] } :: deal id reports guests := by
  rw [deal, if_pos h]

theorem deal_other {id : SessionId} {guest : Guest} (h : guest.id ≠ id)
    (reports : List DrainReport) (guests : List Guest) :
    deal id reports (guest :: guests) = guest :: deal id reports guests := by
  cases reports with
  | nil => simp only [deal]
  | cons report reports => rw [deal, if_neg h]

/-- Those who are drained are drained one by one, and each report goes to the one who gave it. -/
theorem become_drain (id : SessionId) (sizes : List Nat) (times : Nat) (guests : List Guest) :
    become (deal id (Room.drain id sizes times (guests.map Guest.member)).1 guests)
        (Room.drain id sizes times (guests.map Guest.member)).2 =
      guests.map (·.meet (.drain id sizes times)) := by
  induction guests with
  | nil => rfl
  | cons guest guests ih =>
    rw [List.map_cons, List.map_cons, ← ih]
    by_cases hid : guest.id = id
    · rw [Room.drain_own hid, deal_own hid, Guest.meet_drain_own hid]
      rfl
    · rw [Room.drain_other hid, deal_other hid, Guest.meet_drain_other hid]
      rfl

/-- Every receiver meets an event by itself if nobody comes or leaves. -/
theorem step_eq (book : GuestBook) {event : RoomEvent} (h : event.Keeps) :
    book.step event = { book with here := book.here.map (·.meet event) } := by
  cases event with
  | join member => exact absurd rfl (h.join member)
  | leave id => simpa [RoomEvent.isLeave] using h.leave id
  | relay origin frame =>
    have hmeet : become book.here (relay origin frame book.members).2 =
        book.here.map (·.meet (.relay origin frame)) := by
      rw [relay_members, members, become_map]
      exact List.map_congr_left fun guest _ => (guest.meet_relay origin frame).symm
    rw [← hmeet]
    rfl
  | close id =>
    have hmeet : become book.here (Room.step book.members (.close id)).2 =
        book.here.map (·.meet (.close id)) := by
      rw [Room.step, members, become_map]
      exact List.map_congr_left fun guest _ => (guest.meet_close id).symm
    rw [← hmeet]
    rfl
  | drain id sizes times =>
    rw [← become_drain]
    rfl

/-- The guest book has the receivers of the room. -/
theorem members_step (book : GuestBook) (event : RoomEvent) :
    (book.step event).members = (Room.step book.members event).2 := by
  cases event with
  | join member => simp [step, Room.step, members]
  | leave id => simp [step, Room.step, members, List.filter_map, Function.comp_def]
  | relay origin frame =>
    rw [step_eq _ (RoomEvent.keeps_relay origin frame), Room.step, relay_members]
    simp only [members, List.map_map]
    exact List.map_congr_left fun guest _ => by simp [Guest.meet_relay]
  | close id =>
    rw [step_eq _ (RoomEvent.keeps_close id), Room.step]
    simp only [members, List.map_map]
    exact List.map_congr_left fun guest _ => by simp [Guest.meet_close]
  | drain id sizes times =>
    rw [step_eq _ (RoomEvent.keeps_drain id sizes times), Room.step, Room.drain_members]
    simp only [members, List.map_map]
    refine List.map_congr_left fun guest _ => ?_
    by_cases hid : guest.id = id
    · simp [Guest.meet_drain_own hid, Guest.perform, hid]
    · simp [Guest.meet_drain_other hid, hid]

theorem members_run (book : GuestBook) (events : List RoomEvent) :
    (book.run events).members = Room.after book.members events := by
  induction events generalizing book with
  | nil => rfl
  | cons event events ih =>
    rw [Room.after, List.foldl_cons, ← members_step]
    exact ih (book.step event)

/-! ## Runs -/

/-- Those who come during events, each with what happens after that. -/
def arrivals : List RoomEvent → List (Guest × List RoomEvent)
  | [] => []
  | .join member :: later => (⟨member, []⟩, later) :: arrivals later
  | _ :: later => arrivals later

/-- Those who are there and those who come, each with what happens from then on. -/
def visitors (here : List Guest) (events : List RoomEvent) : List (Guest × List RoomEvent) :=
  here.map (·, events) ++ arrivals events

/-- What a receiver becomes by itself until it leaves. -/
def alone : Guest × List RoomEvent → Guest
  | (guest, later) => guest.replay (ownSteps guest.id later)

/-- Whether a receiver leaves. -/
def leaves : Guest × List RoomEvent → Bool
  | (guest, later) => later.any (·.isLeave guest.id)

/-- What becomes of a receiver if it stays. -/
def staying (visitor : Guest × List RoomEvent) : Option Guest :=
  if leaves visitor then none else some (alone visitor)

/-- What becomes of a receiver if it leaves. -/
def leaving (visitor : Guest × List RoomEvent) : Option Guest :=
  if leaves visitor then some (alone visitor) else none

theorem alone_left {guest : Guest} {event : RoomEvent} (h : event.isLeave guest.id = true)
    (later : List RoomEvent) : alone (guest, event :: later) = guest := by
  rw [alone, ownSteps, List.takeWhile_cons, h]
  rfl

theorem alone_stayed {guest : Guest} {event : RoomEvent} (h : event.isLeave guest.id = false)
    (later : List RoomEvent) : alone (guest, event :: later) = alone (guest.meet event, later) := by
  rw [alone, alone, Guest.replay_ownSteps_cons h, Guest.id_meet]

theorem leaves_cons (guest : Guest) (event : RoomEvent) (later : List RoomEvent) :
    leaves (guest, event :: later) =
      (event.isLeave guest.id || leaves (guest.meet event, later)) := by
  rw [leaves, leaves, Guest.id_meet, List.any_cons]

/-- A receiver that stays for now goes on from what the event has made of it. -/
theorem fate_cons {guest : Guest} {event : RoomEvent} (h : event.isLeave guest.id = false)
    (later : List RoomEvent) :
    staying (guest, event :: later) = staying (guest.meet event, later) ∧
      leaving (guest, event :: later) = leaving (guest.meet event, later) := by
  simp [staying, leaving, leaves_cons, alone_stayed h, h]

theorem visitors_concat (here : List Guest) (guest : Guest) (events : List RoomEvent) :
    visitors (here ++ [guest]) events =
      here.map (·, events) ++ (guest, events) :: arrivals events := by
  rw [visitors, List.map_append, List.append_assoc]
  rfl

theorem arrivals_keeps {event : RoomEvent} (h : event.Keeps) (later : List RoomEvent) :
    arrivals (event :: later) = arrivals later := by
  cases event with
  | join member => exact absurd rfl (h.join member)
  | _ => rfl

theorem fate_nil (guest : Guest) : staying (guest, []) = some guest ∧ leaving (guest, []) = none :=
  ⟨rfl, rfl⟩

/-- Whoever is named leaves, and the others stay for now as they are. -/
theorem fate_leave (id : SessionId) (guest : Guest) (later : List RoomEvent) :
    staying (guest, .leave id :: later) =
        (if guest.id ≠ id then staying (guest, later) else none) ∧
      leaving (guest, .leave id :: later) =
        if guest.id = id then some guest else leaving (guest, later) := by
  by_cases hid : guest.id = id
  · have hleave : (RoomEvent.leave id).isLeave guest.id = true := decide_eq_true hid.symm
    rw [staying, leaving, leaves_cons, hleave, Bool.true_or, if_pos rfl, if_pos rfl,
      alone_left hleave, if_neg (fun hne => hne hid), if_pos hid]
    exact ⟨rfl, rfl⟩
  · have hleave : (RoomEvent.leave id).isLeave guest.id = false := decide_eq_false (Ne.symm hid)
    obtain ⟨hstaying, hleaving⟩ := fate_cons hleave later
    rw [if_pos hid, if_neg hid, hstaying, hleaving]
    exact ⟨rfl, rfl⟩

/-- Those who are there at the end have stayed, and are what they would be by themselves. -/
theorem here_run (book : GuestBook) (events : List RoomEvent) :
    (book.run events).here = (visitors book.here events).filterMap staying := by
  induction events generalizing book with
  | nil =>
    simp only [run, List.foldl_nil, visitors, arrivals, List.append_nil, List.filterMap_map,
      Function.comp_def, fate_nil, List.filterMap_some]
  | cons event later ih =>
    refine (ih (book.step event)).trans ?_
    obtain ⟨member, rfl⟩ | ⟨id, rfl⟩ | hkeeps := event.join_or_leave_or_keeps
    · have hstay : ∀ guest : Guest, staying (guest, .join member :: later) =
          staying (guest, later) := fun guest => (fate_cons rfl later).1
      rw [step, visitors_concat]
      simp only [visitors, arrivals, List.filterMap_append, List.filterMap_map, Function.comp_def,
        hstay]
    · simp only [step, visitors, arrivals, List.filterMap_append, List.filterMap_map,
        Function.comp_def, List.filterMap_filter, decide_eq_true_eq, fate_leave]
    · have hmeet : ∀ guest : Guest, staying (guest, event :: later) =
          staying (guest.meet event, later) := fun guest => (fate_cons (hkeeps.leave _) later).1
      simp [visitors, arrivals_keeps hkeeps, step_eq book hkeeps, List.filterMap_map,
        Function.comp_def, hmeet]

/-- Those who leave now would have left in any case. -/
theorem leaving_perm (id : SessionId) (later : List RoomEvent) (here : List Guest) :
    (here.filter (·.id = id) ++
        ((here.filter (·.id ≠ id)).map (·, later)).filterMap leaving).Perm
      ((here.map (·, RoomEvent.leave id :: later)).filterMap leaving) := by
  induction here with
  | nil => exact .refl _
  | cons guest here ih =>
    have hleave := (fate_leave id guest later).2
    by_cases hid : guest.id = id
    · rw [if_pos hid] at hleave
      simpa [hid, List.filterMap_cons, hleave] using ih
    · rw [if_neg hid] at hleave
      cases hfate : leaving (guest, later) with
      | none => simpa [hid, List.filterMap_cons, hleave, hfate] using ih
      | some left =>
        simp only [hid, List.map_cons, List.filterMap_cons, hleave, hfate, List.filter_cons, ne_eq,
          not_false_eq_true, decide_true, decide_false, if_true, Bool.false_eq_true, if_false]
        exact List.perm_middle.trans (ih.cons left)

/-- Those who have left are what they would be by themselves. -/
theorem gone_run (book : GuestBook) (events : List RoomEvent) :
    (book.run events).gone.Perm (book.gone ++ (visitors book.here events).filterMap leaving) := by
  induction events generalizing book with
  | nil =>
    have hnone : (visitors book.here []).filterMap leaving = [] := by
      simp [visitors, arrivals, fate_nil]
    rw [hnone, List.append_nil]
    exact .refl _
  | cons event later ih =>
    refine (ih (book.step event)).trans ?_
    obtain ⟨member, rfl⟩ | ⟨id, rfl⟩ | hkeeps := event.join_or_leave_or_keeps
    · have hstay : ∀ guest : Guest, leaving (guest, .join member :: later) =
          leaving (guest, later) := fun guest => (fate_cons rfl later).2
      rw [step, visitors_concat]
      simp only [visitors, arrivals, List.filterMap_append, List.filterMap_map, Function.comp_def,
        hstay, List.Perm.refl]
    · have hperm := leaving_perm id later book.here
      simp only [step, visitors, arrivals, List.filterMap_append, List.append_assoc]
      rw [← List.append_assoc (book.here.filter _)]
      exact (hperm.append_right _).append_left _
    · have hmeet : ∀ guest : Guest, leaving (guest, event :: later) =
          leaving (guest.meet event, later) := fun guest => (fate_cons (hkeeps.leave _) later).2
      simp [visitors, arrivals_keeps hkeeps, step_eq book hkeeps, List.filterMap_map,
        Function.comp_def, hmeet]

/-- **Receivers do not disturb each other.** Whatever happens in a room, every receiver that is
there at the end or has left, with all that it gave away, is what it would be by itself: the state
it came in, after the offers of those messages that were relayed while it was there and did not come
from it, and after the closing and draining that named it. And every message that is relayed is
offered once to everyone but its origin, who is left alone; the answer of a receiver alone decides
in which list of the tally it appears. -/
theorem isolated (members : List Member) (events : List RoomEvent) :
    let book := (new members).run events
    let visitors := visitors (members.map (⟨·, []⟩)) events
    book.members = Room.after members events ∧
      book.here = visitors.filterMap staying ∧
      book.gone.Perm (visitors.filterMap leaving) ∧
      ∀ (room : List Member) (origin : SessionId) (frame : Bytes),
        let (tally, after) := relay origin frame room
        tally = ⟨standingAt origin frame .queued room, standingAt origin frame .dropped room,
            standingAt origin frame .disconnect room⟩ ∧
          (tally.queued ++ tally.dropped ++ tally.disconnect ++
              standingAt origin frame .unlisted room).Perm
            ((room.filter (Outbox.id · ≠ origin)).map Outbox.id) ∧
          origin ∉ tally.queued ++ tally.dropped ++ tally.disconnect ∧
          after = room.map fun member =>
            if Outbox.id member = origin then member else (Outbox.offer member frame).2 := by
  intro book visitors
  refine ⟨?_, here_run _ events, gone_run _ events, ?_⟩
  · have hnew : (new members).members = members := by
      simp [new, GuestBook.members, Function.comp_def]
    have hmembers := members_run (new members) events
    rwa [hnew] at hmembers
  · intro room origin frame
    have htally := relay_tally origin frame room
    refine ⟨htally, ?_, ?_, relay_members origin frame room⟩
    · rw [htally]
      exact standingAt_perm origin frame room
    · rw [htally]
      simp [origin_not_mem_standingAt]

end GuestBook
end ChatRelay
