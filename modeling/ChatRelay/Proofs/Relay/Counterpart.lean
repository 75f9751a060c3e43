import ChatRelay.Proofs.Queue.Regular
import ChatRelay.Proofs.Relay.Tally
import ChatRelay.Proofs.Session.Handling
import ChatRelay.Proofs.Session.Quiet
import ChatRelay.Relay.Room
import Mathlib.Data.List.Forall2

/-!
# Two kinds of receivers

A session counts what its endpoint accepts of the message at its head, and a mailbox hands out whole
messages. When whole messages are what is sent, nobody can tell one from the other: what is offered
is answered alike, the same messages come out in the same order, and as many bytes are queued after
every step (`kinds_agree`). So a relay tallies the same over receivers of either kind.

Every receiver has a mailbox as its `counterpart`, a session the one with its queue, which is closed
when the session drains. Whatever is done with the receiver is done with its counterpart as well
(`deal_counterpart`), as long as a session holds no empty message, and none at all when it drains
(`Proper`); a relay does not even depend on that (`relay_counterpart`).
-/

namespace ChatRelay

/-! ## Dealing with a receiver -/

/-- One thing that is done with a receiver of either kind. -/
inductive Dealing
  | offer (message : Bytes)
  /-- The message at the head is taken away, if there is one. -/
  | deliver
  /-- Nothing more is taken or delivered. -/
  | close (now drain : Nat)

/-- What it comes to. -/
inductive Upshot
  | answered (answer : Except EnqueueError Nat)
  | delivered (message : Option Bytes)
  | closed

namespace Session

/-- The session in front of an endpoint that accepts the message at the head, and then no more. -/
def facingOne (s : Session) : Session :=
  { s with
    endpoint := { s.endpoint with
      acceptances := s.outbound.front?.toList.map fun head => .upTo head.length
      unlimited := false } }

/-- Sends to such an endpoint, and gives what it accepts. -/
def deliver (s : Session) : Option Bytes × Session :=
  let after := s.facingOne.writeReady.2
  let sent := after.endpoint.written.drop s.endpoint.written.length
  (if sent = [] then none else some sent, after)

end Session

/-- The message that was received, if one was. -/
def Received.message? : Received → Option Bytes
  | .message bytes => some bytes
  | .ended => none
  | .nothing => none

namespace Member

/-- Does one thing with a receiver. -/
def deal (member : Member) : Dealing → Upshot × Member
  | .offer message =>
    let (answer, member) := Outbox.offer member message
    (.answered answer, member)
  | .deliver =>
    match member with
    | .inl session =>
      let (message, session) := session.deliver
      (.delivered message, .inl session)
    | .inr subscriber =>
      let (found, box) := subscriber.box.receive
      (.delivered found.message?, .inr { subscriber with box })
  | .close now drain =>
    match member with
    | .inl session => (.closed, .inl (session.beginClose now drain))
    | .inr subscriber => (.closed, .inr { subscriber with box := subscriber.box.abort })

/-- Does one thing after another: what each comes to, with the bytes that are queued after it, and
the receiver in the end. -/
def dealAll (member : Member) : List Dealing → List (Upshot × Nat) × Member
  | [] => ([], member)
  | dealing :: later =>
    let (upshot, next) := member.deal dealing
    let (log, last) := dealAll next later
    ((upshot, next.queued) :: log, last)

theorem dealAll_cons (member : Member) (dealing : Dealing) (later : List Dealing) :
    member.dealAll (dealing :: later) =
      (((member.deal dealing).1, (member.deal dealing).2.queued) ::
          ((member.deal dealing).2.dealAll later).1,
        ((member.deal dealing).2.dealAll later).2) :=
  rfl

theorem dealAll_append (member : Member) (dealings : List Dealing) (last : Dealing) :
    (member.dealAll (dealings ++ [last])).2 = ((member.dealAll dealings).2.deal last).2 := by
  induction dealings generalizing member with
  | nil => rfl
  | cons dealing later ih => exact ih _

/-- A receiver that was made with this identity and these limits, of either kind, with which these
things have been done. -/
inductive Treated (id : SessionId) (limits : QueueLimits) (dealings : List Dealing) : Member → Prop
  | session (peer : String) (endpoint : Endpoint) (codec : Codec) :
      Treated id limits dealings
        (dealAll (.inl (Session.new id peer endpoint codec limits)) dealings).2
  | mailbox :
      Treated id limits dealings (dealAll (.inr ⟨id, Mailbox.new limits⟩) dealings).2

/-- Two receivers with which the same has been done since they were made alike. -/
def SameRun (member other : Member) : Prop :=
  ∃ id limits dealings, Treated id limits dealings member ∧ Treated id limits dealings other

end Member

/-! ## The counterpart of a receiver -/

/-- The mailbox with the queue of a session, closed when the session drains. -/
def Session.asMailbox (s : Session) : Mailbox := ⟨s.outbound, s.isDraining⟩

/-- A session holds no empty message, and nothing at all when it drains. -/
structure Session.Proper (s : Session) : Prop where
  nonempty : ∀ item ∈ s.outbound.items, item ≠ []
  cleared : s.isDraining = true → s.outbound.clear = s.outbound

namespace Member

/-- The connection with a mailbox that a receiver is like. -/
def counterpart : Member → Subscriber
  | .inl session => ⟨session.id, session.asMailbox⟩
  | .inr subscriber => subscriber

/-- A receiver that can be dealt with as its counterpart can. -/
def Proper : Member → Prop
  | .inl session => session.Proper
  | .inr _ => True

theorem id_counterpart (member : Member) : Outbox.id member.counterpart = Outbox.id member := by
  cases member <;> rfl

theorem queued_counterpart (member : Member) :
    queued (.inr member.counterpart) = member.queued := by
  cases member <;> rfl

end Member

/-! ## Offering -/

namespace Session

variable {s : Session}

theorem enqueue_asMailbox (s : Session) (message : Bytes) :
    (s.enqueue message).1 = (s.asMailbox.offer message).1 ∧
      (s.enqueue message).2.asMailbox = (s.asMailbox.offer message).2 := by
  unfold enqueue Mailbox.offer
  by_cases hdraining : s.isDraining = true
  · rw [if_pos hdraining, if_pos (show s.asMailbox.closed = true from hdraining)]
    exact ⟨rfl, rfl⟩
  · rw [if_neg hdraining, if_neg (show ¬ s.asMailbox.closed = true from hdraining)]
    exact ⟨rfl, rfl⟩

theorem Proper.enqueue (h : s.Proper) (message : Bytes) : (s.enqueue message).2.Proper := by
  unfold Session.enqueue
  split
  · exact h
  next hopen =>
  refine ⟨?_, fun hdraining => absurd hdraining hopen⟩
  have hpushed := s.outbound.push_pushed message
  generalize s.outbound.push message = result at hpushed
  intro item hitem
  cases hpushed with
  | refused error paused => exact h.nonempty item hitem
  | forgotten hempty => exact h.nonempty item hitem
  | taken evicted hne hle =>
    obtain hold | hnew := List.mem_append.1 hitem
    · exact h.nonempty item ((s.outbound.without_sublist evicted).subset hold)
    · rw [List.mem_singleton.1 hnew]
      exact hne

/-! ## Delivering -/

/-- What is accepted is taken off the queue, and writing goes on. -/
theorem writeReady_of_accepted {head : Bytes} {n : Nat} {endpoint : Endpoint}
    (hfront : s.outbound.front? = some head)
    (hanswer : s.endpoint.write head = (.accepted n, endpoint)) (hpos : n ≠ 0) :
    s.writeReady =
      ({ s with endpoint, outbound := s.outbound.consume n } : Session).writeReady := by
  rw [writeReady]
  split
  · next hnone => rw [hfront] at hnone; cases hnone
  next other hother =>
  obtain rfl : other = head := Option.some.inj (hother.symm.trans hfront)
  split
  · next hzero =>
    rw [hanswer] at hzero
    cases hzero
    exact absurd rfl hpos
  · next haccepted =>
    rw [hanswer] at haccepted
    cases haccepted
    rfl
  · next hfault => rw [hanswer] at hfault; cases hfault

/-- Writing ends where the endpoint would block. -/
theorem writeReady_of_blocked {head : Bytes} {fault : Fault} {endpoint : Endpoint}
    (hfront : s.outbound.front? = some head)
    (hanswer : s.endpoint.write head = (.fault fault, endpoint))
    (hkind : fault.kind = .wouldBlock) :
    s.writeReady = (.pending, { s with endpoint }) := by
  rw [writeReady]
  split
  · next hnone => rw [hfront] at hnone; cases hnone
  next other hother =>
  obtain rfl : other = head := Option.some.inj (hother.symm.trans hfront)
  split
  · next hzero => rw [hanswer] at hzero; cases hzero
  · next haccepted => rw [hanswer] at haccepted; cases haccepted
  · next hfault =>
    rw [hanswer] at hfault
    cases hfault
    exact dif_pos hkind

/-- Nothing is sent to an endpoint that accepts nothing more. -/
theorem writeReady_full (hnone : s.endpoint.acceptances = [])
    (hlimited : s.endpoint.unlimited = false) :
    s.writeReady.2.outbound = s.outbound ∧
      s.writeReady.2.endpoint.written = s.endpoint.written := by
  cases hitems : s.outbound.items with
  | nil =>
    rw [writeReady_of_nil hitems]
    exact ⟨rfl, rfl⟩
  | cons head rest =>
    have hfront : s.outbound.front? = some head := by rw [SendQueue.front?, hitems]; rfl
    have hanswer : s.endpoint.write head =
        (.fault Endpoint.wouldBlock,
          { s.endpoint with lastWrite := some (.fault Endpoint.wouldBlock) }) := by
      simp [Endpoint.write, hnone, hlimited]
    rw [writeReady_of_blocked hfront hanswer rfl]
    exact ⟨rfl, rfl⟩

/-- To an endpoint that accepts one message, the one at the head is sent, and it alone. -/
theorem writeReady_facingOne {head : Bytes} {rest : List Bytes}
    (hitems : s.outbound.items = head :: rest) (hne : head ≠ []) :
    s.facingOne.writeReady.2.outbound = s.outbound.consume head.length ∧
      s.facingOne.writeReady.2.endpoint.written = s.endpoint.written ++ head := by
  have hfront : s.facingOne.outbound.front? = some head := by
    show s.outbound.items.head? = some head
    rw [hitems]
    rfl
  have hacceptances : s.facingOne.endpoint.acceptances = [.upTo head.length] := by
    show s.outbound.front?.toList.map _ = _
    rw [show s.outbound.front? = some head from hfront]
    rfl
  have hanswer : s.facingOne.endpoint.write head = (.accepted head.length,
      { s.facingOne.endpoint with
        acceptances := [], written := s.endpoint.written ++ head,
        lastWrite := some (.accepted head.length) }) := by
    rw [Endpoint.write, hacceptances]
    simp [facingOne]
  rw [writeReady_of_accepted hfront hanswer (mt List.eq_nil_of_length_eq_zero hne)]
  exact writeReady_full rfl rfl

theorem deliver_nil (hitems : s.outbound.items = []) : s.deliver = (none, s.facingOne) := by
  have hempty : s.facingOne.writeReady = (.drained, s.facingOne) := writeReady_of_nil hitems
  rw [deliver, hempty]
  simp [facingOne]

theorem deliver_cons {head : Bytes} {rest : List Bytes} (hitems : s.outbound.items = head :: rest)
    (hne : head ≠ []) :
    s.deliver.1 = some head ∧ s.deliver.2.outbound = s.outbound.pop.2 := by
  obtain ⟨houtbound, hwritten⟩ := writeReady_facingOne hitems hne
  have hsent : s.facingOne.writeReady.2.endpoint.written.drop s.endpoint.written.length = head := by
    rw [hwritten, List.drop_left]
  refine ⟨?_, ?_⟩
  · show (if _ = [] then none else some _) = some head
    rw [hsent, if_neg hne]
  · show s.facingOne.writeReady.2.outbound = _
    rw [houtbound, SendQueue.consume_cons hitems, if_pos (Nat.le_refl _),
      SendQueue.pop_cons hitems]

theorem writes_deliver (s : Session) : Writes s.facingOne s.deliver.2 := writes_writeReady _

theorem isDraining_deliver (s : Session) : s.deliver.2.isDraining = s.isDraining := by
  rw [isDraining, s.writes_deliver.phase]
  rfl

/-- A session gives away what a mailbox with its queue does. -/
theorem Proper.deliver_asMailbox (h : s.Proper) :
    s.deliver.1 = s.asMailbox.receive.1.message? ∧
      s.deliver.2.asMailbox = s.asMailbox.receive.2 := by
  cases hitems : s.outbound.items with
  | nil =>
    have hpop : s.asMailbox.queue.pop = (none, s.outbound) := SendQueue.pop_nil hitems
    rw [deliver_nil hitems, Mailbox.receive, hpop]
    refine ⟨?_, rfl⟩
    cases s.asMailbox.closed <;> rfl
  | cons head rest =>
    obtain ⟨hsent, houtbound⟩ := deliver_cons hitems (h.nonempty head (by simp [hitems]))
    have hpop : s.asMailbox.queue.pop = (some head, s.outbound.pop.2) := by
      rw [asMailbox, SendQueue.pop_cons hitems]
    rw [Mailbox.receive, hpop]
    refine ⟨hsent, ?_⟩
    rw [asMailbox, houtbound, isDraining_deliver]
    rfl

theorem Proper.deliver (h : s.Proper) : s.deliver.2.Proper := by
  cases hitems : s.outbound.items with
  | nil =>
    rw [deliver_nil hitems]
    exact ⟨h.nonempty, h.cleared⟩
  | cons head rest =>
    obtain ⟨-, houtbound⟩ := deliver_cons hitems (h.nonempty head (by simp [hitems]))
    constructor
    · intro item hitem
      rw [houtbound, SendQueue.pop_cons hitems] at hitem
      exact h.nonempty item (hitems ▸ List.mem_cons_of_mem head hitem)
    · intro hdraining
      have hitems' : s.outbound.items = [] := by
        rw [← h.cleared (s.isDraining_deliver ▸ hdraining)]
        rfl
      rw [hitems] at hitems'
      cases hitems'

/-! ## Closing -/

/-- A session that is closed has thrown away what a mailbox with its queue would. -/
theorem Proper.beginClose_asMailbox (h : s.Proper) (now drain : Nat) :
    (s.beginClose now drain).asMailbox = s.asMailbox.abort := by
  rw [asMailbox, isDraining_beginClose, beginClose]
  split
  · next hdraining =>
    rw [Mailbox.abort, asMailbox, h.cleared hdraining]
  · rfl

theorem Proper.beginClose (h : s.Proper) (now drain : Nat) : (s.beginClose now drain).Proper := by
  unfold Session.beginClose
  split
  · exact h
  · exact ⟨nofun, fun _ => rfl⟩

end Session

/-! ## Whatever is done -/

namespace Member

/-- What is offered to a receiver is answered by its counterpart alike. -/
theorem offer_counterpart (member : Member) (message : Bytes) :
    (Outbox.offer member message).1 = (Outbox.offer member.counterpart message).1 ∧
      (Outbox.offer member message).2.counterpart =
        (Outbox.offer member.counterpart message).2 := by
  cases member with
  | inl session =>
    obtain ⟨hanswer, hbox⟩ := session.enqueue_asMailbox message
    refine ⟨hanswer, ?_⟩
    show Subscriber.mk (session.enqueue message).2.id (session.enqueue message).2.asMailbox = _
    rw [hbox, session.id_enqueue message]
    rfl
  | inr subscriber => exact ⟨rfl, rfl⟩

/-- What is done with a receiver comes to the same as with its counterpart. -/
theorem Proper.deal_counterpart {member : Member} (h : member.Proper) (dealing : Dealing) :
    (member.deal dealing).1 = (deal (.inr member.counterpart) dealing).1 ∧
      .inr (member.deal dealing).2.counterpart = (deal (.inr member.counterpart) dealing).2 := by
  cases dealing with
  | offer message =>
    obtain ⟨hanswer, hnext⟩ := member.offer_counterpart message
    exact ⟨congrArg Upshot.answered hanswer, congrArg Sum.inr hnext⟩
  | deliver =>
    cases member with
    | inl session =>
      have hsession : session.Proper := h
      obtain ⟨hmessage, hbox⟩ := hsession.deliver_asMailbox
      refine ⟨congrArg Upshot.delivered hmessage, congrArg Sum.inr ?_⟩
      show Subscriber.mk session.deliver.2.id session.deliver.2.asMailbox = _
      rw [hbox, session.writes_deliver.id]
      rfl
    | inr subscriber => exact ⟨rfl, rfl⟩
  | close now drain =>
    cases member with
    | inl session =>
      have hsession : session.Proper := h
      refine ⟨rfl, congrArg Sum.inr ?_⟩
      show Subscriber.mk (session.beginClose now drain).id (session.beginClose now drain).asMailbox
        = _
      rw [hsession.beginClose_asMailbox, session.id_beginClose]
      rfl
    | inr subscriber => exact ⟨rfl, rfl⟩

theorem Proper.deal {member : Member} (h : member.Proper) (dealing : Dealing) :
    (member.deal dealing).2.Proper := by
  cases member with
  | inl session =>
    have hsession : session.Proper := h
    cases dealing with
    | offer message => exact hsession.enqueue message
    | deliver => exact hsession.deliver
    | close now drain => exact hsession.beginClose now drain
  | inr subscriber => cases dealing <;> trivial

/-- So does everything that is done, one after another. -/
theorem Proper.dealAll_counterpart {member : Member} (h : member.Proper)
    (dealings : List Dealing) :
    (member.dealAll dealings).1 = (dealAll (.inr member.counterpart) dealings).1 ∧
      .inr (member.dealAll dealings).2.counterpart =
        (dealAll (.inr member.counterpart) dealings).2 := by
  induction dealings generalizing member with
  | nil => exact ⟨rfl, rfl⟩
  | cons dealing later ih =>
    obtain ⟨hupshot, hnext⟩ := h.deal_counterpart dealing
    obtain ⟨hlog, hlast⟩ := ih (h.deal dealing)
    rw [dealAll_cons, dealAll_cons, ← hupshot, ← hnext, queued_counterpart, ← hlog]
    exact ⟨rfl, hlast⟩

theorem proper_new (id : SessionId) (peer : String) (endpoint : Endpoint) (codec : Codec)
    (limits : QueueLimits) : Proper (.inl (Session.new id peer endpoint codec limits)) :=
  ⟨nofun, nofun⟩

/-- A receiver of either kind is like the mailbox with which the same has been done. -/
theorem Treated.counterpart {id : SessionId} {limits : QueueLimits} {dealings : List Dealing}
    {member : Member} (h : Treated id limits dealings member) :
    .inr member.counterpart = (dealAll (.inr ⟨id, Mailbox.new limits⟩) dealings).2 := by
  cases h with
  | session peer endpoint codec =>
    exact ((proper_new id peer endpoint codec limits).dealAll_counterpart dealings).2
  | mailbox =>
    have hproper : Proper (.inr ⟨id, Mailbox.new limits⟩) := trivial
    exact (hproper.dealAll_counterpart dealings).2

/-- Doing one thing more. -/
theorem Treated.deal {id : SessionId} {limits : QueueLimits} {dealings : List Dealing}
    {member : Member} (h : Treated id limits dealings member) (dealing : Dealing) :
    Treated id limits (dealings ++ [dealing]) (member.deal dealing).2 := by
  cases h with
  | session peer endpoint codec =>
    rw [← dealAll_append]
    exact .session peer endpoint codec
  | mailbox =>
    rw [← dealAll_append]
    exact .mailbox

theorem SameRun.counterpart_eq {member other : Member} (h : SameRun member other) :
    member.counterpart = other.counterpart := by
  obtain ⟨id, limits, dealings, hmember, hother⟩ := h
  exact Sum.inr.inj (hmember.counterpart.trans hother.counterpart.symm)

theorem SameRun.offer {member other : Member} (h : SameRun member other) (message : Bytes) :
    SameRun (Outbox.offer member message).2 (Outbox.offer other message).2 := by
  obtain ⟨id, limits, dealings, hmember, hother⟩ := h
  exact ⟨id, limits, dealings ++ [.offer message], hmember.deal (.offer message),
    hother.deal (.offer message)⟩

end Member

/-! ## Relaying -/

/-- Receivers are tallied as their counterparts are. -/
theorem relay_counterpart (origin : SessionId) (frame : Bytes) (members : List Member) :
    (relay origin frame members).1 = (relay origin frame (members.map Member.counterpart)).1 := by
  induction members with
  | nil => rfl
  | cons member rest ih =>
    rw [List.map_cons]
    by_cases hown : Outbox.id member = origin
    · rw [relay_own origin frame hown,
        relay_own origin frame (member.id_counterpart.trans hown)]
      exact ih
    · rw [relay_other origin frame hown,
        relay_other origin frame (fun heq => hown (member.id_counterpart.symm.trans heq)),
        (member.offer_counterpart frame).1, member.id_counterpart]
      exact congrArg (Tally.note _ _) ih

/-- **Sessions and mailboxes cannot be told apart by what is sent through them.** Whatever limits a
session and a mailbox are made with, and whatever is offered to them, taken out of them message by
message, and closed in whatever order: every offer is answered alike, the same messages come out in
the same order, and after every step as many bytes are queued. So wherever receivers have been dealt
with as others of either kind have been, a relay gives the same tally over these as over those, and
again afterwards. -/
theorem kinds_agree (limits : QueueLimits) (id : SessionId) :
    (∀ (peer : String) (endpoint : Endpoint) (codec : Codec) (dealings : List Dealing),
      (Member.dealAll (.inl (Session.new id peer endpoint codec limits)) dealings).1 =
        (Member.dealAll (.inr ⟨id, Mailbox.new limits⟩) dealings).1) ∧
    ∀ members others : List Member, List.Forall₂ Member.SameRun members others →
      ∀ (origin : SessionId) (frame : Bytes),
        (relay origin frame members).1 = (relay origin frame others).1 ∧
        List.Forall₂ Member.SameRun (relay origin frame members).2
          (relay origin frame others).2 := by
  constructor
  · intro peer endpoint codec dealings
    exact ((Member.proper_new id peer endpoint codec limits).dealAll_counterpart dealings).1
  · intro members others hsame origin frame
    constructor
    · have hcounterparts : members.map Member.counterpart = others.map Member.counterpart := by
        rw [← List.forall₂_eq_eq_eq]
        exact List.forall₂_map_left_iff.2 (List.forall₂_map_right_iff.2
          (hsame.imp fun _ _ h => h.counterpart_eq))
      rw [relay_counterpart, hcounterparts, ← relay_counterpart]
    · rw [relay_members, relay_members]
      refine List.forall₂_map_left_iff.2 (List.forall₂_map_right_iff.2 (hsame.imp ?_))
      intro member other h
      have hid : Outbox.id member = Outbox.id other := by
        rw [← member.id_counterpart, h.counterpart_eq, other.id_counterpart]
      rw [hid]
      split
      · exact h
      · exact h.offer frame

/-- A message that is evicted from behind one that was delivered, by an offer and by a relay. -/
theorem kinds_agree_evicting :
    let limits : QueueLimits := ⟨6, 2, some 2, .dropOldest⟩
    let dealings : List Dealing := [.offer [1, 2, 3], .offer [4], .deliver, .offer [5], .offer [6]]
    let session : Member := .inl (Session.new ⟨7⟩ "" .idle (.lines none 0) limits)
    let mailbox : Member := .inr ⟨⟨7⟩, Mailbox.new limits⟩
    (session.dealAll dealings).1 =
        [(.answered (.ok 0), 3), (.answered (.ok 0), 4), (.delivered (some [1, 2, 3]), 1),
          (.answered (.ok 0), 2), (.answered (.ok 1), 2)] ∧
      (relay ⟨1⟩ [8, 9] [(session.dealAll dealings).2]).1 =
        (relay ⟨1⟩ [8, 9] [(mailbox.dealAll dealings).2]).1 := by
  intro limits dealings session mailbox
  obtain ⟨hlogs, hrelays⟩ := kinds_agree limits ⟨7⟩
  have hsame : Member.SameRun (session.dealAll dealings).2 (mailbox.dealAll dealings).2 :=
    ⟨⟨7⟩, limits, dealings, .session "" .idle (.lines none 0), .mailbox⟩
  refine ⟨(hlogs "" .idle (.lines none 0) dealings).trans rfl, ?_⟩
  exact (hrelays _ _ (.cons hsame .nil) ⟨1⟩ [8, 9]).1

end ChatRelay
