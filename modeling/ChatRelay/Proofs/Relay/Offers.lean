import ChatRelay.Proofs.Mailbox.Wakeup
import ChatRelay.Proofs.Queue.Log
import ChatRelay.Proofs.Server.Largest
import ChatRelay.Relay.Room
import ChatRelay.Server.Exchange

/-!
# What the queues of a server keep

Whatever is called on a queue, it counts what it holds and stays within its limits, and only a queue
that makes producers wait is ever paused or answers that it is full (`queue_invariant`). A server
may not have such queues. So whatever has been done with its sessions and mailboxes, none of them
answers a message that is relayed to it with `full`, and a relay never meets a receiver for which it
would have to wait.
-/

namespace ChatRelay

variable {limits : QueueLimits}

/-! ## Configurations -/

/-- A server that may start has queues with sound limits, and makes nobody wait. -/
theorem ServerConfig.of_check {config : ServerConfig} (h : config.check = .ok ()) :
    config.outbound.sound = true ∧ config.outbound.policy ≠ .blockProducer := by
  unfold check QueueLimits.check at h
  by_cases hbind : config.bind.isEmpty = true
  · rw [if_pos hbind] at h
    cases h
  rw [if_neg hbind] at h
  cases hsound : config.outbound.sound with
  | false =>
    rw [hsound, if_neg Bool.false_ne_true] at h
    cases h
  | true =>
    refine ⟨rfl, fun hpolicy => ?_⟩
    rw [hsound, if_pos rfl, if_pos hpolicy] at h
    cases h

/-! ## Receivers -/

namespace Member

/-- A receiver whose queue was made with these limits: a session, or a connection with a mailbox,
whatever has been done with it since. -/
inductive Under (limits : QueueLimits) : Member → Prop
  | session (id : SessionId) (peer : String) (endpoint : Endpoint) (codec : Codec)
      (events : List SessionEvent) :
      Under limits (.inl (events.foldl Session.meet (Session.new id peer endpoint codec limits)))
  | mailbox (id : SessionId) (happenings : List (Happening Nat)) :
      Under limits (.inr ⟨id, ((Crowd.new limits).run happenings).2.box⟩)

/-- No receiver answers that it is full where producers are not made to wait. -/
theorem Under.offer_ne_full {member : Member} (h : member.Under limits)
    (hcap : limits.maxMessages ≠ some 0) (hpolicy : limits.policy ≠ .blockProducer)
    (frame : Bytes) : (Outbox.offer member frame).1 ≠ .error .full := by
  cases h with
  | session id peer endpoint codec events =>
    have hqueues : (events.foldl Session.meet
        (Session.new id peer endpoint codec limits)).Queues limits :=
      Session.foldl_meet_keeps (fun event hs => hs.meet hcap event) events
        ⟨rfl, SendQueue.regular_new limits⟩
    generalize events.foldl Session.meet (Session.new id peer endpoint codec limits) = session
      at hqueues
    show (session.enqueue frame).1 ≠ .error .full
    unfold Session.enqueue
    split
    · nofun
    · exact fun hfull => hpolicy (hqueues.limits_eq ▸ hqueues.regular.policy_of_full hfull)
  | mailbox id happenings =>
    have hproper := ((Crowd.watchful_new limits).run hcap happenings).proper
    generalize ((Crowd.new limits).run happenings).2.box = box at hproper
    show (box.offer frame).1 ≠ .error .full
    unfold Mailbox.offer
    split
    · nofun
    · exact fun hfull => hpolicy (hproper.limits ▸ hproper.regular.policy_of_full hfull)

end Member

/-- Nor does a seat, which answers for its mailbox while it is present. -/
theorem Seat.offer_ne_full {seat : Seat} {frame : Bytes}
    (h : (Outbox.offer seat.subscriber frame).1 ≠ .error .full) :
    (Outbox.offer seat frame).1 ≠ .error .full := by
  show (seat.offer frame).1 ≠ .error .full
  unfold Seat.offer
  split
  · exact h
  · nofun

/-! ## The invariant -/

/-- What is left of a message that was begun is a part of it, and not all. -/
theorem QueueLog.Accurate.head_suffix {log : QueueLog} (h : log.Accurate limits)
    (hstarted : log.queue.headStarted = true) :
    ∃ head rest, log.queue.items = head :: rest ∧ head ≠ [] ∧
      ∃ message ∈ log.taken, head <:+ message ∧ head ≠ message := by
  have hbegun := h.started.1 hstarted
  obtain ⟨head, rest, hitems⟩ := List.exists_cons_of_ne_nil (h.head hbegun)
  have htaken := h.genuine.head head (by simp [hitems])
  refine ⟨head, rest, hitems, h.nonempty head (by simp [hitems]), log.begun ++ head, htaken,
    List.suffix_append _ _, ?_⟩
  intro heq
  exact hbegun (List.append_left_eq_self.1 heq.symm)

/-- **A queue keeps count.** Whatever has been called on a queue, its bytes are those of its items,
of which none is empty; there are never more bytes or items than its limits allow; the head of a
queue that says so is the rest of a message that was taken, of which something has been sent; only
under the policy that makes producers wait is it paused, and then something is in it, and only under
that policy does it answer that it is full; and nothing is ever subtracted from its count but what
is counted in it. And where a server may have such queues, none of its receivers answers a message
that is relayed to it so. -/
theorem queue_invariant (limits : QueueLimits) (hcap : limits.maxMessages ≠ some 0) :
    (∀ calls : List QueueCall,
      let log := (QueueLog.new limits).run calls
      let q := log.queue
      q = (SendQueue.new limits).run calls ∧ q.limits = limits ∧
      q.queued = (q.items.map List.length).sum ∧
      (∀ item ∈ q.items, item ≠ []) ∧
      q.queued ≤ limits.highWater ∧
      (∀ max ∈ limits.maxMessages, q.items.length ≤ max) ∧
      (q.headStarted = true → ∃ head rest, q.items = head :: rest ∧ head ≠ [] ∧
        ∃ message ∈ log.taken, head <:+ message ∧ head ≠ message) ∧
      (q.paused = true → limits.policy = .blockProducer ∧ q.items ≠ []) ∧
      q.Covered ∧
      ∀ message, (q.push message).1 = .error .full → limits.policy = .blockProducer) ∧
    ∀ config : ServerConfig, config.check = .ok () → config.outbound = limits →
      (∀ member : Member, member.Under limits →
        ∀ frame, (Outbox.offer member frame).1 ≠ .error .full) ∧
      ∀ seat : Seat, Member.Under limits (.inr seat.subscriber) →
        ∀ frame, (Outbox.offer seat frame).1 ≠ .error .full := by
  constructor
  · intro calls log q
    have h : QueueLog.Accurate limits log := QueueLog.accurate_run hcap calls
    have hlimits : q.limits = limits := h.limits_eq
    have htotal : q.queued = (q.items.map List.length).sum := by
      rw [← List.length_flatten]
      exact h.regular.total
    refine ⟨QueueLog.queue_run _ calls, hlimits, htotal, h.nonempty, h.bytes, h.count,
      h.head_suffix, fun hpaused => hlimits ▸ h.regular.pause hpaused, h.regular.covered, ?_⟩
    exact fun message hfull => hlimits ▸ h.regular.policy_of_full hfull
  · rintro config hcheck rfl
    have hpolicy := (ServerConfig.of_check hcheck).2
    have hmember : ∀ member : Member, member.Under config.outbound →
        ∀ frame, (Outbox.offer member frame).1 ≠ .error .full :=
      fun member hunder => hunder.offer_ne_full hcap hpolicy
    exact ⟨hmember, fun seat hunder frame => Seat.offer_ne_full (hmember _ hunder frame)⟩

/-- A queue whose head is partly sent and that is paused, and the answer of a session to a message
for which its queue has no room. -/
theorem queue_invariant_started_head :
    let blocking : QueueLimits := ⟨6, 2, some 2, .blockProducer⟩
    let calls : List QueueCall := [.push [1, 2, 3], .consume 1, .push [4], .push [5]]
    let log := (QueueLog.new blocking).run calls
    let config : ServerConfig :=
      { ServerConfig.standard with outbound := ⟨6, 2, some 2, .disconnect⟩ }
    let events : List SessionEvent := [.enqueue [1, 2, 3], .enqueue [4]]
    let session := events.foldl Session.meet
      (Session.new ⟨7⟩ "" .idle config.codec config.outbound)
    blocking.maxMessages ≠ some 0 ∧ config.outbound.maxMessages ≠ some 0 ∧
      log.queue.items = [[2, 3], [4]] ∧ log.queue.queued = ([[2, 3], [4]].map List.length).sum ∧
      log.queue.headStarted = true ∧
      (∃ message ∈ log.taken, [2, 3] <:+ message ∧ [2, 3] ≠ message) ∧
      log.queue.paused = true ∧ log.queue.items ≠ [] ∧
      (log.queue.push [6]).1 = .error .full ∧ blocking.policy = .blockProducer ∧
      config.check = .ok () ∧ (session.enqueue [5]).1 = .error .overflow ∧
      (session.enqueue [5]).1 ≠ .error .full := by
  intro blocking calls log config events session
  have hcap : blocking.maxMessages ≠ some 0 := by decide
  have hcap' : config.outbound.maxMessages ≠ some 0 := by decide
  have hitems : log.queue.items = [[2, 3], [4]] := by decide
  have hstarted : log.queue.headStarted = true := by decide
  have hpaused : log.queue.paused = true := by decide
  have hfull : (log.queue.push [6]).1 = .error .full := by decide
  obtain ⟨-, -, htotal, -, -, -, hhead, hpause, -, hpolicy⟩ :=
    (queue_invariant blocking hcap).1 calls
  obtain ⟨hoffer, -⟩ := (queue_invariant config.outbound hcap').2 config rfl rfl
  have hanswer := hoffer _ (.session ⟨7⟩ "" .idle config.codec events) [5]
  obtain ⟨head, rest, hcons, -, message, hmessage, hsuffix, hproper⟩ := hhead hstarted
  rw [show ((QueueLog.new blocking).run calls).queue.items = _ from hitems] at hcons htotal
  obtain ⟨rfl, rfl⟩ := List.cons.inj hcons
  exact ⟨hcap, hcap', hitems, htotal, hstarted, ⟨message, hmessage, hsuffix, hproper⟩, hpaused,
    (hpause hpaused).2, hfull, hpolicy [6] hfull, rfl, rfl, hanswer⟩

end ChatRelay
