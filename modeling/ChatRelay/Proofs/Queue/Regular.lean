import ChatRelay.Proofs.Queue.Changes

/-!
# Queues that pause

A producer has to wait exactly while its queue is paused, and a queue is paused by the message that
makes its producer wait. A paused queue takes nothing, not even an empty message, until it has
drained to its low-water mark (`push_of_paused`), and a message that has to wait leaves it paused
(`push_full`).

A `Regular` queue counts its bytes, and is paused only under `blockProducer` and only while it holds
something. Every operation keeps a queue regular if its message cap leaves room for one message
(`Regular.push`, `Regular.pop`, `Regular.consume`, `regular_clear`), so that a pause always ends.
-/

namespace ChatRelay

theorem QueueLimits.maxMessages_ne {limits : QueueLimits} (h : limits.sound = true) :
    limits.maxMessages ≠ some 0 := by
  simp only [sound, Bool.and_eq_true, bne_iff_ne] at h
  exact h.2

namespace SendQueue

variable {q : SendQueue} {message : Bytes}

/-! ## Pausing -/

/-- A paused queue refuses everything that is not too large for now. -/
theorem push_of_paused (h : q.paused = true) (hle : message.length ≤ q.limits.highWater) :
    q.push message = (.error .full, q) := by
  rw [push, if_neg (Nat.not_lt.2 hle), if_pos h]

/-- A paused queue answers every message in one of two ways and stays as it is. -/
theorem push_paused (h : q.paused = true) (message : Bytes) :
    q.push message =
      (.error (if q.limits.highWater < message.length
        then .tooLarge message.length q.limits.highWater else .full), q) := by
  by_cases hlarge : q.limits.highWater < message.length
  · rw [push, if_pos hlarge, if_pos hlarge]
  · rw [push_of_paused h (Nat.le_of_not_lt hlarge), if_neg hlarge]

/-- A paused queue takes nothing and stays as it is. -/
theorem push_paused_eq (h : q.paused = true) (message : Bytes) :
    (q.push message).2 = q ∧ ∃ error, (q.push message).1 = .error error := by
  rw [push_paused h message]
  exact ⟨rfl, _, rfl⟩

/-- A message that has to wait is not too large, and leaves the queue paused. It had been paused
already, or there was no room under the policy that makes producers wait. -/
theorem push_full (h : (q.push message).1 = .error .full) :
    (q.push message).2 = { q with paused := true } ∧ message.length ≤ q.limits.highWater ∧
      (q.paused = true ∨ q.limits.policy = .blockProducer ∧
        fits q.limits q.items.length q.queued message.length = false) := by
  unfold push at h ⊢
  split at h
  · cases h
  next hle =>
  rw [if_neg hle]
  have hle := Nat.not_lt.1 hle
  split at h
  · next hpaused =>
    rw [if_pos hpaused]
    refine ⟨?_, hle, .inl hpaused⟩
    rw [← hpaused]
  next hpaused =>
  rw [if_neg hpaused]
  split at h
  · cases h
  next hempty =>
  rw [if_neg hempty]
  split at h
  · cases h
  next hfits =>
  rw [if_neg hfits]
  cases hpolicy : q.limits.policy with
  | blockProducer => exact ⟨rfl, hle, .inr ⟨rfl, Bool.eq_false_iff.2 hfits⟩⟩
  | dropNewest => simp [hpolicy] at h
  | disconnect => simp [hpolicy] at h
  | dropOldest =>
    simp only [hpolicy] at h
    split at h <;> cases h

/-- Where producers wait, a message that is not too large is taken or has to wait. -/
theorem push_of_blockProducer (hpolicy : q.limits.policy = .blockProducer)
    (hle : message.length ≤ q.limits.highWater) :
    (∃ evicted, (q.push message).1 = .ok evicted) ∨ (q.push message).1 = .error .full := by
  rw [push, if_neg (Nat.not_lt.2 hle)]
  split
  · exact .inr rfl
  split
  · exact .inl ⟨_, rfl⟩
  split
  · exact .inl ⟨_, rfl⟩
  · rw [hpolicy]
    exact .inr rfl

/-- A message that does not have to wait pauses nothing. -/
theorem paused_push (h : (q.push message).1 ≠ .error .full) :
    (q.push message).2.paused = q.paused := by
  unfold push at h ⊢
  split
  · rfl
  next hle =>
  rw [if_neg hle] at h
  split
  · rfl
  next hpaused =>
  rw [if_neg hpaused] at h
  split
  · rfl
  next hempty =>
  rw [if_neg hempty] at h
  split
  · rfl
  next hfits =>
  rw [if_neg hfits] at h
  cases hpolicy : q.limits.policy with
  | blockProducer => simp [hpolicy] at h
  | dropNewest => rfl
  | disconnect => rfl
  | dropOldest =>
    dsimp only
    split <;> rfl

@[simp] theorem limits_push (q : SendQueue) (message : Bytes) :
    (q.push message).2.limits = q.limits := by
  have hpushed := q.push_pushed message
  generalize q.push message = result at hpushed
  cases hpushed <;> rfl

/-! ## Regular queues -/

/-- The bytes are counted, and a pause has a reason. -/
structure Regular (q : SendQueue) : Prop where
  total : q.queued = q.items.flatten.length
  pause : q.paused = true → q.limits.policy = .blockProducer ∧ q.items ≠ []

theorem regular_new (limits : QueueLimits) : (new limits).Regular :=
  ⟨rfl, nofun⟩

/-- A message that fits nowhere finds something in its way. -/
theorem Regular.items_ne_nil (h : q.Regular) (hcap : q.limits.maxMessages ≠ some 0)
    (hle : message.length ≤ q.limits.highWater)
    (hfits : fits q.limits q.items.length q.queued message.length = false) : q.items ≠ [] := by
  intro hnil
  have hqueued : q.queued = 0 := by rw [h.total, hnil]; rfl
  rw [hnil, hqueued, fits] at hfits
  cases hmax : q.limits.maxMessages with
  | none => simp [hmax, hle] at hfits
  | some max =>
    have hpos : 0 < max := by
      rw [hmax] at hcap
      exact Nat.pos_of_ne_zero fun h0 => hcap (congrArg some h0)
    simp [hmax, hle, hpos] at hfits

/-- Only a queue that makes producers wait answers that it is full. -/
theorem Regular.policy_of_full (h : q.Regular) (hfull : (q.push message).1 = .error .full) :
    q.limits.policy = .blockProducer := by
  obtain ⟨-, -, hpaused | ⟨hpolicy, -⟩⟩ := push_full hfull
  · exact (h.pause hpaused).1
  · exact hpolicy

theorem Regular.append (h : q.Regular) (hpaused : q.paused = false) (message : Bytes) :
    (q.append message).Regular := by
  refine ⟨?_, fun h => ?_⟩
  · simp [SendQueue.append, h.total]
  · rw [SendQueue.append, hpaused] at h
    cases h

theorem Regular.without (h : q.Regular) (hpaused : q.paused = false) (evicted : Nat) :
    (q.without evicted).Regular := by
  refine ⟨?_, fun h => ?_⟩
  · have hitems : q.items = q.items.take q.kept ++ ((q.items.drop q.kept).take evicted ++
        (q.items.drop q.kept).drop evicted) := by
      rw [List.take_append_drop, List.take_append_drop]
    have htotal := congrArg (fun items => items.flatten.length) hitems
    simp only [List.flatten_append, List.length_append] at htotal
    simp only [SendQueue.without, List.flatten_append, List.length_append, h.total]
    omega
  · rw [SendQueue.without, hpaused] at h
    cases h

/-- What is taken finds the queue not paused. -/
theorem paused_of_push_ok {evicted : Nat} (h : (q.push message).1 = .ok evicted) :
    q.paused = false := by
  cases hpaused : q.paused with
  | false => rfl
  | true =>
    obtain ⟨-, error, herror⟩ := push_paused_eq hpaused message
    rw [h] at herror
    cases herror

theorem Regular.push (h : q.Regular) (hcap : q.limits.maxMessages ≠ some 0) (message : Bytes) :
    (q.push message).2.Regular := by
  by_cases hfull : (q.push message).1 = .error .full
  · obtain ⟨hqueue, hle, hreason⟩ := push_full hfull
    rw [hqueue]
    refine ⟨h.total, fun _ => ?_⟩
    rcases hreason with hpaused | ⟨hpolicy, hfits⟩
    · exact h.pause hpaused
    · exact ⟨hpolicy, h.items_ne_nil hcap hle hfits⟩
  · have hpaused := paused_push hfull
    have htaken := @paused_of_push_ok q message
    have hpushed := q.push_pushed message
    generalize q.push message = result at hpushed hpaused htaken
    cases hpushed with
    | refused error paused => exact ⟨h.total, fun h' => h.pause (hpaused ▸ h')⟩
    | forgotten hempty => exact h
    | taken evicted hne hle =>
      have hopen := htaken rfl
      exact (h.without hopen evicted).append hopen message

/-! ## Popping -/

theorem pop_nil (h : q.items = []) : q.pop = (none, q) := by
  rw [pop, h]

/-- What is left when the head is taken off. -/
theorem pop_cons {head : Bytes} {rest : List Bytes} (h : q.items = head :: rest) :
    q.pop = (some head, { q with
      items := rest, queued := q.queued - head.length, headStarted := false }.resume) := by
  rw [pop, h]

@[simp] theorem limits_pop (q : SendQueue) : q.pop.2.limits = q.limits := by
  unfold pop
  split <;> rfl

/-- A queue that counts its bytes is regular once its producer may go on: an empty one has reached
its low-water mark. -/
theorem regular_resume (htotal : q.queued = q.items.flatten.length)
    (hpolicy : q.paused = true → q.limits.policy = .blockProducer) : q.resume.Regular := by
  refine ⟨htotal, fun hpaused => ?_⟩
  simp only [resume, Bool.and_eq_true, decide_eq_true_eq] at hpaused
  refine ⟨hpolicy hpaused.1, fun hnil => ?_⟩
  have hnone : q.items.flatten.length = 0 := by rw [show q.items = [] from hnil]; rfl
  omega

theorem Regular.pop (h : q.Regular) : q.pop.2.Regular := by
  cases hitems : q.items with
  | nil => rwa [pop_nil hitems]
  | cons head rest =>
    have htotal := h.total
    rw [hitems, List.flatten_cons, List.length_append] at htotal
    rw [pop_cons hitems]
    refine regular_resume ?_ fun hpaused => (h.pause hpaused).1
    show q.queued - head.length = rest.flatten.length
    omega

/-! ## Consuming and clearing -/

@[simp] theorem limits_consume (q : SendQueue) (n : Nat) : (q.consume n).limits = q.limits := by
  unfold consume
  split
  · rfl
  · dsimp only
    split <;> rfl

theorem Regular.consume (h : q.Regular) (n : Nat) : (q.consume n).Regular := by
  cases hitems : q.items with
  | nil => rwa [consume_nil hitems]
  | cons head rest =>
    have htotal := h.total
    rw [hitems, List.flatten_cons, List.length_append] at htotal
    have hpolicy := fun hpaused => (h.pause hpaused).1
    rw [consume_cons hitems]
    split
    · refine regular_resume ?_ hpolicy
      show q.queued - head.length = rest.flatten.length
      omega
    · refine regular_resume ?_ hpolicy
      show q.queued - n = (head.drop n :: rest).flatten.length
      rw [List.flatten_cons, List.length_append, List.length_drop]
      omega

theorem regular_clear (q : SendQueue) : q.clear.Regular := ⟨rfl, nofun⟩

end SendQueue

end ChatRelay
