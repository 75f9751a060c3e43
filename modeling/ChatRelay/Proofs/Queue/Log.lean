import ChatRelay.Proofs.Queue.Policy

/-!
# What holds of a queue after any calls

A `QueueLog` goes along with a queue and notes the messages that it has taken, and what has been
sent of the one at its head. Whatever is called, the queue stays `Accurate` (`Accurate.step`,
`accurate_run`): its bytes and its messages are counted and within their bounds, nothing in it is
empty, its head is marked as partly sent exactly if something has been sent of it, and then it is
the rest of a message that was taken.

What is subtracted from the count of bytes is never more than was counted: `evict?` evicts as
`evict` does but fails where the count would go below zero, and never fails (`Regular.covered`).

So a queue always does with a message what the rule says (`answered_by_rule`).
-/

namespace ChatRelay

/-- One call on a queue that may change it. -/
inductive QueueCall
  | push (message : Bytes)
  | consume (n : Nat)
  | pop
  | clear
  deriving DecidableEq, Repr

namespace SendQueue

/-- The queue after one call. -/
def after (q : SendQueue) : QueueCall → SendQueue
  | .push message => (q.push message).2
  | .consume n => q.consume n
  | .pop => q.pop.2
  | .clear => q.clear

/-- The queue after calls, one after another. -/
def run (q : SendQueue) (calls : List QueueCall) : SendQueue := calls.foldl after q

end SendQueue

/-- A queue with what has become of the messages that it was given. -/
structure QueueLog where
  queue : SendQueue
  /-- The messages taken, oldest first. -/
  taken : List Bytes
  /-- What has been sent of the message at the head, while something of it is left. -/
  begun : Bytes

namespace QueueLog

/-- A queue that has been given nothing. -/
def new (limits : QueueLimits) : QueueLog := ⟨SendQueue.new limits, [], []⟩

/-- The messages taken after one call. -/
def takenAfter (log : QueueLog) : QueueCall → List Bytes
  | .push message =>
    match (log.queue.push message).1 with
    | .ok _ => log.taken ++ [message]
    | .error _ => log.taken
  | _ => log.taken

/-- What has been sent of the head after one call. -/
def begunAfter (log : QueueLog) : QueueCall → Bytes
  | .push _ => log.begun
  | .consume n =>
    match log.queue.items with
    | [] => log.begun
    | head :: _ => if head.length ≤ n then [] else log.begun ++ head.take n
  | .pop => []
  | .clear => []

/-- Goes along with one call. -/
def step (log : QueueLog) (call : QueueCall) : QueueLog :=
  ⟨log.queue.after call, log.takenAfter call, log.begunAfter call⟩

/-- Goes along with calls, one after another. -/
def run (log : QueueLog) (calls : List QueueCall) : QueueLog := calls.foldl step log

theorem queue_run (log : QueueLog) (calls : List QueueCall) :
    (log.run calls).queue = log.queue.run calls := by
  induction calls generalizing log with
  | nil => rfl
  | cons call calls ih => exact ih (log.step call)

end QueueLog

namespace SendQueue

variable {q : SendQueue} {message head : Bytes} {rest : List Bytes}

/-! ## Limits and pauses -/

@[simp] theorem limits_after (q : SendQueue) (call : QueueCall) :
    (q.after call).limits = q.limits := by
  cases call with
  | push message => exact limits_push q message
  | consume n => exact limits_consume q n
  | pop => exact limits_pop q
  | clear => rfl

theorem Regular.after (h : q.Regular) (hcap : q.limits.maxMessages ≠ some 0) (call : QueueCall) :
    (q.after call).Regular := by
  cases call with
  | push message => exact h.push hcap message
  | consume n => exact h.consume n
  | pop => exact h.pop
  | clear => exact regular_clear q

/-! ## Sending -/

theorem queued_consume_le (q : SendQueue) (n : Nat) : (q.consume n).queued ≤ q.queued := by
  cases hitems : q.items with
  | nil => rw [consume_nil hitems]
  | cons head rest =>
    rw [consume_cons hitems]
    split
    · exact Nat.sub_le _ _
    · exact Nat.sub_le _ _

/-! ## Checked counts -/

/-- Evicts as `evict` does, but fails where more bytes would be subtracted than were counted. -/
def evict? (limits : QueueLimits) (len : Nat) : (count queued : Nat) → List Bytes →
    Option (List Bytes × Nat × Nat)
  | _, queued, [] => some ([], queued, 0)
  | count, queued, old :: rest =>
    if fits limits count queued len then some (old :: rest, queued, 0)
    else if old.length ≤ queued then
      (evict? limits len (count - 1) (queued - old.length) rest).map fun (left, bytes, evicted) =>
        (left, bytes, evicted + 1)
    else none

/-- If all items are counted, evicting never subtracts too much. -/
theorem evict?_eq (limits : QueueLimits) (len count queued : Nat) (items : List Bytes)
    (h : items.flatten.length ≤ queued) :
    evict? limits len count queued items = some (evict limits len count queued items) := by
  induction items generalizing count queued with
  | nil => rfl
  | cons old rest ih =>
    rw [List.flatten_cons, List.length_append] at h
    rw [evict?, evict]
    split
    · rfl
    · rw [if_pos (by omega), ih _ _ (by omega)]
      rfl

/-- The count of bytes covers all that can be subtracted from it: the bytes of the head, when it is
sent or taken off, and those of the items that are evicted for a message. -/
structure Covered (q : SendQueue) : Prop where
  head : ∀ head ∈ q.items.head?, head.length ≤ q.queued
  evicted : ∀ len, evict? q.limits len q.items.length q.queued (q.items.drop q.kept) =
    some (evict q.limits len q.items.length q.queued (q.items.drop q.kept))

theorem Regular.covered (h : q.Regular) : q.Covered := by
  constructor
  · intro head hhead
    obtain ⟨rest, hitems⟩ := List.head?_eq_some_iff.1 hhead
    rw [h.total, hitems, List.flatten_cons, List.length_append]
    exact Nat.le_add_right _ _
  · intro len
    refine evict?_eq _ _ _ _ _ ?_
    have hparts := congrArg (fun items => items.flatten.length)
      (List.take_append_drop q.kept q.items)
    simp only [List.flatten_append, List.length_append] at hparts
    rw [h.total]
    omega

end SendQueue

namespace QueueLog

/-! ## Messages that wait -/

/-- With what has been sent of it the head is a message that was taken, and so are the others. -/
structure Genuine (taken : List Bytes) (begun : Bytes) (items : List Bytes) : Prop where
  head : ∀ head ∈ items.head?, begun ++ head ∈ taken
  rest : ∀ item ∈ items.tail, item ∈ taken

section
variable {taken : List Bytes} {begun head : Bytes} {items rest : List Bytes}

theorem genuine_nil_iff : Genuine taken [] items ↔ ∀ item ∈ items, item ∈ taken := by
  constructor
  · intro h item hitem
    cases items with
    | nil => cases hitem
    | cons head rest =>
      rcases List.mem_cons.1 hitem with rfl | hrest
      · exact h.head _ rfl
      · exact h.rest _ hrest
  · intro h
    exact ⟨fun head hhead => h head (List.mem_of_mem_head? hhead),
      fun item hitem => h item (List.mem_of_mem_tail hitem)⟩

theorem genuine_cons_iff :
    Genuine taken begun (head :: rest) ↔ begun ++ head ∈ taken ∧ ∀ item ∈ rest, item ∈ taken := by
  constructor
  · intro h
    exact ⟨h.head head rfl, h.rest⟩
  · rintro ⟨hhead, hrest⟩
    refine ⟨fun other hother => ?_, hrest⟩
    rw [← Option.some.inj hother]
    exact hhead

/-- What is behind the head was taken as it is. -/
theorem Genuine.behind (h : Genuine taken begun (head :: rest)) : Genuine taken [] rest :=
  genuine_nil_iff.2 (genuine_cons_iff.1 h).2

/-- The rest of a head of which more has been sent is the rest of the same message. -/
theorem Genuine.sent (h : Genuine taken begun (head :: rest)) (n : Nat) :
    Genuine taken (begun ++ head.take n) (head.drop n :: rest) := by
  obtain ⟨hhead, hrest⟩ := genuine_cons_iff.1 h
  refine genuine_cons_iff.2 ⟨?_, hrest⟩
  rwa [List.append_assoc, List.take_append_drop]

/-- A message that is taken waits behind others, of which some may have been taken out behind a head
that is partly sent. -/
theorem Genuine.push (h : Genuine taken begun items) (hhead : begun ≠ [] → items ≠ [])
    (gone : Nat) (message : Bytes) :
    Genuine (taken ++ [message]) begun
      (SendQueue.cutOut (if begun = [] then 0 else 1) gone items ++ [message]) := by
  by_cases hbegun : begun = []
  · rw [if_pos hbegun]
    rw [hbegun, genuine_nil_iff] at h ⊢
    intro item hitem
    simp only [SendQueue.cutOut, List.take_zero, List.nil_append, List.mem_append,
      List.mem_singleton] at hitem
    rcases hitem with hold | rfl
    · exact List.mem_append_left _ (h item (List.mem_of_mem_drop hold))
    · simp
  · obtain ⟨head, rest, rfl⟩ := List.exists_cons_of_ne_nil (hhead hbegun)
    obtain ⟨hfirst, hrest⟩ := genuine_cons_iff.1 h
    have hcut : SendQueue.cutOut 1 gone (head :: rest) ++ [message] =
        head :: (rest.drop gone ++ [message]) := by
      simp [SendQueue.cutOut, Nat.add_comm 1 gone]
    rw [if_neg hbegun, hcut]
    refine genuine_cons_iff.2 ⟨List.mem_append_left _ hfirst, fun item hitem => ?_⟩
    rcases List.mem_append.1 hitem with hold | hnew
    · exact List.mem_append_left _ (hrest item (List.mem_of_mem_drop hold))
    · exact List.mem_append_right _ hnew

end

/-! ## The invariant -/

/-- How many items at the front are safe from eviction: the head, if some of it has been sent. -/
def safe (log : QueueLog) : Nat := if log.begun = [] then 0 else 1

/-- What holds of a queue with these limits, whatever has been called on it. -/
structure Accurate (limits : QueueLimits) (log : QueueLog) : Prop where
  limits_eq : log.queue.limits = limits
  regular : log.queue.Regular
  nonempty : ∀ item ∈ log.queue.items, item ≠ []
  bytes : log.queue.queued ≤ limits.highWater
  count : ∀ max ∈ limits.maxMessages, log.queue.items.length ≤ max
  started : log.queue.headStarted = true ↔ log.begun ≠ []
  head : log.begun ≠ [] → log.queue.items ≠ []
  genuine : Genuine log.taken log.begun log.queue.items

variable {limits : QueueLimits} {log : QueueLog}

theorem accurate_new (limits : QueueLimits) : Accurate limits (new limits) where
  limits_eq := rfl
  regular := SendQueue.regular_new limits
  nonempty := nofun
  bytes := Nat.zero_le _
  count := fun _ _ => Nat.zero_le _
  started := ⟨nofun, fun h => absurd rfl h⟩
  head := fun h => absurd rfl h
  genuine := ⟨nofun, nofun⟩

theorem Accurate.kept_eq (h : Accurate limits log) : log.queue.kept = log.safe := by
  unfold SendQueue.kept safe
  by_cases hbegun : log.begun = []
  · rw [if_pos hbegun, if_neg (fun hstarted => h.started.1 hstarted hbegun)]
  · rw [if_neg hbegun, if_pos (h.started.2 hbegun)]

/-- A queue does with a message what the rule says. -/
theorem Accurate.pushRule_iff (h : Accurate limits log) (hcap : limits.maxMessages ≠ some 0)
    {message : Bytes} (result : Except EnqueueError Nat × SendQueue) :
    SendQueue.PushRule log.queue log.safe message result ↔ log.queue.push message = result := by
  rw [← h.kept_eq]
  exact SendQueue.pushRule_iff h.regular (fun hstarted => h.head (h.started.1 hstarted))
    (h.limits_eq.symm ▸ hcap) result

/-- A queue that has done nothing but pause is as accurate as before, if the pause has a reason. -/
theorem Accurate.paused (h : Accurate limits log) (paused : Bool)
    (hregular : SendQueue.Regular { log.queue with paused }) :
    Accurate limits { log with queue := { log.queue with paused } } where
  limits_eq := h.limits_eq
  regular := hregular
  nonempty := h.nonempty
  bytes := h.bytes
  count := h.count
  started := h.started
  head := h.head
  genuine := h.genuine

/-- A queue stays accurate that takes a message and has room for it beside what is left. -/
theorem Accurate.taken (h : Accurate limits log) {message : Bytes} (hne : message ≠ [])
    (gone queued : Nat)
    (hroom : limits.Room (SendQueue.cutOut log.safe gone log.queue.items) message.length)
    (hregular : SendQueue.Regular { log.queue with
      items := SendQueue.cutOut log.safe gone log.queue.items ++ [message], queued }) :
    Accurate limits
      ⟨{ log.queue with
          items := SendQueue.cutOut log.safe gone log.queue.items ++ [message], queued },
        log.taken ++ [message], log.begun⟩ where
  limits_eq := h.limits_eq
  regular := hregular
  nonempty := by
    intro item hitem
    rcases List.mem_append.1 hitem with hleft | hnew
    · rcases List.mem_append.1 hleft with hfront | hback
      · exact h.nonempty item (List.mem_of_mem_take hfront)
      · exact h.nonempty item (List.mem_of_mem_drop hback)
    · rw [List.mem_singleton.1 hnew]
      exact hne
  bytes := by
    refine Nat.le_trans (Nat.le_of_eq ?_) hroom.bytes
    rw [hregular.total]
    simp
  count := by
    intro max hmax
    rw [List.length_append]
    exact hroom.count max hmax
  started := h.started
  head := fun _ => List.append_ne_nil_of_right_ne_nil _ (List.cons_ne_nil _ _)
  genuine := h.genuine.push h.head gone message

theorem Accurate.push (h : Accurate limits log) (hcap : limits.maxMessages ≠ some 0)
    (message : Bytes) : Accurate limits (log.step (.push message)) := by
  have hregular := h.regular.push (h.limits_eq.symm ▸ hcap) message
  have hrule := (h.pushRule_iff hcap _).2 (Eq.refl (log.queue.push message))
  have hlimits := h.limits_eq
  unfold step
  simp only [takenAfter, begunAfter, SendQueue.after]
  generalize log.queue.push message = result at hregular hrule
  cases hrule with
  | tooLarge large => exact h
  | waits fitting paused => exact h
  | forgotten opened empty =>
    have hgenuine : Genuine (log.taken ++ [message]) log.begun log.queue.items := by
      refine ⟨fun head hhead => ?_, fun item hitem => ?_⟩
      · exact List.mem_append_left _ (h.genuine.head head hhead)
      · exact List.mem_append_left _ (h.genuine.rest item hitem)
    exact { h with genuine := hgenuine }
  | taken weighs room =>
    have htaken := h.taken weighs.nonempty 0 (log.queue.queued + message.length)
    rw [SendQueue.cutOut_zero] at htaken
    exact htaken (hlimits ▸ room) hregular
  | pauses crowded policy => exact h.paused true hregular
  | dropped crowded policy => exact h
  | overflows crowded policy => exact h
  | evicts crowded policy gone pos there room least =>
    exact h.taken crowded.nonempty gone _ (hlimits ▸ room) hregular
  | stuck crowded policy never => exact h

/-! ## Sending -/

theorem Accurate.consume (h : Accurate limits log) (n : Nat) :
    Accurate limits (log.step (.consume n)) := by
  have hregular := h.regular.consume n
  have hbytes := Nat.le_trans (log.queue.queued_consume_le n) h.bytes
  unfold step
  simp only [takenAfter, begunAfter, SendQueue.after]
  cases hitems : log.queue.items with
  | nil =>
    rw [SendQueue.consume_nil hitems]
    exact h
  | cons head rest =>
    have hhead := h.nonempty head (by simp [hitems])
    have hrest : ∀ item ∈ rest, item ≠ [] :=
      fun item hitem => h.nonempty item (hitems ▸ List.mem_cons_of_mem head hitem)
    have hgenuine := h.genuine
    have hcount := h.count
    rw [hitems] at hgenuine hcount
    rw [SendQueue.consume_cons hitems] at hregular hbytes ⊢
    dsimp only
    split
    · next hall =>
      rw [if_pos hall] at hregular hbytes
      exact ⟨h.limits_eq, hregular, hrest, hbytes,
        fun max hmax => Nat.le_of_succ_le (hcount max hmax), ⟨nofun, fun hne => absurd rfl hne⟩,
        fun hne => absurd rfl hne, hgenuine.behind⟩
    · next hpart =>
      rw [if_neg hpart] at hregular hbytes
      refine ⟨h.limits_eq, hregular, ?_, hbytes, hcount, ?_, ?_, hgenuine.sent n⟩
      · intro item hitem
        rcases List.mem_cons.1 hitem with rfl | hitem
        · rw [ne_eq, List.drop_eq_nil_iff]
          exact hpart
        · exact hrest item hitem
      · -- A part of the head that is sent is not empty, since the head is not.
        simp only [SendQueue.resume, Bool.or_eq_true, decide_eq_true_iff, h.started, ne_eq,
          List.append_eq_nil_iff, List.take_eq_nil_iff, hhead, or_false, Nat.pos_iff_ne_zero]
        exact not_and_or.symm
      · exact fun _ => List.cons_ne_nil _ _

theorem Accurate.pop (h : Accurate limits log) : Accurate limits (log.step .pop) := by
  have hregular := h.regular.pop
  unfold step
  simp only [takenAfter, begunAfter, SendQueue.after]
  cases hitems : log.queue.items with
  | nil =>
    have hbegun : log.begun = [] := Classical.byContradiction fun hne => h.head hne hitems
    rw [SendQueue.pop_nil hitems, ← hbegun]
    exact h
  | cons head rest =>
    have hgenuine := h.genuine
    have hcount := h.count
    rw [hitems] at hgenuine hcount
    rw [SendQueue.pop_cons hitems] at hregular ⊢
    refine ⟨h.limits_eq, hregular, ?_, Nat.le_trans (Nat.sub_le _ _) h.bytes, ?_, ?_, ?_, ?_⟩
    · exact fun item hitem => h.nonempty item (hitems ▸ List.mem_cons_of_mem head hitem)
    · exact fun max hmax => Nat.le_of_succ_le (hcount max hmax)
    · exact ⟨nofun, fun hne => absurd rfl hne⟩
    · exact fun hne => absurd rfl hne
    · exact hgenuine.behind

/-! ## Runs -/

theorem Accurate.step (h : Accurate limits log) (hcap : limits.maxMessages ≠ some 0)
    (call : QueueCall) : Accurate limits (log.step call) := by
  cases call with
  | push message => exact h.push hcap message
  | consume n => exact h.consume n
  | pop => exact h.pop
  | clear =>
    exact ⟨h.limits_eq, SendQueue.regular_clear _, nofun, Nat.zero_le _, fun _ _ => Nat.zero_le _,
      ⟨nofun, fun hne => absurd rfl hne⟩, fun hne => absurd rfl hne, ⟨nofun, nofun⟩⟩

/-- A queue is accurate whatever has been called on it. -/
theorem accurate_run (hcap : limits.maxMessages ≠ some 0) (calls : List QueueCall) :
    Accurate limits ((new limits).run calls) := by
  have hrun : ∀ (log : QueueLog), Accurate limits log → Accurate limits (log.run calls) := by
    induction calls with
    | nil => exact fun _ h => h
    | cons call calls ih => exact fun log h => ih (log.step call) (h.step hcap call)
  exact hrun (new limits) (accurate_new limits)

/-- **What becomes of a message.** Whatever has been called on a queue, it does with a message what
the rule says and nothing else, where the head is safe from eviction if it is partly sent. A message
that is refused leaves the items, their bytes and the mark of the head as they were. -/
theorem answered_by_rule (limits : QueueLimits) (hcap : limits.maxMessages ≠ some 0)
    (calls : List QueueCall) (message : Bytes) :
    let log := (new limits).run calls
    let q := log.queue
    q = (SendQueue.new limits).run calls ∧ q.limits = limits ∧
      q.queued = q.items.flatten.length ∧
      log.safe = (if q.headStarted then 1 else 0) ∧
      (∀ result, q.push message = result ↔ SendQueue.PushRule q log.safe message result) ∧
      ∀ error, (q.push message).1 = .error error →
        (q.push message).2.items = q.items ∧ (q.push message).2.queued = q.queued ∧
          (q.push message).2.headStarted = q.headStarted := by
  intro log q
  have haccurate : Accurate limits log := accurate_run hcap calls
  have hrule : ∀ result, q.push message = result ↔ SendQueue.PushRule q log.safe message result :=
    fun result => (haccurate.pushRule_iff hcap result).symm
  refine ⟨queue_run (new limits) calls, haccurate.limits_eq, haccurate.regular.total,
    haccurate.kept_eq.symm, hrule, ?_⟩
  intro error herror
  have hrefused : SendQueue.PushRule q log.safe message (.error error, (q.push message).2) :=
    (hrule _).1 (Prod.ext herror rfl)
  rw [hrefused.of_error]
  exact ⟨rfl, rfl, rfl⟩

/-- The oldest message that has not been begun makes room for a new one. -/
theorem answered_by_rule_behind_head :
    let limits : QueueLimits := ⟨10, 4, some 3, .dropOldest⟩
    let calls : List QueueCall := [.push [1, 2, 3, 4], .push [5, 6, 7], .push [8], .consume 2]
    let log := (new limits).run calls
    limits.maxMessages ≠ some 0 ∧
      SendQueue.PushRule log.queue log.safe [9, 9, 9, 9, 9]
        (.ok 1, ⟨[[3, 4], [8], [9, 9, 9, 9, 9]], 8, limits, false, true⟩) ∧
      SendQueue.PushRule log.queue log.safe [9, 9, 9, 9, 9, 9, 9, 9, 9]
        (.error .dropped, log.queue) := by
  intro limits calls log
  have hcap : limits.maxMessages ≠ some 0 := by decide
  refine ⟨hcap, ?_, ?_⟩
  · obtain ⟨-, -, -, -, hrule, -⟩ := answered_by_rule limits hcap calls [9, 9, 9, 9, 9]
    exact (hrule _).1 (by decide)
  · obtain ⟨-, -, -, -, hrule, -⟩ :=
      answered_by_rule limits hcap calls [9, 9, 9, 9, 9, 9, 9, 9, 9]
    exact (hrule _).1 (by decide)

end QueueLog

end ChatRelay
