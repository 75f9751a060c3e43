import ChatRelay.Queue.Basic

/-!
# What happens to a send queue

Each operation of a `SendQueue` changes its items in one of few ways, listed here once.

* Pushing either refuses the message and leaves the items as they are, or forgets an empty message,
  or takes the message behind the others after evicting a run of items behind the kept ones
  (`Pushed`, `push_pushed`).
* Consuming a whole head takes it off, and consuming less leaves the rest of it in its place
  (`consume_cons`).
-/

namespace ChatRelay

namespace SendQueue

/-! ## Pushing -/

/-- Evicting drops some number of items from the front, and says how many. -/
theorem evict_eq (limits : QueueLimits) (len count queued : Nat) (items : List Bytes) :
    ∃ evicted ≤ items.length,
      evict limits len count queued items =
        (items.drop evicted, queued - (items.take evicted).flatten.length, evicted) := by
  induction items generalizing count queued with
  | nil => exact ⟨0, Nat.le_refl _, by simp [evict]⟩
  | cons old rest ih =>
    unfold evict
    split
    · exact ⟨0, Nat.zero_le _, by simp⟩
    · obtain ⟨evicted, hle, he⟩ := ih (count - 1) (queued - old.length)
      refine ⟨evicted + 1, by simpa using hle, ?_⟩
      rw [he]
      simp only [List.drop_succ_cons, List.take_succ_cons, List.flatten_cons, List.length_append,
        Prod.mk.injEq, and_true, true_and]
      omega

/-- The queue without a run of items behind those that are safe from eviction. -/
def without (q : SendQueue) (evicted : Nat) : SendQueue :=
  { q with
    items := q.items.take q.kept ++ (q.items.drop q.kept).drop evicted
    queued := q.queued - ((q.items.drop q.kept).take evicted).flatten.length }

theorem without_zero (q : SendQueue) : q.without 0 = q := by
  simp [without, List.take_append_drop]

theorem without_sublist (q : SendQueue) (evicted : Nat) :
    (q.without evicted).items.Sublist q.items := by
  have h : (q.items.take q.kept ++ (q.items.drop q.kept).drop evicted).Sublist
      (q.items.take q.kept ++ q.items.drop q.kept) :=
    (List.Sublist.refl _).append (List.drop_sublist _ _)
  rwa [List.take_append_drop] at h

theorem length_without (q : SendQueue) {evicted : Nat}
    (h : evicted ≤ (q.items.drop q.kept).length) :
    (q.without evicted).items.length + evicted = q.items.length := by
  simp only [without, List.length_append, List.length_take, List.length_drop] at h ⊢
  omega

/-- A head that is partly sent stays when others are evicted. -/
theorem without_started {q : SendQueue} {head : Bytes} {rest : List Bytes}
    (hstarted : q.headStarted = true) (hitems : q.items = head :: rest) (evicted : Nat) :
    (q.without evicted).items = head :: rest.drop evicted := by
  simp [without, kept, hstarted, hitems]

/-- Everything that pushing can answer, with the queue that it leaves. -/
inductive Pushed (q : SendQueue) (message : Bytes) : Except EnqueueError Nat × SendQueue → Prop
  /-- The message is refused, and at most the producer is told to wait. -/
  | refused (error : EnqueueError) (paused : Bool) :
      Pushed q message (.error error, { q with paused })
  /-- An empty message is forgotten. -/
  | forgotten (empty : message = []) : Pushed q message (.ok 0, q)
  /-- The message is taken, and as many items as it says are not there any more. -/
  | taken (evicted : Nat) (nonempty : message ≠ [])
      (there : evicted ≤ (q.items.drop q.kept).length) :
      Pushed q message (.ok evicted, (q.without evicted).append message)

/-- Pushing does one of these things. -/
theorem push_pushed (q : SendQueue) (message : Bytes) : Pushed q message (q.push message) := by
  unfold push
  split
  · exact .refused _ q.paused
  split
  · exact .refused _ q.paused
  split
  · next hempty => exact .forgotten hempty
  next hne =>
  split
  · have h := Pushed.taken (q := q) 0 hne (Nat.zero_le _)
    rwa [without_zero] at h
  split
  · exact .refused _ true
  · exact .refused _ q.paused
  · exact .refused _ q.paused
  · split
    · obtain ⟨evicted, hle, he⟩ := evict_eq q.limits message.length q.items.length q.queued
        (q.items.drop q.kept)
      rw [he]
      exact .taken evicted hne hle
    · exact .refused _ q.paused

/-! ## Consuming -/

variable {q : SendQueue} {head : Bytes} {rest : List Bytes}

theorem consume_nil (h : q.items = []) (n : Nat) : q.consume n = q := by
  rw [consume, h]

/-- What is left when some of the head, or all of it, has been sent. -/
theorem consume_cons (h : q.items = head :: rest) (n : Nat) :
    q.consume n =
      if head.length ≤ n then
        { q with items := rest, queued := q.queued - head.length, headStarted := false }.resume
      else
        { q with
          items := head.drop n :: rest, queued := q.queued - n,
          headStarted := q.headStarted || 0 < n }.resume := by
  rw [consume, h]
  dsimp only
  by_cases hle : head.length ≤ n
  · rw [Nat.min_eq_right hle, if_pos rfl, if_pos hle]
  · have hmin : min n head.length = n := by omega
    rw [hmin, if_neg (by omega), if_neg hle]

/-- A head that has been sent is taken off. -/
theorem consume_whole (h : q.items = head :: rest) :
    (q.consume head.length).items = rest ∧ (q.consume head.length).headStarted = false := by
  rw [consume_cons h, if_pos (Nat.le_refl _)]
  exact ⟨rfl, rfl⟩

/-- What is left of a head that has been sent in part stays, and is safe from eviction. -/
theorem consume_part (h : q.items = head :: rest) {n : Nat} (hpos : 0 < n) (hlt : n < head.length) :
    (q.consume n).items = head.drop n :: rest ∧ (q.consume n).headStarted = true := by
  rw [consume_cons h, if_neg (Nat.not_le.2 hlt)]
  refine ⟨rfl, ?_⟩
  simp [resume, hpos]

end SendQueue

end ChatRelay
