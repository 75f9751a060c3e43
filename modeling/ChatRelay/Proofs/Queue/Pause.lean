import ChatRelay.Proofs.Queue.Log

/-!
# Pauses

Where producers wait, the message for which there is no room pauses the queue. From then on nothing
is taken, whether there is room for it or not, until a call `releases` the queue: the first one to
take something off the head that leaves no more than the low-water mark, or one that throws
everything away. A queue that is released takes whatever it has room for (`hysteresis`).

A pause may begin with less than the low-water mark in the queue, if the message is long or those
that wait are too many. Then the first call that takes something off releases the queue. And every
pause ends at the latest when no byte is left, for a queue that holds nothing is never paused
(`exists_release`).
-/

namespace ChatRelay

namespace SendQueue

/-- Whether a call ends a pause. -/
def releases (q : SendQueue) : QueueCall → Bool
  | .push _ => false
  | .consume n => q.items != [] && (q.consume n).queued ≤ q.limits.lowWater
  | .pop => q.items != [] && q.pop.2.queued ≤ q.limits.lowWater
  | .clear => true

/-- No call, one after another, ends a pause. -/
def Unreleased (q : SendQueue) : List QueueCall → Prop
  | [] => True
  | call :: later => q.releases call = false ∧ Unreleased (q.after call) later

end SendQueue

/-- Something is taken off the head, if there is one. -/
def QueueCall.Takes : QueueCall → Prop
  | .push _ => False
  | .consume n => 0 < n
  | .pop => True
  | .clear => False

namespace SendQueue

variable {q : SendQueue} {message : Bytes} {limits : QueueLimits}

/-! ## Runs -/

@[simp] theorem limits_run (q : SendQueue) (calls : List QueueCall) :
    (q.run calls).limits = q.limits := by
  induction calls generalizing q with
  | nil => rfl
  | cons call calls ih => exact (ih (q.after call)).trans (q.limits_after call)

theorem Regular.run (h : q.Regular) (hcap : q.limits.maxMessages ≠ some 0)
    (calls : List QueueCall) : (q.run calls).Regular := by
  induction calls generalizing q with
  | nil => exact h
  | cons call calls ih =>
    exact ih (h.after hcap call) ((q.limits_after call).symm ▸ hcap)

theorem run_append (q : SendQueue) (calls later : List QueueCall) :
    q.run (calls ++ later) = (q.run calls).run later :=
  List.foldl_append

/-! ## While a queue is paused -/

theorem paused_consume (hitems : q.items ≠ []) (n : Nat) :
    (q.consume n).paused = (q.paused && q.limits.lowWater < (q.consume n).queued) := by
  obtain ⟨head, rest, hcons⟩ := List.exists_cons_of_ne_nil hitems
  rw [consume_cons hcons]
  split
  · rfl
  · rfl

theorem paused_pop (hitems : q.items ≠ []) :
    q.pop.2.paused = (q.paused && q.limits.lowWater < q.pop.2.queued) := by
  obtain ⟨head, rest, hcons⟩ := List.exists_cons_of_ne_nil hitems
  rw [pop_cons hcons]
  rfl

/-- A pause goes on until it is ended by a call that releases the queue. -/
theorem paused_after (h : q.paused = true) (hitems : q.items ≠ []) (call : QueueCall) :
    (q.after call).paused = !q.releases call := by
  cases call with
  | push message =>
    rw [after, push_paused h]
    exact h
  | consume n =>
    rw [after, paused_consume hitems, h, releases, bne_iff_ne.2 hitems, Bool.true_and,
      Bool.true_and, ← decide_not]
    exact decide_eq_decide.2 Nat.not_le.symm
  | pop =>
    rw [after, paused_pop hitems, h, releases, bne_iff_ne.2 hitems, Bool.true_and,
      Bool.true_and, ← decide_not]
    exact decide_eq_decide.2 Nat.not_le.symm
  | clear => rfl

theorem paused_run (hq : q.Regular) (hcap : q.limits.maxMessages ≠ some 0) (h : q.paused = true)
    {calls : List QueueCall} (hcalls : q.Unreleased calls) : (q.run calls).paused = true := by
  induction calls generalizing q with
  | nil => exact h
  | cons call calls ih =>
    obtain ⟨hcall, hlater⟩ := hcalls
    have hafter : (q.after call).paused = true := by
      rw [paused_after h (hq.pause h).2, hcall]
      rfl
    exact ih (hq.after hcap call) ((q.limits_after call).symm ▸ hcap) hafter hlater

/-- If a pause is over, some call has been the first to release the queue. -/
theorem exists_release (hq : q.Regular) (hcap : q.limits.maxMessages ≠ some 0)
    (h : q.paused = true) {calls : List QueueCall} (hover : (q.run calls).paused = false) :
    ∃ earlier call later, calls = earlier ++ call :: later ∧ q.Unreleased earlier ∧
      (q.run earlier).releases call = true := by
  induction calls generalizing q with
  | nil =>
    rw [show q.run [] = q from rfl, h] at hover
    cases hover
  | cons call calls ih =>
    cases hcall : q.releases call with
    | true => exact ⟨[], call, calls, rfl, trivial, hcall⟩
    | false =>
      have hafter : (q.after call).paused = true := by
        rw [paused_after h (hq.pause h).2, hcall]
        rfl
      obtain ⟨earlier, release, later, rfl, hearlier, hrelease⟩ :=
        ih (hq.after hcap call) ((q.limits_after call).symm ▸ hcap) hafter hover
      exact ⟨call :: earlier, release, later, rfl, ⟨hcall, hearlier⟩, hrelease⟩

/-! ## After a pause -/

/-- Where producers wait, a queue that is not paused takes what it has room for. -/
theorem push_ok_iff (hq : q.Regular) (hopen : q.paused = false)
    (hpolicy : q.limits.policy = .blockProducer) (hle : message.length ≤ q.limits.highWater) :
    (∃ evicted, (q.push message).1 = .ok evicted) ↔
      message = [] ∨ q.limits.Room q.items message.length := by
  rw [push, if_neg (Nat.not_lt.2 hle), hopen, if_neg Bool.false_ne_true, ← hq.fits_iff]
  by_cases hempty : message = []
  · rw [if_pos hempty]
    exact ⟨fun _ => .inl hempty, fun _ => ⟨0, rfl⟩⟩
  rw [if_neg hempty]
  by_cases hfits : fits q.limits q.items.length q.queued message.length = true
  · rw [if_pos hfits]
    exact ⟨fun _ => .inr hfits, fun _ => ⟨0, rfl⟩⟩
  · rw [if_neg hfits, hpolicy]
    constructor
    · rintro ⟨evicted, hok⟩
      cases hok
    · rintro (hnil | hroom)
      · exact absurd hnil hempty
      · exact absurd hroom hfits

end SendQueue

namespace QueueLog

variable {limits : QueueLimits} {log : QueueLog}

/-! ## A pause ends -/

/-- A queue in which no byte is left is not paused. -/
theorem Accurate.paused_of_empty (h : Accurate limits log) (hempty : log.queue.queued = 0) :
    log.queue.paused = false := by
  rw [Bool.eq_false_iff]
  intro hpaused
  obtain ⟨-, hitems⟩ := h.regular.pause hpaused
  obtain ⟨head, rest, hcons⟩ := List.exists_cons_of_ne_nil hitems
  have hhead : head ≠ [] := h.nonempty head (by simp [hcons])
  have htotal := h.regular.total
  rw [hempty, hcons, List.flatten_cons, List.length_append] at htotal
  exact hhead (List.eq_nil_of_length_eq_zero (by omega))

/-- Taking something off the head takes at least one byte, if any are left. -/
theorem Accurate.queued_after_lt (h : Accurate limits log) {call : QueueCall} (hcall : call.Takes) :
    (log.queue.after call).queued ≤ log.queue.queued - 1 := by
  have htotal := h.regular.total
  cases hitems : log.queue.items with
  | nil =>
    have hsame : log.queue.after call = log.queue := by
      cases call with
      | push message => cases hcall
      | consume n => exact SendQueue.consume_nil hitems n
      | pop => exact congrArg Prod.snd (SendQueue.pop_nil hitems)
      | clear => cases hcall
    rw [hsame, htotal, hitems]
    exact Nat.le_refl 0
  | cons head rest =>
    have hpos : 0 < head.length := List.length_pos_iff.2 (h.nonempty head (by simp [hitems]))
    cases call with
    | push message => cases hcall
    | consume n =>
      rw [SendQueue.after, SendQueue.consume_cons hitems]
      split
      · exact Nat.sub_le_sub_left hpos _
      · exact Nat.sub_le_sub_left hcall _
    | pop =>
      rw [SendQueue.after, SendQueue.pop_cons hitems]
      exact Nat.sub_le_sub_left hpos _
    | clear => cases hcall

/-- So often can something be taken off until nothing is left. -/
theorem Accurate.queued_run_le (h : Accurate limits log) (hcap : limits.maxMessages ≠ some 0)
    {calls : List QueueCall} (hcalls : ∀ call ∈ calls, call.Takes) :
    (log.run calls).queue.queued ≤ log.queue.queued - calls.length := by
  induction calls generalizing log with
  | nil => exact Nat.le_refl _
  | cons call calls ih =>
    have hfirst := h.queued_after_lt (hcalls call List.mem_cons_self)
    have hlater := ih (h.step hcap call) fun other hother =>
      hcalls other (List.mem_cons_of_mem call hother)
    have hqueue : (log.step call).queue.queued = (log.queue.after call).queued := rfl
    show ((log.step call).run calls).queue.queued ≤ log.queue.queued - (calls.length + 1)
    omega

end QueueLog

namespace SendQueue

/-- **A pause lasts until the queue has drained.** Where producers wait, whatever has been called on
the queue before: after a message that is refused because the queue is full, and while no call
releases the queue, every message is refused and nothing changes by that. When a call does release
it, the queue is not paused, and it takes the messages for which it has room, and empty ones. And
once a queue is paused, there is a first call that releases it among any calls that leave no byte,
and among as many calls as there are bytes if each takes something off the head. -/
theorem hysteresis (limits : QueueLimits) (hsound : limits.sound = true)
    (hpolicy : limits.policy = .blockProducer) (before : List QueueCall) :
    let q := (new limits).run before
    (∀ message, (q.push message).1 = .error .full →
      ∀ during, (q.push message).2.Unreleased during →
        let r := (q.push message).2.run during
        r.paused = true ∧
        (∀ other, r.push other =
          (.error (if limits.highWater < other.length
            then .tooLarge other.length limits.highWater else .full), r)) ∧
        ∀ call, r.releases call = true →
          let s := r.after call
          s.paused = false ∧
          ∀ other, other.length ≤ limits.highWater →
            ((∃ evicted, (s.push other).1 = .ok evicted) ↔
              other = [] ∨ limits.Room s.items other.length)) ∧
    (q.paused = true → ∀ calls,
      ((q.run calls).queued = 0 ∨ (∀ call ∈ calls, call.Takes) ∧ q.queued ≤ calls.length) →
        ∃ earlier call later, calls = earlier ++ call :: later ∧ q.Unreleased earlier ∧
          (q.run earlier).releases call = true) := by
  intro q
  have hcap := QueueLimits.maxMessages_ne hsound
  have hlimits : q.limits = limits := limits_run _ _
  have hqcap : q.limits.maxMessages ≠ some 0 := hlimits.symm ▸ hcap
  have hregular : q.Regular := (regular_new limits).run hcap before
  constructor
  · intro message hfull during hduring r
    have hpush := hregular.push hqcap message
    have hpaused : (q.push message).2.paused = true := by rw [(push_full hfull).1]
    have hrlimits : r.limits = limits := by
      rw [limits_run, limits_push, hlimits]
    have hr : r.Regular := hpush.run ((limits_push q message).symm ▸ hqcap) during
    have hrpaused : r.paused = true :=
      paused_run hpush ((limits_push q message).symm ▸ hqcap) hpaused hduring
    refine ⟨hrpaused, fun other => hrlimits ▸ push_paused hrpaused other, ?_⟩
    intro call hcall s
    have hspaused : s.paused = false := by
      rw [paused_after hrpaused (hr.pause hrpaused).2, hcall]
      rfl
    have hslimits : s.limits = limits := (r.limits_after call).trans hrlimits
    have hs : s.Regular := hr.after (hrlimits.symm ▸ hcap) call
    refine ⟨hspaused, fun other hle => ?_⟩
    rw [← hslimits] at hle hpolicy ⊢
    exact push_ok_iff hs hspaused hpolicy hle
  · intro hpaused calls hdone
    refine exists_release hregular hqcap hpaused ?_
    have hlog : ((QueueLog.new limits).run before).queue = q := QueueLog.queue_run _ _
    have hbefore := QueueLog.accurate_run hcap before
    have hlater : ((QueueLog.new limits).run (before ++ calls)).queue = q.run calls := by
      rw [QueueLog.queue_run]
      exact run_append _ _ _
    have hempty : (q.run calls).queued = 0 := by
      rcases hdone with hempty | ⟨htakes, hmany⟩
      · exact hempty
      · have hle := hbefore.queued_run_le hcap htakes
        rw [QueueLog.queue_run, hlog] at hle
        omega
    have hopen := (QueueLog.accurate_run hcap (before ++ calls)).paused_of_empty
      (hlater.symm ▸ hempty)
    rwa [hlater] at hopen

/-- A message of one byte, for which there would be room, is refused as long as three bytes are
left, and taken when the third is gone. -/
theorem hysteresis_three_bytes :
    let limits : QueueLimits := ⟨6, 2, some 4, .blockProducer⟩
    let before : List QueueCall := [.push [1, 2, 3, 4]]
    let q := (new limits).run before
    let r := (q.push [5, 6, 7]).2.run [.consume 1, .push [8]]
    limits.sound = true ∧ limits.policy = .blockProducer ∧
      r.queued = 3 ∧ r.push [9] = (.error .full, r) ∧
      (∃ evicted, ((r.after (.consume 1)).push [9]).1 = .ok evicted) ∧
      ∃ earlier call later, [.consume 1, .pop] = earlier ++ call :: later ∧
        (q.push [5, 6, 7]).2.Unreleased earlier ∧
        ((q.push [5, 6, 7]).2.run earlier).releases call = true := by
  intro limits before q r
  have hsound : limits.sound = true := by decide
  have hunreleased : (q.push [5, 6, 7]).2.Unreleased [.consume 1, .push [8]] :=
    ⟨by decide, by decide, trivial⟩
  obtain ⟨hpauses, -⟩ := hysteresis limits hsound rfl before
  obtain ⟨-, hrefused, hreleased⟩ := hpauses [5, 6, 7] (by decide) _ hunreleased
  obtain ⟨-, htaken⟩ := hreleased (.consume 1) (by decide)
  obtain ⟨-, hends⟩ := hysteresis limits hsound rfl (before ++ [.push [5, 6, 7]])
  refine ⟨hsound, rfl, by decide, hrefused [9], ?_, ?_⟩
  · exact (htaken [9] (by decide)).2 (.inr (fits_iff.1 (by decide)))
  · exact hends (by decide) [.consume 1, .pop] (.inl (by decide))

end SendQueue

end ChatRelay
