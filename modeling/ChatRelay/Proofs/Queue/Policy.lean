import ChatRelay.Proofs.Queue.Regular
import Mathlib.Data.Nat.Find

/-!
# The rule for taking messages

`PushRule` says what becomes of a message, by the items that wait and not by the steps in which a
queue finds out. There is `Room` for it beside some items if their bytes and its own stay within the
high-water mark, and their number below the message cap. Where there is no room, `dropOldest` takes
out as few items as make room, behind those that are safe from eviction; and refuses the message if
even taking out all of them would not.

A queue that counts its bytes, and whose head is there if it is partly sent, does what the rule says
and nothing else (`pushRule_iff`). The two searches agree: what can be evicted is looked at once
(`fitsAfterEviction_iff`), and the eviction that follows stops where the rule says (`evict_least`).
-/

namespace ChatRelay

/-- There is room for a message of `len` bytes beside some items. -/
structure QueueLimits.Room (limits : QueueLimits) (items : List Bytes) (len : Nat) : Prop where
  bytes : items.flatten.length + len ≤ limits.highWater
  count : ∀ max ∈ limits.maxMessages, items.length < max

namespace SendQueue

/-- The items without `gone` of them behind the first `keep`. -/
def cutOut (keep gone : Nat) (items : List Bytes) : List Bytes :=
  items.take keep ++ items.drop (keep + gone)

/-- A message that depends on what waits: it is not empty, would fit into an empty queue, and no
producer has to wait. -/
structure Weighs (q : SendQueue) (message : Bytes) : Prop where
  fitting : message.length ≤ q.limits.highWater
  opened : q.paused = false
  nonempty : message ≠ []

/-- A message that depends on what waits, and for which there is no room beside that. -/
structure Crowded (q : SendQueue) (message : Bytes) : Prop extends q.Weighs message where
  full : ¬ q.limits.Room q.items message.length

/-- What becomes of a message, if the first `keep` items are safe from eviction: the answer and the
queue after it. -/
inductive PushRule (q : SendQueue) (keep : Nat) (message : Bytes) :
    Except EnqueueError Nat × SendQueue → Prop
  | tooLarge (large : q.limits.highWater < message.length) :
      PushRule q keep message (.error (.tooLarge message.length q.limits.highWater), q)
  | waits (fitting : message.length ≤ q.limits.highWater) (paused : q.paused = true) :
      PushRule q keep message (.error .full, q)
  | forgotten (opened : q.paused = false) (empty : message = []) :
      PushRule q keep message (.ok 0, q)
  | taken (weighs : q.Weighs message) (room : q.limits.Room q.items message.length) :
      PushRule q keep message
        (.ok 0, { q with
          items := q.items ++ [message], queued := q.queued + message.length })
  | pauses (crowded : q.Crowded message) (policy : q.limits.policy = .blockProducer) :
      PushRule q keep message (.error .full, { q with paused := true })
  | dropped (crowded : q.Crowded message) (policy : q.limits.policy = .dropNewest) :
      PushRule q keep message (.error .dropped, q)
  | overflows (crowded : q.Crowded message) (policy : q.limits.policy = .disconnect) :
      PushRule q keep message (.error .overflow, q)
  /-- As few items are taken out as make room, and the message is behind those that are left. -/
  | evicts (crowded : q.Crowded message) (policy : q.limits.policy = .dropOldest)
      (gone : Nat) (pos : 1 ≤ gone) (there : keep + gone ≤ q.items.length)
      (room : q.limits.Room (cutOut keep gone q.items) message.length)
      (least : ∀ fewer < gone, ¬ q.limits.Room (cutOut keep fewer q.items) message.length) :
      PushRule q keep message
        (.ok gone, { q with
          items := cutOut keep gone q.items ++ [message]
          queued := (cutOut keep gone q.items ++ [message]).flatten.length })
  /-- There would be no room even beside the items that are safe. -/
  | stuck (crowded : q.Crowded message) (policy : q.limits.policy = .dropOldest)
      (never : ¬ q.limits.Room (q.items.take keep) message.length) :
      PushRule q keep message (.error .dropped, q)

variable {q : SendQueue} {message : Bytes} {limits : QueueLimits} {len : Nat}

/-! ## Room -/

theorem cutOut_zero (keep : Nat) (items : List Bytes) : cutOut keep 0 items = items :=
  List.take_append_drop keep items

/-- Without all items behind the first `keep` only those are left. -/
theorem cutOut_all {keep gone : Nat} {items : List Bytes} (h : items.length ≤ keep + gone) :
    cutOut keep gone items = items.take keep := by
  rw [cutOut, List.drop_eq_nil_of_le h, List.append_nil]

/-- A queue that counts its bytes finds out whether there is room. -/
theorem fits_iff {items : List Bytes} :
    fits limits items.length items.flatten.length len = true ↔ limits.Room items len := by
  rw [fits, Bool.and_eq_true, decide_eq_true_iff, Option.all_eq_true]
  constructor
  · rintro ⟨hbytes, hcount⟩
    exact ⟨hbytes, fun max hmax => of_decide_eq_true (hcount max hmax)⟩
  · rintro ⟨hbytes, hcount⟩
    exact ⟨hbytes, fun max hmax => decide_eq_true (hcount max hmax)⟩

theorem Regular.fits_iff (h : q.Regular) :
    fits q.limits q.items.length q.queued len = true ↔ q.limits.Room q.items len := by
  rw [h.total]
  exact SendQueue.fits_iff

/-- An empty queue has room for whatever is not too large. -/
theorem room_nil (hcap : limits.maxMessages ≠ some 0) (hle : len ≤ limits.highWater) :
    limits.Room [] len := by
  refine ⟨by simpa using hle, fun max hmax => Nat.pos_of_ne_zero ?_⟩
  rintro rfl
  exact hcap hmax

/-! ## Eviction -/

/-- Evicting stops as soon as there is room beside what is left. -/
theorem evict_least (front items : List Bytes) {gone : Nat} (hle : gone ≤ items.length)
    (hroom : limits.Room (front ++ items.drop gone) len)
    (hleast : ∀ fewer < gone, ¬ limits.Room (front ++ items.drop fewer) len) :
    evict limits len (front ++ items).length (front ++ items).flatten.length items =
      (items.drop gone, (front ++ items.drop gone).flatten.length, gone) := by
  induction gone generalizing items with
  | zero =>
    cases items with
    | nil => rfl
    | cons old rest =>
      exact if_pos (fits_iff.2 hroom)
  | succ gone ih =>
    cases items with
    | nil => exact absurd hle (Nat.not_succ_le_zero gone)
    | cons old rest =>
      have hcrowded : ¬ limits.Room (front ++ old :: rest) len := hleast 0 (Nat.succ_pos gone)
      have hcount : (front ++ old :: rest).length - 1 = (front ++ rest).length := by
        simp
      have hbytes : (front ++ old :: rest).flatten.length - old.length =
          (front ++ rest).flatten.length := by
        simp only [List.flatten_append, List.flatten_cons, List.length_append]
        omega
      have hrest := ih rest (Nat.le_of_succ_le_succ hle) hroom
        fun fewer hfewer => hleast (fewer + 1) (Nat.succ_lt_succ hfewer)
      rw [evict, if_neg (fun hfits => hcrowded (fits_iff.1 hfits)), hcount, hbytes, hrest]
      rfl

theorem kept_le (hhead : q.headStarted = true → q.items ≠ []) : q.kept ≤ q.items.length := by
  unfold kept
  split
  · next hstarted => exact List.length_pos_iff.2 (hhead hstarted)
  · exact Nat.zero_le _

/-- Looking at what is safe from eviction finds out whether eviction can make room. -/
theorem fitsAfterEviction_iff (hhead : q.headStarted = true → q.items ≠ [])
    (hcap : q.limits.maxMessages ≠ some 0) (hle : len ≤ q.limits.highWater) :
    q.fitsAfterEviction len = true ↔ q.limits.Room (q.items.take q.kept) len := by
  cases hstarted : q.headStarted with
  | false =>
    have hkept : q.items.take q.kept = [] := by
      rw [kept, hstarted]
      rfl
    rw [fitsAfterEviction, hstarted, hkept]
    exact ⟨fun _ => room_nil hcap hle, fun _ => rfl⟩
  | true =>
    obtain ⟨head, rest, hitems⟩ := List.exists_cons_of_ne_nil (hhead hstarted)
    have hkept : q.items.take q.kept = [head] := by
      rw [kept, hstarted, hitems]
      rfl
    have hfits : q.fitsAfterEviction len =
        fits q.limits [head].length [head].flatten.length len := by
      rw [fitsAfterEviction, hstarted, hitems]
      simp [fits]
    rw [hfits, hkept]
    exact fits_iff

/-- Where room can be made, there is a least number of items to take out for it. -/
theorem exists_least {keep : Nat} {items : List Bytes} (hkeep : keep ≤ items.length)
    (hroom : limits.Room (items.take keep) len) :
    ∃ gone, keep + gone ≤ items.length ∧ limits.Room (cutOut keep gone items) len ∧
      ∀ fewer < gone, ¬ limits.Room (cutOut keep fewer items) len := by
  classical
  have hall : limits.Room (cutOut keep (items.length - keep) items) len := by
    rwa [cutOut_all (by omega)]
  have hexists : ∃ gone, limits.Room (cutOut keep gone items) len := ⟨_, hall⟩
  have hle := Nat.find_min' hexists hall
  exact ⟨Nat.find hexists, by omega, Nat.find_spec hexists, fun _ => Nat.find_min hexists⟩

/-- Room beside what is left is room beside the items that are safe. -/
theorem room_take {keep gone : Nat} {items : List Bytes}
    (h : limits.Room (cutOut keep gone items) len) : limits.Room (items.take keep) len := by
  refine ⟨Nat.le_trans ?_ h.bytes, fun max hmax => Nat.lt_of_le_of_lt ?_ (h.count max hmax)⟩
  · simp [cutOut]
  · simp [cutOut]

/-! ## The rule -/

theorem Weighs.not_paused (h : q.Weighs message) : ¬ q.paused = true := by simp [h.opened]

/-- What a crowded queue does is left to its policy. -/
theorem push_of_crowded (hq : q.Regular) (h : q.Crowded message) :
    q.push message =
      match q.limits.policy with
      | .blockProducer => (.error .full, { q with paused := true })
      | .dropNewest => (.error .dropped, q)
      | .disconnect => (.error .overflow, q)
      | .dropOldest =>
        if q.fitsAfterEviction message.length then
          let (left, bytes, evicted) :=
            evict q.limits message.length q.items.length q.queued (q.items.drop q.kept)
          (.ok evicted,
            { q with items := q.items.take q.kept ++ left, queued := bytes }.append message)
        else (.error .dropped, q) := by
  have hfits : ¬ fits q.limits q.items.length q.queued message.length = true :=
    mt hq.fits_iff.1 h.full
  exact (if_neg (Nat.not_lt.2 h.fitting)).trans
    ((if_neg h.not_paused).trans ((if_neg h.nonempty).trans (if_neg hfits)))

/-- A queue that drops the oldest takes out as few items as make room. -/
theorem push_evicts (hq : q.Regular) (hhead : q.headStarted = true → q.items ≠ [])
    (hcap : q.limits.maxMessages ≠ some 0) (h : q.Crowded message)
    (hpolicy : q.limits.policy = .dropOldest) {gone : Nat}
    (hthere : q.kept + gone ≤ q.items.length)
    (hroom : q.limits.Room (cutOut q.kept gone q.items) message.length)
    (hleast : ∀ fewer < gone, ¬ q.limits.Room (cutOut q.kept fewer q.items) message.length) :
    q.push message =
      (.ok gone, { q with
        items := cutOut q.kept gone q.items ++ [message]
        queued := (cutOut q.kept gone q.items ++ [message]).flatten.length }) := by
  have hcan : q.fitsAfterEviction message.length = true :=
    (fitsAfterEviction_iff hhead hcap h.fitting).2 (room_take hroom)
  have hparts : q.items.take q.kept ++ q.items.drop q.kept = q.items :=
    List.take_append_drop q.kept q.items
  have hcut : ∀ gone, q.items.take q.kept ++ (q.items.drop q.kept).drop gone =
      cutOut q.kept gone q.items := by
    intro gone
    rw [List.drop_drop, cutOut]
  have hlength : gone ≤ (q.items.drop q.kept).length := by
    rw [List.length_drop]
    omega
  have hmade : q.limits.Room (q.items.take q.kept ++ (q.items.drop q.kept).drop gone)
      message.length := by
    rwa [hcut]
  have hevict := evict_least (q.items.take q.kept) (q.items.drop q.kept) hlength hmade
    fun fewer hfewer => by rw [hcut]; exact hleast fewer hfewer
  rw [hparts, hcut, ← hq.total] at hevict
  rw [push_of_crowded hq h, hpolicy]
  simp only [if_pos hcan, hevict, append, hcut]
  simp

/-- What the rule says is what a queue does. -/
theorem PushRule.push_eq (hq : q.Regular) (hhead : q.headStarted = true → q.items ≠ [])
    (hcap : q.limits.maxMessages ≠ some 0) {result : Except EnqueueError Nat × SendQueue}
    (h : PushRule q q.kept message result) : q.push message = result := by
  cases h with
  | tooLarge large => rw [push, if_pos large]
  | waits fitting paused => exact push_of_paused paused fitting
  | forgotten opened empty =>
    rw [push, if_neg (by simp [empty]), opened, if_neg Bool.false_ne_true, if_pos empty]
  | taken weighs room =>
    rw [push, if_neg (Nat.not_lt.2 weighs.fitting), if_neg weighs.not_paused,
      if_neg weighs.nonempty, if_pos (hq.fits_iff.2 room)]
    rfl
  | pauses crowded policy => rw [push_of_crowded hq crowded, policy]
  | dropped crowded policy => rw [push_of_crowded hq crowded, policy]
  | overflows crowded policy => rw [push_of_crowded hq crowded, policy]
  | evicts crowded policy gone pos there room least =>
    exact push_evicts hq hhead hcap crowded policy there room least
  | stuck crowded policy never =>
    have hcannot : ¬ q.fitsAfterEviction message.length = true :=
      fun hcan => never ((fitsAfterEviction_iff hhead hcap crowded.fitting).1 hcan)
    rw [push_of_crowded hq crowded, policy]
    simp only [if_neg hcannot]

/-- The rule leaves no message without an answer. -/
theorem exists_pushRule {keep : Nat} (hkeep : keep ≤ q.items.length) (message : Bytes) :
    ∃ result, PushRule q keep message result := by
  by_cases hlarge : q.limits.highWater < message.length
  · exact ⟨_, .tooLarge hlarge⟩
  have hfitting := Nat.le_of_not_lt hlarge
  cases hpaused : q.paused with
  | true => exact ⟨_, .waits hfitting hpaused⟩
  | false =>
    by_cases hempty : message = []
    · exact ⟨_, .forgotten hpaused hempty⟩
    have hweighs : q.Weighs message := ⟨hfitting, hpaused, hempty⟩
    by_cases hroom : q.limits.Room q.items message.length
    · exact ⟨_, .taken hweighs hroom⟩
    have hcrowded : q.Crowded message := ⟨hweighs, hroom⟩
    cases hpolicy : q.limits.policy with
    | blockProducer => exact ⟨_, .pauses hcrowded hpolicy⟩
    | dropNewest => exact ⟨_, .dropped hcrowded hpolicy⟩
    | disconnect => exact ⟨_, .overflows hcrowded hpolicy⟩
    | dropOldest =>
      by_cases hsafe : q.limits.Room (q.items.take keep) message.length
      · obtain ⟨gone, hthere, hmade, hleast⟩ := exists_least hkeep hsafe
        have hpos : 1 ≤ gone := by
          -- Taking out nothing makes no room.
          rcases Nat.eq_zero_or_pos gone with rfl | hpos
          · rw [cutOut_zero] at hmade
            exact absurd hmade hroom
          · exact hpos
        exact ⟨_, .evicts hcrowded hpolicy gone hpos hthere hmade hleast⟩
      · exact ⟨_, .stuck hcrowded hpolicy hsafe⟩

/-- A queue does what the rule says, and the rule says nothing else. -/
theorem pushRule_iff (hq : q.Regular) (hhead : q.headStarted = true → q.items ≠ [])
    (hcap : q.limits.maxMessages ≠ some 0) (result : Except EnqueueError Nat × SendQueue) :
    PushRule q q.kept message result ↔ q.push message = result := by
  refine ⟨fun h => h.push_eq hq hhead hcap, ?_⟩
  rintro rfl
  obtain ⟨result, h⟩ := exists_pushRule (kept_le hhead) message
  rwa [h.push_eq hq hhead hcap]

/-- A message that is refused leaves the items as they are. -/
theorem PushRule.of_error {keep : Nat} {error : EnqueueError} {q' : SendQueue}
    (h : PushRule q keep message (.error error, q')) : q' = { q with paused := q'.paused } := by
  cases h <;> rfl

end SendQueue

end ChatRelay
