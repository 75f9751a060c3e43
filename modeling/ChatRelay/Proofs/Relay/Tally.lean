import ChatRelay.Relay.Basic

/-!
# One message for everyone

Relaying a message asks every receiver but those of its origin, once and in order, and leaves the
origin as it is (`relay_members`). The answer of a receiver alone decides its standing, that is the
list of the tally in which it appears, or that it appears in none (`relay_tally`,
`standingAt_perm`).
-/

namespace ChatRelay

/-- Where an answer puts a receiver in a tally. -/
inductive Standing
  | queued
  | dropped
  | disconnect
  /-- In no list. -/
  | unlisted
  deriving DecidableEq, Repr

/-- A refusal is tallied as such, unless the receiver is to be given up or is closed. -/
def Standing.of : Except EnqueueError Nat → Standing
  | .ok _ => .queued
  | .error .dropped => .dropped
  | .error (.tooLarge _ _) => .dropped
  | .error .full => .dropped
  | .error .overflow => .disconnect
  | .error .closed => .unlisted

section Relay

variable {σ : Type} [Outbox σ] (origin : SessionId) (frame : Bytes)

/-- The connections of the receivers that are asked and whose answer has a standing. -/
def standingAt (standing : Standing) (members : List σ) : List SessionId :=
  (members.filter fun member => Outbox.id member ≠ origin ∧
    Standing.of (Outbox.offer member frame).1 = standing).map Outbox.id

theorem relay_own {member : σ} (h : Outbox.id member = origin) (rest : List σ) :
    relay origin frame (member :: rest) =
      ((relay origin frame rest).1, member :: (relay origin frame rest).2) := by
  simp only [relay, if_pos h]

theorem relay_other {member : σ} (h : Outbox.id member ≠ origin) (rest : List σ) :
    relay origin frame (member :: rest) =
      ((relay origin frame rest).1.note (Outbox.id member) (Outbox.offer member frame).1,
        (Outbox.offer member frame).2 :: (relay origin frame rest).2) := by
  simp only [relay, if_neg h]

/-- Everyone but the origin is asked once, and the origin is left as it is. -/
theorem relay_members (members : List σ) :
    (relay origin frame members).2 = members.map fun member =>
      if Outbox.id member = origin then member else (Outbox.offer member frame).2 := by
  induction members with
  | nil => rfl
  | cons member rest ih =>
    rw [List.map_cons, ← ih]
    by_cases hown : Outbox.id member = origin
    · rw [relay_own origin frame hown, if_pos hown]
    · rw [relay_other origin frame hown, if_neg hown]

theorem standingAt_own {member : σ} (h : Outbox.id member = origin) (standing : Standing)
    (rest : List σ) :
    standingAt origin frame standing (member :: rest) = standingAt origin frame standing rest := by
  simp [standingAt, h]

theorem standingAt_other {member : σ} (h : Outbox.id member ≠ origin) (standing : Standing)
    (rest : List σ) :
    standingAt origin frame standing (member :: rest) =
      (if Standing.of (Outbox.offer member frame).1 = standing then [Outbox.id member] else []) ++
        standingAt origin frame standing rest := by
  by_cases hstanding : Standing.of (Outbox.offer member frame).1 = standing <;>
    simp [standingAt, h, hstanding]

/-- The tally lists those who are asked by the standing of their answers, in their order. -/
theorem relay_tally (members : List σ) :
    (relay origin frame members).1 =
      ⟨standingAt origin frame .queued members, standingAt origin frame .dropped members,
        standingAt origin frame .disconnect members⟩ := by
  induction members with
  | nil => rfl
  | cons member rest ih =>
    by_cases hown : Outbox.id member = origin
    · simp only [relay_own origin frame hown, standingAt_own origin frame hown, ih]
    · simp only [relay_other origin frame hown, standingAt_other origin frame hown, ih]
      cases (Outbox.offer member frame).1 with
      | ok evicted => rfl
      | error error => cases error <;> rfl

/-- Everyone who is asked has one standing. -/
theorem standingAt_perm (members : List σ) :
    (standingAt origin frame .queued members ++ standingAt origin frame .dropped members ++
        standingAt origin frame .disconnect members ++
        standingAt origin frame .unlisted members).Perm
      ((members.filter (Outbox.id · ≠ origin)).map Outbox.id) := by
  induction members with
  | nil => exact .refl _
  | cons member rest ih =>
    refine List.perm_iff_count.2 fun id => ?_
    have hrest := ih.count_eq id
    simp only [List.count_append] at hrest ⊢
    by_cases hown : Outbox.id member = origin
    · simpa [standingAt_own origin frame hown, hown] using hrest
    · simp only [standingAt_other origin frame hown, List.count_append]
      have hasked : (member :: rest).filter (Outbox.id · ≠ origin) =
          member :: rest.filter (Outbox.id · ≠ origin) := by
        simp [hown]
      rw [hasked, List.map_cons, List.count_cons, ← hrest]
      cases Standing.of (Outbox.offer member frame).1 <;> simp [List.count_singleton] <;> omega

/-- The origin is not asked. -/
theorem origin_not_mem_standingAt (standing : Standing) (members : List σ) :
    origin ∉ standingAt origin frame standing members := by
  intro hmem
  obtain ⟨member, hmember, hid⟩ := List.mem_map.1 hmem
  have hasked := (List.mem_filter.1 hmember).2
  rw [decide_eq_true_iff] at hasked
  exact hasked.1 hid

end Relay

end ChatRelay
