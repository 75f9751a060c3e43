import ChatRelay.Mailbox.WaitingRoom
import ChatRelay.Proofs.Queue.Regular

/-!
# Many at one mailbox

In a `WaitingRoom` all who can go on do so before anything else happens. In a `Crowd` nobody waits
for that: operations come, and those who wait try again, in any order and at any time. Whoever has
tried in vain sleeps until somebody wakes it: a message that is taken wakes the receiver, one that
is handed out wakes every sender, and closing and aborting wake all. Those who are woken have to try
again some time, and those who sleep may.

`Mailbox.Did` says once what each happening can do to the mailbox.
-/

namespace ChatRelay

variable {ι : Type}

namespace Waiter

def isSender : Waiter ι → Bool
  | .sender _ _ => true
  | .receiver _ => false

def isReceiver : Waiter ι → Bool
  | .sender _ _ => false
  | .receiver _ => true

/-- Tries: how the operation ends, if it does not have to wait, and the mailbox after it. -/
def attempt (box : Mailbox) : Waiter ι → Option Finished × Mailbox
  | .sender _ message =>
    let (answer, box) := box.offer message
    (if WaitingRoom.mustWait answer then none else some (.sent answer), box)
  | .receiver _ =>
    match box.receive with
    | (.message bytes, box) => (some (.received bytes), box)
    | (.ended, box) => (some .ended, box)
    | (.nothing, box) => (none, box)

end Waiter

/-- Someone who waits, and whether it has been woken since it last tried. -/
structure Sleeper (ι : Type) where
  waiter : Waiter ι
  woken : Bool

/-- A mailbox and those who wait at it, in the order in which they came. -/
structure Crowd (ι : Type) where
  box : Mailbox
  waiting : List (Sleeper ι)

/-- One thing that happens at a mailbox. -/
inductive Happening (ι : Type)
  /-- An operation comes, and is tried at once. -/
  | come (op : MailboxOp ι)
  /-- Who has this place among those who wait tries again. -/
  | retry (place : Nat)

/-- The operation that comes. -/
def Happening.op : Happening ι → Option (MailboxOp ι)
  | .come op => some op
  | .retry _ => none

/-- Who comes, and waits if it has to. -/
def Happening.newcomer : Happening ι → Option (Waiter ι)
  | .come (.send name message) => some (.sender name message)
  | .come (.receive name) => some (.receiver name)
  | _ => none

/-- What has come of it. -/
inductive Outcome (ι : Type)
  | offered (message : Bytes) (answer : Except EnqueueError Nat)
  | finished (waiter : Waiter ι) (how : Finished)
  /-- It has to wait. -/
  | waits (waiter : Waiter ι)
  | cancelled (name : ι)
  | closed
  | aborted (lost : List Bytes)
  /-- There is nobody to try again, or there is a receiver already. -/
  | nothing

/-- Who is woken by what has happened. -/
def Outcome.wakes : Outcome ι → Waiter ι → Bool
  | .offered _ (.ok _), waiter => waiter.isReceiver
  | .finished _ (.sent (.ok _)), waiter => waiter.isReceiver
  | .finished _ (.received _), waiter => waiter.isSender
  | .closed, _ => true
  | .aborted _, _ => true
  | _, _ => false

namespace Crowd

/-- A new mailbox at which nobody waits. -/
def new (limits : QueueLimits) : Crowd ι := ⟨Mailbox.new limits, []⟩

/-- Wakes some of those who wait. -/
def wake (who : Waiter ι → Bool) (waiting : List (Sleeper ι)) : List (Sleeper ι) :=
  waiting.map fun sleeper => { sleeper with woken := sleeper.woken || who sleeper.waiter }

/-- Someone comes and tries, and waits behind the others if it has to. -/
def arrive (crowd : Crowd ι) (waiter : Waiter ι) : Outcome ι × Crowd ι :=
  match waiter.attempt crowd.box with
  | (none, box) => (.waits waiter, ⟨box, crowd.waiting ++ [⟨waiter, false⟩]⟩)
  | (some finished, box) => (.finished waiter finished, { crowd with box })

/-- Someone who waits tries again, and keeps its place if it has to go on waiting. -/
def retry (crowd : Crowd ι) (place : Nat) : Outcome ι × Crowd ι :=
  match crowd.waiting[place]? with
  | none => (.nothing, crowd)
  | some ⟨waiter, _⟩ =>
    match waiter.attempt crowd.box with
    | (none, box) => (.waits waiter, ⟨box, crowd.waiting.set place ⟨waiter, false⟩⟩)
    | (some finished, box) =>
      (.finished waiter finished, ⟨box, crowd.waiting.eraseIdx place⟩)

/-- What comes of one thing, before anybody is woken by it. There is one receiver, which does not
come again while it waits. -/
def react [DecidableEq ι] (crowd : Crowd ι) : Happening ι → Outcome ι × Crowd ι
  | .come (.offer message) =>
    let (answer, box) := crowd.box.offer message
    (.offered message answer, { crowd with box })
  | .come (.send name message) => crowd.arrive (.sender name message)
  | .come (.receive name) =>
    if crowd.waiting.any (·.waiter.isReceiver) then (.nothing, crowd)
    else crowd.arrive (.receiver name)
  | .come (.cancel name) =>
    (.cancelled name, { crowd with waiting := crowd.waiting.filter (·.waiter.name != name) })
  | .come .close => (.closed, { crowd with box := crowd.box.close })
  | .come .abort => (.aborted crowd.box.queue.items, { crowd with box := crowd.box.abort })
  | .retry place => crowd.retry place

/-- Carries out one thing, and wakes those whom it concerns. -/
def perform [DecidableEq ι] (crowd : Crowd ι) (happening : Happening ι) : Outcome ι × Crowd ι :=
  let (outcome, crowd) := crowd.react happening
  (outcome, { crowd with waiting := wake outcome.wakes crowd.waiting })

/-- Carries out one thing after another: what came of each, and the crowd at the end. -/
def run [DecidableEq ι] (crowd : Crowd ι) : List (Happening ι) → List (Outcome ι) × Crowd ι
  | [] => ([], crowd)
  | happening :: later =>
    let (outcome, crowd) := crowd.perform happening
    let (outcomes, crowd) := run crowd later
    (outcome :: outcomes, crowd)

end Crowd

/-! ## What can happen to the mailbox -/

/-- What an outcome says has been done to a mailbox. -/
inductive Mailbox.Did (box : Mailbox) : Outcome ι → Mailbox → Prop
  | offered {message : Bytes} {answer : Except EnqueueError Nat} {after : Mailbox}
      (offer : box.offer message = (answer, after)) : Did box (.offered message answer) after
  | sent (name : ι) {message : Bytes} {answer : Except EnqueueError Nat} {after : Mailbox}
      (offer : box.offer message = (answer, after)) (ends : WaitingRoom.mustWait answer = false) :
      Did box (.finished (.sender name message) (.sent answer)) after
  | held (name : ι) {message : Bytes} {after : Mailbox}
      (offer : box.offer message = (.error .full, after)) :
      Did box (.waits (.sender name message)) after
  | received (name : ι) {bytes : Bytes} {after : Mailbox}
      (receive : box.receive = (.message bytes, after)) :
      Did box (.finished (.receiver name) (.received bytes)) after
  | ended (name : ι) (receive : box.receive = (.ended, box)) :
      Did box (.finished (.receiver name) .ended) box
  | starved (name : ι) (receive : box.receive = (.nothing, box)) :
      Did box (.waits (.receiver name)) box
  | cancelled (name : ι) : Did box (.cancelled name) box
  | closed : Did box .closed box.close
  | aborted : Did box (.aborted box.queue.items) box.abort
  | nothing : Did box .nothing box

namespace Mailbox

/-- The mailbox without its oldest message. -/
def popped (box : Mailbox) : Mailbox := { box with queue := box.queue.pop.2 }

@[simp] theorem closed_popped (box : Mailbox) : box.popped.closed = box.closed := rfl

theorem receive_nil {box : Mailbox} (h : box.queue.items = []) :
    box.receive = (if box.closed then .ended else .nothing, box) := by
  rw [receive, SendQueue.pop_nil h]

theorem receive_cons {box : Mailbox} {head : Bytes} {rest : List Bytes}
    (h : box.queue.items = head :: rest) :
    box.receive = (.message head, box.popped) := by
  rw [receive, popped, SendQueue.pop_cons h]

/-- The oldest message is handed out. -/
theorem receive_message {box after : Mailbox} {bytes : Bytes}
    (h : box.receive = (.message bytes, after)) :
    box.queue.items = bytes :: after.queue.items ∧
      after = box.popped := by
  cases hitems : box.queue.items with
  | nil =>
    rw [receive_nil hitems] at h
    cases hclosed : box.closed <;> simp [hclosed] at h
  | cons head rest =>
    rw [receive_cons hitems] at h
    obtain ⟨hhead, rfl⟩ := Prod.mk.inj h
    cases hhead
    rw [popped, SendQueue.pop_cons hitems]
    exact ⟨rfl, rfl⟩

/-- Only a mailbox that holds nothing hands out nothing. -/
theorem receive_none {box after : Mailbox} {found : Received} (h : box.receive = (found, after))
    (hnone : ∀ message, found ≠ .message message) :
    box.queue.items = [] ∧ found = if box.closed then .ended else .nothing := by
  cases hitems : box.queue.items with
  | nil =>
    rw [receive_nil hitems] at h
    exact ⟨rfl, (Prod.mk.inj h).1.symm⟩
  | cons head rest =>
    rw [receive_cons hitems] at h
    exact absurd (Prod.mk.inj h).1.symm (hnone head)

theorem offer_closed {box : Mailbox} (h : box.closed = true) (message : Bytes) :
    box.offer message = (.error .closed, box) := by
  rw [offer, if_pos h]

theorem offer_open {box : Mailbox} (h : box.closed = false) (message : Bytes) :
    box.offer message =
      ((box.queue.push message).1, { box with queue := (box.queue.push message).2 }) := by
  rw [offer, if_neg (Bool.eq_false_iff.1 h)]

@[simp] theorem closed_offer (box : Mailbox) (message : Bytes) :
    (box.offer message).2.closed = box.closed := by
  unfold offer
  split <;> rfl

@[simp] theorem limits_offer (box : Mailbox) (message : Bytes) :
    (box.offer message).2.queue.limits = box.queue.limits := by
  unfold offer
  split
  · rfl
  · exact box.queue.limits_push message

theorem closed_of_offer {box after : Mailbox} {message : Bytes} {answer : Except EnqueueError Nat}
    (h : box.offer message = (answer, after)) : after.closed = box.closed := by
  have hclosed := box.closed_offer message
  rwa [h] at hclosed

theorem limits_of_offer {box after : Mailbox} {message : Bytes} {answer : Except EnqueueError Nat}
    (h : box.offer message = (answer, after)) : after.queue.limits = box.queue.limits := by
  have hlimits := box.limits_offer message
  rwa [h] at hlimits

/-- A sender that has to wait finds the mailbox open, and leaves it paused. -/
theorem offer_full {box after : Mailbox} {message : Bytes}
    (h : box.offer message = (.error .full, after)) :
    box.closed = false ∧ message.length ≤ box.queue.limits.highWater ∧
      after = { box with queue := { box.queue with paused := true } } := by
  cases hclosed : box.closed with
  | true =>
    rw [offer_closed hclosed] at h
    cases h
  | false =>
    rw [offer_open hclosed] at h
    obtain ⟨hfull, rfl⟩ := Prod.mk.inj h
    obtain ⟨hqueue, hle, -⟩ := SendQueue.push_full hfull
    rw [hqueue]
    exact ⟨rfl, hle, by rw [hclosed]⟩

/-- A paused mailbox that is open lets every sender wait. -/
theorem offer_paused {box : Mailbox} {message : Bytes} (hclosed : box.closed = false)
    (hpaused : box.queue.paused = true) (hle : message.length ≤ box.queue.limits.highWater) :
    box.offer message = (.error .full, box) := by
  rw [offer_open hclosed, SendQueue.push_of_paused hpaused hle]

end Mailbox

theorem WaitingRoom.mustWait_iff {answer : Except EnqueueError Nat} :
    mustWait answer = true ↔ answer = .error .full := by
  cases answer with
  | ok evicted => simp [mustWait]
  | error error => cases error <;> simp [mustWait]

namespace Waiter

variable {box : Mailbox}

theorem attempt_sender (box : Mailbox) (name : ι) (message : Bytes) :
    (sender name message).attempt box =
      (if WaitingRoom.mustWait (box.offer message).1 then none
        else some (.sent (box.offer message).1), (box.offer message).2) := rfl

theorem attempt_sender_none {after : Mailbox} {name : ι} {message : Bytes} :
    (sender name message).attempt box = (none, after) ↔
      box.offer message = (.error .full, after) := by
  rw [attempt_sender]
  constructor
  · intro h
    obtain ⟨hnone, rfl⟩ := Prod.mk.inj h
    by_cases hwait : WaitingRoom.mustWait (box.offer message).1 = true
    · exact Prod.ext (WaitingRoom.mustWait_iff.1 hwait) rfl
    · rw [if_neg hwait] at hnone
      cases hnone
  · intro h
    rw [h]
    rfl

theorem attempt_receiver_nil (name : ι) (h : box.queue.items = []) :
    (receiver name).attempt box = (if box.closed then some .ended else none, box) := by
  rw [attempt, Mailbox.receive_nil h]
  cases box.closed <;> rfl

theorem attempt_receiver_cons (name : ι) {head : Bytes} {rest : List Bytes}
    (h : box.queue.items = head :: rest) :
    (receiver name).attempt box =
      (some (.received head), box.popped) := by
  rw [attempt, Mailbox.receive_cons h]

/-- Who tries has to wait or comes to an end, and has done to the mailbox what is said of it. -/
theorem did_attempt (waiter : Waiter ι) (box : Mailbox) :
    (∃ after, waiter.attempt box = (none, after) ∧ box.Did (.waits waiter) after) ∨
      ∃ finished after, waiter.attempt box = (some finished, after) ∧
        box.Did (.finished waiter finished) after := by
  cases waiter with
  | sender name message =>
    rw [attempt_sender]
    cases hwait : WaitingRoom.mustWait (box.offer message).1 with
    | true =>
      have hfull := WaitingRoom.mustWait_iff.1 hwait
      exact .inl ⟨_, rfl, .held name (Prod.ext hfull rfl)⟩
    | false => exact .inr ⟨_, _, rfl, .sent name rfl hwait⟩
  | receiver name =>
    cases hitems : box.queue.items with
    | nil =>
      rw [attempt_receiver_nil name hitems]
      have hreceive := Mailbox.receive_nil hitems
      cases hclosed : box.closed with
      | true =>
        rw [hclosed] at hreceive
        exact .inr ⟨_, _, rfl, .ended name hreceive⟩
      | false =>
        rw [hclosed] at hreceive
        exact .inl ⟨_, rfl, .starved name hreceive⟩
    | cons head rest =>
      rw [attempt_receiver_cons name hitems]
      exact .inr ⟨_, _, rfl, .received name (Mailbox.receive_cons hitems)⟩

end Waiter

namespace Crowd

variable (crowd : Crowd ι)

theorem did_arrive (waiter : Waiter ι) :
    crowd.box.Did (crowd.arrive waiter).1 (crowd.arrive waiter).2.box := by
  unfold arrive
  obtain ⟨after, hattempt, hdid⟩ | ⟨finished, after, hattempt, hdid⟩ :=
    waiter.did_attempt crowd.box
  · rw [hattempt]
    exact hdid
  · rw [hattempt]
    exact hdid

theorem did_retry (place : Nat) :
    crowd.box.Did (crowd.retry place).1 (crowd.retry place).2.box := by
  unfold retry
  split
  · exact .nothing
  next waiter woken hplace =>
  obtain ⟨after, hattempt, hdid⟩ | ⟨finished, after, hattempt, hdid⟩ :=
    waiter.did_attempt crowd.box
  · rw [hattempt]
    exact hdid
  · rw [hattempt]
    exact hdid

theorem waiters_arrive (waiter : Waiter ι) :
    (crowd.arrive waiter).2.waiting.map Sleeper.waiter = crowd.waiting.map Sleeper.waiter ∨
      (crowd.arrive waiter).2.waiting.map Sleeper.waiter =
        crowd.waiting.map Sleeper.waiter ++ [waiter] := by
  unfold arrive
  split
  · exact .inr List.map_append
  · exact .inl rfl

theorem waiters_wake (who : Waiter ι → Bool) (waiting : List (Sleeper ι)) :
    (wake who waiting).map Sleeper.waiter = waiting.map Sleeper.waiter := by
  simp [wake, Function.comp_def]

/-- Whoever has to go on waiting keeps its place. -/
theorem waiters_set {waiting : List (Sleeper ι)} {place : Nat} {waiter : Waiter ι} {woken : Bool}
    (h : waiting[place]? = some ⟨waiter, woken⟩) :
    (waiting.set place ⟨waiter, false⟩).map Sleeper.waiter = waiting.map Sleeper.waiter := by
  have hwaiter : (waiting.map Sleeper.waiter)[place]? = some waiter := by
    rw [List.getElem?_map, h]
    rfl
  obtain ⟨hlt, hget⟩ := List.getElem?_eq_some_iff.1 hwaiter
  rw [List.map_set]
  show (waiting.map Sleeper.waiter).set place waiter = _
  rw [← hget, List.set_getElem_self]

/-- Nobody takes the place of another by trying again. -/
theorem waiters_retry (place : Nat) :
    ((crowd.retry place).2.waiting.map Sleeper.waiter).Sublist
      (crowd.waiting.map Sleeper.waiter) := by
  unfold retry
  split
  · exact .refl _
  next waiter woken hplace =>
  split
  · exact waiters_set hplace ▸ .refl _
  · exact (List.eraseIdx_sublist _ _).map _

variable [DecidableEq ι]

theorem did_react (happening : Happening ι) :
    crowd.box.Did (crowd.react happening).1 (crowd.react happening).2.box := by
  cases happening with
  | come op =>
    cases op with
    | offer message => exact .offered rfl
    | send name message => exact crowd.did_arrive (.sender name message)
    | receive name =>
      rw [react]
      split
      · exact .nothing
      · exact crowd.did_arrive (.receiver name)
    | cancel name => exact .cancelled name
    | close => exact .closed
    | abort => exact .aborted
  | retry place => exact crowd.did_retry place

/-- Waking changes nothing about what has come of it. -/
theorem outcome_perform (happening : Happening ι) :
    (crowd.perform happening).1 = (crowd.react happening).1 := rfl

/-- Whatever happens does to the mailbox what its outcome says. -/
theorem did_perform (happening : Happening ι) :
    crowd.box.Did (crowd.perform happening).1 (crowd.perform happening).2.box :=
  crowd.did_react happening

/-! ## Who waits -/

/-- Somebody may come who has to wait, and otherwise nobody waits who did not. A receiver comes only
if there is none. -/
theorem waiters_perform (happening : Happening ι) :
    ((crowd.perform happening).2.waiting.map Sleeper.waiter).Sublist
        (crowd.waiting.map Sleeper.waiter) ∨
      ∃ waiter, happening.newcomer = some waiter ∧
        (crowd.perform happening).2.waiting.map Sleeper.waiter =
          crowd.waiting.map Sleeper.waiter ++ [waiter] ∧
        (waiter.isReceiver = true →
          ∀ sleeper ∈ crowd.waiting, sleeper.waiter.isReceiver = false) := by
  have hwake : (crowd.perform happening).2.waiting.map Sleeper.waiter =
      (crowd.react happening).2.waiting.map Sleeper.waiter := waiters_wake _ _
  rw [hwake]
  cases happening with
  | come op =>
    cases op with
    | offer message => exact .inl (.refl _)
    | send name message =>
      rcases crowd.waiters_arrive (.sender name message) with hsame | hcomes
      · exact .inl (hsame ▸ .refl _)
      · exact .inr ⟨_, rfl, hcomes, nofun⟩
    | receive name =>
      rw [react]
      split
      · exact .inl (.refl _)
      · next hnone =>
        have hnone : ∀ sleeper ∈ crowd.waiting, sleeper.waiter.isReceiver = false := by
          simpa using hnone
        rcases crowd.waiters_arrive (.receiver name) with hsame | hcomes
        · exact .inl (hsame ▸ .refl _)
        · exact .inr ⟨_, rfl, hcomes, fun _ => hnone⟩
    | cancel name => exact .inl (List.filter_sublist.map _)
    | close => exact .inl (.refl _)
    | abort => exact .inl (.refl _)
  | retry place => exact .inl (crowd.waiters_retry place)

/-! ## Runs -/

@[simp] theorem run_nil : crowd.run [] = ([], crowd) := rfl

theorem run_cons (happening : Happening ι) (later : List (Happening ι)) :
    crowd.run (happening :: later) =
      ((crowd.perform happening).1 :: ((crowd.perform happening).2.run later).1,
        ((crowd.perform happening).2.run later).2) := rfl

theorem run_append (before later : List (Happening ι)) :
    crowd.run (before ++ later) =
      ((crowd.run before).1 ++ ((crowd.run before).2.run later).1,
        ((crowd.run before).2.run later).2) := by
  induction before generalizing crowd with
  | nil => rfl
  | cons happening before ih => rw [List.cons_append, run_cons, ih, run_cons]; rfl

/-- What everything that can happen keeps is kept by every run. -/
theorem run_keeps {P : Crowd ι → Prop}
    (hperform : ∀ {crowd : Crowd ι} (happening : Happening ι), P crowd →
      P (crowd.perform happening).2)
    (h : P crowd) (happenings : List (Happening ι)) : P (crowd.run happenings).2 := by
  induction happenings generalizing crowd with
  | nil => exact h
  | cons happening later ih => exact ih _ (hperform happening h)

end Crowd

end ChatRelay
