import ChatRelay.Proofs.Mailbox.Ledger

/-!
# Nobody is left asleep

Whoever sleeps at a mailbox and has not been woken could not go on: a receiver sleeps while the
mailbox is open and empty, and a sender while it is open, paused and holds something
(`Crowd.no_lost_wakeup`). So a sender and a receiver never both sleep, nobody sleeps at a closed
mailbox, and receiving one message after another lets every sender go on.

The reason why nobody is forgotten is `Mailbox.Did.vain`: what happens at a mailbox wakes all those
who could go on because of it. That a paused mailbox holds something is part of the regularity of
its queue.
-/

namespace ChatRelay

open Ledger

variable {ι : Type}

/-! ## Trying in vain -/

namespace Waiter

variable {box : Mailbox}

/-- Whoever tries has to wait, and changes nothing. -/
def Vain (box : Mailbox) (waiter : Waiter ι) : Prop := waiter.attempt box = (none, box)

/-- The mailbox is in a state in which one has to wait. -/
def Reason (box : Mailbox) : Waiter ι → Prop
  | .receiver _ => box.closed = false ∧ box.queue.items = []
  | .sender _ _ =>
    box.closed = false ∧ box.queue.limits.policy = .blockProducer ∧ box.queue.paused = true ∧
      box.queue.items ≠ []

theorem vain_receiver {name : ι} :
    (receiver name).Vain box ↔ box.closed = false ∧ box.queue.items = [] := by
  unfold Vain
  cases hitems : box.queue.items with
  | nil =>
    rw [attempt_receiver_nil name hitems]
    cases box.closed <;> simp
  | cons head rest =>
    rw [attempt_receiver_cons name hitems]
    simp

theorem vain_sender {name : ι} {message : Bytes} :
    (sender name message).Vain box ↔ box.closed = false ∧ box.queue.paused = true ∧
      message.length ≤ box.queue.limits.highWater := by
  unfold Vain
  rw [attempt_sender_none]
  constructor
  · intro h
    obtain ⟨hclosed, hle, hbox⟩ := Mailbox.offer_full h
    exact ⟨hclosed, congrArg (·.queue.paused) hbox, hle⟩
  · rintro ⟨hclosed, hpaused, hle⟩
    exact Mailbox.offer_paused hclosed hpaused hle

/-- Whoever has tried and has to wait would try in vain. -/
theorem vain_of_attempt {waiter : Waiter ι} {after : Mailbox}
    (h : waiter.attempt box = (none, after)) : waiter.Vain after := by
  cases waiter with
  | receiver name =>
    cases hitems : box.queue.items with
    | nil =>
      have hsame := h
      rw [attempt_receiver_nil name hitems] at hsame
      obtain ⟨-, rfl⟩ := Prod.mk.inj hsame
      exact h
    | cons head rest =>
      rw [attempt_receiver_cons name hitems] at h
      cases h
  | sender name message =>
    obtain ⟨hclosed, hle, rfl⟩ := Mailbox.offer_full (attempt_sender_none.1 h)
    exact vain_sender.2 ⟨hclosed, rfl, hle⟩

/-- Whoever tries in vain at a mailbox with a regular queue has a reason to wait. -/
theorem Vain.reason {waiter : Waiter ι} (h : waiter.Vain box) (hregular : box.queue.Regular) :
    waiter.Reason box := by
  cases waiter with
  | receiver name => exact vain_receiver.1 h
  | sender name message =>
    obtain ⟨hclosed, hpaused, -⟩ := vain_sender.1 h
    obtain ⟨hpolicy, hitems⟩ := hregular.pause hpaused
    exact ⟨hclosed, hpolicy, hpaused, hitems⟩

end Waiter

/-- A message is taken only from a sender that comes to an end. -/
theorem Outcome.Tried.taken_le {outcome : Outcome ι} (h : outcome.Tried) :
    outcome.taken.length ≤ (outcome.enders.filter Waiter.isSender).length := by
  cases h with
  | finished waiter how =>
    cases waiter with
    | sender name message =>
      exact Nat.le_trans (List.length_filter_le _ _) Option.length_toList_le
    | receiver name => cases how <;> exact Nat.le_refl _
  | waits waiter => exact Nat.le_refl _
  | nothing => exact Nat.le_refl _

/-! ## One happening -/

namespace Mailbox

variable {box after : Mailbox}

/-- The queue is regular and has these limits. -/
structure Proper (limits : QueueLimits) (box : Mailbox) : Prop where
  regular : box.queue.Regular
  limits : box.queue.limits = limits

variable {limits : QueueLimits}

theorem proper_new (limits : QueueLimits) : (new limits).Proper limits :=
  ⟨SendQueue.regular_new limits, rfl⟩

theorem Proper.offer (h : box.Proper limits) (hcap : limits.maxMessages ≠ some 0)
    (message : Bytes) : (box.offer message).2.Proper limits := by
  refine ⟨?_, (box.limits_offer message).trans h.limits⟩
  unfold Mailbox.offer
  split
  · exact h.regular
  · exact h.regular.push (h.limits ▸ hcap) message

theorem Proper.pop (h : box.Proper limits) :
    box.popped.Proper limits :=
  ⟨h.regular.pop, box.queue.limits_pop.trans h.limits⟩

theorem Proper.close (h : box.Proper limits) : box.close.Proper limits := ⟨h.regular, h.limits⟩

theorem Proper.abort (h : box.Proper limits) : box.abort.Proper limits :=
  ⟨box.queue.regular_clear, h.limits⟩

/-- The queue stays regular, and its limits stay. -/
theorem Did.proper {outcome : Outcome ι} (hdid : box.Did outcome after) (h : box.Proper limits)
    (hcap : limits.maxMessages ≠ some 0) : after.Proper limits := by
  cases hdid with
  | offered hoffer =>
    obtain rfl := congrArg Prod.snd hoffer
    exact h.offer hcap _
  | sent name hoffer ends =>
    obtain rfl := congrArg Prod.snd hoffer
    exact h.offer hcap _
  | held name hoffer =>
    obtain rfl := congrArg Prod.snd hoffer
    exact h.offer hcap _
  | received name hreceive =>
    obtain ⟨-, rfl⟩ := receive_message hreceive
    exact h.pop
  | ended name hreceive => exact h
  | starved name hreceive => exact h
  | cancelled name => exact h
  | closed => exact h.close
  | aborted => exact h.abort
  | nothing => exact h

/-- At a paused mailbox a sender changes nothing. -/
theorem offer_paused_eq {message : Bytes} {answer : Except EnqueueError Nat}
    (h : box.offer message = (answer, after)) (hclosed : box.closed = false)
    (hpaused : box.queue.paused = true) : after = box := by
  rw [offer_open hclosed, (SendQueue.push_paused_eq hpaused message).1] at h
  exact (Prod.mk.inj h).2.symm

/-- A sender that is waiting and is not woken still waits with reason: only receiving, closing and
aborting end a pause. -/
theorem Did.vain_sender {outcome : Outcome ι} (h : box.Did outcome after) {name : ι}
    {message : Bytes} (hvain : (Waiter.sender name message).Vain box)
    (hasleep : outcome.wakes (.sender name message) = false) :
    (Waiter.sender name message).Vain after := by
  obtain ⟨hclosed, hpaused, -⟩ := Waiter.vain_sender.1 hvain
  cases h with
  | offered hoffer => exact offer_paused_eq hoffer hclosed hpaused ▸ hvain
  | sent name hoffer ends => exact offer_paused_eq hoffer hclosed hpaused ▸ hvain
  | held name hoffer => exact offer_paused_eq hoffer hclosed hpaused ▸ hvain
  | received name hreceive => cases hasleep
  | ended name hreceive => exact hvain
  | starved name hreceive => exact hvain
  | cancelled name => exact hvain
  | closed => cases hasleep
  | aborted => cases hasleep
  | nothing => exact hvain

/-- A receiver that is waiting and is not woken still waits with reason: only a message that is
taken, closing and aborting give it something to do. -/
theorem Did.vain_receiver {outcome : Outcome ι} (h : box.Did outcome after) {name : ι}
    (hvain : (Waiter.receiver name).Vain box)
    (hasleep : outcome.wakes (.receiver name) = false) :
    (Waiter.receiver name).Vain after := by
  obtain ⟨hclosed, hitems⟩ := Waiter.vain_receiver.1 hvain
  have hrefused : ∀ {message : Bytes} {answer : Except EnqueueError Nat},
      box.offer message = (answer, after) → (∀ evicted, answer ≠ .ok evicted) →
      (Waiter.receiver name).Vain after := by
    intro message answer hoffer hrefused
    obtain ⟨kept, hsub, -, hafter⟩ := ledger_offer (ι := ι) hoffer
    have hkept : kept = [] := List.sublist_nil.1 (hitems ▸ hsub)
    have hopen := congrArg (·.2.closed) hoffer
    refine Waiter.vain_receiver.2 ⟨?_, ?_⟩
    · exact hopen.symm.trans ((box.closed_offer message).trans hclosed)
    · cases answer with
      | ok evicted => exact absurd rfl (hrefused evicted)
      | error error =>
        rw [hafter, hkept]
        rfl
  cases h with
  | @offered message answer _ hoffer =>
    cases answer with
    | ok evicted => cases hasleep
    | error error => exact hrefused hoffer nofun
  | @sent sender message answer _ hoffer ends =>
    cases answer with
    | ok evicted => cases hasleep
    | error error => exact hrefused hoffer nofun
  | held name hoffer => exact hrefused hoffer nofun
  | received name hreceive =>
    rw [(receive_message hreceive).1] at hitems
    cases hitems
  | ended name hreceive => exact hvain
  | starved name hreceive => exact hvain
  | cancelled name => exact hvain
  | closed => cases hasleep
  | aborted => cases hasleep
  | nothing => exact hvain

/-- Whoever tries in vain and is not woken would still try in vain. -/
theorem Did.vain {outcome : Outcome ι} (h : box.Did outcome after) {waiter : Waiter ι}
    (hvain : waiter.Vain box) (hasleep : outcome.wakes waiter = false) : waiter.Vain after := by
  cases waiter with
  | sender name message => exact h.vain_sender hvain hasleep
  | receiver name => exact h.vain_receiver hvain hasleep

end Mailbox

namespace Crowd

/-- Nobody who waits has been woken. -/
def Quiet (crowd : Crowd ι) : Prop := ∀ sleeper ∈ crowd.waiting, sleeper.woken = false

/-- The queue is as it should be, there is at most one receiver, and whoever sleeps could not go
on. -/
structure Watchful (limits : QueueLimits) (crowd : Crowd ι) : Prop where
  proper : crowd.box.Proper limits
  one : (crowd.waiting.map Sleeper.waiter).countP Waiter.isReceiver ≤ 1
  vain : ∀ sleeper ∈ crowd.waiting, sleeper.woken = false → sleeper.waiter.Vain crowd.box

variable {limits : QueueLimits}

theorem watchful_new (limits : QueueLimits) : Watchful limits (new limits : Crowd ι) :=
  ⟨Mailbox.proper_new limits, Nat.zero_le _, nofun⟩

/-- While nobody has been woken, all who wait are senders or all are receivers, and nobody waits at
a closed mailbox. -/
theorem Watchful.apart {crowd : Crowd ι} (h : Watchful limits crowd) (hquiet : crowd.Quiet) :
    ((∀ sleeper ∈ crowd.waiting, sleeper.waiter.isReceiver = false) ∨
        ∀ sleeper ∈ crowd.waiting, sleeper.waiter.isSender = false) ∧
      (crowd.box.closed = true → crowd.waiting = []) := by
  have hreason : ∀ sleeper ∈ crowd.waiting, sleeper.waiter.Reason crowd.box :=
    fun sleeper hmem => (h.vain sleeper hmem (hquiet sleeper hmem)).reason h.proper.regular
  constructor
  · by_cases hitems : crowd.box.queue.items = []
    · right
      rintro ⟨waiter, woken⟩ hmem
      cases waiter with
      | receiver name => rfl
      | sender name message => exact absurd hitems (hreason _ hmem).2.2.2
    · left
      rintro ⟨waiter, woken⟩ hmem
      cases waiter with
      | receiver name => exact absurd (hreason _ hmem).2 hitems
      | sender name message => rfl
  · intro hclosed
    refine List.eq_nil_iff_forall_not_mem.2 ?_
    rintro ⟨waiter, woken⟩ hmem
    have hopen : crowd.box.closed = false := by
      cases waiter with
      | receiver name => exact (hreason _ hmem).1
      | sender name message => exact (hreason _ hmem).1
    rw [hclosed] at hopen
    cases hopen

/-- Who has been waiting in a room has not been woken. -/
theorem quiet_ofRoom (room : WaitingRoom ι) : (ofRoom room).Quiet :=
  fun _ hmem => (mem_asleep hmem).2

theorem one_ofRoom {room : WaitingRoom ι} (h : Watchful limits (ofRoom room)) :
    room.waiting.countP Waiter.isReceiver ≤ 1 := by
  have hone := h.one
  rwa [waiters_ofRoom] at hone

theorem mem_arrive {crowd : Crowd ι} {waiter : Waiter ι} {sleeper : Sleeper ι}
    (h : sleeper ∈ (crowd.arrive waiter).2.waiting) :
    sleeper ∈ crowd.waiting ∨
      sleeper.waiter.attempt crowd.box = (none, (crowd.arrive waiter).2.box) := by
  unfold arrive at h ⊢
  split at h
  · next after hattempt =>
    rcases List.mem_append.1 h with hthere | hcomes
    · exact .inl hthere
    · obtain rfl := List.mem_singleton.1 hcomes
      exact .inr hattempt
  · exact .inl h

theorem mem_retry {crowd : Crowd ι} {place : Nat} {sleeper : Sleeper ι}
    (h : sleeper ∈ (crowd.retry place).2.waiting) :
    sleeper ∈ crowd.waiting ∨
      sleeper.waiter.attempt crowd.box = (none, (crowd.retry place).2.box) := by
  unfold retry at h ⊢
  split at h
  · exact .inl h
  next waiter woken hplace =>
  split at h
  · next after hattempt =>
    rcases List.mem_or_eq_of_mem_set h with hthere | rfl
    · exact .inl hthere
    · exact .inr hattempt
  · exact .inl (List.mem_of_mem_eraseIdx h)

variable [DecidableEq ι]

/-- Whoever waits has been waiting or has just tried. -/
theorem mem_react {crowd : Crowd ι} {happening : Happening ι} {sleeper : Sleeper ι}
    (h : sleeper ∈ (crowd.react happening).2.waiting) :
    sleeper ∈ crowd.waiting ∨
      sleeper.waiter.attempt crowd.box = (none, (crowd.react happening).2.box) := by
  cases happening with
  | come op =>
    cases op with
    | offer message => exact .inl h
    | send name message => exact mem_arrive h
    | receive name =>
      by_cases hany : crowd.waiting.any (·.waiter.isReceiver) = true
      · rw [react, if_pos hany] at h
        exact .inl h
      · rw [react, if_neg hany] at h ⊢
        exact mem_arrive h
    | cancel name => exact .inl (List.mem_of_mem_filter h)
    | close => exact .inl h
    | abort => exact .inl h
  | retry place => exact mem_retry h

theorem Watchful.perform {crowd : Crowd ι} (h : Watchful limits crowd)
    (hcap : limits.maxMessages ≠ some 0) (happening : Happening ι) :
    Watchful limits (crowd.perform happening).2 := by
  have hdid := crowd.did_perform happening
  refine ⟨hdid.proper h.proper hcap, oneReceiver_perform happening h.one, ?_⟩
  intro sleeper hsleeper hasleep
  obtain ⟨sleeper, hmem, rfl⟩ := List.mem_map.1 hsleeper
  obtain ⟨hbefore, hwakes⟩ := Bool.or_eq_false_iff.1 hasleep
  rcases mem_react hmem with hthere | hattempt
  · exact hdid.vain (h.vain sleeper hthere hbefore) hwakes
  · exact Waiter.vain_of_attempt hattempt

theorem Watchful.run {crowd : Crowd ι} (h : Watchful limits crowd)
    (hcap : limits.maxMessages ≠ some 0) (happenings : List (Happening ι)) :
    Watchful limits (crowd.run happenings).2 :=
  run_keeps crowd (fun happening h => h.perform hcap happening) h happenings

/-- While nobody has been woken, whoever tries again has to wait, and nothing changes. -/
theorem Watchful.perform_retry {crowd : Crowd ι} (h : Watchful limits crowd) (hquiet : crowd.Quiet)
    (place : Nat) : (crowd.perform (.retry place)).2 = crowd := by
  have hretry : ∃ outcome, crowd.retry place = (outcome, crowd) ∧
      ∀ waiter, outcome.wakes waiter = false := by
    cases hplace : crowd.waiting[place]? with
    | none => exact ⟨.nothing, by rw [retry, hplace], fun _ => rfl⟩
    | some sleeper =>
      obtain ⟨hlt, hget⟩ := List.getElem?_eq_some_iff.1 hplace
      have hmem : sleeper ∈ crowd.waiting := hget ▸ List.getElem_mem hlt
      have hasleep := hquiet sleeper hmem
      have hset : crowd.waiting.set place ⟨sleeper.waiter, false⟩ = crowd.waiting := by
        rw [← hasleep, ← hget]
        exact List.set_getElem_self hlt
      have hvain : sleeper.waiter.attempt crowd.box = (none, crowd.box) :=
        h.vain sleeper hmem hasleep
      refine ⟨.waits sleeper.waiter, ?_, fun _ => rfl⟩
      simp only [retry, hplace, hvain, hset]
  obtain ⟨outcome, hretry, hwakes⟩ := hretry
  rw [Crowd.perform, react, hretry]
  dsimp only
  rw [wake_none fun waiter _ => hwakes waiter]

/-- Those who have been woken try again until nobody is left who has been woken: each of them comes
to an end or sleeps. -/
theorem exists_quiet (crowd : Crowd ι) :
    ∃ places : List Nat, (crowd.run (places.map .retry)).2.Quiet := by
  by_cases hquiet : crowd.Quiet
  · exact ⟨[], hquiet⟩
  · obtain ⟨box, waiting⟩ := crowd
    simp only [Quiet, not_forall, Bool.not_eq_false] at hquiet
    obtain ⟨⟨waiter, woken⟩, hmem, rfl⟩ := hquiet
    obtain ⟨before, later, rfl⟩ := List.append_of_mem hmem
    obtain ⟨after, hattempt, -⟩ | ⟨how, after, hattempt, -⟩ := waiter.did_attempt box
    · have hperform := perform_retry_waits hattempt before later true
      obtain ⟨places, hplaces⟩ := exists_quiet ⟨after, before ++ ⟨waiter, false⟩ :: later⟩
      refine ⟨before.length :: places, ?_⟩
      rw [List.map_cons, run_cons, hperform]
      exact hplaces
    · have hperform := perform_retry_finished hattempt before later true
      obtain ⟨places, hplaces⟩ := exists_quiet
        ⟨after, wake (Outcome.finished waiter how).wakes (before ++ later)⟩
      refine ⟨before.length :: places, ?_⟩
      rw [List.map_cons, run_cons, hperform]
      exact hplaces
termination_by (crowd.waiting.length, crowd.waiting.countP (·.woken))
decreasing_by
  · subst_vars
    simp [Prod.lex_def]
  · subst_vars
    simp [Prod.lex_def, wake]

/-! ## Draining -/

/-- No more comes of it than that a message is handed out and that others try again. -/
def Drains : Happening ι → Prop
  | .come (.receive _) => True
  | .retry _ => True
  | _ => False

theorem Drains.tried {happening : Happening ι} (h : Drains happening) (crowd : Crowd ι) :
    (crowd.perform happening).1.Tried := by
  cases happening with
  | come op =>
    cases op with
    | receive name => exact crowd.tried_receive name
    | offer message => cases h
    | send name message => cases h
    | cancel name => cases h
    | close => cases h
    | abort => cases h
  | retry place => exact crowd.tried_retry place

/-- Senders end or go on waiting. -/
theorem Drains.senders {happening : Happening ι} (h : Drains happening) (crowd : Crowd ι) :
    (((crowd.perform happening).1.enders ++
        (crowd.perform happening).2.waiting.map Sleeper.waiter).filter Waiter.isSender).Perm
      ((crowd.waiting.map Sleeper.waiter).filter Waiter.isSender) := by
  have hwake : (crowd.perform happening).2.waiting.map Sleeper.waiter =
      (crowd.react happening).2.waiting.map Sleeper.waiter := waiters_wake _ _
  rw [hwake, outcome_perform]
  cases happening with
  | come op =>
    cases op with
    | receive name =>
      by_cases hany : crowd.waiting.any (·.waiter.isReceiver) = true
      · rw [react, if_pos hany]
        exact .refl _
      · rw [react, if_neg hany]
        have hperm := (crowd.enders_arrive (.receiver name)).filter Waiter.isSender
        rwa [List.filter_append _ [_], List.filter_singleton, Waiter.isSender, cond_false,
          List.append_nil] at hperm
    | offer message => cases h
    | send name message => cases h
    | cancel name => cases h
    | close => cases h
    | abort => cases h
  | retry place => exact (crowd.enders_retry place).filter Waiter.isSender

theorem senders_run (crowd : Crowd ι) {happenings : List (Happening ι)}
    (h : ∀ happening ∈ happenings, Drains happening) :
    ((enders (crowd.run happenings).1 ++
        (crowd.run happenings).2.waiting.map Sleeper.waiter).filter Waiter.isSender).Perm
      ((crowd.waiting.map Sleeper.waiter).filter Waiter.isSender) := by
  induction happenings generalizing crowd with
  | nil => exact .refl _
  | cons happening later ih =>
    have hfirst := (h happening List.mem_cons_self).senders crowd
    have hlater := ih (crowd.perform happening).2 fun other hother =>
      h other (List.mem_cons_of_mem _ hother)
    simp only [run_cons, enders, List.flatMap_cons, List.append_assoc, List.filter_append] at *
    exact (hlater.append_left _).trans hfirst

/-- A message is taken only from a sender that comes to an end. -/
theorem taken_run_le (crowd : Crowd ι) {happenings : List (Happening ι)}
    (h : ∀ happening ∈ happenings, Drains happening) :
    (taken (crowd.run happenings).1).length ≤
      ((enders (crowd.run happenings).1).filter Waiter.isSender).length := by
  induction happenings generalizing crowd with
  | nil => exact Nat.le_refl _
  | cons happening later ih =>
    have hfirst := ((h happening List.mem_cons_self).tried crowd).taken_le
    have hlater := ih (crowd.perform happening).2 fun other hother =>
      h other (List.mem_cons_of_mem _ hother)
    simp only [run_cons, enders, taken, List.flatMap_cons, List.filter_append,
      List.length_append] at *
    omega

/-- How many items there are and senders that wait. -/
def pending (crowd : Crowd ι) : Nat :=
  crowd.box.queue.items.length + ((crowd.waiting.map Sleeper.waiter).filter Waiter.isSender).length

/-- Whatever is handed out has been an item, or a sender has been waiting with it. -/
theorem pending_run (crowd : Crowd ι) {happenings : List (Happening ι)}
    (h : ∀ happening ∈ happenings, Drains happening) :
    (given (crowd.run happenings).1).length + (crowd.run happenings).2.pending ≤
      crowd.pending := by
  have htaken := crowd.taken_run_le h
  have hsenders := (crowd.senders_run h).length_eq
  have hledger := (crowd.ledger_run happenings).2
  have hgiven := (given_sublist_left (crowd.run happenings).1).length_le
  simp only [pending, List.filter_append, List.length_append] at *
  omega

/-! ## Nobody is forgotten -/

/-- While a sender waits, receiving takes one away from those that are pending. -/
theorem pending_receive {room : WaitingRoom ι} (h : Watchful limits (ofRoom room))
    {waiter : Waiter ι} (hmem : waiter ∈ room.waiting) (hsender : waiter.isSender = true)
    (name : ι) :
    WaitingRoom.NoReceiver room.waiting ∧
      ∃ happenings : List (Happening ι),
        ((ofRoom room).run happenings).2 = ofRoom (room.step (.receive name)).2.2 ∧
        (ofRoom (room.step (.receive name)).2.2).pending < (ofRoom room).pending := by
  have hsleeper : ∀ {other}, other ∈ room.waiting → ⟨other, false⟩ ∈ (ofRoom room).waiting :=
    fun hother => List.mem_map_of_mem hother
  have hnone : WaitingRoom.NoReceiver room.waiting := by
    rcases (h.apart (quiet_ofRoom room)).1 with hsenders | hreceivers
    · exact fun other hother => hsenders _ (hsleeper hother)
    · have hno : waiter.isSender = false := hreceivers _ (hsleeper hmem)
      rw [hsender] at hno
      cases hno
  have hitems : room.box.queue.items ≠ [] := by
    have hreason := (h.vain _ (hsleeper hmem) rfl).reason h.proper.regular
    cases waiter with
    | sender sender message => exact hreason.2.2.2
    | receiver receiver => cases hsender
  obtain ⟨head, rest, hcons⟩ := List.exists_cons_of_ne_nil hitems
  have hgiven : ((ofRoom room).perform (.come (.receive name))).1.given = [head] := by
    rw [perform_receive (ofRoom room) ((waiters_ofRoom room).symm ▸ hnone),
      arrive_finished (ofRoom room) (Waiter.attempt_receiver_cons name hcons)]
    rfl
  obtain ⟨shown, ⟨places, -, hfinish⟩, -⟩ :=
    scheduled_receive room name hnone
  have hdrains : ∀ happening ∈ .come (.receive name) :: places.map .retry,
      Drains (happening : Happening ι) := by
    intro happening hhappening
    rcases List.mem_cons.1 hhappening with rfl | hretry
    · trivial
    · obtain ⟨place, -, rfl⟩ := List.mem_map.1 hretry
      trivial
  refine ⟨hnone, .come (.receive name) :: places.map .retry, hfinish, ?_⟩
  have hpending := (ofRoom room).pending_run hdrains
  rw [run_cons, hfinish, given, List.flatMap_cons, hgiven, List.length_append,
    List.length_singleton] at hpending
  omega

/-- Receiving one message after another lets every sender come to an end. -/
theorem exists_drain (room : WaitingRoom ι) (h : Watchful limits (ofRoom room))
    (hcap : limits.maxMessages ≠ some 0) (name : ι) :
    ∃ n ≤ (ofRoom room).pending, room.OneReceiver (List.replicate n (.receive name)) ∧
      ∀ waiter ∈ (room.run (List.replicate n (.receive name))).2.waiting,
        waiter.isSender = false := by
  by_cases hnone : ∀ waiter ∈ room.waiting, waiter.isSender = false
  · exact ⟨0, Nat.zero_le _, trivial, hnone⟩
  · simp only [not_forall, Bool.not_eq_false] at hnone
    obtain ⟨waiter, hmem, hsender⟩ := hnone
    obtain ⟨hnoReceiver, happenings, hfinish, hlt⟩ := pending_receive h hmem hsender name
    obtain ⟨n, hle, hops, hleft⟩ :=
      exists_drain _ (hfinish ▸ h.run hcap happenings) hcap name
    exact ⟨n + 1, by omega, ⟨fun _ _ => hnoReceiver, hops⟩, hleft⟩
termination_by (ofRoom room).pending

/-- A sender that waits no more after nothing but receiving has been seen to end. -/
theorem finished_of_drain {room : WaitingRoom ι} (h : Watchful limits (ofRoom room)) {name : ι}
    {n : Nat} (hops : room.OneReceiver (List.replicate n (.receive name)))
    (hleft : ∀ waiter ∈ (room.run (List.replicate n (.receive name))).2.waiting,
      waiter.isSender = false) {waiter : Waiter ι} (hmem : waiter ∈ room.waiting)
    (hsender : waiter.isSender = true) :
    ∃ how, .finished waiter.name how ∈ (room.run (List.replicate n (.receive name))).1 := by
  obtain ⟨happenings, hcome, hshown, hfinish⟩ := run_schedule room _ (one_ofRoom h) hops
  have hdrains : ∀ happening ∈ happenings, Drains happening := by
    rintro (op | place) hhappening
    · have hop : op ∈ List.replicate n (.receive name) :=
        hcome ▸ List.mem_filterMap.2 ⟨_, hhappening, rfl⟩
      obtain rfl := List.eq_of_mem_replicate hop
      trivial
    · trivial
  have hwaiting : waiter ∈ ((ofRoom room).waiting.map Sleeper.waiter).filter Waiter.isSender :=
    List.mem_filter.2 ⟨(waiters_ofRoom room).symm ▸ hmem, hsender⟩
  have hends := (List.mem_filter.1
    (((ofRoom room).senders_run hdrains).mem_iff.2 hwaiting)).1
  rw [hfinish, waiters_ofRoom] at hends
  rcases List.mem_append.1 hends with hender | hstays
  · obtain ⟨outcome, houtcome, hwaiter⟩ := List.mem_flatMap.1 hender
    rw [← hshown]
    cases outcome with
    | finished ender how =>
      obtain rfl := List.mem_singleton.1 hwaiter
      exact ⟨how, List.mem_filterMap.2 ⟨_, houtcome, rfl⟩⟩
    | _ => cases hwaiter
  · rw [hleft waiter hstays] at hsender
    cases hsender

/-- **No wake-up is lost.** -/
theorem no_lost_wakeup (limits : QueueLimits) (hsound : limits.sound = true) :
    (∀ happenings : List (Happening ι),
      let crowd := ((new limits).run happenings).2
      -- Whoever has not been woken has a reason to wait.
      crowd.box.queue.limits = limits ∧
      (∀ sleeper ∈ crowd.waiting, sleeper.woken = false → sleeper.waiter.Reason crowd.box) ∧
      -- When all who were woken have tried again, nobody can go on. Then there are not both
      -- senders and receivers who wait, and if the mailbox is closed nobody waits.
      (crowd.Quiet → (∀ place, (crowd.perform (.retry place)).2 = crowd) ∧
        ((∀ sleeper ∈ crowd.waiting, sleeper.waiter.isReceiver = false) ∨
          ∀ sleeper ∈ crowd.waiting, sleeper.waiter.isSender = false) ∧
        (crowd.box.closed = true → crowd.waiting = [])) ∧
      -- It always comes to that.
      (∃ places : List Nat, (crowd.run (places.map .retry)).2.Quiet) ∧
      -- Only so many messages can be handed out without a new sender, and when all are, no sender
      -- waits.
      ∀ pops : List (Happening ι), (∀ happening ∈ pops, Drains happening) →
        (given (crowd.run pops).1).length + (crowd.run pops).2.pending ≤ crowd.pending ∧
          ((crowd.run pops).2.Quiet → (crowd.run pops).2.box.queue.items = [] →
            ∀ sleeper ∈ (crowd.run pops).2.waiting, sleeper.waiter.isSender = false)) ∧
    -- Where those who can go on do so at once, it comes to that with every operation, and then
    -- receiving one message after another lets every sender come to an end.
    ∀ ops : List (MailboxOp ι), (WaitingRoom.new limits).OneReceiver ops →
      let room := ((WaitingRoom.new limits).run ops).2
      (ofRoom room).Quiet ∧
      (∃ happenings, happenings.filterMap Happening.op = ops ∧
        ((new limits).run happenings).2 = ofRoom room) ∧
      ∀ name, ∃ n ≤ (ofRoom room).pending,
        let ops' := List.replicate n (.receive name)
        room.OneReceiver ops' ∧
          (∀ waiter ∈ room.waiting, waiter.isSender = true →
            ∃ how, .finished waiter.name how ∈ (room.run ops').1) ∧
          ∀ waiter ∈ (room.run ops').2.waiting, waiter.isSender = false := by
  have hcap := QueueLimits.maxMessages_ne hsound
  have hwatch : ∀ happenings : List (Happening ι),
      Watchful limits ((new limits).run happenings).2 := (watchful_new limits).run hcap
  constructor
  · intro happenings crowd
    have hcrowd : Watchful limits crowd := hwatch happenings
    refine ⟨hcrowd.proper.limits, ?_, ?_, crowd.exists_quiet, ?_⟩
    · intro sleeper hmem hasleep
      exact (hcrowd.vain sleeper hmem hasleep).reason hcrowd.proper.regular
    · intro hquiet
      exact ⟨hcrowd.perform_retry hquiet, hcrowd.apart hquiet⟩
    · intro pops hpops
      refine ⟨crowd.pending_run hpops, ?_⟩
      intro hquiet hitems
      have hafter := hcrowd.run hcap pops
      rintro ⟨waiter, woken⟩ hmem
      have hreason := (hafter.vain _ hmem (hquiet _ hmem)).reason hafter.proper.regular
      cases waiter with
      | receiver name => rfl
      | sender name message => exact absurd hitems hreason.2.2.2
  · intro ops hops room
    obtain ⟨happenings, hcome, -, hfinish⟩ :=
      run_schedule (WaitingRoom.new limits) ops (Nat.zero_le _) hops
    have hroom : Watchful limits (ofRoom room) := hfinish ▸ hwatch happenings
    refine ⟨quiet_ofRoom room, ⟨happenings, hcome, hfinish⟩, ?_⟩
    intro name
    obtain ⟨n, hle, hdrain, hleft⟩ := exists_drain room hroom hcap name
    exact ⟨n, hle, hdrain, fun _ hmem hsender => finished_of_drain hroom hdrain hleft hmem hsender,
      hleft⟩

/-- A sender that finds the queue full sleeps because of what the queue holds, and ends when that
is taken out. -/
theorem no_lost_wakeup_second_sender :
    let limits : QueueLimits := ⟨4, 1, none, .blockProducer⟩
    let ops : List (MailboxOp Nat) := [.send 0 [1, 2, 3], .send 1 [4, 5]]
    let crowd := ((new limits).run (ops.map .come)).2
    let room := ((WaitingRoom.new limits).run ops).2
    limits.sound = true ∧ (WaitingRoom.new limits).OneReceiver ops ∧
      (⟨.sender 1 [4, 5], false⟩ ∈ crowd.waiting ∧
        (Waiter.sender 1 [4, 5]).Reason crowd.box) ∧
      Waiter.sender 1 [4, 5] ∈ room.waiting ∧
        ∃ n ≤ 2, ∃ how, .finished 1 how ∈ (room.run (List.replicate n (.receive 2))).1 := by
  intro limits ops crowd room
  have hsound : limits.sound = true := by decide
  have hops : (WaitingRoom.new limits).OneReceiver ops := ⟨nofun, nofun, trivial⟩
  have hsleeps : ⟨.sender 1 [4, 5], false⟩ ∈ crowd.waiting := List.mem_singleton.2 rfl
  have hwaits : Waiter.sender 1 [4, 5] ∈ room.waiting := List.mem_singleton.2 rfl
  obtain ⟨-, hreason, -⟩ := (no_lost_wakeup limits hsound).1 (ops.map .come)
  obtain ⟨-, -, hdrain⟩ := (no_lost_wakeup limits hsound).2 ops hops
  obtain ⟨n, hle, -, hends, -⟩ := hdrain 2
  exact ⟨hsound, hops, ⟨hsleeps, hreason _ hsleeps rfl⟩, hwaits, n, hle, hends _ hwaits rfl⟩

end Crowd

end ChatRelay
