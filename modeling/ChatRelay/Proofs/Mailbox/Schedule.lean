import ChatRelay.Proofs.Mailbox.Crowd

/-!
# A waiting room is a crowd

A `WaitingRoom` does in one step what a crowd does when the operation comes and then those whom it
concerns try again one by one. The outcomes that can be seen from outside are the same, in the same
order, and nobody is left who has been woken (`run_schedule`). So whatever holds of every run of a
crowd holds of every run of a waiting room that has one receiver.
-/

namespace ChatRelay

variable {ι : Type}

/-! ## What can be seen from outside -/

/-- An answer, or the end of an operation. -/
inductive Report (ι : Type)
  | offered (answer : Except EnqueueError Nat)
  | finished (name : ι) (how : Finished)

/-- What an outcome shows. -/
def Outcome.report : Outcome ι → Option (Report ι)
  | .offered _ answer => some (.offered answer)
  | .finished waiter how => some (.finished waiter.name how)
  | _ => none

/-- What an answer shows. -/
def MailboxAnswer.report : MailboxAnswer → Option (Report ι)
  | .offered answer => some (.offered answer)
  | _ => none

namespace WaitingRoom

/-- What the end of operations shows. -/
def shown (finished : List (ι × Finished)) : List (Report ι) :=
  finished.map fun (name, how) => .finished name how

/-- What a step of a waiting room shows. -/
def reports : MailboxAnswer × List (ι × Finished) × WaitingRoom ι → List (Report ι)
  | (answer, finished, _) => answer.report.toList ++ shown finished

/-- Carries out one operation after another: what was shown, and the room at the end. -/
def run [DecidableEq ι] (room : WaitingRoom ι) :
    List (MailboxOp ι) → List (Report ι) × WaitingRoom ι
  | [] => ([], room)
  | op :: later =>
    let (reports', room') := run (room.step op).2.2 later
    (reports (room.step op) ++ reports', room')

/-- There is no receiver. -/
def NoReceiver (waiting : List (Waiter ι)) : Prop := ∀ waiter ∈ waiting, waiter.isReceiver = false

theorem NoReceiver.sublist {few many : List (Waiter ι)} (h : NoReceiver many)
    (hsub : few.Sublist many) : NoReceiver few :=
  fun waiter hwaiter => h waiter (hsub.subset hwaiter)

theorem takeReceiver_sender (name : ι) (message : Bytes) (rest : List (Waiter ι)) :
    takeReceiver (.sender name message :: rest) =
      (takeReceiver rest).map fun (found, others) => (found, .sender name message :: others) := rfl

theorem noReceiver_of_takeReceiver {waiting : List (Waiter ι)} (h : takeReceiver waiting = none) :
    NoReceiver waiting := by
  induction waiting with
  | nil => exact nofun
  | cons waiter rest ih =>
    cases waiter with
    | receiver name => simp [takeReceiver] at h
    | sender name message =>
      rw [takeReceiver_sender, Option.map_eq_none_iff] at h
      intro waiter hwaiter
      rcases List.mem_cons.1 hwaiter with rfl | hrest
      · rfl
      · exact ih h waiter hrest

/-- The receiver is taken out of its place. -/
theorem split_of_takeReceiver {waiting others : List (Waiter ι)} {name : ι}
    (h : takeReceiver waiting = some (name, others)) :
    ∃ before later, waiting = before ++ .receiver name :: later ∧ others = before ++ later := by
  induction waiting generalizing others with
  | nil => cases h
  | cons waiter rest ih =>
    cases waiter with
    | receiver first =>
      obtain ⟨rfl, rfl⟩ := Prod.mk.inj (Option.some.inj h)
      exact ⟨[], rest, rfl, rfl⟩
    | sender first message =>
      rw [takeReceiver_sender, Option.map_eq_some_iff] at h
      obtain ⟨⟨found, left⟩, htake, heq⟩ := h
      obtain ⟨rfl, rfl⟩ := Prod.mk.inj heq
      obtain ⟨before, later, rfl, rfl⟩ := ih htake
      exact ⟨.sender first message :: before, later, rfl, rfl⟩

/-- What comes of it when the receiver tries again. -/
inductive Arrived (room : WaitingRoom ι) : List (ι × Finished) × WaitingRoom ι → Prop
  | nobody (none : NoReceiver room.waiting) : Arrived room ([], room)
  | starved (name : ι) {before later : List (Waiter ι)}
      (there : room.waiting = before ++ .receiver name :: later)
      (unclosed : room.box.closed = false) (empty : room.box.queue.items = []) :
      Arrived room ([], room)
  | ended (name : ι) {before later : List (Waiter ι)}
      (there : room.waiting = before ++ .receiver name :: later)
      (closed : room.box.closed = true) (empty : room.box.queue.items = []) :
      Arrived room ([(name, .ended)], ⟨room.box, before ++ later⟩)
  /-- The receiver leaves with the oldest message, and the senders try again. -/
  | received (name : ι) {before later : List (Waiter ι)}
      (there : room.waiting = before ++ .receiver name :: later)
      {head : Bytes} {rest : List Bytes} (items : room.box.queue.items = head :: rest) :
      Arrived room
        ((name, .received head) ::
            (retrySenders room.box.popped (before ++ later)).1,
          (retrySenders room.box.popped (before ++ later)).2)

theorem messageArrived_arrived (room : WaitingRoom ι) : Arrived room (messageArrived room) := by
  cases htake : takeReceiver room.waiting with
  | none =>
    simp only [messageArrived, htake]
    exact .nobody (noReceiver_of_takeReceiver htake)
  | some taken =>
    obtain ⟨name, others⟩ := taken
    obtain ⟨before, later, hthere, rfl⟩ := split_of_takeReceiver htake
    cases hitems : room.box.queue.items with
    | nil =>
      cases hclosed : room.box.closed with
      | true =>
        simp only [messageArrived, htake, Mailbox.receive_nil hitems, hclosed, if_true]
        exact .ended name hthere hclosed hitems
      | false =>
        simp only [messageArrived, htake, Mailbox.receive_nil hitems, hclosed, Bool.false_eq_true,
          if_false]
        exact .starved name hthere hclosed hitems
    | cons head rest =>
      simp only [messageArrived, htake, Mailbox.receive_cons hitems, spaceFreed]
      exact .received name hthere hitems

/-- What all offers keep is kept when the senders try again. -/
theorem retrySenders_keeps {P : Mailbox → Prop} {box : Mailbox}
    (hoffer : ∀ {box : Mailbox} (message : Bytes), P box → P (box.offer message).2) (h : P box)
    (waiting : List (Waiter ι)) : P (retrySenders box waiting).2.box := by
  induction waiting generalizing box with
  | nil => exact h
  | cons waiter rest ih =>
    cases waiter with
    | receiver name => exact ih h
    | sender name message =>
      have hrest := ih (hoffer message h)
      simp only [retrySenders]
      split
      · exact hrest
      · exact hrest

theorem closed_messageArrived (room : WaitingRoom ι) :
    (messageArrived room).2.box.closed = room.box.closed := by
  have harrived := messageArrived_arrived room
  generalize messageArrived room = result at harrived ⊢
  cases harrived with
  | nobody hnone => rfl
  | starved name hthere hopen hitems => rfl
  | ended name hthere hclosed hitems => rfl
  | received name hthere hitems =>
    exact retrySenders_keeps (P := (·.closed = room.box.closed))
      (fun message h => (Mailbox.closed_offer _ message).trans h) room.box.closed_popped _

/-- The receiver does not come again while it waits. -/
def OneReceiver [DecidableEq ι] (room : WaitingRoom ι) : List (MailboxOp ι) → Prop
  | [] => True
  | op :: later =>
    (∀ name, op = .receive name → NoReceiver room.waiting) ∧ OneReceiver (room.step op).2.2 later

end WaitingRoom

namespace Crowd

open WaitingRoom

/-- Those who wait when nobody has been woken. -/
def asleep (waiting : List (Waiter ι)) : List (Sleeper ι) := waiting.map (⟨·, false⟩)

/-- A waiting room as a crowd. -/
def ofRoom (room : WaitingRoom ι) : Crowd ι := ⟨room.box, asleep room.waiting⟩

theorem asleep_append (first second : List (Waiter ι)) :
    asleep (first ++ second) = asleep first ++ asleep second := List.map_append

theorem asleep_concat (first : List (Waiter ι)) (waiter : Waiter ι) (later : List (Sleeper ι)) :
    asleep (first ++ [waiter]) ++ later = asleep first ++ ⟨waiter, false⟩ :: later := by
  rw [asleep_append, List.append_assoc]
  rfl

theorem mem_asleep {waiting : List (Waiter ι)} {sleeper : Sleeper ι}
    (h : sleeper ∈ asleep waiting) : sleeper.waiter ∈ waiting ∧ sleeper.woken = false := by
  obtain ⟨waiter, hwaiter, rfl⟩ := List.mem_map.1 h
  exact ⟨hwaiter, rfl⟩

theorem waiters_asleep (waiting : List (Waiter ι)) :
    (asleep waiting).map Sleeper.waiter = waiting := by
  simp [asleep, Function.comp_def]

theorem waiters_ofRoom (room : WaitingRoom ι) :
    (ofRoom room).waiting.map Sleeper.waiter = room.waiting := waiters_asleep room.waiting

/-! ## Waking -/

theorem wake_none {who : Waiter ι → Bool} {waiting : List (Sleeper ι)}
    (h : ∀ waiter ∈ waiting.map Sleeper.waiter, who waiter = false) :
    wake who waiting = waiting := by
  rw [wake]
  refine (List.map_congr_left fun sleeper hsleeper => ?_).trans (List.map_id _)
  rw [h sleeper.waiter (List.mem_map_of_mem hsleeper), Bool.or_false]
  rfl

theorem wake_waits (waiter : Waiter ι) (waiting : List (Sleeper ι)) :
    wake (Outcome.waits waiter).wakes waiting = waiting := wake_none fun _ _ => rfl

theorem wake_ended (waiter : Waiter ι) (waiting : List (Sleeper ι)) :
    wake (Outcome.finished waiter .ended).wakes waiting = waiting := wake_none fun _ _ => rfl

theorem wake_cancelled (name : ι) (waiting : List (Sleeper ι)) :
    wake (Outcome.cancelled name).wakes waiting = waiting := wake_none fun _ _ => rfl

/-- A message that is taken wakes nobody if there is no receiver. -/
theorem wake_sent {box : Mailbox} (message : Bytes) (sender : Waiter ι) {waiting : List (Sleeper ι)}
    (h : box.closed = true ∨ NoReceiver (waiting.map Sleeper.waiter)) :
    wake (Outcome.finished sender (.sent (box.offer message).1)).wakes waiting = waiting := by
  refine wake_none fun waiter hwaiter => ?_
  rcases h with hclosed | hnone
  · rw [Mailbox.offer_closed hclosed]
    rfl
  · cases (box.offer message).1 with
    | ok evicted => exact hnone waiter hwaiter
    | error error => rfl

/-- No receiver has been woken. -/
def ReceiverSleeps (waiting : List (Sleeper ι)) : Prop :=
  ∀ sleeper ∈ waiting, sleeper.waiter.isReceiver = true → sleeper.woken = false

theorem receiverSleeps_of_noReceiver {waiting : List (Sleeper ι)}
    (h : NoReceiver (waiting.map Sleeper.waiter)) : ReceiverSleeps waiting := by
  intro sleeper hsleeper hreceiver
  rw [h sleeper.waiter (List.mem_map_of_mem hsleeper)] at hreceiver
  cases hreceiver

theorem eq_asleep {waiting : List (Sleeper ι)} (h : ∀ sleeper ∈ waiting, sleeper.woken = false) :
    waiting = asleep (waiting.map Sleeper.waiter) := by
  rw [asleep, List.map_map]
  refine ((List.map_congr_left fun sleeper hsleeper => ?_).trans (List.map_id _)).symm
  exact congrArg (Sleeper.mk sleeper.waiter) (h sleeper hsleeper).symm

/-! ## Trying again -/

theorem filterMap_report_cons (outcome : Outcome ι) (later : List (Outcome ι)) :
    (outcome :: later).filterMap Outcome.report =
      outcome.report.toList ++ later.filterMap Outcome.report := by
  cases hreport : outcome.report <;> simp [hreport]

/-- Where the only receiver stands among those who wait. -/
theorem split_of_one {waiting : List (Sleeper ι)} {name : ι} {before later : List (Waiter ι)}
    (hsplit : waiting.map Sleeper.waiter = before ++ .receiver name :: later)
    (hone : (waiting.map Sleeper.waiter).countP Waiter.isReceiver ≤ 1) :
    ∃ before' woken later', waiting = before' ++ ⟨.receiver name, woken⟩ :: later' ∧
      before'.map Sleeper.waiter = before ∧ later'.map Sleeper.waiter = later ∧
      ∀ sleeper ∈ before' ++ later', sleeper ∈ waiting ∧ sleeper.waiter.isReceiver = false := by
  obtain ⟨before, rest, rfl, rfl, hrest⟩ := List.map_eq_append_iff.1 hsplit
  obtain ⟨⟨waiter, woken⟩, later, rfl, rfl, rfl⟩ := List.map_eq_cons_iff.1 hrest
  refine ⟨before, woken, later, rfl, rfl, rfl, ?_⟩
  have hcount : ((before ++ later).map Sleeper.waiter).countP Waiter.isReceiver = 0 := by
    simp only [List.map_append, List.map_cons, List.countP_append, List.countP_cons,
      Waiter.isReceiver, if_true] at hone ⊢
    omega
  intro sleeper hmem
  refine ⟨?_, Bool.eq_false_iff.2 (List.countP_eq_zero.1 hcount _ (List.mem_map_of_mem hmem))⟩
  exact (List.mem_append.1 hmem).elim (List.mem_append_left _)
    fun hlater => List.mem_append_right _ (List.mem_cons_of_mem _ hlater)

theorem arrive_waits (crowd : Crowd ι) {waiter : Waiter ι} {after : Mailbox}
    (h : waiter.attempt crowd.box = (none, after)) :
    crowd.arrive waiter = (.waits waiter, ⟨after, crowd.waiting ++ [⟨waiter, false⟩]⟩) := by
  rw [arrive, h]

theorem arrive_finished (crowd : Crowd ι) {waiter : Waiter ι} {how : Finished} {after : Mailbox}
    (h : waiter.attempt crowd.box = (some how, after)) :
    crowd.arrive waiter = (.finished waiter how, ⟨after, crowd.waiting⟩) := by
  rw [arrive, h]

variable [DecidableEq ι]

theorem perform_retry_waits {box after : Mailbox} {waiter : Waiter ι}
    (h : waiter.attempt box = (none, after)) (before later : List (Sleeper ι)) (woken : Bool) :
    perform ⟨box, before ++ ⟨waiter, woken⟩ :: later⟩ (.retry before.length) =
      (.waits waiter, ⟨after, before ++ ⟨waiter, false⟩ :: later⟩) := by
  have hretry : retry ⟨box, before ++ ⟨waiter, woken⟩ :: later⟩ before.length =
      (.waits waiter, ⟨after, before ++ ⟨waiter, false⟩ :: later⟩) := by
    simp [retry, h]
  rw [perform, react, hretry]
  dsimp only
  rw [wake_waits]

theorem perform_retry_finished {box after : Mailbox} {waiter : Waiter ι} {how : Finished}
    (h : waiter.attempt box = (some how, after)) (before later : List (Sleeper ι)) (woken : Bool) :
    perform ⟨box, before ++ ⟨waiter, woken⟩ :: later⟩ (.retry before.length) =
      (.finished waiter how,
        ⟨after, wake (Outcome.finished waiter how).wakes (before ++ later)⟩) := by
  have hretry : retry ⟨box, before ++ ⟨waiter, woken⟩ :: later⟩ before.length =
      (.finished waiter how, ⟨after, before ++ later⟩) := by
    simp [retry, h, List.eraseIdx_append_of_length_le]
  rw [perform, react, hretry]

/-- Those who wait can try again one by one so that this is shown and the crowd is left so. -/
def Retries (start : Crowd ι) (shown : List (Report ι)) (finish : Crowd ι) : Prop :=
  ∃ places : List Nat, (start.run (places.map .retry)).1.filterMap Outcome.report = shown ∧
    (start.run (places.map .retry)).2 = finish

theorem Retries.refl (crowd : Crowd ι) : Retries crowd [] crowd := ⟨[], rfl, rfl⟩

theorem Retries.trans {first second third : Crowd ι} {shown shown' : List (Report ι)}
    (h : Retries first shown second) (h' : Retries second shown' third) :
    Retries first (shown ++ shown') third := by
  obtain ⟨places, hshown, hfinish⟩ := h
  obtain ⟨places', hshown', hfinish'⟩ := h'
  refine ⟨places ++ places', ?_, ?_⟩
  · rw [List.map_append, run_append, List.filterMap_append, hfinish, hshown, hshown']
  · rw [List.map_append, run_append, hfinish, hfinish']

theorem Retries.once {start : Crowd ι} {place : Nat} {outcome : Outcome ι} {finish : Crowd ι}
    (h : start.perform (.retry place) = (outcome, finish)) :
    Retries start outcome.report.toList finish := by
  refine ⟨[place], ?_, ?_⟩
  · rw [List.map_singleton, run_cons, h]
    exact (filterMap_report_cons _ _).trans (List.append_nil _)
  · rw [List.map_singleton, run_cons, h]
    rfl

/-- The senders among those who wait try again one by one. Nobody is woken by it, because there is
no receiver or the mailbox is closed. -/
theorem retries_senders (box : Mailbox) (tried : List (Waiter ι)) (rest : List (Sleeper ι))
    (hasleep : ReceiverSleeps rest)
    (hquiet : box.closed = true ∨ NoReceiver (tried ++ rest.map Sleeper.waiter)) :
    Retries ⟨box, asleep tried ++ rest⟩ (shown (retrySenders box (rest.map Sleeper.waiter)).1)
      ⟨(retrySenders box (rest.map Sleeper.waiter)).2.box,
        asleep (tried ++ (retrySenders box (rest.map Sleeper.waiter)).2.waiting)⟩ := by
  induction rest generalizing box tried with
  | nil =>
    rw [List.append_nil, List.map_nil, retrySenders, List.append_nil]
    exact .refl _
  | cons sleeper rest ih =>
    obtain ⟨waiter, woken⟩ := sleeper
    have hrest : ReceiverSleeps rest :=
      fun sleeper hsleeper => hasleep sleeper (List.mem_cons_of_mem _ hsleeper)
    have hquiet' : box.closed = true ∨
        NoReceiver (tried ++ [waiter] ++ rest.map Sleeper.waiter) := by
      simpa using hquiet
    cases waiter with
    | receiver name =>
      have hwoken : woken = false := hasleep _ List.mem_cons_self rfl
      subst hwoken
      have hretries := ih box (tried ++ [.receiver name]) hrest hquiet'
      rw [asleep_concat, List.append_assoc] at hretries
      exact hretries
    | sender name message =>
      have hattempt := Waiter.attempt_sender box name message
      rw [← Mailbox.closed_offer box message] at hquiet'
      cases hwait : mustWait (box.offer message).1 with
      | true =>
        rw [if_pos hwait] at hattempt
        have hfirst := Retries.once (perform_retry_waits hattempt (asleep tried) rest woken)
        have hretries := ih (box.offer message).2 (tried ++ [.sender name message]) hrest hquiet'
        rw [asleep_concat, List.append_assoc] at hretries
        simp only [List.map_cons, retrySenders, hwait, if_true]
        exact hfirst.trans hretries
      | false =>
        rw [if_neg (by simp [hwait])] at hattempt
        have hfirst := Retries.once (perform_retry_finished hattempt (asleep tried) rest woken)
        have hquiet'' : box.closed = true ∨ NoReceiver (tried ++ rest.map Sleeper.waiter) :=
          hquiet.imp_right fun hnone => hnone.sublist (by simp)
        rw [wake_sent message (.sender name message) (by simpa [waiters_asleep] using hquiet'')]
          at hfirst
        rw [← Mailbox.closed_offer box message] at hquiet''
        simp only [List.map_cons, retrySenders, hwait, Bool.false_eq_true, if_false]
        exact hfirst.trans (ih (box.offer message).2 tried hrest hquiet'')

/-! ## After a message was taken -/

/-- The receiver tries again, and if it gets a message then so do the senders. Nobody is left who
has been woken but senders that had been woken before. -/
theorem retries_messageArrived (room : WaitingRoom ι) (waiting : List (Sleeper ι))
    (hwaiters : waiting.map Sleeper.waiter = room.waiting)
    (hone : room.waiting.countP Waiter.isReceiver ≤ 1) :
    ∃ left, Retries ⟨room.box, waiting⟩ (shown (messageArrived room).1)
        ⟨(messageArrived room).2.box, left⟩ ∧
      left.map Sleeper.waiter = (messageArrived room).2.waiting ∧
      ∀ sleeper ∈ left, sleeper.woken = false ∨
        sleeper ∈ waiting ∧ sleeper.waiter.isReceiver = false := by
  have harrived := messageArrived_arrived room
  generalize messageArrived room = result at harrived ⊢
  obtain ⟨box, _⟩ := room
  subst hwaiters
  cases harrived with
  | nobody hnone =>
    refine ⟨waiting, .refl _, rfl, ?_⟩
    exact fun sleeper hmem => .inr ⟨hmem, hnone _ (List.mem_map_of_mem hmem)⟩
  | starved name hthere hopen hitems =>
    obtain ⟨before, woken, later, rfl, rfl, rfl, hothers⟩ := split_of_one hthere hone
    have hattempt := Waiter.attempt_receiver_nil name hitems
    rw [hopen] at hattempt
    refine ⟨_, Retries.once (perform_retry_waits hattempt before later woken), ?_, ?_⟩
    · rw [List.map_append, List.map_append]
      rfl
    · intro sleeper hmem
      rcases List.mem_append.1 hmem with hbefore | hlater
      · exact .inr (hothers sleeper (List.mem_append_left _ hbefore))
      rcases List.mem_cons.1 hlater with rfl | hlater
      · exact .inl rfl
      · exact .inr (hothers sleeper (List.mem_append_right _ hlater))
  | ended name hthere hclosed hitems =>
    obtain ⟨before, woken, later, rfl, rfl, rfl, hothers⟩ := split_of_one hthere hone
    have hattempt := Waiter.attempt_receiver_nil name hitems
    rw [hclosed] at hattempt
    have hfirst := Retries.once (perform_retry_finished hattempt before later woken)
    rw [wake_ended] at hfirst
    exact ⟨before ++ later, hfirst, List.map_append, fun sleeper hmem => .inr (hothers sleeper hmem)⟩
  | @received name _ _ hthere head rest hitems =>
    obtain ⟨before, woken, later, rfl, rfl, rfl, hothers⟩ := split_of_one hthere hone
    have hfirst := Retries.once
      (perform_retry_finished (Waiter.attempt_receiver_cons name hitems) before later woken)
    have hwoken := waiters_wake
      (Outcome.finished (.receiver name) (.received head)).wakes (before ++ later)
    have hnone : NoReceiver ((before ++ later).map Sleeper.waiter) :=
      List.forall_mem_map.2 fun sleeper hmem => (hothers sleeper hmem).2
    rw [← hwoken] at hnone
    have hretries := retries_senders box.popped [] _
      (receiverSleeps_of_noReceiver hnone) (.inr hnone)
    rw [hwoken, List.map_append] at hretries
    refine ⟨_, hfirst.trans hretries, waiters_asleep _, ?_⟩
    exact fun sleeper hmem => .inl (mem_asleep hmem).2

/-- What a step shows after its first answer is shown by those who try again. -/
theorem retries_afterOffer (answer : Except EnqueueError Nat) (room : WaitingRoom ι)
    (hone : room.waiting.countP Waiter.isReceiver ≤ 1) (message : Bytes) :
    Retries ⟨room.box, wake (Outcome.offered message answer).wakes (asleep room.waiting)⟩
      (shown (afterOffer answer room).1) (ofRoom (afterOffer answer room).2) := by
  cases answer with
  | error error =>
    have hwake : wake (Outcome.offered message (.error error)).wakes (asleep room.waiting) =
        asleep room.waiting := wake_none fun _ _ => rfl
    rw [hwake]
    exact .refl _
  | ok evicted =>
    obtain ⟨left, hretries, hwaiters, hleft⟩ := retries_messageArrived room
      (wake (Outcome.offered message (.ok evicted)).wakes (asleep room.waiting))
      (by rw [waiters_wake, waiters_asleep]) hone
    have hasleep : left = asleep (messageArrived room).2.waiting := by
      rw [← hwaiters]
      refine eq_asleep fun sleeper hmem => ?_
      rcases hleft sleeper hmem with hasleep | ⟨hthere, hsender⟩
      · exact hasleep
      · obtain ⟨sleeper, hasleep, rfl⟩ := List.mem_map.1 hthere
        show (sleeper.woken || sleeper.waiter.isReceiver) = false
        rw [(mem_asleep hasleep).2, show sleeper.waiter.isReceiver = false from hsender]
        rfl
    rw [hasleep] at hretries
    exact hretries

/-- Everyone tries again when the mailbox has been closed. -/
theorem retries_closedNow (room : WaitingRoom ι) (hclosed : room.box.closed = true)
    (hone : room.waiting.countP Waiter.isReceiver ≤ 1) (waiting : List (Sleeper ι))
    (hwaiters : waiting.map Sleeper.waiter = room.waiting) :
    Retries ⟨room.box, waiting⟩ (shown (closedNow room).1) (ofRoom (closedNow room).2) := by
  obtain ⟨left, hretries, hwaiting, hleft⟩ := retries_messageArrived room waiting hwaiters hone
  have hsleeps : ReceiverSleeps left := by
    intro sleeper hmem hreceiver
    rcases hleft sleeper hmem with hasleep | ⟨-, hsender⟩
    · exact hasleep
    · rw [hreceiver] at hsender
      cases hsender
  have hlater := retries_senders (messageArrived room).2.box [] left hsleeps
    (.inl ((closed_messageArrived room).trans hclosed))
  rw [hwaiting] at hlater
  have hboth := hretries.trans hlater
  rw [shown, shown, ← List.map_append] at hboth
  exact hboth

/-! ## Steps and runs -/

theorem perform_send (crowd : Crowd ι) (name : ι) (message : Bytes) :
    crowd.perform (.come (.send name message)) =
      ((crowd.arrive (.sender name message)).1,
        ⟨(crowd.arrive (.sender name message)).2.box,
          wake (crowd.arrive (.sender name message)).1.wakes
            (crowd.arrive (.sender name message)).2.waiting⟩) := rfl

/-- A receiver comes where there is none. -/
theorem perform_receive (crowd : Crowd ι) (h : NoReceiver (crowd.waiting.map Sleeper.waiter))
    (name : ι) :
    crowd.perform (.come (.receive name)) =
      ((crowd.arrive (.receiver name)).1,
        ⟨(crowd.arrive (.receiver name)).2.box,
          wake (crowd.arrive (.receiver name)).1.wakes
            (crowd.arrive (.receiver name)).2.waiting⟩) := by
  have hany : crowd.waiting.any (·.waiter.isReceiver) = false :=
    List.any_eq_false.2 fun sleeper hsleeper =>
      Bool.eq_false_iff.1 (h _ (List.mem_map_of_mem hsleeper))
  rw [perform, react, if_neg (Bool.eq_false_iff.1 hany)]

/-- A crowd does what a waiting room does in a step: the operation comes, and then some of those who
wait try again. -/
def Scheduled (room : WaitingRoom ι) (op : MailboxOp ι) : Prop :=
  ∃ shown, Retries ((ofRoom room).perform (.come op)).2 shown (ofRoom (room.step op).2.2) ∧
    ((ofRoom room).perform (.come op)).1.report.toList ++ shown = reports (room.step op)

theorem scheduled_send (room : WaitingRoom ι) (name : ι) (message : Bytes)
    (hone : room.waiting.countP Waiter.isReceiver ≤ 1) : Scheduled room (.send name message) := by
  have hattempt := Waiter.attempt_sender room.box name message
  unfold Scheduled
  rw [perform_send]
  cases hwait : mustWait (room.box.offer message).1 with
  | true =>
    rw [if_pos hwait] at hattempt
    rw [arrive_waits (ofRoom room) hattempt]
    simp only [step, hwait, if_true, wake_waits]
    refine ⟨[], ?_, rfl⟩
    rw [ofRoom, ofRoom, asleep_append]
    exact .refl _
  | false =>
    rw [if_neg (Bool.eq_false_iff.1 hwait)] at hattempt
    have hwakes : (Outcome.finished (.sender name message)
          (.sent (room.box.offer message).1) : Outcome ι).wakes =
        (Outcome.offered message (room.box.offer message).1).wakes := by
      cases (room.box.offer message).1 <;> rfl
    rw [arrive_finished (ofRoom room) hattempt]
    simp only [step, hwait, Bool.false_eq_true, if_false, hwakes]
    exact ⟨_, retries_afterOffer (room.box.offer message).1
      ⟨(room.box.offer message).2, room.waiting⟩ hone message, rfl⟩

theorem scheduled_receive (room : WaitingRoom ι) (name : ι) (hnone : NoReceiver room.waiting) :
    Scheduled room (.receive name) := by
  unfold Scheduled
  rw [perform_receive (ofRoom room) ((waiters_ofRoom room).symm ▸ hnone)]
  cases hitems : room.box.queue.items with
  | nil =>
    have hattempt := Waiter.attempt_receiver_nil name hitems
    cases hclosed : room.box.closed with
    | true =>
      rw [hclosed] at hattempt
      rw [arrive_finished (ofRoom room) hattempt, wake_ended]
      simp only [step, Mailbox.receive_nil hitems, hclosed, if_true]
      exact ⟨[], .refl _, rfl⟩
    | false =>
      rw [hclosed] at hattempt
      rw [arrive_waits (ofRoom room) hattempt, wake_waits]
      simp only [step, Mailbox.receive_nil hitems, hclosed, Bool.false_eq_true, if_false]
      refine ⟨[], ?_, rfl⟩
      rw [ofRoom, ofRoom, asleep_append]
      exact .refl _
  | cons head rest =>
    rw [arrive_finished (ofRoom room) (Waiter.attempt_receiver_cons name hitems)]
    have hwoken := (waiters_wake (Outcome.finished (.receiver name) (.received head)).wakes
      (asleep room.waiting)).trans (waiters_asleep room.waiting)
    have hretries := retries_senders room.box.popped []
      (wake (Outcome.finished (.receiver name) (.received head)).wakes (asleep room.waiting))
      (receiverSleeps_of_noReceiver (hwoken.symm ▸ hnone)) (.inr (hwoken.symm ▸ hnone))
    rw [hwoken] at hretries
    simp only [step, Mailbox.receive_cons hitems, spaceFreed]
    exact ⟨_, hretries, rfl⟩

theorem scheduled_cancel (room : WaitingRoom ι) (name : ι) : Scheduled room (.cancel name) := by
  refine ⟨[], ?_, rfl⟩
  have hfilter : (asleep room.waiting).filter (·.waiter.name != name) =
      asleep (room.waiting.filter (·.name != name)) := List.filter_map
  have hperform : ((ofRoom room).perform (.come (.cancel name))).2 =
      ofRoom (room.step (.cancel name)).2.2 := by
    show Crowd.mk room.box (wake (Outcome.cancelled name).wakes
      ((asleep room.waiting).filter (·.waiter.name != name))) = _
    rw [hfilter, wake_cancelled]
    rfl
  rw [hperform]
  exact .refl _

theorem scheduled_step (room : WaitingRoom ι) (op : MailboxOp ι)
    (hone : room.waiting.countP Waiter.isReceiver ≤ 1)
    (hreceive : ∀ name, op = .receive name → NoReceiver room.waiting) : Scheduled room op := by
  cases op with
  | offer message =>
    exact ⟨_, retries_afterOffer (room.box.offer message).1
      ⟨(room.box.offer message).2, room.waiting⟩ hone message, rfl⟩
  | send name message => exact scheduled_send room name message hone
  | receive name => exact scheduled_receive room name (hreceive name rfl)
  | cancel name => exact scheduled_cancel room name
  | close =>
    exact ⟨_, retries_closedNow { room with box := room.box.close } rfl hone _
      ((waiters_wake _ _).trans (waiters_ofRoom room)), rfl⟩
  | abort =>
    exact ⟨_, retries_closedNow { room with box := room.box.abort } rfl hone _
      ((waiters_wake _ _).trans (waiters_ofRoom room)), rfl⟩

/-- At most one receiver waits. -/
theorem oneReceiver_perform {crowd : Crowd ι} (happening : Happening ι)
    (h : (crowd.waiting.map Sleeper.waiter).countP Waiter.isReceiver ≤ 1) :
    ((crowd.perform happening).2.waiting.map Sleeper.waiter).countP Waiter.isReceiver ≤ 1 := by
  rcases crowd.waiters_perform happening with hsub | ⟨waiter, -, hcomes, halone⟩
  · exact Nat.le_trans hsub.countP_le h
  · rw [hcomes, List.countP_append]
    cases hreceiver : waiter.isReceiver with
    | false => simpa [hreceiver] using h
    | true =>
      have hnone : (crowd.waiting.map Sleeper.waiter).countP Waiter.isReceiver = 0 := by
        refine List.countP_eq_zero.2 fun other hother => ?_
        obtain ⟨sleeper, hsleeper, rfl⟩ := List.mem_map.1 hother
        exact Bool.eq_false_iff.1 (halone hreceiver sleeper hsleeper)
      simp [hnone, hreceiver]

/-- **A waiting room is a crowd.** -/
theorem run_schedule (room : WaitingRoom ι) (ops : List (MailboxOp ι))
    (hone : room.waiting.countP Waiter.isReceiver ≤ 1) (hops : OneReceiver room ops) :
    ∃ happenings, happenings.filterMap Happening.op = ops ∧
      ((ofRoom room).run happenings).1.filterMap Outcome.report = (room.run ops).1 ∧
      ((ofRoom room).run happenings).2 = ofRoom (room.run ops).2 := by
  induction ops generalizing room with
  | nil => exact ⟨[], rfl, rfl, rfl⟩
  | cons op later ih =>
    obtain ⟨hfirst, hlater⟩ := hops
    obtain ⟨shown, ⟨places, hshown, hfinish⟩, hreports⟩ := scheduled_step room op hone hfirst
    have hone' : (room.step op).2.2.waiting.countP Waiter.isReceiver ≤ 1 := by
      have hkeeps := run_keeps ((ofRoom room).perform (.come op)).2
        (P := fun crowd => (crowd.waiting.map Sleeper.waiter).countP Waiter.isReceiver ≤ 1)
        (fun happening h => oneReceiver_perform happening h)
        (oneReceiver_perform _ ((waiters_ofRoom room).symm ▸ hone)) (places.map .retry)
      rwa [hfinish, waiters_ofRoom] at hkeeps
    obtain ⟨happenings, hops', hshown', hfinish'⟩ := ih _ hone' hlater
    refine ⟨.come op :: (places.map .retry ++ happenings), ?_, ?_, ?_⟩
    · have hretries : (places.map .retry).filterMap (Happening.op (ι := ι)) = [] := by
        simp [List.filterMap_map, Function.comp_def, Happening.op]
      simp only [List.filterMap_cons, Happening.op, List.filterMap_append, hretries, hops',
        List.nil_append]
    · rw [run_cons, run_append, hfinish]
      show List.filterMap Outcome.report (((ofRoom room).perform (.come op)).1 :: _) = _
      rw [filterMap_report_cons, List.filterMap_append, hshown, hshown', ← List.append_assoc,
        hreports]
      rfl
    · rw [run_cons, run_append, hfinish]
      exact hfinish'

end Crowd

end ChatRelay
