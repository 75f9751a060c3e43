import Mathlib.Data.List.Flatten
import Mathlib.Data.List.Perm.Basic
import Mathlib.Data.List.Perm.Subperm
import ChatRelay.Proofs.Mailbox.Schedule

/-!
# The ledger of a mailbox

Whatever happens at a mailbox, and in whatever order those who wait try again, the messages that it
has taken are those that it has handed out, those that it holds, those that were evicted and those
that were thrown away when it was aborted (`Crowd.ledger_balances`). What is handed out is handed
out in the order in which it was taken.

The ledger is kept by one happening at a time (`Mailbox.Did.ledger`): some of the items are evicted,
some leave at the front, and what is taken comes behind the rest.
-/

namespace ChatRelay

variable {ι : Type}

/-! ## Entries -/

namespace Outcome

/-- The message of a sender that was answered well, and how many were evicted for it. -/
def accepted : Outcome ι → Option (Bytes × Nat)
  | .offered message (.ok evicted) => some (message, evicted)
  | .finished (.sender _ message) (.sent (.ok evicted)) => some (message, evicted)
  | _ => none

/-- The message that was taken. An empty one is forgotten. -/
def taken (outcome : Outcome ι) : List Bytes :=
  (outcome.accepted.map Prod.fst).toList.filter (· ≠ [])

/-- How many messages were evicted. -/
def evicted (outcome : Outcome ι) : Nat := (outcome.accepted.map Prod.snd).getD 0

/-- The message that a receiver was given. -/
def given : Outcome ι → List Bytes
  | .finished _ (.received message) => [message]
  | _ => []

/-- The messages that were thrown away. -/
def lost : Outcome ι → List Bytes
  | .aborted lost => lost
  | _ => []

/-- Whose operation has come to an end. -/
def enders : Outcome ι → List (Waiter ι)
  | .finished waiter _ => [waiter]
  | _ => []

/-- What can come of trying. -/
inductive Tried : Outcome ι → Prop
  | finished (waiter : Waiter ι) (how : Finished) : Tried (.finished waiter how)
  | waits (waiter : Waiter ι) : Tried (.waits waiter)
  | nothing : Tried .nothing

theorem Tried.lost_eq {outcome : Outcome ι} (h : outcome.Tried) : outcome.lost = [] := by
  cases h <;> rfl

/-- A sender is answered like someone who offers without waiting. -/
theorem accepted_sent (name : ι) (message : Bytes) (answer : Except EnqueueError Nat) :
    (finished (.sender name message) (.sent answer)).accepted =
      (offered message answer : Outcome ι).accepted := by
  cases answer <;> rfl

end Outcome

namespace Ledger

/-- The messages that were taken, in order. -/
def taken (outcomes : List (Outcome ι)) : List Bytes := outcomes.flatMap Outcome.taken

/-- How many messages were evicted. -/
def evicted : List (Outcome ι) → Nat
  | [] => 0
  | outcome :: later => outcome.evicted + evicted later

/-- The messages that were handed out, in order. -/
def given (outcomes : List (Outcome ι)) : List Bytes := outcomes.flatMap Outcome.given

/-- The messages that were thrown away. -/
def lost (outcomes : List (Outcome ι)) : List Bytes := outcomes.flatMap Outcome.lost

/-- The messages that have left at the front, for a receiver or because they were thrown away. -/
def left (outcomes : List (Outcome ι)) : List Bytes :=
  outcomes.flatMap fun outcome => outcome.given ++ outcome.lost

/-- Those whose operations have come to an end. -/
def enders (outcomes : List (Outcome ι)) : List (Waiter ι) := outcomes.flatMap Outcome.enders

/-- What was handed out and what is still there was taken in this order, each message once, and the
others that were taken have been thrown away or were evicted. -/
structure Balanced (outcomes : List (Outcome ι)) (items : List Bytes) : Prop where
  order : (given outcomes ++ items).Sublist (taken outcomes)
  account : ∃ gone, gone.length = evicted outcomes ∧
    (taken outcomes).Perm (given outcomes ++ items ++ lost outcomes ++ gone)

theorem given_sublist_left (outcomes : List (Outcome ι)) :
    (given outcomes).Sublist (left outcomes) :=
  .flatMap_right _ fun _ _ => List.sublist_append_left _ _

theorem left_perm (outcomes : List (Outcome ι)) :
    (left outcomes).Perm (given outcomes ++ lost outcomes) :=
  (List.flatMap_append_perm outcomes Outcome.given Outcome.lost).symm

/-- If nothing is thrown away, what leaves is handed out. -/
theorem left_eq_given {outcomes : List (Outcome ι)} (h : lost outcomes = []) :
    left outcomes = given outcomes := by
  have hlength := (left_perm outcomes).length_eq
  rw [h, List.append_nil] at hlength
  exact ((given_sublist_left outcomes).eq_of_length hlength.symm).symm

end Ledger

open Ledger

/-! ## One happening -/

namespace Mailbox

variable {box after : Mailbox}

/-- A message that is taken comes behind what is left when as many as are said were evicted. -/
theorem ledger_offer {message : Bytes} {answer : Except EnqueueError Nat}
    (h : box.offer message = (answer, after)) :
    ∃ kept, kept.Sublist box.queue.items ∧
      kept.length + (Outcome.offered message answer : Outcome ι).evicted = box.queue.items.length ∧
      after.queue.items = kept ++ (Outcome.offered message answer : Outcome ι).taken := by
  cases hclosed : box.closed with
  | true =>
    rw [offer_closed hclosed] at h
    obtain ⟨rfl, rfl⟩ := Prod.mk.inj h
    exact ⟨_, .refl _, rfl, (List.append_nil _).symm⟩
  | false =>
    rw [offer_open hclosed] at h
    obtain ⟨rfl, rfl⟩ := Prod.mk.inj h
    have hpushed := box.queue.push_pushed message
    generalize box.queue.push message = result at hpushed
    cases hpushed with
    | refused error paused => exact ⟨_, .refl _, rfl, (List.append_nil _).symm⟩
    | forgotten hempty =>
      subst hempty
      exact ⟨_, .refl _, rfl, (List.append_nil _).symm⟩
    | taken evicted hne hle =>
      refine ⟨_, box.queue.without_sublist evicted, box.queue.length_without hle, ?_⟩
      simp [SendQueue.append, Outcome.taken, Outcome.accepted, hne]

/-- Some of the items are evicted, some leave at the front, and what is taken comes behind them. -/
theorem Did.ledger {outcome : Outcome ι} (h : box.Did outcome after) :
    ∃ kept, kept.Sublist box.queue.items ∧
      kept.length + outcome.evicted = box.queue.items.length ∧
      outcome.given ++ outcome.lost ++ after.queue.items = kept ++ outcome.taken := by
  have hnone : ∃ kept, kept.Sublist box.queue.items ∧ kept.length + 0 = box.queue.items.length ∧
      box.queue.items = kept ++ [] := ⟨_, .refl _, rfl, (List.append_nil _).symm⟩
  cases h with
  | offered hoffer => exact ledger_offer hoffer
  | sent name hoffer ends =>
    rw [Outcome.taken, Outcome.evicted, Outcome.accepted_sent]
    exact ledger_offer hoffer
  | held name hoffer => exact ledger_offer (ι := ι) hoffer
  | received name hreceive =>
    rw [(receive_message hreceive).1] at hnone ⊢
    exact hnone
  | ended name hreceive => exact hnone
  | starved name hreceive => exact hnone
  | cancelled name => exact hnone
  | closed => exact hnone
  | aborted =>
    obtain ⟨kept, hsub, hlength, hitems⟩ := hnone
    exact ⟨kept, hsub, hlength, (List.append_nil _).trans hitems⟩
  | nothing => exact hnone

/-- If no sender is answered well, the items leave at the front or stay. -/
theorem Did.left {outcome : Outcome ι} (h : box.Did outcome after)
    (hnone : outcome.accepted = none) :
    outcome.given ++ outcome.lost ++ after.queue.items = box.queue.items := by
  obtain ⟨kept, hsub, hlength, hitems⟩ := h.ledger
  rw [Outcome.evicted, hnone] at hlength
  rw [hitems, hsub.eq_of_length hlength, Outcome.taken, hnone]
  exact List.append_nil _

/-- A closed mailbox stays closed, and answers no sender well. -/
theorem Did.closed_stays {outcome : Outcome ι} (h : box.Did outcome after)
    (hclosed : box.closed = true) : after.closed = true ∧ outcome.accepted = none := by
  cases h with
  | offered hoffer =>
    rw [offer_closed hclosed] at hoffer
    obtain ⟨rfl, rfl⟩ := Prod.mk.inj hoffer
    exact ⟨hclosed, rfl⟩
  | sent name hoffer ends =>
    rw [offer_closed hclosed] at hoffer
    obtain ⟨rfl, rfl⟩ := Prod.mk.inj hoffer
    exact ⟨hclosed, rfl⟩
  | held name hoffer =>
    rw [offer_closed hclosed] at hoffer
    cases hoffer
  | received name hreceive =>
    obtain ⟨-, rfl⟩ := receive_message hreceive
    exact ⟨hclosed, rfl⟩
  | ended name hreceive => exact ⟨hclosed, rfl⟩
  | starved name hreceive => exact ⟨hclosed, rfl⟩
  | cancelled name => exact ⟨hclosed, rfl⟩
  | closed => exact ⟨rfl, rfl⟩
  | aborted => exact ⟨rfl, rfl⟩
  | nothing => exact ⟨hclosed, rfl⟩

/-- A receiver is told that there is nothing more only if that is so. -/
theorem Did.closed_of_ended {waiter : Waiter ι} (h : box.Did (.finished waiter .ended) after) :
    box.closed = true ∧ box.queue.items = [] := by
  cases h with
  | ended name hreceive =>
    cases hitems : box.queue.items with
    | nil =>
      rw [receive_nil hitems] at hreceive
      cases hclosed : box.closed with
      | true => exact ⟨rfl, rfl⟩
      | false => simp [hclosed] at hreceive
    | cons head rest =>
      rw [receive_cons hitems] at hreceive
      cases hreceive

end Mailbox

namespace Crowd

variable (crowd : Crowd ι)

theorem enders_arrive (waiter : Waiter ι) :
    ((crowd.arrive waiter).1.enders ++ (crowd.arrive waiter).2.waiting.map Sleeper.waiter).Perm
      (crowd.waiting.map Sleeper.waiter ++ [waiter]) := by
  unfold arrive
  split
  · exact .of_eq List.map_append
  · exact (List.perm_append_singleton _ _).symm

theorem enders_retry (place : Nat) :
    ((crowd.retry place).1.enders ++ (crowd.retry place).2.waiting.map Sleeper.waiter).Perm
      (crowd.waiting.map Sleeper.waiter) := by
  unfold retry
  split
  · exact .refl _
  next waiter woken hplace =>
  split
  · exact .of_eq (waiters_set hplace)
  · obtain ⟨hlt, hget⟩ := List.getElem?_eq_some_iff.1 hplace
    have hperm := (List.getElem_cons_eraseIdx_perm hlt).map Sleeper.waiter
    rwa [List.map_cons, hget] at hperm

/-- Whoever comes and tries ends or waits. -/
theorem tried_arrive (waiter : Waiter ι) : (crowd.arrive waiter).1.Tried := by
  unfold arrive
  split
  · exact .waits _
  · exact .finished _ _

theorem tried_retry (place : Nat) : (crowd.retry place).1.Tried := by
  unfold retry
  split
  · exact .nothing
  · split
    · exact .waits _
    · exact .finished _ _

variable [DecidableEq ι]

/-- Whoever comes to an end has come or was waiting, and waits no more. -/
theorem enders_perform (happening : Happening ι) :
    ((crowd.perform happening).1.enders ++
        (crowd.perform happening).2.waiting.map Sleeper.waiter).Subperm
      (crowd.waiting.map Sleeper.waiter ++ happening.newcomer.toList) := by
  have hwake : (crowd.perform happening).2.waiting.map Sleeper.waiter =
      (crowd.react happening).2.waiting.map Sleeper.waiter := waiters_wake _ _
  rw [hwake]
  have hsame : (crowd.waiting.map Sleeper.waiter).Subperm
      (crowd.waiting.map Sleeper.waiter ++ []) := (List.append_nil _).symm ▸ .refl _
  cases happening with
  | come op =>
    cases op with
    | offer message => exact hsame
    | send name message => exact (crowd.enders_arrive (.sender name message)).subperm
    | receive name =>
      rw [outcome_perform, react]
      split
      · exact (List.sublist_append_left _ _).subperm
      · exact (crowd.enders_arrive (.receiver name)).subperm
    | cancel name => exact ((List.filter_sublist.map _).subperm).trans hsame
    | close => exact hsame
    | abort => exact hsame
  | retry place => exact (crowd.enders_retry place).subperm.trans hsame

theorem tried_receive (name : ι) : (crowd.perform (.come (.receive name))).1.Tried := by
  rw [outcome_perform, react]
  split
  · exact .nothing
  · exact crowd.tried_arrive (.receiver name)

/-- Only aborting throws anything away. -/
theorem lost_perform {happening : Happening ι} (h : happening ≠ .come .abort) :
    (crowd.perform happening).1.lost = [] := by
  cases happening with
  | come op =>
    cases op with
    | abort => exact absurd rfl h
    | send name message => exact (crowd.tried_arrive (.sender name message)).lost_eq
    | receive name => exact (crowd.tried_receive name).lost_eq
    | offer message => rfl
    | cancel name => rfl
    | close => rfl
  | retry place => exact (crowd.tried_retry place).lost_eq

/-! ## Runs -/

/-- What has left and what is there was there or has been taken, in this order, and as many as were
evicted are missing. -/
theorem ledger_run (happenings : List (Happening ι)) :
    (left (crowd.run happenings).1 ++ (crowd.run happenings).2.box.queue.items).Sublist
        (crowd.box.queue.items ++ taken (crowd.run happenings).1) ∧
      (left (crowd.run happenings).1 ++ (crowd.run happenings).2.box.queue.items).length +
          evicted (crowd.run happenings).1 =
        (crowd.box.queue.items ++ taken (crowd.run happenings).1).length := by
  induction happenings generalizing crowd with
  | nil => exact ⟨(List.append_nil _).symm ▸ .refl _, by simp [left, taken, evicted]⟩
  | cons happening later ih =>
    obtain ⟨kept, hkept, hlength, hitems⟩ := (crowd.did_perform happening).ledger
    obtain ⟨hsub, hcount⟩ := ih (crowd.perform happening).2
    rw [run_cons]
    generalize crowd.perform happening = first at *
    have hlengths := congrArg List.length hitems
    simp only [left, taken, evicted, List.flatMap_cons, List.length_append] at hcount hlengths ⊢
    refine ⟨?_, by omega⟩
    have hfirst := hsub.append_left (first.1.given ++ first.1.lost)
    rw [← List.append_assoc _ first.2.box.queue.items, hitems] at hfirst
    simp only [left, taken, List.append_assoc] at hfirst ⊢
    exact hfirst.trans (hkept.append_right _)

/-- Each operation comes to an end at most once, and not while it waits. -/
theorem enders_run (happenings : List (Happening ι)) :
    (enders (crowd.run happenings).1 ++
        (crowd.run happenings).2.waiting.map Sleeper.waiter).Subperm
      (crowd.waiting.map Sleeper.waiter ++ happenings.filterMap Happening.newcomer) := by
  simp only [List.filterMap_eq_flatMap_toList]
  induction happenings generalizing crowd with
  | nil => exact (List.append_nil _).symm ▸ .refl _
  | cons happening later ih =>
    have hfirst := (crowd.enders_perform happening).append
      (.refl (later.flatMap fun happening => happening.newcomer.toList))
    have hlater := (List.subperm_append_left (crowd.perform happening).1.enders).2
      (ih (crowd.perform happening).2)
    simp only [run_cons, enders, List.flatMap_cons, List.append_assoc] at hfirst hlater ⊢
    exact hlater.trans hfirst

/-- A closed mailbox answers no sender well, and what it holds leaves at the front. -/
theorem left_run_closed (hclosed : crowd.box.closed = true) (happenings : List (Happening ι)) :
    (∀ outcome ∈ (crowd.run happenings).1, outcome.accepted = none) ∧
      left (crowd.run happenings).1 ++ (crowd.run happenings).2.box.queue.items =
        crowd.box.queue.items := by
  induction happenings generalizing crowd with
  | nil => exact ⟨nofun, rfl⟩
  | cons happening later ih =>
    have hdid := crowd.did_perform happening
    obtain ⟨hstays, hnone⟩ := hdid.closed_stays hclosed
    obtain ⟨hlater, hitems⟩ := ih (crowd.perform happening).2 hstays
    rw [run_cons]
    refine ⟨?_, ?_⟩
    · intro outcome houtcome
      rcases List.mem_cons.1 houtcome with rfl | hmem
      · exact hnone
      · exact hlater outcome hmem
    · rw [left, List.flatMap_cons, List.append_assoc]
      exact (congrArg _ hitems).trans (hdid.left hnone)

theorem lost_run {happenings : List (Happening ι)} (h : .come .abort ∉ happenings) :
    lost (crowd.run happenings).1 = [] := by
  induction happenings generalizing crowd with
  | nil => rfl
  | cons happening later ih =>
    obtain ⟨hfirst, hlater⟩ := not_or.1 (mt List.mem_cons.2 h)
    rw [run_cons, lost, List.flatMap_cons, crowd.lost_perform (Ne.symm hfirst)]
    exact ih _ hlater

/-- The ledger of a mailbox that was new balances. -/
theorem balanced_run (limits : QueueLimits) (happenings : List (Happening ι)) :
    Balanced ((new limits).run happenings).1 ((new limits).run happenings).2.box.queue.items := by
  obtain ⟨hsub, hlength⟩ := (new limits : Crowd ι).ledger_run happenings
  rw [show (new limits : Crowd ι).box.queue.items = [] from rfl, List.nil_append] at hsub hlength
  generalize (new limits : Crowd ι).run happenings = ran at *
  refine ⟨((given_sublist_left _).append_right _).trans hsub, ?_⟩
  obtain ⟨gone, hperm⟩ := hsub.exists_perm_append
  refine ⟨gone, ?_, hperm.trans ?_⟩
  · have hgone := hperm.length_eq
    rw [List.length_append] at hgone
    omega
  · have hleft := (left_perm ran.1).append_right (ran.2.box.queue.items)
    rw [List.append_assoc] at hleft
    refine (hleft.append_right gone).trans (.append_right gone ?_)
    rw [List.append_assoc]
    exact List.perm_append_comm.append_left _

/-- Whoever has stopped waiting comes to no end before somebody of this name comes again. -/
theorem name_ne_of_cancel (name : ι) (later : List (Happening ι))
    (hnew : ∀ waiter ∈ later.filterMap Happening.newcomer, waiter.name ≠ name) :
    ∀ waiter ∈ enders ((crowd.perform (.come (.cancel name))).2.run later).1,
      waiter.name ≠ name := by
  intro waiter hwaiter
  have hmem := ((crowd.perform (.come (.cancel name))).2.enders_run later).subset
    (List.mem_append_left _ hwaiter)
  rcases List.mem_append.1 hmem with hwaiting | hcomes
  · have hwake : (crowd.perform (.come (.cancel name))).2.waiting.map Sleeper.waiter =
        (crowd.waiting.filter (·.waiter.name != name)).map Sleeper.waiter := waiters_wake _ _
    rw [hwake] at hwaiting
    obtain ⟨sleeper, hsleeper, rfl⟩ := List.mem_map.1 hwaiting
    simpa using (List.mem_filter.1 hsleeper).2
  · exact hnew waiter hcomes

/-- **Nothing is lost, doubled or put out of order.** -/
theorem ledger_balances (limits : QueueLimits) :
    -- Whatever happens at a new mailbox, its ledger balances, and every operation comes to an end
    -- at most once and waits no more then.
    (∀ happenings : List (Happening ι),
      Balanced ((new limits).run happenings).1
          ((new limits).run happenings).2.box.queue.items ∧
        (enders ((new limits).run happenings).1 ++
            ((new limits).run happenings).2.waiting.map Sleeper.waiter).Subperm
          (happenings.filterMap Happening.newcomer)) ∧
    -- The items change only if a message is taken, handed out or thrown away: not by a sender that
    -- is refused or has to wait, and not if someone stops waiting.
    (∀ (crowd : Crowd ι) (happening : Happening ι),
      (crowd.perform happening).1.accepted = none → (crowd.perform happening).1.given = [] →
        (crowd.perform happening).1.lost = [] →
        (crowd.perform happening).2.box.queue.items = crowd.box.queue.items) ∧
    -- Who has stopped waiting is not heard of again.
    (∀ (before : List (Happening ι)) (name : ι) (later : List (Happening ι)),
      (∀ waiter ∈ later.filterMap Happening.newcomer, waiter.name ≠ name) →
        ∀ waiter ∈ enders
          (((new limits).run (before ++ [.come (.cancel name)])).2.run later).1,
          waiter.name ≠ name) ∧
    -- After closing and after aborting no sender is answered well.
    (∀ (before : List (Happening ι)) (op : MailboxOp ι) (later : List (Happening ι)),
      op = .close ∨ op = .abort →
        ∀ outcome ∈ (((new limits).run (before ++ [.come op])).2.run later).1,
          outcome.accepted = none) ∧
    -- A receiver is told that there is nothing more only if that is so.
    (∀ (crowd : Crowd ι) (happening : Happening ι) (waiter : Waiter ι),
      (crowd.perform happening).1 = .finished waiter .ended →
        crowd.box.closed = true ∧ crowd.box.queue.items = []) ∧
    -- What a mailbox holds when it is closed is handed out in order unless it is aborted, all of it
    -- before a receiver is told that there is nothing more.
    (∀ before later : List (Happening ι), .come .abort ∉ later →
      let atClose := ((new limits).run (before ++ [.come .close])).2
      given (atClose.run later).1 ++ (atClose.run later).2.box.queue.items =
          atClose.box.queue.items ∧
        ∀ (early : List (Happening ι)) (happening : Happening ι) (late : List (Happening ι))
          (waiter : Waiter ι), later = early ++ happening :: late →
          ((atClose.run early).2.perform happening).1 = .finished waiter .ended →
          given (atClose.run early).1 = atClose.box.queue.items) ∧
    -- All this is so where those who can go on do so at once, with what is seen there.
    (∀ ops : List (MailboxOp ι), (WaitingRoom.new limits).OneReceiver ops →
      ∃ happenings, happenings.filterMap Happening.op = ops ∧
        ((new limits).run happenings).1.filterMap Outcome.report =
          ((WaitingRoom.new limits).run ops).1 ∧
        ((new limits).run happenings).2 = ofRoom ((WaitingRoom.new limits).run ops).2) := by
  have hended : ∀ (crowd : Crowd ι) (happening : Happening ι) (waiter : Waiter ι),
      (crowd.perform happening).1 = .finished waiter .ended →
        crowd.box.closed = true ∧ crowd.box.queue.items = [] := by
    intro crowd happening waiter houtcome
    have hdid := crowd.did_perform happening
    rw [houtcome] at hdid
    exact hdid.closed_of_ended
  refine ⟨?_, ?_, ?_, ?_, hended, ?_, ?_⟩
  · intro happenings
    exact ⟨balanced_run limits happenings, (new limits).enders_run happenings⟩
  · intro crowd happening haccepted hgiven hlost
    have hleft := (crowd.did_perform happening).left haccepted
    rwa [hgiven, hlost] at hleft
  · intro before name later hnew
    rw [run_append]
    exact name_ne_of_cancel _ name later hnew
  · rintro before op later (rfl | rfl)
    · rw [run_append]
      exact (left_run_closed _ rfl later).1
    · rw [run_append]
      exact (left_run_closed _ rfl later).1
  · intro before later habort atClose
    have hclosed : atClose.box.closed = true := by
      simp only [atClose, run_append]
      rfl
    refine ⟨?_, ?_⟩
    · rw [← left_eq_given (lost_run _ habort)]
      exact (atClose.left_run_closed hclosed later).2
    · rintro early happening late waiter rfl houtcome
      have hearly : .come .abort ∉ early := fun h => habort (List.mem_append_left _ h)
      have hitems := (atClose.left_run_closed hclosed early).2
      rw [(hended _ happening waiter houtcome).2, List.append_nil,
        left_eq_given (lost_run _ hearly)] at hitems
      exact hitems
  · intro ops hops
    exact run_schedule (WaitingRoom.new limits) ops (Nat.zero_le _) hops

/-- A sender stops waiting, and then what the mailbox holds is taken out after it was closed. -/
theorem ledger_balances_cancelled :
    let limits : QueueLimits := ⟨4, 1, none, .blockProducer⟩
    let before : List (Happening Nat) := [.come (.send 0 [1, 2, 3]), .come (.send 1 [4, 5])]
    let later : List (Happening Nat) := [.come .close, .come (.receive 2), .come (.receive 3)]
    let outcomes := (((new limits).run (before ++ [.come (.cancel 1)])).2.run later).1
    (∀ waiter ∈ later.filterMap Happening.newcomer, waiter.name ≠ 1) ∧
      enders outcomes = [.receiver 2, .receiver 3] ∧ given outcomes = [[1, 2, 3]] ∧
      ∀ waiter ∈ enders outcomes, waiter.name ≠ 1 := by
  intro limits before later outcomes
  have hnew : ∀ waiter ∈ later.filterMap Happening.newcomer, waiter.name ≠ 1 := by decide
  exact ⟨hnew, by decide, by decide, (ledger_balances limits).2.2.1 before 1 later hnew⟩

end Crowd

end ChatRelay
