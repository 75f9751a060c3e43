import ChatRelay.Proofs.Mailbox.Wakeup

/-!
# No sender overtakes another

In a `WaitingRoom` senders are answered well in the order in which they came, whatever the sizes of
their messages, if they are answered well at all (`WaitingRoom.no_overtaking`). To say so every
operation is numbered by when it was started, and a sender goes by its number.

The reason is that a sender that has to wait leaves the mailbox paused, and a paused mailbox lets
everyone wait (`retrySenders_vain`). So those who try again fall into two parts, first those who
are answered well and then those who go on waiting (`retrySenders_patient`).
-/

namespace ChatRelay

variable {ι : Type}

/-- A sender that is let wait if there is no room for its message. -/
def Waiter.Patient (box : Mailbox) : Waiter ι → Prop
  | .sender _ message =>
    box.closed = false ∧ box.queue.limits.policy = .blockProducer ∧
      message.length ≤ box.queue.limits.highWater
  | .receiver _ => True

theorem Waiter.Patient.same {box after : Mailbox} {waiter : Waiter ι} (h : waiter.Patient box)
    (hclosed : after.closed = box.closed) (hlimits : after.queue.limits = box.queue.limits) :
    waiter.Patient after := by
  cases waiter with
  | sender name message => rwa [Patient, hclosed, hlimits]
  | receiver name => trivial

theorem Waiter.Vain.patient {box : Mailbox} {waiter : Waiter ι} (h : waiter.Vain box)
    (hregular : box.queue.Regular) : waiter.Patient box := by
  cases waiter with
  | sender name message =>
    obtain ⟨hclosed, hpaused, hle⟩ := vain_sender.1 h
    exact ⟨hclosed, (hregular.pause hpaused).1, hle⟩
  | receiver name => trivial

theorem Waiter.Patient.offer {box : Mailbox} {name : ι} {message : Bytes}
    (h : (Waiter.sender name message).Patient box) :
    (∃ evicted, box.offer message = (.ok evicted, (box.offer message).2)) ∨
      box.offer message = (.error .full, (box.offer message).2) := by
  obtain ⟨hclosed, hpolicy, hle⟩ := h
  have hoffer := Mailbox.offer_open hclosed message
  rcases SendQueue.push_of_blockProducer hpolicy hle with ⟨evicted, hok⟩ | hfull
  · exact .inl ⟨evicted, Prod.ext ((congrArg Prod.fst hoffer).trans hok) rfl⟩
  · exact .inr (Prod.ext ((congrArg Prod.fst hoffer).trans hfull) rfl)

namespace WaitingRoom

/-! ## Trying again in order -/

/-- The senders among those who wait, in order. -/
def senders (waiting : List (Waiter ι)) : List ι :=
  waiting.filterMap fun
    | .sender name _ => some name
    | .receiver _ => none

/-- The senders that were answered well, in order. -/
def pleased (finished : List (ι × Finished)) : List ι :=
  finished.filterMap fun
    | (name, .sent (.ok _)) => some name
    | _ => none

variable {box : Mailbox} {waiting : List (Waiter ι)}

/-- Where every sender waits with reason, nobody gets on by trying again. -/
theorem retrySenders_vain (h : ∀ waiter ∈ waiting, waiter.isSender = true → waiter.Vain box) :
    retrySenders box waiting = ([], ⟨box, waiting⟩) := by
  induction waiting with
  | nil => rfl
  | cons waiter rest ih =>
    have hrest := ih fun other hother => h other (List.mem_cons_of_mem _ hother)
    cases waiter with
    | receiver name => rw [retrySenders, hrest]
    | sender name message =>
      have hoffer := Waiter.attempt_sender_none.1 (h _ List.mem_cons_self rfl)
      rw [retrySenders, hoffer]
      dsimp only
      rw [hrest]
      rfl

/-- At a closed mailbox every sender is refused. -/
theorem retrySenders_closed (h : box.closed = true) (waiting : List (Waiter ι)) :
    pleased (retrySenders box waiting).1 = [] ∧
      senders (retrySenders box waiting).2.waiting = [] := by
  induction waiting with
  | nil => exact ⟨rfl, rfl⟩
  | cons waiter rest ih =>
    cases waiter with
    | receiver name => exact ih
    | sender name message =>
      rw [retrySenders, Mailbox.offer_closed h]
      exact ih

/-- Behind a sender that has to wait again everyone has to. -/
theorem retrySenders_full {name : ι} {message : Bytes} {rest : List (Waiter ι)}
    (h : ∀ waiter ∈ .sender name message :: rest, waiter.Patient box)
    (hfull : box.offer message = (.error .full, (box.offer message).2)) :
    retrySenders box (.sender name message :: rest) =
        ([], ⟨(box.offer message).2, .sender name message :: rest⟩) ∧
      ∀ waiter ∈ .sender name message :: rest, waiter.isSender = true →
        waiter.Vain (box.offer message).2 := by
  have hvain : ∀ waiter ∈ .sender name message :: rest, waiter.isSender = true →
      waiter.Vain (box.offer message).2 := by
    obtain ⟨-, -, hafter⟩ := Mailbox.offer_full hfull
    rw [hafter]
    intro waiter hwaiter hsender
    cases waiter with
    | sender name message =>
      obtain ⟨hopen, -, hfits⟩ := h _ hwaiter
      exact Waiter.vain_sender.2 ⟨hopen, rfl, hfits⟩
    | receiver name => cases hsender
  have hlater := retrySenders_vain fun other hother => hvain other (List.mem_cons_of_mem _ hother)
  refine ⟨?_, hvain⟩
  rw [retrySenders, hfull]
  dsimp only
  rw [hlater]
  rfl

/-- Of those who try again, first some are answered well, and then the others wait with reason. -/
theorem retrySenders_patient (h : ∀ waiter ∈ waiting, waiter.Patient box) :
    pleased (retrySenders box waiting).1 ++ senders (retrySenders box waiting).2.waiting =
        senders waiting ∧
      ∀ waiter ∈ (retrySenders box waiting).2.waiting, waiter.isSender = true →
        waiter.Vain (retrySenders box waiting).2.box := by
  induction waiting generalizing box with
  | nil => exact ⟨rfl, nofun⟩
  | cons waiter rest ih =>
    have hrest : ∀ other ∈ rest, other.Patient box :=
      fun other hother => h other (List.mem_cons_of_mem _ hother)
    cases waiter with
    | receiver name =>
      obtain ⟨hsplit, hvain⟩ := ih hrest
      refine ⟨hsplit, ?_⟩
      intro waiter hwaiter hsender
      rcases List.mem_cons.1 hwaiter with rfl | hmem
      · cases hsender
      · exact hvain waiter hmem hsender
    | sender name message =>
      rcases (h _ List.mem_cons_self).offer with ⟨evicted, hok⟩ | hfull
      · -- It is answered well, and the others try after it.
        obtain ⟨hsplit, hvain⟩ := @ih (box.offer message).2 fun other hother =>
          (hrest other hother).same (box.closed_offer message) (box.limits_offer message)
        rw [retrySenders, hok]
        exact ⟨congrArg (name :: ·) hsplit, hvain⟩
      · -- It has to wait, and everyone behind it as well.
        obtain ⟨hretry, hvain⟩ := retrySenders_full h hfull
        rw [hretry]
        exact ⟨rfl, hvain⟩

/-! ## Steps -/

/-- The queue is as it should be, and every sender that waits would try in vain. -/
structure InLine (limits : QueueLimits) (room : WaitingRoom ι) : Prop where
  proper : room.box.Proper limits
  vain : ∀ waiter ∈ room.waiting, waiter.isSender = true → waiter.Vain room.box

variable {limits : QueueLimits} {room : WaitingRoom ι}

theorem inLine_new (limits : QueueLimits) : InLine limits (new limits : WaitingRoom ι) :=
  ⟨Mailbox.proper_new limits, nofun⟩

theorem senders_eq_nil : senders waiting = [] ↔ ∀ waiter ∈ waiting, waiter.isSender = false := by
  rw [senders, List.filterMap_eq_nil_iff]
  constructor
  · intro h waiter hmem
    have hnone := h waiter hmem
    cases waiter with
    | sender name message => cases hnone
    | receiver name => rfl
  · intro h waiter hmem
    have hno := h waiter hmem
    cases waiter with
    | sender name message => cases hno
    | receiver name => rfl

/-- Where no sender waits there is nothing to be in line for. -/
theorem inLine_of_senders (hproper : room.box.Proper limits) (hnone : senders room.waiting = []) :
    InLine limits room := by
  refine ⟨hproper, ?_⟩
  intro waiter hmem hsender
  rw [senders_eq_nil.1 hnone waiter hmem] at hsender
  cases hsender

/-- Those who try again fall into two parts, and stay in line. -/
theorem InLine.retry (hcap : limits.maxMessages ≠ some 0) (hproper : box.Proper limits)
    (h : ∀ waiter ∈ waiting, waiter.Patient box) :
    InLine limits (retrySenders box waiting).2 ∧
      pleased (retrySenders box waiting).1 ++ senders (retrySenders box waiting).2.waiting =
        senders waiting := by
  obtain ⟨hsplit, hvain⟩ := retrySenders_patient h
  have hproper' := retrySenders_keeps (fun message h => h.offer hcap message) hproper waiting
  exact ⟨⟨hproper', hvain⟩, hsplit⟩

theorem InLine.patient (h : InLine limits room) :
    ∀ waiter ∈ room.waiting, waiter.Patient room.box := by
  intro waiter hmem
  cases waiter with
  | sender name message => exact (h.vain _ hmem rfl).patient h.proper.regular
  | receiver name => trivial

/-- A message is handed out, and the senders try again. -/
theorem InLine.popped (h : InLine limits room) (hcap : limits.maxMessages ≠ some 0)
    (hmem : ∀ waiter ∈ waiting, waiter ∈ room.waiting) :
    InLine limits (retrySenders room.box.popped waiting).2 ∧
      pleased (retrySenders room.box.popped waiting).1 ++
          senders (retrySenders room.box.popped waiting).2.waiting =
        senders waiting := by
  refine InLine.retry hcap h.proper.pop ?_
  intro waiter hwaiter
  exact (h.patient waiter (hmem waiter hwaiter)).same rfl room.box.queue.limits_pop

/-- When the receiver tries again, the senders stay in line. -/
theorem InLine.messageArrived (h : InLine limits room) (hcap : limits.maxMessages ≠ some 0) :
    InLine limits (messageArrived room).2 ∧
      pleased (messageArrived room).1 ++ senders (messageArrived room).2.waiting =
        senders room.waiting := by
  have hsenders : ∀ {name : ι} {before later : List (Waiter ι)},
      senders (before ++ later) = senders (before ++ .receiver name :: later) := by
    intro name before later
    rw [senders, senders, List.filterMap_append, List.filterMap_append]
    rfl
  have hmem : ∀ {name : ι} {before later : List (Waiter ι)},
      room.waiting = before ++ .receiver name :: later →
        ∀ waiter ∈ before ++ later, waiter ∈ room.waiting := by
    intro name before later hthere waiter hwaiter
    rw [hthere]
    exact (List.mem_append.1 hwaiter).elim (List.mem_append_left _)
      fun hlater => List.mem_append_right _ (List.mem_cons_of_mem _ hlater)
  have harrived := messageArrived_arrived room
  generalize WaitingRoom.messageArrived room = result at harrived ⊢
  cases harrived with
  | nobody hnone => exact ⟨h, rfl⟩
  | starved name hthere hopen hitems => exact ⟨h, rfl⟩
  | ended name hthere hclosed hitems =>
    refine ⟨⟨h.proper, fun waiter hwaiter => h.vain waiter (hmem hthere waiter hwaiter)⟩, ?_⟩
    rw [hthere]
    exact hsenders
  | received name hthere hitems =>
    obtain ⟨hline, hsplit⟩ := h.popped hcap (hmem hthere)
    rw [hsenders, ← hthere] at hsplit
    exact ⟨hline, hsplit⟩

/-- Everyone is let go when the mailbox has been closed, and no sender is answered well. -/
theorem closedNow_lets_go (hcap : limits.maxMessages ≠ some 0) (hproper : room.box.Proper limits)
    (hclosed : room.box.closed = true) :
    pleased (closedNow room).1 = [] ∧ InLine limits (closedNow room).2 ∧
      senders (closedNow room).2.waiting = [] := by
  have hclosed' := (closed_messageArrived room).trans hclosed
  have hfirst : pleased (WaitingRoom.messageArrived room).1 = [] ∧
      (WaitingRoom.messageArrived room).2.box.Proper limits := by
    have harrived := messageArrived_arrived room
    generalize WaitingRoom.messageArrived room = result at harrived ⊢
    cases harrived with
    | nobody hnone => exact ⟨rfl, hproper⟩
    | starved name hthere hopen hitems => exact ⟨rfl, hproper⟩
    | ended name hthere hclosed hitems => exact ⟨rfl, hproper⟩
    | @received name before later hthere head rest hitems =>
      have hpopped := room.box.closed_popped.trans hclosed
      refine ⟨(retrySenders_closed hpopped (before ++ later)).1, ?_⟩
      exact retrySenders_keeps (fun message h => h.offer hcap message) hproper.pop _
  have hlater := retrySenders_keeps (fun message h => h.offer hcap message) hfirst.2
    (WaitingRoom.messageArrived room).2.waiting
  obtain ⟨hpleased, hnone⟩ :=
    retrySenders_closed hclosed' (WaitingRoom.messageArrived room).2.waiting
  refine ⟨?_, inLine_of_senders hlater hnone, hnone⟩
  rw [pleased, closedNow, List.filterMap_append]
  exact congrArg₂ _ hfirst.1 hpleased

/-- A sender that waits keeps everyone out. -/
theorem InLine.offer_busy (h : InLine limits room) (hbusy : senders room.waiting ≠ [])
    (message : Bytes) : ∃ error, room.box.offer message = (.error error, room.box) := by
  rw [Ne, senders_eq_nil] at hbusy
  simp only [not_forall, Bool.not_eq_false] at hbusy
  obtain ⟨waiter, hmem, hsender⟩ := hbusy
  cases waiter with
  | sender name other =>
    obtain ⟨hclosed, hpaused, -⟩ := Waiter.vain_sender.1 (h.vain _ hmem rfl)
    obtain ⟨hqueue, error, herror⟩ := SendQueue.push_paused_eq hpaused message
    refine ⟨error, ?_⟩
    rw [Mailbox.offer_open hclosed, hqueue, herror]
  | receiver name => cases hsender

/-- Whoever offers a message leaves the others in line. -/
theorem InLine.offer (h : InLine limits room) (hcap : limits.maxMessages ≠ some 0)
    (message : Bytes) : InLine limits { room with box := (room.box.offer message).2 } := by
  by_cases hnone : senders room.waiting = []
  · exact inLine_of_senders (h.proper.offer hcap message) hnone
  · obtain ⟨error, herror⟩ := h.offer_busy hnone message
    rw [herror]
    exact h

/-- What is done after an offer leaves the senders in line. -/
theorem InLine.afterOffer (h : InLine limits room) (hcap : limits.maxMessages ≠ some 0)
    (answer : Except EnqueueError Nat) :
    InLine limits (afterOffer answer room).2 ∧
      pleased (afterOffer answer room).1 ++ senders (afterOffer answer room).2.waiting =
        senders room.waiting := by
  cases answer with
  | ok evicted => exact h.messageArrived hcap
  | error error => exact ⟨h, rfl⟩

/-- Whoever comes to receive leaves the senders in line, but for the first of them if it takes a
message out. -/
theorem InLine.receive [DecidableEq ι] (h : InLine limits room) (hcap : limits.maxMessages ≠ some 0)
    (name : ι) :
    ∃ finished after, room.step (.receive name) = (.done, finished, after) ∧
      InLine limits after ∧ pleased finished ++ senders after.waiting = senders room.waiting := by
  cases hitems : room.box.queue.items with
  | nil =>
    cases hclosed : room.box.closed with
    | true =>
      refine ⟨[(name, .ended)], room, ?_, h, rfl⟩
      simp only [step, Mailbox.receive_nil hitems, hclosed, if_true]
    | false =>
      refine ⟨[], { room with waiting := room.waiting ++ [.receiver name] }, ?_, ⟨h.proper, ?_⟩, ?_⟩
      · simp only [step, Mailbox.receive_nil hitems, hclosed, Bool.false_eq_true, if_false]
      · intro waiter hmem hsender
        rcases List.mem_append.1 hmem with hthere | hcomes
        · exact h.vain waiter hthere hsender
        · obtain rfl := List.mem_singleton.1 hcomes
          cases hsender
      · show senders (room.waiting ++ [.receiver name]) = _
        rw [senders, List.filterMap_append]
        exact List.append_nil _
  | cons head rest =>
    obtain ⟨hline, hsplit⟩ := h.popped hcap fun _ hmem => hmem
    refine ⟨(name, .received head) :: _, _, ?_, hline, hsplit⟩
    simp only [step, Mailbox.receive_cons hitems, spaceFreed]

/-- Whoever is answered well finds nobody waiting to send. -/
theorem InLine.senders_of_ok (h : InLine limits room) {message : Bytes} {evicted : Nat}
    (hok : (room.box.offer message).1 = .ok evicted) : senders room.waiting = [] := by
  by_contra hbusy
  obtain ⟨error, herror⟩ := h.offer_busy hbusy message
  rw [herror] at hok
  cases hok

end WaitingRoom

/-! ## Runs -/

/-- What someone asks of a mailbox. Only a sender and a receiver may wait. -/
inductive Request
  | offer (message : Bytes)
  | send (message : Bytes)
  | receive
  /-- Stop waiting, whoever was the one to start with this number. -/
  | cancel (start : Nat)
  | close
  | abort

/-- The operation that is started with this number. -/
def Request.op (start : Nat) : Request → MailboxOp Nat
  | .offer message => .offer message
  | .send message => .send start message
  | .receive => .receive start
  | .cancel start => .cancel start
  | .close => .close
  | .abort => .abort

namespace WaitingRoom

/-- The numbers of those who are answered well in one step, in the order in which they are. -/
def okays (start : Nat) : MailboxAnswer × List (Nat × Finished) × WaitingRoom Nat → List Nat
  | (.offered (.ok _), finished, _) => start :: pleased finished
  | (_, finished, _) => pleased finished

/-- Carries out one request after another, started with these numbers: the numbers of those who are
answered well, in the order in which they are, and the room at the end. -/
def serve (room : WaitingRoom Nat) (start : Nat) : List Request → List Nat × WaitingRoom Nat
  | [] => ([], room)
  | request :: later =>
    let step := room.step (request.op start)
    let (okays', room') := serve step.2.2 (start + 1) later
    (okays start step ++ okays', room')

variable {limits : QueueLimits} {room : WaitingRoom Nat}

/-- Some of those in line have been answered well, the first ones, and of the others some are still
in line. -/
structure Advanced (limits : QueueLimits) (line okays : List Nat) (after : WaitingRoom Nat) :
    Prop where
  inLine : InLine limits after
  rest : (okays ++ senders after.waiting).Sublist line
  first : okays <+: line

/-- Those who have been waiting fall into two parts. -/
theorem advanced_of_split {line okays : List Nat} {after : WaitingRoom Nat} (start : Nat)
    (hline : InLine limits after) (hsplit : okays ++ senders after.waiting = line) :
    Advanced limits (line ++ [start]) okays after := by
  refine ⟨hline, hsplit ▸ List.sublist_append_left _ _, ?_⟩
  exact (hsplit ▸ List.prefix_append okays _).trans (List.prefix_append line _)

/-- Nobody is left in line at a closed mailbox. -/
theorem advanced_of_closed {room : WaitingRoom Nat} (hcap : limits.maxMessages ≠ some 0)
    (hproper : room.box.Proper limits) (hclosed : room.box.closed = true) (line : List Nat) :
    Advanced limits line (pleased (closedNow room).1) (closedNow room).2 := by
  obtain ⟨hnone, hline, hgone⟩ := closedNow_lets_go hcap hproper hclosed
  rw [hnone]
  exact ⟨hline, by rw [hgone]; exact List.nil_sublist _, List.nil_prefix⟩

/-- Whoever comes and does not have to wait overtakes nobody. -/
theorem InLine.answered (h : InLine limits room) (hcap : limits.maxMessages ≠ some 0) (start : Nat)
    {message : Bytes} {answer : Except EnqueueError Nat} {after : Mailbox}
    (hoffer : room.box.offer message = (answer, after)) :
    Advanced limits (senders room.waiting ++ [start])
      (pleased ((start, .sent answer) ::
        (WaitingRoom.afterOffer answer { room with box := after }).1))
      (WaitingRoom.afterOffer answer { room with box := after }).2 := by
  have hline := h.offer hcap message
  rw [hoffer] at hline
  obtain ⟨hline, hsplit⟩ := hline.afterOffer hcap answer
  cases answer with
  | error error => exact advanced_of_split start hline hsplit
  | ok evicted =>
    have hnone : senders room.waiting = [] := h.senders_of_ok (congrArg Prod.fst hoffer)
    rw [hnone] at hsplit ⊢
    obtain ⟨hpleased, hsenders⟩ := List.append_eq_nil_iff.1 hsplit
    have hokay : ∀ finished : List (Nat × Finished), pleased finished = [] →
        pleased ((start, .sent (.ok evicted)) :: finished) = [start] :=
      fun finished hfinished => congrArg (start :: ·) hfinished
    rw [hokay _ hpleased]
    exact ⟨hline, by rw [hsenders]; exact .refl _, List.prefix_refl _⟩

/-- In one step nobody overtakes those who wait, nor do they overtake each other. -/
theorem InLine.step (h : InLine limits room) (hcap : limits.maxMessages ≠ some 0) (start : Nat)
    (request : Request) :
    Advanced limits (senders room.waiting ++ [start])
      (okays start (room.step (request.op start))) (room.step (request.op start)).2.2 := by
  cases request with
  | offer message =>
    obtain ⟨answer, after, hoffer⟩ : ∃ answer after, room.box.offer message = (answer, after) :=
      ⟨_, _, rfl⟩
    have hstep : room.step (.offer message) =
        (.offered answer, WaitingRoom.afterOffer answer { room with box := after }) := by
      rw [WaitingRoom.step, hoffer]
    have hokays : okays start
          (.offered answer, WaitingRoom.afterOffer answer { room with box := after }) =
        pleased ((start, .sent answer) ::
          (WaitingRoom.afterOffer answer { room with box := after }).1) := by
      cases answer <;> rfl
    rw [Request.op, hstep, hokays]
    exact h.answered hcap start hoffer
  | send message =>
    obtain ⟨answer, after, hoffer⟩ : ∃ answer after, room.box.offer message = (answer, after) :=
      ⟨_, _, rfl⟩
    cases hwait : mustWait answer with
    | true =>
      have hfull := mustWait_iff.1 hwait
      subst hfull
      have hstep : room.step (.send start message) =
          (.done, [], ⟨after, room.waiting ++ [.sender start message]⟩) := by
        simp only [WaitingRoom.step, hoffer, hwait, if_true]
      have hline := h.offer hcap message
      rw [hoffer] at hline
      rw [Request.op, hstep]
      refine ⟨⟨hline.proper, ?_⟩, ?_, List.nil_prefix⟩
      · intro waiter hmem hsender
        rcases List.mem_append.1 hmem with hthere | hcomes
        · exact hline.vain waiter hthere hsender
        · obtain rfl := List.mem_singleton.1 hcomes
          exact Waiter.vain_of_attempt (Waiter.attempt_sender_none.2 hoffer)
      · show (senders (room.waiting ++ [.sender start message])).Sublist _
        rw [senders, List.filterMap_append]
        exact .refl _
    | false =>
      have hstep : room.step (.send start message) =
          (.done, (start, .sent answer) ::
              (WaitingRoom.afterOffer answer { room with box := after }).1,
            (WaitingRoom.afterOffer answer { room with box := after }).2) := by
        simp only [WaitingRoom.step, hoffer, hwait, Bool.false_eq_true, if_false]
      rw [Request.op, hstep]
      exact h.answered hcap start hoffer
  | receive =>
    obtain ⟨finished, after, hstep, hline, hsplit⟩ := h.receive hcap start
    rw [Request.op, hstep]
    exact advanced_of_split start hline hsplit
  | cancel name =>
    have hsub : (senders (room.waiting.filter (·.name != name))).Sublist (senders room.waiting) :=
      List.filter_sublist.filterMap _
    refine ⟨⟨h.proper, ?_⟩, hsub.trans (List.sublist_append_left _ _), List.nil_prefix⟩
    exact fun waiter hmem => h.vain waiter (List.mem_of_mem_filter hmem)
  | close =>
    exact @advanced_of_closed limits { room with box := room.box.close } hcap h.proper.close rfl _
  | abort =>
    exact @advanced_of_closed limits { room with box := room.box.abort } hcap h.proper.abort rfl _

/-- Over a whole run those who were answered well, and behind them those who still wait to send, are
in the order in which they came. -/
theorem InLine.serve (h : InLine limits room) (hcap : limits.maxMessages ≠ some 0) {start : Nat}
    {okays : List Nat} (hline : (okays ++ senders room.waiting).Sublist (List.range start))
    (requests : List Request) :
    InLine limits (serve room start requests).2 ∧
      (okays ++ (serve room start requests).1 ++
          senders (serve room start requests).2.waiting).Sublist
        (List.range (start + requests.length)) := by
  induction requests generalizing room start okays with
  | nil =>
    rw [WaitingRoom.serve, List.append_nil]
    exact ⟨h, hline⟩
  | cons request later ih =>
    obtain ⟨hstep, hrest, -⟩ := h.step hcap start request
    have hnext : (okays ++ WaitingRoom.okays start (room.step (request.op start)) ++
        senders (room.step (request.op start)).2.2.waiting).Sublist (List.range (start + 1)) := by
      have hboth := (hrest.append_left okays).trans
        (List.append_assoc okays _ _ ▸ hline.append_right [start])
      rwa [← List.append_assoc, ← List.range_succ] at hboth
    obtain ⟨hlast, hall⟩ := ih hstep hnext
    refine ⟨hlast, ?_⟩
    rw [List.length_cons, Nat.add_comm later.length, ← Nat.add_assoc]
    rw [List.append_assoc okays] at hall
    exact hall

/-- **No sender overtakes another.** -/
theorem no_overtaking (limits : QueueLimits) (hsound : limits.sound = true)
    (requests : List Request) :
    let served := serve (new limits) 0 requests
    let start := requests.length
    -- Those who were answered well, in the order in which they were, and behind them those who
    -- still wait to send are in the order in which they were started.
    (served.1 ++ senders served.2.waiting).Sublist (List.range start) ∧
    served.1.Pairwise (· < ·) ∧
    -- While a sender waits, nobody who offers without waiting is answered well.
    (senders served.2.waiting ≠ [] →
      ∀ message evicted, (served.2.box.offer message).1 ≠ .ok evicted) ∧
    -- Whatever is asked next, only the first in line are answered well.
    (∀ request : Request,
      okays start (served.2.step (request.op start)) <+: senders served.2.waiting ++ [start]) ∧
    -- When senders try again because a message is taken out, then behind the first that has to
    -- wait again all have to.
    pleased (served.2.step (.receive start)).2.1 ++
        senders (served.2.step (.receive start)).2.2.waiting = senders served.2.waiting := by
  intro served start
  have hcap := QueueLimits.maxMessages_ne hsound
  obtain ⟨hline, horder⟩ : InLine limits served.2 ∧
      (served.1 ++ senders served.2.waiting).Sublist (List.range start) := by
    have hnobody : ([] ++ senders (new limits : WaitingRoom Nat).waiting).Sublist
        (List.range 0) := .refl _
    have hserve := (inLine_new limits).serve hcap hnobody requests
    rwa [Nat.zero_add] at hserve
  refine ⟨horder, ?_, ?_, ?_, ?_⟩
  · have hokays := (List.sublist_append_left served.1 _).trans horder
    exact List.Pairwise.sublist hokays List.pairwise_lt_range
  · intro hbusy message evicted hok
    exact hbusy (hline.senders_of_ok hok)
  · intro request
    exact (hline.step hcap start request).first
  · obtain ⟨finished, after, hstep, -, hsplit⟩ := hline.receive hcap start
    rw [hstep]
    exact hsplit

/-- A large message waits for the queue to drain, and small ones behind it wait as well. -/
theorem no_overtaking_behind_large :
    let limits : QueueLimits := ⟨4, 1, none, .blockProducer⟩
    let served := serve (new limits) 0
      [.send [1, 2, 3], .send [4, 5, 6], .send [7, 8], .send [], .receive]
    limits.sound = true ∧ served.1 = [0, 1] ∧ senders served.2.waiting = [2, 3] ∧
      (served.1 ++ senders served.2.waiting).Sublist (List.range 5) :=
  ⟨by decide, by decide, by decide, (no_overtaking _ (by decide) _).1⟩

end WaitingRoom

end ChatRelay
