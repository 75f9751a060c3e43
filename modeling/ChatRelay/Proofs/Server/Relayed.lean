import ChatRelay.Proofs.EventLoop.Members
import ChatRelay.Proofs.Frame.Relaying
import ChatRelay.Proofs.Server.GivenUp
import ChatRelay.Proofs.Session.Reception
import ChatRelay.Server.TaskGroup

/-!
# What a server relays

Whatever a server reads it can relay. The sessions of an event loop and the tasks of a group have
the codec of their configuration and decode soundly (`Session.Decodes`, `Decoder.Speaks`), whatever
is done with them; so they give only what that codec carries, and everything that was ever to be
relayed can be encoded and is read by anybody with the same codec as one frame (`relayed_intact`).

A loop relays what it reads, and nothing else,

    (loop.act action).relayed = loop.relayed ++ loop.heard action    (`relayed_act`),

and the history of a group grows where a task pulls a message (`TaskGroup.Faithful.pullFrames`).
-/

namespace ChatRelay

/-! ## Sessions -/

namespace Session

variable {codec : Codec} {s t : Session} {given frames : List Bytes}

/-- A session has this codec, and what its decoder remembers is true as long as it decodes. -/
structure Decodes (codec : Codec) (s : Session) : Prop where
  reset : s.decoder.codec.reset = codec.reset
  sound : s.isDraining = false → s.decoder.Sound

theorem decodes_new (id : SessionId) (peer : String) (endpoint : Endpoint) (codec : Codec)
    (limits : QueueLimits) : (new id peer endpoint codec.reset limits).Decodes codec :=
  ⟨(Decoder.speaks_new codec).reset, fun _ => Decoder.sound_new codec⟩

theorem Decodes.of_same (h : s.Decodes codec) (hdecoder : t.decoder = s.decoder)
    (hphase : t.phase = s.phase) : t.Decodes codec := by
  refine ⟨hdecoder ▸ h.reset, fun hopen => ?_⟩
  rw [hdecoder]
  apply h.sound
  rwa [isDraining, ← hphase]

theorem Decodes.receive (h : s.Decodes codec) {bytes : Bytes} {closed : Option CloseReason}
    (hreceived : s.receive bytes = (frames, closed, t)) :
    t.Decodes codec ∧ ∀ payload ∈ frames, codec.Carries payload := by
  unfold Session.receive at hreceived
  split at hreceived
  · cases hreceived
    exact ⟨h, nofun⟩
  · next hopen =>
    cases hreceived
    have hspeaks : s.decoder.Speaks codec := ⟨h.reset, h.sound (Bool.eq_false_iff.2 hopen)⟩
    obtain ⟨hdrained, hcarries⟩ := (hspeaks.feed bytes).drain
    exact ⟨⟨hdrained.reset, fun _ => hdrained.sound⟩, hcarries⟩

/-- A read gives only what the codec carries. -/
theorem Decodes.readFrom (h : s.Decodes codec) (hgiven : ∀ payload ∈ given, codec.Carries payload) :
    (readFrom given s).2.Decodes codec ∧
      ∀ payload ∈ (readFrom given s).1.frames, codec.Carries payload := by
  fun_induction Session.readFrom given s with
  | case1 given s endpoint hanswer => exact ⟨h.of_same rfl rfl, hgiven⟩
  | case2 given s b bytes endpoint hanswer frames reason s' hreceived =>
    have hread : Decodes codec { s with endpoint } := h.of_same rfl rfl
    obtain ⟨hdecodes, hcarries⟩ := hread.receive hreceived
    exact ⟨hdecodes, List.forall_mem_append.2 ⟨hgiven, hcarries⟩⟩
  | case3 given s b bytes endpoint hanswer frames s' hreceived ih =>
    have hread : Decodes codec { s with endpoint } := h.of_same rfl rfl
    obtain ⟨hdecodes, hcarries⟩ := hread.receive hreceived
    exact ih hdecodes (List.forall_mem_append.2 ⟨hgiven, hcarries⟩)
  | case4 given s fault endpoint hanswer hblocked => exact ⟨h.of_same rfl rfl, hgiven⟩
  | case5 given s fault endpoint hanswer hblocked hinterrupted ih =>
    exact ih (h.of_same rfl rfl) hgiven
  | case6 given s fault endpoint hanswer hblocked hinterrupted =>
    exact ⟨h.of_same rfl rfl, hgiven⟩

theorem Decodes.readReady (h : s.Decodes codec) :
    s.readReady.2.Decodes codec ∧ ∀ payload ∈ s.readReady.1.frames, codec.Carries payload :=
  h.readFrom nofun

/-- A session that is closed decodes nothing any more, so that it does not matter what its decoder
remembers of the bytes that were thrown away. -/
theorem Decodes.beginClose (h : s.Decodes codec) (now drain : Nat) :
    (s.beginClose now drain).Decodes codec := by
  refine ⟨?_, fun hopen => ?_⟩
  · unfold Session.beginClose
    split <;> exact h.reset
  · rw [isDraining_beginClose] at hopen
    cases hopen

theorem Decodes.meet (h : s.Decodes codec) (event : SessionEvent) :
    (s.meet event).Decodes codec := by
  cases event with
  | enqueue message => exact h.of_same (decoder_enqueue s message) (phase_enqueue s message)
  | read => exact h.readReady.1
  | write => exact h.of_same (decoder_writeReady s) (writes_writeReady s).phase
  | close now drain => exact h.beginClose now drain
  | network change => exact h.of_same rfl rfl

end Session

/-! ## Event loops -/

namespace EventLoop

variable {codec : Codec} {loop loop' : EventLoop} {welcome : Endpoint → Prop}

/-- The loops agree on what every session is given and on what has been relayed. -/
structure SameHistory (loop loop' : EventLoop) : Prop where
  plan : loop'.plan = loop.plan
  relayed : loop'.relayed = loop.relayed

theorem SameHistory.refl (loop : EventLoop) : SameHistory loop loop := ⟨rfl, rfl⟩

theorem SameHistory.trans {loop'' : EventLoop} (h : SameHistory loop loop')
    (h' : SameHistory loop' loop'') : SameHistory loop loop'' :=
  ⟨h'.plan.trans h.plan, h'.relayed.trans h.relayed⟩

theorem sameHistory_foldl {α : Type} {f : EventLoop → α → EventLoop}
    (hf : ∀ loop a, SameHistory loop (f loop a)) (as : List α) (loop : EventLoop) :
    SameHistory loop (as.foldl f loop) :=
  foldl_related SameHistory.refl SameHistory.trans hf as loop

theorem sameHistory_updateInterest (loop : EventLoop) (id : SessionId) :
    SameHistory loop (loop.updateInterest id) := by
  unfold updateInterest
  split
  · exact .refl loop
  · dsimp only
    split
    · exact .refl loop
    · exact ⟨rfl, rfl⟩

theorem sameHistory_release (loop : EventLoop) (id : SessionId) :
    SameHistory loop (loop.release id) := by
  unfold release
  split
  · exact .refl loop
  · exact ⟨rfl, rfl⟩

theorem Tend.sameHistory (h : Tend loop loop') : SameHistory loop loop' := by
  cases h with
  | @settle slot session found served =>
    have hsettled := sameHistory_updateInterest (loop.put session) session.id
    exact ⟨hsettled.plan, hsettled.relayed⟩
  | @dismiss slot session found =>
    have hdismissed := sameHistory_release (loop.put session) session.id
    exact ⟨hdismissed.plan, hdismissed.relayed⟩
  | release id => exact sameHistory_release loop id

theorem Tends.sameHistory (h : Tends loop loop') : SameHistory loop loop' := by
  induction h with
  | refl => exact .refl loop
  | tail _ hlast ih => exact ih.trans hlast.sameHistory

theorem sameHistory_acceptFrom (backlog : List Incoming) (loop : EventLoop) :
    SameHistory loop (loop.acceptFrom backlog).1 := by
  induction backlog generalizing loop with
  | nil => exact .refl loop
  | cons incoming rest ih =>
    cases incoming with
    | connection peer endpoint =>
      have hadded : SameHistory loop (loop.addSession peer endpoint) := ⟨rfl, rfl⟩
      exact hadded.trans (ih _)
    | fault fault =>
      unfold acceptFrom
      split
      · exact ih loop
      · exact .refl loop

theorem sameHistory_acceptReady (loop : EventLoop) (token : Nat) :
    SameHistory loop (loop.acceptReady token) := by
  unfold acceptReady
  split
  · exact .refl loop
  · next listener hlistener =>
    have haccepted := sameHistory_acceptFrom listener.backlog loop
    dsimp only
    split
    · exact ⟨haccepted.plan, haccepted.relayed⟩
    · exact ⟨haccepted.plan, haccepted.relayed⟩

/-- Relaying a message adds it to the history. -/
theorem history_route (origin : SessionId) (loop : EventLoop) (payload : Bytes) :
    (loop.route origin payload).plan = loop.plan ∧
      (loop.route origin payload).relayed = loop.relayed ++ [(origin, payload)] := by
  have hspread := sameHistory_foldl sameHistory_updateInterest (loop.takers origin payload)
    (loop.offered origin payload)
  have hroute := hspread.trans (tends_route origin loop payload).sameHistory
  exact ⟨hroute.plan, hroute.relayed⟩

theorem history_foldl_route (origin : SessionId) (payloads : List Bytes) (loop : EventLoop) :
    (payloads.foldl (route origin) loop).plan = loop.plan ∧
      (payloads.foldl (route origin) loop).relayed =
        loop.relayed ++ payloads.map (origin, ·) := by
  induction payloads generalizing loop with
  | nil => exact ⟨rfl, (List.append_nil _).symm⟩
  | cons payload rest ih =>
    obtain ⟨hplan, hrelayed⟩ := history_route origin loop payload
    obtain ⟨hplans, hall⟩ := ih (loop.route origin payload)
    refine ⟨hplans.trans hplan, ?_⟩
    rw [List.foldl_cons, hall, hrelayed, List.append_assoc]
    rfl

/-- What a loop reads in an action, with the session that it comes from. -/
def heard (loop : EventLoop) : LoopAction → List (SessionId × Bytes)
  | .dispatch (.read id) =>
    match loop.slot? id with
    | none => []
    | some slot => slot.session.readReady.1.frames.map (id, ·)
  | _ => []

/-- A loop relays what it reads, and nothing else. -/
theorem relayed_act (loop : EventLoop) (action : LoopAction) :
    (loop.act action).plan = loop.plan ∧
      (loop.act action).relayed = loop.relayed ++ loop.heard action := by
  have hquiet : ∀ {loop' : EventLoop}, SameHistory loop loop' →
      loop'.plan = loop.plan ∧ loop'.relayed = loop.relayed ++ [] :=
    fun h => ⟨h.plan, h.relayed.trans (List.append_nil _).symm⟩
  cases action with
  | dispatch readiness =>
    cases readiness with
    | accept token => exact hquiet (sameHistory_acceptReady loop token)
    | read id =>
      show (loop.readReady id).plan = _ ∧ (loop.readReady id).relayed = _
      cases found : loop.slot? id with
      | none =>
        have hsame : loop.readReady id = loop := by simp only [readReady, found]
        have hnothing : loop.heard (.dispatch (.read id)) = [] := by simp only [heard, found]
        rw [hsame, hnothing]
        exact hquiet (.refl loop)
      | some slot =>
        obtain ⟨hplan, hrelayed⟩ := history_foldl_route id slot.session.readReady.1.frames
          (loop.put slot.session.readReady.2)
        simp only [readReady, heard, found]
        split
        · exact ⟨hplan, hrelayed⟩
        · next reason hreason =>
          split
          · obtain ⟨hplan', hrelayed'⟩ := sameHistory_release _ id
            exact ⟨hplan'.trans hplan, hrelayed'.trans hrelayed⟩
          · obtain ⟨hplan', hrelayed'⟩ := (tends_closeSession _ id reason).sameHistory
            exact ⟨hplan'.trans hplan, hrelayed'.trans hrelayed⟩
    | write id => exact hquiet (tends_writeReady loop id).sameHistory
    | failed id => exact hquiet (tends_errorReady loop id).sameHistory
  | retry =>
    have hretried := sameHistory_foldl sameHistory_acceptReady loop.retries
      { loop with retries := [] }
    exact hquiet ⟨hretried.plan, hretried.relayed⟩
  | expire => exact hquiet (tends_expireDrains loop).sameHistory
  | stop =>
    have hstopped := (tends_beginShutdown loop).sameHistory
    exact hquiet ⟨hstopped.plan, hstopped.relayed⟩
  | leaveAll => exact hquiet (tends_releaseAll loop).sameHistory
  | outside outside =>
    cases outside with
    | comes token incoming => exact hquiet ⟨rfl, rfl⟩
    | changes id change =>
      refine hquiet ?_
      show SameHistory loop (loop.happen (.changes id change))
      unfold happen
      dsimp only
      split
      · exact .refl loop
      · exact ⟨rfl, rfl⟩
  | clock now => exact hquiet ⟨rfl, rfl⟩

/-- Every session of the loop has this codec, and the codec carries all that was relayed. -/
structure Faithful (codec : Codec) (loop : EventLoop) : Prop where
  plan : loop.plan.codec = codec.reset
  sessions : ∀ slot ∈ loop.slots, slot.session.Decodes codec
  relayed : ∀ message ∈ loop.relayed, codec.Carries message.2

/-- With the plan of a loop, its sessions keep their codec. -/
theorem Stroke.decodes (h : Stroke welcome loop loop') (hplan : loop.plan.codec = codec.reset)
    (hloop : ∀ slot ∈ loop.slots, slot.session.Decodes codec) :
    ∀ slot ∈ loop'.slots, slot.session.Decodes codec := by
  intro slot' hslot'
  rcases h.sessions hslot' with ⟨slot, hslot, events, heq⟩ | ⟨id, peer, endpoint, -, heq⟩
  · rw [heq]
    exact Session.foldl_meet_keeps (fun event hs => hs.meet event) events (hloop slot hslot)
  · obtain ⟨events, hevents⟩ := loop.plan.newcomer_meets id peer endpoint
    rw [heq, hevents, hplan]
    exact Session.foldl_meet_keeps (fun event hs => hs.meet event) events
      (Session.decodes_new id peer endpoint codec loop.plan.limits)

theorem Stroke.plan_eq (h : Stroke welcome loop loop') : loop'.plan = loop.plan := by
  cases h with
  | tend tend => exact tend.sameHistory.plan
  | spread origin payload =>
    have hspread := sameHistory_foldl sameHistory_updateInterest (loop.takers origin payload)
      (loop.offered origin payload)
    exact hspread.plan
  | join peer came => rfl
  | hear found => rfl
  | change found change => rfl
  | aside plan slots calls => exact plan

/-- What a loop reads, the codec of its sessions carries. -/
theorem Faithful.heard (h : loop.Faithful codec) (action : LoopAction) :
    ∀ message ∈ loop.heard action, codec.Carries message.2 := by
  intro message hmessage
  unfold EventLoop.heard at hmessage
  split at hmessage
  · split at hmessage
    · cases hmessage
    · next slot found =>
      obtain ⟨payload, hpayload, rfl⟩ := List.mem_map.1 hmessage
      exact (h.sessions slot (mem_of_slot? found).1).readReady.2 payload hpayload
  · cases hmessage

theorem Faithful.act (h : loop.Faithful codec) (action : LoopAction) :
    (loop.act action).Faithful codec := by
  obtain ⟨hplan, hrelayed⟩ := relayed_act loop action
  obtain ⟨-, hsessions⟩ := (strokes_act loop action).keeps
    (P := fun loop => loop.plan.codec = codec.reset ∧
      ∀ slot ∈ loop.slots, slot.session.Decodes codec)
    (fun hstroke hloop => ⟨hstroke.plan_eq ▸ hloop.1, hstroke.decodes hloop.1 hloop.2⟩)
    ⟨h.plan, h.sessions⟩
  refine ⟨hplan ▸ h.plan, hsessions, ?_⟩
  rw [hrelayed]
  exact List.forall_mem_append.2 ⟨h.relayed, h.heard action⟩

theorem faithful_new {plan : SessionPlan} (hplan : plan.codec = codec.reset)
    (sockets : List SocketAddress) : (EventLoop.new plan sockets).Faithful codec :=
  ⟨hplan, fun _ hslot => absurd hslot List.not_mem_nil,
    fun _ hmessage => absurd hmessage List.not_mem_nil⟩

/-- A loop stays faithful wherever its run comes to. -/
theorem Faithful.run (h : loop.Faithful codec) (deadline : Option Nat) (turns : List Turn) :
    (run (.running loop deadline) turns).loop.Faithful codec := by
  obtain ⟨actions, hactions⟩ := loop_run_acts (.running loop deadline) turns
  rw [hactions]
  exact acts_keep (fun action hloop => hloop.act action) h actions

end EventLoop

/-! ## Groups of tasks -/

/-- Something that happens to a group, or a part of what it does by itself; the parts may come in
any order. -/
inductive GroupEvent
  | connect (peer : String) (endpoint : Endpoint)
  | network (id : SessionId) (change : Endpoint.Change)
  | clock (now : Nat)
  | stop
  /-- A writer writes what it can. -/
  | write (id : SessionId)
  /-- A task that has to end begins to. -/
  | heed (id : SessionId)
  /-- At most so many messages are pulled from a connection, and relayed. -/
  | pull (id : SessionId) (messages : Nat)
  /-- A task does all that it can. -/
  | tend (id : SessionId)
  | settle
  deriving DecidableEq

namespace Task

variable {codec : Codec} {task : Task}

/-- A writer does not read. -/
theorem reader_writeStep {box box' : Mailbox} {task' : Task}
    (h : writeStep box task = some (box', task')) : task'.reader = task.reader := by
  unfold writeStep at h
  split at h
  · cases h
  · split at h
    · cases h
      rfl
    · cases h
      rfl
    · cases h
  · split at h
    · split at h
      · cases h
        rfl
      · split at h
        · cases h
          rfl
        · cases h
          rfl
    · split at h
      · split at h
        · cases h
        · cases h
          rfl
      · cases h
        rfl

theorem reader_writeSteps (box : Mailbox) (task : Task) (fuel : Nat) :
    (writeSteps box task fuel).2.reader = task.reader := by
  induction fuel generalizing box task with
  | zero => rfl
  | succ fuel ih =>
    unfold writeSteps
    split
    · next box' task' hstep =>
      exact (ih box' task').trans (reader_writeStep hstep)
    · rfl

theorem reader_endWriting (now : Nat) (task : Task) :
    (task.endWriting now).reader = task.reader := by
  unfold endWriting
  split
  · rfl
  · split <;> rfl
  · rfl

theorem reader_drain (now : Nat) (task : Task) : (task.drain now).reader = task.reader := by
  unfold drain
  split <;> rfl

/-- Whatever is pulled, the codec carries it. -/
theorem speaks_pull (task : Task) (h : task.reader.decoder.Speaks codec) :
    task.pull.2.reader.decoder.Speaks codec ∧
      ∀ payload, task.pull.1 = .message payload → codec.Carries payload := by
  obtain ⟨hreader, hcarries⟩ := FrameReader.speaks_pull h task.endpoint
  unfold pull
  rcases hpull : task.reader.pull task.endpoint with ⟨pulled, reader, endpoint⟩
  rw [hpull] at hreader hcarries
  cases pulled with
  | frame payload =>
    refine ⟨hreader, ?_⟩
    rintro _ ⟨⟩
    exact hcarries payload rfl
  | failed error =>
    cases error with
    | io fault => exact ⟨hreader, nofun⟩
    | payloadTooLarge len max => exact ⟨hreader, nofun⟩
    | emptyFrame => exact ⟨hreader, nofun⟩
    | lineTooLong max => exact ⟨hreader, nofun⟩
  | ended => exact ⟨hreader, nofun⟩
  | nothing => exact ⟨hreader, nofun⟩

end Task

namespace TaskGroup

variable {codec : Codec} {group : TaskGroup}

/-- The group after something has happened. -/
def meet (group : TaskGroup) : GroupEvent → TaskGroup
  | .connect peer endpoint => group.addTask peer endpoint
  | .network id change => group.happen id change
  | .clock now => { group with now }
  | .stop => { group with stopping := true }
  | .write id => group.write id
  | .heed id => group.heed id
  | .pull id messages => group.pullFrames id messages
  | .tend id => group.tend id
  | .settle => group.settle

/-- The group after things have happened one after another. -/
def run (group : TaskGroup) (events : List GroupEvent) : TaskGroup := events.foldl meet group

/-- Every task of the group has this codec, and so has the exchange, and the codec carries all that
was relayed. -/
structure Faithful (codec : Codec) (group : TaskGroup) : Prop where
  plan : group.plan.codec = codec.reset
  exchange : group.exchange.codec = codec.reset
  tasks : ∀ task ∈ group.tasks, task.reader.decoder.Speaks codec
  relayed : ∀ message ∈ group.relayed, codec.Carries message.2

theorem faithful_new {plan : SessionPlan} (hplan : plan.codec = codec.reset) :
    (TaskGroup.new plan).Faithful codec :=
  ⟨hplan, hplan, fun _ htask => absurd htask List.not_mem_nil,
    fun _ hmessage => absurd hmessage List.not_mem_nil⟩

theorem Faithful.task (h : group.Faithful codec) {id : SessionId} {task : Task}
    (found : group.task? id = some task) : task.reader.decoder.Speaks codec :=
  h.tasks task (List.mem_of_find?_eq_some found)

/-- One task has changed. -/
theorem Faithful.put (h : group.Faithful codec) {task : Task}
    (htask : task.reader.decoder.Speaks codec) : (group.put task).Faithful codec := by
  refine ⟨h.plan, h.exchange, ?_, h.relayed⟩
  intro task' htask'
  obtain ⟨old, hold, rfl⟩ := List.mem_map.1 htask'
  split
  · exact htask
  · exact h.tasks old hold

/-- Mailboxes or the places at the exchange have changed. -/
theorem Faithful.onExchange (h : group.Faithful codec) {exchange : Exchange}
    (hexchange : exchange.codec = group.exchange.codec) :
    Faithful codec { group with exchange } :=
  ⟨h.plan, hexchange.trans h.exchange, h.tasks, h.relayed⟩

theorem Faithful.addTask (h : group.Faithful codec) (peer : String) (endpoint : Endpoint) :
    (group.addTask peer endpoint).Faithful codec := by
  unfold TaskGroup.addTask
  split
  · exact h
  · refine ⟨h.plan, h.exchange, ?_, h.relayed⟩
    refine List.forall_mem_append.2 ⟨h.tasks, List.forall_mem_singleton.2 ?_⟩
    show (Decoder.new group.plan.codec).Speaks codec
    rw [h.plan]
    exact Decoder.speaks_new codec

theorem Faithful.write (h : group.Faithful codec) (id : SessionId) :
    (group.write id).Faithful codec := by
  unfold TaskGroup.write
  split
  · next task box found hbox =>
    have htask : (task.write box).2.reader.decoder.Speaks codec := by
      rw [Task.write, Task.reader_writeSteps]
      exact h.task found
    exact (h.put htask).onExchange rfl
  · exact h

theorem faithful_foldl {α : Type} {f : TaskGroup → α → TaskGroup}
    (hf : ∀ {group} a, Faithful codec group → Faithful codec (f group a)) (as : List α)
    (h : group.Faithful codec) : (as.foldl f group).Faithful codec := by
  induction as generalizing group with
  | nil => exact h
  | cons a as ih => exact ih (hf a h)

theorem Faithful.finish (h : group.Faithful codec) {task : Task}
    (htask : task.reader.decoder.Speaks codec) (reason : CloseReason) :
    (group.finish task reason).Faithful codec := by
  have hput : (group.put (task.finish reason (group.now + group.plan.drain))).Faithful codec :=
    h.put htask
  exact hput.onExchange (Exchange.codec_step _ (.leave task.id))

theorem Faithful.heed (h : group.Faithful codec) (id : SessionId) :
    (group.heed id).Faithful codec := by
  unfold TaskGroup.heed
  split
  · exact h
  · next task found =>
    have htask := h.task found
    split
    · exact h.finish htask _
    · split
      · exact h.finish htask _
      · exact h
    · exact h

theorem Faithful.relay (h : group.Faithful codec) (origin : SessionId) {payload : Bytes}
    (hcarries : codec.Carries payload) : (group.relay origin payload).Faithful codec := by
  refine ⟨h.plan, (Exchange.codec_step _ _).trans h.exchange, h.tasks, ?_⟩
  exact List.forall_mem_append.2 ⟨h.relayed, List.forall_mem_singleton.2 hcarries⟩

theorem Faithful.writeAll (h : group.Faithful codec) : group.writeAll.Faithful codec :=
  faithful_foldl (fun id hgroup => hgroup.write id) _ h

theorem Faithful.pullFrames (h : group.Faithful codec) (id : SessionId) (fuel : Nat) :
    (group.pullFrames id fuel).Faithful codec := by
  induction fuel generalizing group with
  | zero => exact h
  | succ fuel ih =>
    unfold TaskGroup.pullFrames
    split
    · exact h
    · next task found =>
      have hpull := task.speaks_pull (h.task found)
      split
      · next task' heq =>
        rw [heq] at hpull
        exact h.put hpull.1
      · next reason task' heq =>
        rw [heq] at hpull
        exact h.finish hpull.1 reason
      · next payload task' heq =>
        rw [heq] at hpull
        exact ih (((h.put hpull.1).relay id (hpull.2 payload rfl)).writeAll)

theorem Faithful.read (h : group.Faithful codec) (id : SessionId) :
    (group.read id).Faithful codec := by
  unfold TaskGroup.read
  split
  · exact h
  · split
    · exact h.pullFrames id _
    · exact h

theorem Faithful.tend (h : group.Faithful codec) (id : SessionId) :
    (group.tend id).Faithful codec := by
  have hdone := ((((((h.write id).heed id).read id).write id).heed id).write id)
  unfold TaskGroup.tend
  dsimp only
  split
  · exact hdone
  · next task found =>
    refine hdone.put ?_
    rw [Task.reader_drain, Task.reader_endWriting]
    exact hdone.task found

/-- Whatever a group does, and whatever happens to it, it stays faithful. -/
theorem Faithful.meet (h : group.Faithful codec) (event : GroupEvent) :
    (group.meet event).Faithful codec := by
  cases event with
  | connect peer endpoint => exact h.addTask peer endpoint
  | network id change =>
    show (group.happen id change).Faithful codec
    unfold TaskGroup.happen
    split
    · exact h
    · next task found =>
      have htask := h.task found
      exact h.put htask
  | clock now => exact ⟨h.plan, h.exchange, h.tasks, h.relayed⟩
  | stop => exact ⟨h.plan, h.exchange, h.tasks, h.relayed⟩
  | write id => exact h.write id
  | heed id => exact h.heed id
  | pull id messages => exact h.pullFrames id messages
  | tend id => exact h.tend id
  | settle =>
    have htend : ∀ {group : TaskGroup} id, group.Faithful codec → (group.tend id).Faithful codec :=
      fun id hgroup => hgroup.tend id
    exact faithful_foldl htend _ (faithful_foldl htend _ h)

theorem Faithful.run (h : group.Faithful codec) (events : List GroupEvent) :
    (group.run events).Faithful codec :=
  faithful_foldl (fun event hgroup => hgroup.meet event) events h

end TaskGroup

/-! ## Servers -/

namespace ServerConfig

theorem codec_fresh (config : ServerConfig) : config.codec.reset = config.codec := by
  unfold codec Codec.new
  cases config.framing <;> rfl

/-- The limit of a line is a number of bytes, and that of a payload is one that four bytes spell. -/
theorem limitFits (config : ServerConfig)
    (hsize : ∀ max ∈ config.maxLineLength, max ≤ maxSize) : config.codec.LimitFits := by
  unfold codec Codec.new
  cases config.framing with
  | lines => exact hsize
  | lengthPrefixed => exact show maxPayload < 2 ^ 32 by decide

theorem codec_of_plan {config : ServerConfig} {plan : SessionPlan}
    (h : SessionPlan.ofConfig config = .ok plan) : plan.codec = config.codec := by
  unfold SessionPlan.ofConfig at h
  split at h
  · cases h
  · cases h
    rfl

/-- **Relaying never goes wrong.** Whatever a decoder of a server gives of any stream, however that
is cut, can be encoded, and whoever has the codec of that server reads exactly one frame from the
encoding, however it is cut: the same, or the same without one more carriage return at the end of
the line. So it is with everything that a server was ever to relay, in whatever order its loop or
its tasks do what they do. -/
theorem relayed_intact (config : ServerConfig)
    (hsize : ∀ max ∈ config.maxLineLength, max ≤ maxSize) :
    (∀ pieces : List Bytes, ∀ payload ∈ ((Decoder.new config.codec).feedAll pieces).frames,
      config.codec.Relays payload) ∧
    ∀ plan, SessionPlan.ofConfig config = .ok plan →
      (∀ sockets turns,
        let loop := (EventLoop.run (.running (.new plan sockets) none) turns).loop
        loop.plan.codec = config.codec ∧
          ∀ message ∈ loop.relayed, config.codec.Relays message.2) ∧
      ∀ events,
        let group := (TaskGroup.new plan).run events
        group.exchange.codec = config.codec ∧
          ∀ message ∈ group.relayed, config.codec.Relays message.2 := by
  have hfresh := config.codec_fresh
  have hfits := config.limitFits hsize
  have hrelays : ∀ {payload}, config.codec.Carries payload → config.codec.Relays payload := by
    intro payload hcarries
    rw [← hfresh] at hfits hcarries ⊢
    exact Codec.relays_of_carries hfits hcarries
  refine ⟨?_, ?_⟩
  · intro pieces payload hpayload
    have hsound : (Decoder.new config.codec).Sound := hfresh ▸ Decoder.sound_new config.codec
    exact hrelays ((Decoder.carries_feedAll hsound pieces).carries payload hpayload)
  · intro plan hplan
    have hcodec : plan.codec = config.codec.reset := (codec_of_plan hplan).trans hfresh.symm
    constructor
    · intro sockets turns loop
      have hloop : loop.Faithful config.codec :=
        (EventLoop.faithful_new hcodec sockets).run none turns
      exact ⟨hloop.plan.trans hfresh, fun message hmessage =>
        hrelays (hloop.relayed message hmessage)⟩
    · intro events group
      have hgroup : group.Faithful config.codec := (TaskGroup.faithful_new hcodec).run events
      exact ⟨hgroup.exchange.trans hfresh, fun message hmessage =>
        hrelays (hgroup.relayed message hmessage)⟩

/-- A line of four bytes where three are allowed, the last of them carriage returns: one is taken
off when it is read, and one more when it is read again. -/
theorem relayed_intact_at_limit :
    let config : ServerConfig := { standard with maxLineLength := some 3, greeting := none }
    let plan : SessionPlan := ⟨.lines (some 3) 0, .standard, none, nanos 3000, nanos 100⟩
    let line : Bytes := [97, 13, 13]
    let endpoint : Endpoint := { Endpoint.idle with arrivals := [.data [97, 13, 13, 13, 10]] }
    let turns : List Turn :=
      [⟨0, false, [.comes 1 (.connection "" endpoint)], 0,
        .ok [⟨1, true, false, false, false⟩, ⟨1024, true, false, false, false⟩]⟩]
    let loop := (EventLoop.run (.running (.new plan [default]) none) turns).loop
    let group := (TaskGroup.new plan).run [.connect "" endpoint, .settle]
    (∀ max ∈ config.maxLineLength, max ≤ maxSize) ∧
      ((Decoder.new config.codec).feedAll [[97, 13], [13, 13, 10]]).frames = [line] ∧
      SessionPlan.ofConfig config = .ok plan ∧
      loop.relayed = [(⟨1024⟩, line)] ∧ group.relayed = [(⟨1024⟩, line)] ∧
      config.codec.encode line = .ok [97, 13, 13, 10] ∧
      (Decoder.new config.codec).feedAll [[97, 13], [13], [10]] =
        ⟨[[97, 13]], none, Decoder.new config.codec⟩ := by
  intro config plan line endpoint turns loop group
  have hsize : ∀ max ∈ config.maxLineLength, max ≤ maxSize := by
    intro max hmax
    rw [← Option.some.inj hmax]
    decide
  have hframes : ((Decoder.new config.codec).feedAll [[97, 13], [13, 13, 10]]).frames = [line] := by
    decide +kernel
  have hplan : SessionPlan.ofConfig config = .ok plan := rfl
  have hloop : loop.relayed = [(⟨1024⟩, line)] := by decide +kernel
  have hgroup : group.relayed = [(⟨1024⟩, line)] := by decide +kernel
  obtain ⟨hdecoded, -⟩ := relayed_intact config hsize
  obtain ⟨frame, hencode, hread⟩ := hdecoded _ line (hframes ▸ List.mem_singleton_self line)
  have hframe : config.codec.encode line = .ok [97, 13, 13, 10] := rfl
  have hsame : frame = [97, 13, 13, 10] := Except.ok.inj (hencode.symm.trans hframe)
  refine ⟨hsize, hframes, hplan, hloop, hgroup, hframe, ?_⟩
  exact hread [[97, 13], [13], [10]] hsame.symm

end ServerConfig

end ChatRelay
