import ChatRelay.Server.EventLoop.Run

/-!
# Actions of a loop

Everything that a loop does on its turns, and everything that happens to it in between, is one
action after another (`LoopAction`): it dispatches one thing about an event, whether that is stale
or not, it looks again at listeners that failed, it lets drains expire, it stops, it lets go of
everybody, or the world goes on. What holds after any actions in any order holds wherever a run has
come to (`loop_run_acts`), and nobody is left when a run has ended (`slots_of_ended`).
-/

namespace ChatRelay

/-- One thing that a loop does, or that happens to it. -/
inductive LoopAction
  | dispatch (readiness : Readiness)
  | retry
  | expire
  | stop
  | leaveAll
  | outside (outside : Outside)
  | clock (now : Nat)
  deriving DecidableEq

/-- Whether connections are accepted in an action. -/
def LoopAction.accepts : LoopAction → Bool
  | .dispatch (.accept _) | .retry => true
  | _ => false

namespace EventLoop

variable {loop : EventLoop}

/-- The loop after one action. -/
def act (loop : EventLoop) : LoopAction → EventLoop
  | .dispatch readiness => loop.dispatch readiness
  | .retry => loop.retryAccepts
  | .expire => loop.expireDrains
  | .stop => loop.beginShutdown
  | .leaveAll => loop.releaseAll
  | .outside outside => loop.happen outside
  | .clock now => { loop with now }

/-- The loop after actions one after another. -/
def acts (loop : EventLoop) (actions : List LoopAction) : EventLoop := actions.foldl act loop

theorem acts_append (loop : EventLoop) (actions later : List LoopAction) :
    loop.acts (actions ++ later) = (loop.acts actions).acts later :=
  List.foldl_append

theorem acts_concat (loop : EventLoop) (actions : List LoopAction) (action : LoopAction) :
    loop.acts (actions ++ [action]) = (loop.acts actions).act action :=
  acts_append loop actions [action]

/-! ## Turns -/

/-- Handling an event is dispatching what is to be done about it. -/
theorem handle_acts (loop : EventLoop) (event : PollEvent) :
    loop.handle event = loop.acts ((loop.readiness event).map .dispatch) := by
  rw [acts, List.foldl_map]
  rfl

theorem foldl_handle_acts (events : List PollEvent) (loop : EventLoop) :
    ∃ actions, events.foldl handle loop = loop.acts actions := by
  induction events generalizing loop with
  | nil => exact ⟨[], rfl⟩
  | cons event events ih =>
    obtain ⟨later, hlater⟩ := ih (loop.handle event)
    refine ⟨(loop.readiness event).map .dispatch ++ later, ?_⟩
    rw [List.foldl_cons, hlater, acts_append, handle_acts]

theorem foldl_happen_acts (outside : List Outside) (loop : EventLoop) :
    outside.foldl happen loop = loop.acts (outside.map .outside) := by
  rw [acts, List.foldl_map]
  rfl

theorem heedStop_acts (loop : EventLoop) (deadline : Option Nat) (stopAsked : Bool) :
    ∃ actions, (loop.heedStop deadline stopAsked).1 = loop.acts actions := by
  unfold heedStop
  split
  · exact ⟨[.stop], rfl⟩
  · exact ⟨[], rfl⟩

/-- The loop at the point of a turn where it has begun to stop, if it had to. -/
def heeded (loop : EventLoop) (deadline : Option Nat) (turn : Turn) : EventLoop :=
  ({ loop with now := turn.start }.heedStop deadline turn.stopAsked).1

theorem heeded_acts (loop : EventLoop) (deadline : Option Nat) (turn : Turn) :
    ∃ actions, loop.heeded deadline turn = loop.acts actions := by
  obtain ⟨actions, hactions⟩ :=
    heedStop_acts { loop with now := turn.start } deadline turn.stopAsked
  exact ⟨.clock turn.start :: actions, hactions⟩

/-- A turn either ends the run at once, or lets drains expire and looks again at the listeners that
failed, and goes on from there. -/
theorem turn_cases (loop : EventLoop) (deadline : Option Nat) (turn : Turn) :
    loop.turn deadline turn = .ended (loop.heeded deadline turn).releaseAll (.ok ()) ∨
      ∃ later, (loop.turn deadline turn).loop =
        (((loop.heeded deadline turn).act .expire).act .retry).acts later := by
  unfold EventLoop.turn
  dsimp only
  split
  · exact .inl rfl
  right
  have houtside := foldl_happen_acts turn.outside
    ((loop.heeded deadline turn).act .expire |>.act .retry)
  split
  · next events hevents =>
    obtain ⟨later, hlater⟩ := foldl_handle_acts events
      { turn.outside.foldl happen ((loop.heeded deadline turn).act .expire |>.act .retry) with
        now := turn.woken }
    refine ⟨turn.outside.map .outside ++ .clock turn.woken :: later, ?_⟩
    rw [acts_append, ← houtside]
    exact hlater
  · next fault hfault =>
    split
    · refine ⟨turn.outside.map .outside ++ [.clock turn.woken], ?_⟩
      rw [acts_append, ← houtside]
      rfl
    · refine ⟨turn.outside.map .outside ++ [.clock turn.woken, .leaveAll], ?_⟩
      rw [acts_append, ← houtside]
      rfl

theorem loop_turn_acts (loop : EventLoop) (deadline : Option Nat) (turn : Turn) :
    ∃ actions, (loop.turn deadline turn).loop = loop.acts actions := by
  obtain ⟨before, hbefore⟩ := loop.heeded_acts deadline turn
  rcases loop.turn_cases deadline turn with hended | ⟨later, hlater⟩
  · refine ⟨before ++ [.leaveAll], ?_⟩
    rw [hended, acts_concat, ← hbefore]
    rfl
  · refine ⟨before ++ .expire :: .retry :: later, ?_⟩
    rw [hlater, acts_append, ← hbefore]
    rfl

/-- Wherever a run has come to, some actions have led there. -/
theorem loop_run_acts (progress : Progress) (turns : List Turn) :
    ∃ actions, (run progress turns).loop = progress.loop.acts actions := by
  induction turns generalizing progress with
  | nil => exact ⟨[], rfl⟩
  | cons turn turns ih =>
    cases progress with
    | ended loop result => exact ⟨[], rfl⟩
    | running loop deadline =>
      obtain ⟨first, hfirst⟩ := loop.loop_turn_acts deadline turn
      obtain ⟨later, hlater⟩ := ih (loop.turn deadline turn)
      refine ⟨first ++ later, ?_⟩
      rw [acts_append]
      show (run (loop.turn deadline turn) turns).loop = _
      rw [hlater, hfirst]
      rfl

/-! ## The end of a run -/

theorem slots_release (loop : EventLoop) (id : SessionId) :
    (loop.release id).slots = loop.slots.filter (·.id ≠ id) := by
  unfold release
  split
  · next hnone =>
    refine (List.filter_eq_self.2 fun slot hslot => ?_).symm
    have hother := List.find?_eq_none.1 hnone slot hslot
    simpa using hother
  · rfl

theorem slots_foldl_release (ids : List SessionId) (loop : EventLoop) :
    (ids.foldl release loop).slots = loop.slots.filter (·.id ∉ ids) := by
  induction ids generalizing loop with
  | nil =>
    rw [List.foldl_nil, List.filter_eq_self.2]
    simp
  | cons id ids ih =>
    rw [List.foldl_cons, ih, slots_release, List.filter_filter]
    refine List.filter_congr fun slot _ => ?_
    simp [Bool.and_comm]

theorem slots_releaseAll (loop : EventLoop) : loop.releaseAll.slots = [] := by
  rw [releaseAll, slots_foldl_release, List.filter_eq_nil_iff]
  intro slot hslot
  have hthere : slot.id ∈ loop.slots.map Slot.id := List.mem_map_of_mem hslot
  simp [hthere]

/-- Nobody is left where a turn ends a run. -/
theorem slots_of_turn_ended {deadline : Option Nat} {turn : Turn} {loop' : EventLoop}
    {result : Except ServiceError Unit} (h : loop.turn deadline turn = .ended loop' result) :
    loop'.slots = [] := by
  unfold EventLoop.turn at h
  dsimp only at h
  split at h
  · cases h
    exact slots_releaseAll _
  split at h
  · cases h
  split at h
  · cases h
  · cases h
    exact slots_releaseAll _

/-- Nobody is left where a run has ended. -/
theorem slots_of_ended {deadline : Option Nat} {turns : List Turn} {loop' : EventLoop}
    {result : Except ServiceError Unit}
    (h : run (.running loop deadline) turns = .ended loop' result) : loop'.slots = [] := by
  induction turns generalizing loop deadline with
  | nil => cases h
  | cons turn turns ih =>
    change run (loop.turn deadline turn) turns = _ at h
    cases hturn : loop.turn deadline turn with
    | running later deadline' =>
      rw [hturn] at h
      exact ih h
    | ended last result' =>
      rw [hturn] at h
      have hlast : run (.ended last result') turns = .ended last result' := by
        cases turns <;> rfl
      rw [hlast] at h
      cases h
      exact slots_of_turn_ended hturn

end EventLoop

end ChatRelay
