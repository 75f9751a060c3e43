import ChatRelay.Proofs.Queue.Changes
import ChatRelay.Proofs.Session.Quiet

/-!
# What a session puts on the wire

A `Sender` is a session with the messages it has taken, in order, and the number of messages that it
says were evicted. Whatever is done with it and whatever its endpoint answers, everything written is
some of the messages taken, whole and in order, and then perhaps the beginning of one more:

    written = start ++ sent.flatten ++ part,
    sent ++ [part ++ rest] a sublist of taken, part a proper beginning of part ++ rest

While the session is open, the head of its queue is the rest of the message begun, and the messages
taken are those sent, those that wait, and as many others as were evicted
(`written_run`). Both are read off an invariant, `Wire`, which every move of a session and every
message it is given keep.
-/

namespace ChatRelay

/-! ## Runs of a session -/

/-- One thing that is done with a session, or that the network does to its endpoint. -/
inductive SessionEvent
  | enqueue (message : Bytes)
  | read
  | write
  | close (now drain : Nat)
  | network (change : Endpoint.Change)

/-- A session with what has come of the messages that it was given. -/
structure Sender where
  session : Session
  /-- The messages taken, oldest first; an empty message leaves no trace. -/
  taken : List Bytes
  /-- How many messages were evicted, by the answers. -/
  evicted : Nat

namespace Sender

/-- A session that has been given nothing. -/
def new (session : Session) : Sender := ⟨session, [], 0⟩

/-- Gives a message to the session and notes what it answers. -/
def enqueue (s : Sender) (message : Bytes) : Sender :=
  match s.session.enqueue message with
  | (.ok evicted, session) =>
    ⟨session, s.taken ++ [message].filter (· ≠ []), s.evicted + evicted⟩
  | (.error _, session) => { s with session }

/-- Carries out one event. -/
def step (s : Sender) : SessionEvent → Sender
  | .enqueue message => s.enqueue message
  | .read => { s with session := s.session.readReady.2 }
  | .write => { s with session := s.session.writeReady.2 }
  | .close now drain => { s with session := s.session.beginClose now drain }
  | .network change =>
    { s with session := { s.session with endpoint := s.session.endpoint.undergo change } }

/-- Carries out events one after another. -/
def run (s : Sender) (events : List SessionEvent) : Sender := events.foldl step s

end Sender

namespace Session

/-! ## The invariant -/

/-- The messages of which something is still to be sent, behind `part` of the first of them. -/
def unsent (part : Bytes) : List Bytes → List Bytes
  | [] => []
  | head :: rest => (part ++ head) :: rest

@[simp] theorem unsent_nil_left (items : List Bytes) : unsent [] items = items := by
  cases items <;> rfl

@[simp] theorem length_unsent (part : Bytes) (items : List Bytes) :
    (unsent part items).length = items.length := by
  cases items <;> rfl

/-- Whole messages, and the beginning of one more, all of them among those taken. -/
structure Cut (taken sent : List Bytes) (part : Bytes) : Prop where
  whole : sent.Sublist taken
  torn : part ≠ [] → ∃ rest, rest ≠ [] ∧ (sent ++ [part ++ rest]).Sublist taken

/-- An open session has written `sent` and `part` behind what was there at the `start`. -/
structure Flowing (start : Bytes) (s : Sender) (sent : List Bytes) (part : Bytes) : Prop where
  opened : s.session.isDraining = false
  written : s.session.endpoint.written = start ++ sent.flatten ++ part
  nonempty : ∀ item ∈ s.session.outbound.items, item ≠ []
  /-- What is left of a message that is partly sent is the head, and is safe from eviction. -/
  started : part ≠ [] → s.session.outbound.headStarted = true ∧ s.session.outbound.items ≠ []
  order : (sent ++ unsent part s.session.outbound.items).Sublist s.taken
  count : s.taken.length = (sent ++ unsent part s.session.outbound.items).length + s.evicted

/-- A session that drains has written `sent` and `part`, and will write no more. -/
structure Stopped (start : Bytes) (s : Sender) (sent : List Bytes) (part : Bytes) : Prop where
  drains : s.session.isDraining = true
  written : s.session.endpoint.written = start ++ sent.flatten ++ part
  empty : s.session.outbound.items = []
  cut : Cut s.taken sent part

/-- Everything that a session has written is accounted for. -/
inductive Wire (start : Bytes) (s : Sender) : Prop
  | flowing (sent : List Bytes) (part : Bytes) (h : Flowing start s sent part)
  | stopped (sent : List Bytes) (part : Bytes) (h : Stopped start s sent part)

variable {start : Bytes} {s : Sender} {sent : List Bytes} {part : Bytes}

/-- A message that is partly sent is whole again with the head of the queue. -/
theorem Flowing.cut (h : Flowing start s sent part) : Cut s.taken sent part := by
  constructor
  · exact (List.sublist_append_left _ _).trans h.order
  · intro hpart
    obtain ⟨-, hitems⟩ := h.started hpart
    obtain ⟨rest, later, heq⟩ := List.exists_cons_of_ne_nil hitems
    have horder := h.order
    rw [heq, unsent] at horder
    refine ⟨rest, h.nonempty rest (by simp [heq]), ?_⟩
    have hfront : (sent ++ [part ++ rest]).Sublist (sent ++ (part ++ rest) :: later) := by
      simp
    exact hfront.trans horder

/-- Nothing has been written or taken on a new session. -/
theorem wire_new (id : SessionId) (peer : String) (endpoint : Endpoint) (codec : Codec)
    (limits : QueueLimits) :
    Wire endpoint.written (.new (Session.new id peer endpoint codec limits)) := by
  refine .flowing [] [] ⟨rfl, ?_, ?_, ?_, ?_, ?_⟩
  · simp [Sender.new, Session.new]
  · simp [Sender.new, Session.new, SendQueue.new]
  · intro h
    exact absurd rfl h
  · simp [Sender.new, Session.new, SendQueue.new]
  · simp [Sender.new, Session.new, SendQueue.new]

/-! ## Moves -/

/-- Sending the first bytes of the head moves them from the queue to the wire. -/
theorem Flowing.sent_head (h : Flowing start s sent part) {head : Bytes} {n : Nat}
    (endpoint : Endpoint) (hfront : s.session.outbound.front? = some head) (hpos : 0 < n)
    (hle : n ≤ head.length)
    (hwritten : endpoint.written = s.session.endpoint.written ++ head.take n) :
    ∃ sent' part', Flowing start
      { s with session := { s.session with
          endpoint, outbound := s.session.outbound.consume n } } sent' part' := by
  obtain ⟨rest, hitems⟩ := List.head?_eq_some_iff.1 hfront
  have horder := h.order
  have hcount := h.count
  rw [hitems, unsent] at horder hcount
  have hnonempty : ∀ item ∈ rest, item ≠ [] := fun item hitem =>
    h.nonempty item (by simp [hitems, hitem])
  rcases Nat.lt_or_eq_of_le hle with hlt | rfl
  · -- The rest of the head stays, and what it was cut from is the same message as before.
    obtain ⟨hleft, hstarted⟩ := SendQueue.consume_part hitems hpos hlt
    have hwhole : part ++ head.take n ++ head.drop n = part ++ head := by
      rw [List.append_assoc, List.take_append_drop]
    refine ⟨sent, part ++ head.take n, h.opened, ?_, ?_, ?_, ?_, ?_⟩
    · rw [hwritten, h.written]
      simp only [List.append_assoc]
    · rw [hleft]
      intro item hitem
      rcases List.mem_cons.1 hitem with rfl | hitem
      · intro hnil
        have := congrArg List.length hnil
        simp only [List.length_drop, List.length_nil] at this
        omega
      · exact hnonempty item hitem
    · intro _
      exact ⟨hstarted, by rw [hleft]; simp⟩
    · rw [hleft, unsent, hwhole]
      exact horder
    · rw [hleft, unsent, hwhole]
      exact hcount
  · obtain ⟨hleft, -⟩ := SendQueue.consume_whole hitems
    have hwhole : sent ++ [part ++ head] ++ rest = sent ++ (part ++ head) :: rest := by simp
    refine ⟨sent ++ [part ++ head], [], h.opened, ?_, ?_, ?_, ?_, ?_⟩
    · rw [hwritten, h.written]
      simp
    · rw [hleft]
      exact hnonempty
    · intro hne
      exact absurd rfl hne
    · rw [hleft, unsent_nil_left, hwhole]
      exact horder
    · rw [hleft, unsent_nil_left, hwhole]
      exact hcount

/-- A move keeps everything that is written accounted for. -/
theorem Moves.wire {session t : Session} {taken : List Bytes} {evicted : Nat}
    (hmove : Moves session t) (h : Wire start ⟨session, taken, evicted⟩) :
    Wire start ⟨t, taken, evicted⟩ := by
  cases h with
  | flowing sent part h =>
    cases hmove with
    | endpoint endpoint hsame =>
      exact .flowing sent part { h with written := hsame.trans h.written }
    | decoder decoder => exact .flowing sent part { h with }
    | sent endpoint hfront hpos hle hwritten =>
      obtain ⟨sent', part', h'⟩ := h.sent_head endpoint hfront hpos hle hwritten
      exact .flowing sent' part' h'
    | closed endpoint decoder deadline hopen hsame =>
      exact .stopped sent part ⟨rfl, hsame.trans h.written, rfl, h.cut⟩
  | stopped sent part h =>
    cases hmove with
    | endpoint endpoint hsame =>
      exact .stopped sent part { h with written := hsame.trans h.written }
    | decoder decoder => exact .stopped sent part { h with }
    | sent endpoint hfront hpos hle hwritten =>
      have hempty := h.empty
      simp only at hempty
      simp [SendQueue.front?, hempty] at hfront
    | closed endpoint decoder deadline hopen hsame =>
      have hdrains := h.drains
      simp only at hdrains
      simp [hopen] at hdrains

/-- Everything that is written stays accounted for while nothing is given to the session. -/
theorem Quiet.wire {session t : Session} {taken : List Bytes} {evicted : Nat}
    (hquiet : Quiet session t) (h : Wire start ⟨session, taken, evicted⟩) :
    Wire start ⟨t, taken, evicted⟩ :=
  hquiet.keeps (P := fun session => Wire start ⟨session, taken, evicted⟩) Moves.wire h

/-! ## Messages -/

/-- Eviction takes whole messages from among those that wait. -/
theorem unsent_without (q : SendQueue) (evicted : Nat)
    (hstarted : part ≠ [] → q.headStarted = true ∧ q.items ≠ []) :
    (unsent part (q.without evicted).items).Sublist (unsent part q.items) := by
  by_cases hpart : part = []
  · rw [hpart, unsent_nil_left, unsent_nil_left]
    exact q.without_sublist evicted
  · obtain ⟨hhead, hitems⟩ := hstarted hpart
    obtain ⟨head, rest, heq⟩ := List.exists_cons_of_ne_nil hitems
    rw [SendQueue.without_started hhead heq, heq, unsent, unsent]
    exact (List.drop_sublist evicted rest).cons_cons _

theorem unsent_append {items : List Bytes} (message : Bytes) (h : part ≠ [] → items ≠ []) :
    unsent part (items ++ [message]) = unsent part items ++ [message] := by
  cases items with
  | nil =>
    have hpart : part = [] := Classical.byContradiction fun hne => h hne rfl
    rw [hpart]
    rfl
  | cons head rest => rfl

/-- A message that is taken waits behind the others, less those that were evicted for it. -/
theorem Flowing.push_taken (h : Flowing start s sent part) {message : Bytes} {evicted : Nat}
    (hne : message ≠ [])
    (hle : evicted ≤ (s.session.outbound.items.drop s.session.outbound.kept).length) :
    Flowing start
      ⟨{ s.session with outbound := (s.session.outbound.without evicted).append message },
        s.taken ++ [message], s.evicted + evicted⟩ sent part := by
  have hstarted : part ≠ [] → (s.session.outbound.without evicted).items ≠ [] := by
    intro hpart
    obtain ⟨hhead, hitems⟩ := h.started hpart
    obtain ⟨head, rest, heq⟩ := List.exists_cons_of_ne_nil hitems
    rw [SendQueue.without_started hhead heq]
    exact List.cons_ne_nil _ _
  have hitems : ((s.session.outbound.without evicted).append message).items =
      (s.session.outbound.without evicted).items ++ [message] := rfl
  refine ⟨h.opened, h.written, ?_, ?_, ?_, ?_⟩
  · intro item hitem
    rw [hitems] at hitem
    rcases List.mem_append.1 hitem with hold | hnew
    · exact h.nonempty item ((s.session.outbound.without_sublist evicted).subset hold)
    · rw [List.mem_singleton.1 hnew]
      exact hne
  · intro hpart
    refine ⟨(h.started hpart).1, ?_⟩
    rw [hitems]
    simp
  · rw [hitems, unsent_append message hstarted, ← List.append_assoc]
    refine List.Sublist.append ?_ (List.Sublist.refl _)
    have hwaiting := unsent_without s.session.outbound evicted h.started
    exact ((List.Sublist.refl sent).append hwaiting).trans h.order
  · have hcount := h.count
    have hlength := s.session.outbound.length_without hle
    rw [hitems, unsent_append message hstarted]
    simp only [List.length_append, length_unsent] at hcount ⊢
    omega

/-- Giving a message to a session keeps everything that is written accounted for. -/
theorem Wire.enqueue (h : Wire start s) (message : Bytes) : Wire start (s.enqueue message) := by
  cases h with
  | flowing sent part h =>
    have hpushed := s.session.outbound.push_pushed message
    unfold Sender.enqueue Session.enqueue
    rw [if_neg (by simp [h.opened])]
    generalize s.session.outbound.push message = result at hpushed
    cases hpushed with
    | refused error paused =>
      exact .flowing sent part ⟨h.opened, h.written, h.nonempty, h.started, h.order, h.count⟩
    | forgotten hempty =>
      have htaken : s.taken ++ [message].filter (· ≠ []) = s.taken := by simp [hempty]
      simp only [htaken]
      exact .flowing sent part h
    | taken evicted hne hle =>
      have htaken : [message].filter (· ≠ []) = [message] := by simp [hne]
      simp only [htaken]
      exact .flowing sent part (h.push_taken hne hle)
  | stopped sent part h =>
    have hsame : s.enqueue message = s := by
      unfold Sender.enqueue Session.enqueue
      rw [if_pos h.drains]
    rw [hsame]
    exact .stopped sent part h

/-! ## Runs -/

theorem Wire.step (h : Wire start s) (event : SessionEvent) : Wire start (s.step event) := by
  cases event with
  | enqueue message => exact h.enqueue message
  | read => exact (quiet_readReady s.session).wire h
  | write => exact (quiet_writeReady s.session).wire h
  | close now drain => exact (quiet_beginClose s.session now drain).wire h
  | network change => exact (quiet_endpoint s.session (Endpoint.written_undergo _ change)).wire h

theorem Wire.run (h : Wire start s) (events : List SessionEvent) : Wire start (s.run events) := by
  unfold Sender.run
  induction events generalizing s with
  | nil => exact h
  | cons event events ih => exact ih (h.step event)

/-- **Only whole messages go out.** What a session has written is messages that it has taken, in
order, and then perhaps the beginning of one more. While it is open, the rest of that one is the
head of its queue, and the messages taken are those sent, those of which something waits, and as
many others as its answers said were evicted. -/
theorem written_run (id : SessionId) (peer : String) (endpoint : Endpoint) (codec : Codec)
    (limits : QueueLimits) (events : List SessionEvent) :
    let s := (Sender.new (Session.new id peer endpoint codec limits)).run events
    ∃ sent part,
      s.session.endpoint.written = endpoint.written ++ sent.flatten ++ part ∧
      sent.Sublist s.taken ∧
      (part ≠ [] → ∃ rest, rest ≠ [] ∧ (sent ++ [part ++ rest]).Sublist s.taken ∧
        (s.session.isDraining = false → s.session.outbound.front? = some rest)) ∧
      (s.session.isDraining = false →
        (sent ++ unsent part s.session.outbound.items).Sublist s.taken ∧
        ∃ gone, gone.length = s.evicted ∧
          s.taken.Perm (sent ++ unsent part s.session.outbound.items ++ gone)) := by
  intro s
  have hwire : Wire endpoint.written s := (wire_new id peer endpoint codec limits).run events
  cases hwire with
  | flowing sent part h =>
    refine ⟨sent, part, h.written, h.cut.whole, ?_, ?_⟩
    · intro hpart
      obtain ⟨rest, later, heq⟩ := List.exists_cons_of_ne_nil (h.started hpart).2
      have horder := h.order
      rw [heq, unsent] at horder
      have hfront : (sent ++ [part ++ rest]).Sublist (sent ++ (part ++ rest) :: later) := by
        simp
      refine ⟨rest, h.nonempty rest (by simp [heq]), hfront.trans horder, ?_⟩
      intro _
      rw [SendQueue.front?, heq, List.head?_cons]
    · intro _
      refine ⟨h.order, ?_⟩
      obtain ⟨gone, hperm⟩ := h.order.exists_perm_append
      refine ⟨gone, ?_, hperm⟩
      have hlength := hperm.length_eq
      have hcount := h.count
      simp only [List.length_append, length_unsent] at hlength hcount
      omega
  | stopped sent part h =>
    refine ⟨sent, part, h.written, h.cut.whole, ?_, ?_⟩
    · intro hpart
      obtain ⟨rest, hrest, horder⟩ := h.cut.torn hpart
      refine ⟨rest, hrest, horder, ?_⟩
      intro hopen
      simp [h.drains] at hopen
    · intro hopen
      simp [h.drains] at hopen

end Session

end ChatRelay
