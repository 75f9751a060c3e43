import ChatRelay.Server.Exchange
import ChatRelay.Server.Plan
import ChatRelay.Server.Task

/-!
# Groups of tasks

A `TaskGroup` is a server in which every connection has a task of its own: the tasks, the exchange
that they share, and the clock. `settle` lets every task do all that it can: what is pulled from
one connection is relayed, message by message, and the writers send it on before the next message
is pulled.

Once the group is stopping, no connection is accepted any more, and every task ends; the group is
over when all of them are released.

What has been relayed is kept as a history on which no decision rests.
-/

namespace ChatRelay

/-- A server in which every connection has a task. -/
structure TaskGroup where
  plan : SessionPlan
  /-- The time that its clock shows, in nanoseconds. -/
  now : Nat
  exchange : Exchange
  /-- The tasks in the order in which they came, those that are over among them. -/
  tasks : List Task
  ids : SessionIds
  stopping : Bool
  /-- Every message that was to be relayed, with the connection it came from. -/
  relayed : List (SessionId × Bytes)
  deriving DecidableEq, Repr, Inhabited

namespace TaskGroup

/-- A group without connections. -/
def new (plan : SessionPlan) : TaskGroup := ⟨plan, 0, .new plan.codec, [], .new, false, []⟩

/-- The task of a connection. -/
def task? (group : TaskGroup) (id : SessionId) : Option Task := group.tasks.find? (·.id = id)

/-- The group with another state of one task. -/
def put (group : TaskGroup) (task : Task) : TaskGroup :=
  { group with tasks := group.tasks.map fun t => if t.id = task.id then task else t }

/-- Begins the task of an accepted connection. The greeting is the first message in its mailbox. -/
def addTask (group : TaskGroup) (peer : String) (endpoint : Endpoint) : TaskGroup :=
  if group.stopping then group
  else
    let (id, ids) := group.ids.take
    let box :=
      match group.plan.greeting with
      | some greeting => ((Mailbox.new group.plan.limits).offer greeting).2
      | none => .new group.plan.limits
    { group with
      ids := ids
      exchange := group.exchange.step (.join ⟨id, box⟩)
      tasks := group.tasks ++ [.new id peer endpoint group.plan.codec] }

/-! ## One task -/

/-- Lets the writer of a connection write. -/
def write (group : TaskGroup) (id : SessionId) : TaskGroup :=
  match group.task? id, group.exchange.box? id with
  | some task, some box =>
    let (box, task) := task.write box
    { group.put task with exchange := group.exchange.onBox id fun _ => box }
  | _, _ => group

/-- Lets every writer write. -/
def writeAll (group : TaskGroup) : TaskGroup := (group.tasks.map Task.id).foldl write group

/-- Begins to end a task: it leaves the exchange. Its mailbox takes nothing more; what is in it is
still sent if the server stops, and thrown away otherwise. -/
def finish (group : TaskGroup) (task : Task) (reason : CloseReason) : TaskGroup :=
  let group := group.put (task.finish reason (group.now + group.plan.drain))
  let exchange := group.exchange.step (.leave task.id)
  { group with
    exchange := exchange.onBox task.id (if reason = .shutdown then .close else .abort) }

/-- Ends a task that serves, if the server stops or the writer has stopped. A writer that has not
failed has had its mailbox aborted. -/
def heed (group : TaskGroup) (id : SessionId) : TaskGroup :=
  match group.task? id with
  | none => group
  | some task =>
    match task.phase, task.writer with
    | .serving, .stopped failure =>
      group.finish task (if group.stopping then .shutdown else failure.getD .overflow)
    | .serving, _ => if group.stopping then group.finish task .shutdown else group
    | _, _ => group

/-- Has the exchange relay a message. -/
def relay (group : TaskGroup) (origin : SessionId) (payload : Bytes) : TaskGroup :=
  { group with
    exchange := group.exchange.step (.relay origin payload)
    relayed := group.relayed ++ [(origin, payload)] }

/-- Pulls at most `fuel` frames from a connection, and relays each. -/
def pullFrames (group : TaskGroup) (id : SessionId) : (fuel : Nat) → TaskGroup
  | 0 => group
  | fuel + 1 =>
    match group.task? id with
    | none => group
    | some task =>
      match task.pull with
      | (.nothing, task) => group.put task
      | (.ending reason, task) => group.finish task reason
      | (.message payload, task) => pullFrames ((group.put task).relay id payload).writeAll id fuel

/-- Pulls all there is from a connection that is served. Every frame takes a byte, and the end of
the stream is found once. -/
def read (group : TaskGroup) (id : SessionId) : TaskGroup :=
  match group.task? id with
  | none => group
  | some task =>
    if task.phase = .serving then
      group.pullFrames id
        (task.reader.decoder.size + Endpoint.unread task.endpoint.arrivals + 2)
    else group

/-- Lets one task do all that it can. -/
def tend (group : TaskGroup) (id : SessionId) : TaskGroup :=
  let group := group.write id |>.heed id |>.read id |>.write id |>.heed id |>.write id
  match group.task? id with
  | none => group
  | some task => group.put ((task.endWriting group.now).drain group.now)

/-! ## All tasks -/

/-- Lets every task do all that it can; the second time, those that came first see what came of
the others. -/
def settle (group : TaskGroup) : TaskGroup :=
  let all (group : TaskGroup) : TaskGroup := (group.tasks.map Task.id).foldl tend group
  all (all group)

/-- Whether every task is over. -/
def allReleased (group : TaskGroup) : Bool := group.tasks.all (·.phase = .released)

/-- The group after the network has done something to a connection. -/
def happen (group : TaskGroup) (id : SessionId) (change : Endpoint.Change) : TaskGroup :=
  match group.task? id with
  | none => group
  | some task => group.put { task with endpoint := task.endpoint.undergo change }

end TaskGroup

end ChatRelay
