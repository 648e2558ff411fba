/-! Cooperative tasks under a clock that only moves when everything waits. Tasks that can go on are
served in the order in which they became able to; each runs until it has to wait, or until it has
used up its allowance and is deferred until nobody else is ready. When the clock moves, it stops at
every time at which a task is due, and tasks due at the same time are woken in the order in which
they set their alarms. -/
namespace SubscriptionGateway

/-- A state with the tasks that change it. -/
structure Machine (State Task Event : Type) where
  now : State → Nat
  setNow : Nat → State → State
  /-- The tasks, in the order in which they were started. -/
  tasks : State → List Task
  /-- One turn of a task; none when it has to wait or is over. -/
  turn : State → Task → Option (State × List Event)
  /-- What the next turn of a task takes from its allowance, which must not be used up before; none
  if the task only goes on with what it has begun. -/
  toll : State → Task → Option Nat := fun _ _ => none
  /-- When a task that waits may go on by itself. -/
  due? : State → Task → Option Nat
  /-- The task in whose name the machine is run; it is woken before all others. -/
  isCaller : Task → Bool

/-- A state with the tasks that are ready, the alarms that are set and what has happened. -/
structure Agenda (State Task Event : Type) where
  state : State
  /-- Tasks to be served, the next one first. -/
  ready : List Task
  /-- Tasks that have used up their allowance, the latest first. -/
  deferred : List Task
  /-- The times at which tasks are to be woken, in the order in which they were set. -/
  alarms : List (Task × Nat)
  /-- All events, the latest first. -/
  trace : List Event

namespace Agenda

variable {State Task Event : Type} [DecidableEq Task]

def new (state : State) : Agenda State Task Event := ⟨state, [], [], [], []⟩

/-- The events in their order. -/
def events (a : Agenda State Task Event) : List Event := a.trace.reverse

/-- The events after the first so many, in their order. -/
def eventsSince (a : Agenda State Task Event) (count : Nat) : List Event :=
  (a.trace.take (a.trace.length - count)).reverse

/-- Adds events that were caused from outside. -/
def record (a : Agenda State Task Event) (events : List Event) : Agenda State Task Event :=
  { a with trace := events.reverse ++ a.trace }

/-- Whether a task has an alarm still to set. -/
def lacksAlarm (m : Machine State Task Event) (a : Agenda State Task Event) (task : Task) : Bool :=
  (m.due? a.state task).any fun time => !a.alarms.contains (task, time)

/-- Puts the tasks that can go on, or have an alarm to set, and are not yet waiting for their turn
at the end. -/
def enqueueAble (m : Machine State Task Event) (a : Agenda State Task Event)
    (running : Option Task) : Agenda State Task Event :=
  let able := (m.tasks a.state).filter fun task =>
    running != some task && !a.ready.contains task && !a.deferred.contains task &&
      ((m.turn a.state task).isSome || lacksAlarm m a task)
  { a with ready := a.ready ++ able }

/-- Sets an alarm for a task that waits. Alarms that the task has set before stay set, and one for
the same time keeps its place. -/
def setAlarm (a : Agenda State Task Event) (task : Task) (due : Option Nat) :
    Agenda State Task Event :=
  let wanted := due.toList.map fun time => (task, time)
  { a with alarms := a.alarms ++ wanted.filter fun alarm => !a.alarms.contains alarm }

/-- Changes the state from outside. -/
def modify (m : Machine State Task Event) (a : Agenda State Task Event) (change : State → State) :
    Agenda State Task Event :=
  enqueueAble m { a with state := change a.state } none

/-- Puts the task that is running back in front. -/
def suspend (a : Agenda State Task Event) (running : Option (Task × Nat)) :
    Agenda State Task Event :=
  { a with ready := (running.map Prod.fst).toList ++ a.ready }

/-- What a task may take before it is deferred, from when it begins to be served. -/
def allowance : Nat := 128

/-- Serves one task after the other, at most so many turns in all, until the state satisfies a
condition or every task waits. The task that is running comes with what is left of its
allowance. -/
def serve (m : Machine State Task Event) (done : State → Bool) :
    (fuel : Nat) → Agenda State Task Event → (running : Option (Task × Nat)) →
      Agenda State Task Event
  | 0, a, running => a.suspend running
  | fuel + 1, a, running =>
    if done a.state then a.suspend running
    else
      match running with
      | none =>
        match a.ready with
        | task :: rest => serve m done fuel { a with ready := rest } (some (task, allowance))
        | [] =>
          if a.deferred.isEmpty then a
          else serve m done fuel { a with ready := a.deferred, deferred := [] } none
      | some (task, left) =>
        let toll := m.toll a.state task
        if toll.isSome && left == 0 then
          serve m done fuel { a with deferred := task :: a.deferred } none
        else
          match m.turn a.state task with
          | none => serve m done fuel (a.setAlarm task (m.due? a.state task)) none
          | some (state, events) =>
            let after := ({ a with state } : Agenda State Task Event).record events
            serve m done fuel (enqueueAble m after (some task)) (some (task, left - toll.getD 0))

/-- More turns than any finite run of a gateway takes between two stops of the clock. -/
def patience : Nat := 1000000

/-- Runs until every task waits. -/
def settle (m : Machine State Task Event) (a : Agenda State Task Event) :
    Agenda State Task Event :=
  serve m (fun _ => false) patience (enqueueAble m a none) none

def nextAlarm? (a : Agenda State Task Event) : Option Nat :=
  a.alarms.foldl (fun least alarm =>
    match least with
    | none => some alarm.2
    | some time => some (min time alarm.2)) none

/-- Moves the clock to a time and wakes the tasks whose alarms go off by then, each for its first
alarm. -/
def strike (m : Machine State Task Event) (a : Agenda State Task Event) (time : Nat) :
    Agenda State Task Event :=
  let due := ((a.alarms.filter fun alarm => alarm.2 ≤ time).map Prod.fst).eraseDups
  let woken := due.filter fun task => !a.ready.contains task
  { a with
    state := m.setNow time a.state
    alarms := a.alarms.filter fun alarm => !(alarm.2 ≤ time)
    ready := woken.filter m.isCaller ++ a.ready ++ woken.filter fun task => !m.isCaller task }

/-- Runs on until the clock shows the given time and every task waits. -/
def runTo (m : Machine State Task Event) (target : Nat) :
    (fuel : Nat) → Agenda State Task Event → Agenda State Task Event
  | 0, a => a
  | fuel + 1, a =>
    let settled := settle m a
    match settled.nextAlarm? with
    | none => settle m (strike m settled target)
    | some time =>
      if time ≤ target then runTo m target fuel (strike m settled time)
      else settle m (strike m settled target)

/-- Lets so many milliseconds pass. -/
def advance (m : Machine State Task Event) (a : Agenda State Task Event) (duration : Nat) :
    Agenda State Task Event :=
  runTo m (m.now a.state + duration) patience a

/-- Runs on, letting time pass as needed, until the state satisfies a condition or nothing is due
any more. -/
def runUntil (m : Machine State Task Event) (done : State → Bool) :
    (fuel : Nat) → Agenda State Task Event → Agenda State Task Event
  | 0, a => a
  | fuel + 1, a =>
    let served := serve m done patience (enqueueAble m a none) none
    if done served.state then served
    else
      match served.nextAlarm? with
      | none => served
      | some time => runUntil m done fuel (strike m served time)

end Agenda

end SubscriptionGateway
