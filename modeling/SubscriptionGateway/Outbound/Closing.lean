import SubscriptionGateway.Relay
import SubscriptionGateway.Schedule

/-! An orderly end of a writer: the caller orders it to close and waits until it has stopped, but
no longer than a limit, after which the writer is stopped where it stands. -/
namespace SubscriptionGateway

structure Closing where
  relay : Relay
  /-- When the caller gives up waiting. -/
  deadline : Nat
  returned : Bool

inductive ClosingTask where
  | caller
  | relay (task : RelayTask)
deriving DecidableEq, Repr

def ClosingTask.relay? : ClosingTask → Option RelayTask
  | .relay task => some task
  | .caller => none

namespace Closing

def begin (r : Relay) (frame : CloseFrame) (limit : Nat) : Closing :=
  ⟨r.orderClose frame, r.now + limit, false⟩

/-- A turn of the caller: back if the writer has stopped, or at the deadline. -/
def callerTurn (c : Closing) : Option (Closing × List Event) :=
  if c.returned then none
  else if c.relay.writerStopped then some ({ c with returned := true }, [])
  else if c.deadline ≤ c.relay.now then
    some ({ c with relay := c.relay.abortWriter, returned := true }, [])
  else none

def turn (c : Closing) : ClosingTask → Option (Closing × List Event)
  | .caller => c.callerTurn
  | .relay task => (c.relay.turn task).map fun (relay, events) => ({ c with relay }, events)

def machine : Machine Closing ClosingTask Event where
  now c := c.relay.now
  setNow time c := { c with relay := { c.relay with now := time } }
  tasks c := .caller :: c.relay.tasks.map .relay
  turn := turn
  toll c
    | .caller => none
    | .relay task => c.relay.toll task
  due? c
    | .caller => if c.returned then none else some c.deadline
    | .relay task => c.relay.due? task
  isCaller task := task == .caller

end Closing

/-- Closes the writer on behalf of a caller who waits for it, with all that is under way. -/
def Closing.run (a : Agenda Relay RelayTask Event) (frame : CloseFrame) (limit : Nat) :
    Agenda Relay RelayTask Event :=
  let waiting : Agenda Closing ClosingTask Event :=
    { state := .begin a.state frame limit
      ready := a.ready.map .relay
      deferred := a.deferred.map .relay
      alarms := a.alarms.map fun (task, time) => (.relay task, time)
      trace := a.trace }
  let ended := waiting.runUntil machine (fun c => c.returned) Agenda.patience
  { state := ended.state.relay
    ready := ended.ready.filterMap ClosingTask.relay?
    deferred := ended.deferred.filterMap ClosingTask.relay?
    alarms := ended.alarms.filterMap fun (task, time) => task.relay?.map fun task => (task, time)
    trace := ended.trace }

/-- The tasks of a relay without a connection. -/
def Relay.machine : Machine Relay RelayTask Event where
  now := Relay.now
  setNow time r := { r with now := time }
  tasks := Relay.tasks
  turn := Relay.turn
  toll := Relay.toll
  due? := Relay.due?
  isCaller _ := false

end SubscriptionGateway
