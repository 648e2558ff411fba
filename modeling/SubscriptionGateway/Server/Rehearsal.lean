import SubscriptionGateway.Server.Drain

/-! A drain rehearsed: after the signal the listener and each of the connections end at a set time,
or never. -/
namespace SubscriptionGateway

structure Rehearsal where
  /-- Registries are known by the position of their connection. -/
  drain : Drain Nat
  /-- When the listener ends, until it has. -/
  listenerEnd : Option Nat
  /-- The slots of the connections, and when they are given back, until they are. -/
  departures : List (Slot × Option Nat)

inductive RehearsalTask where
  | caller
  | listener
  | connection (position : Nat)
deriving DecidableEq, Repr

namespace Rehearsal

def isDue (r : Rehearsal) (time : Option Nat) : Bool := time.any fun time => time ≤ r.drain.now

def departure? (r : Rehearsal) (position : Nat) : Option Nat :=
  (r.departures[position]?).bind Prod.snd

def turn (r : Rehearsal) : RehearsalTask → Option Rehearsal
  | .caller => r.drain.turn.map fun drain => { r with drain }
  | .listener =>
    if r.isDue r.listenerEnd then some { r with drain := r.drain.endListener, listenerEnd := none }
    else none
  | .connection position =>
    match r.departures[position]? with
    | none => none
    | some (slot, time) =>
      if r.isDue time then
        some { r with
          drain := r.drain.release slot
          departures := r.departures.set position (slot, none) }
      else none

def due? (r : Rehearsal) : RehearsalTask → Option Nat
  | .caller => r.drain.due?
  | .listener => r.listenerEnd
  | .connection position => r.departure? position

def machine : Machine Rehearsal RehearsalTask Empty where
  now r := r.drain.now
  setNow time r := { r with drain := r.drain.setNow time }
  tasks r := .caller :: .listener :: (List.range r.departures.length).map .connection
  turn r task := (r.turn task).map fun after => (after, [])
  due? := due?
  isCaller task := task == .caller

/-- Runs the drain to its end. -/
def run (r : Rehearsal) : Drain Nat :=
  let agenda : Agenda Rehearsal RehearsalTask Empty := .new r
  (agenda.runUntil machine (fun r => r.drain.report?.isSome) Agenda.patience).state.drain

end Rehearsal

end SubscriptionGateway
