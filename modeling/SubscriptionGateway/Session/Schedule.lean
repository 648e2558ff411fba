import SubscriptionGateway.Schedule
import SubscriptionGateway.Session.Session

/-! A connection under the cooperative schedule: its tasks, what their turns take from their
allowances, and when one that waits may go on by itself. -/
namespace SubscriptionGateway.Session

def tasks (s : Session) : List SessionTask := .connection :: s.toRelay.tasks.map .relay

/-- What the next turn of the connection's own task takes from its allowance: one for what has
arrived, a deadline or a tick, and nothing for an overflow or a shutdown. -/
def connectionToll (s : Session) : Option Nat :=
  match s.stage with
  | .running =>
    if s.queue.overflowed then some 0
    else
      match s.inbound.next with
      | .item _ _ | .ended => some 1
      | .pending =>
        if s.phase = .uninitialized ∧ s.initDeadline ≤ s.now then some 1
        else if s.shutdown then some 0
        else some 1
  | .closing _ _ => some 1
  | .ended _ => none

def toll (s : Session) : SessionTask → Option Nat
  | .connection => s.connectionToll
  | .relay task => s.toRelay.toll task

/-- When the connection's own task may go on by itself. -/
def connectionDue? (s : Session) : Option Nat :=
  match s.stage, s.phase with
  | .running, .uninitialized => some s.initDeadline
  | .running, .initialized => s.nextTick
  | .closing _ deadline, _ => some deadline
  | _, _ => none

def due? (s : Session) : SessionTask → Option Nat
  | .connection => s.connectionDue?
  | .relay task => s.toRelay.due? task

def machine : Machine Session SessionTask Event where
  now s := s.now
  setNow time s := s.setNow time
  tasks := tasks
  turn := turn
  toll := toll
  due? := due?
  isCaller _ := false

end SubscriptionGateway.Session
