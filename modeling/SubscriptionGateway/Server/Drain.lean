import SubscriptionGateway.Server.Idle

/-! The end of a server: shutdown is signalled, and then the caller waits for the listener to end
and for every connection to be gone, but no longer than a limit. The report tells what is left. -/
namespace SubscriptionGateway

/-- What was still live when a drain ended. -/
structure Lingering where
  connections : Nat
  operations : Nat
deriving DecidableEq, Repr

def Lingering.isClean (r : Lingering) : Bool := r.connections == 0

inductive DrainStage where
  | listening
  /-- The listener has ended; the caller is the waiter at a position. -/
  | waiting (position : Nat)
  | returned (report : Lingering)
deriving DecidableEq, Repr

structure Drain (ρ : Type) where
  now : Nat
  watch : IdleWatch ρ
  /-- The number of live operations of each registry. -/
  size : ρ → Nat
  shutdown : Bool
  /-- Whether the listener has ended, in whatever way. -/
  listenerEnded : Bool
  deadline : Nat
  stage : DrainStage

namespace Drain

variable {ρ : Type}

/-- The shutdown is signalled before anything is waited for. -/
def begin (now : Nat) (watch : IdleWatch ρ) (size : ρ → Nat) (listenerEnded : Bool)
    (limit : Nat) : Drain ρ :=
  ⟨now, watch, size, true, listenerEnded, now + limit, .listening⟩

/-- What is live now. -/
def remaining (d : Drain ρ) : Lingering :=
  ⟨d.watch.count, d.watch.tracker.liveOperations d.size⟩

/-- The end at the deadline. -/
def giveUp (d : Drain ρ) : Option (Drain ρ) :=
  if d.deadline ≤ d.now then some { d with stage := .returned d.remaining } else none

/-- A turn of the caller; none when it has to wait or has returned. -/
def turn (d : Drain ρ) : Option (Drain ρ) :=
  match d.stage with
  | .listening =>
    if d.listenerEnded then
      some { d with watch := d.watch.enlist, stage := .waiting d.watch.waiters.length }
    else d.giveUp
  | .waiting position =>
    if d.watch.hasReturned position then some { d with stage := .returned ⟨0, 0⟩ }
    else
      match d.watch.stepWaiter? position with
      | some watch => some { d with watch }
      | none => d.giveUp
  | .returned _ => none

def due? (d : Drain ρ) : Option Nat :=
  match d.stage with
  | .returned _ => none
  | _ => some d.deadline

def report? (d : Drain ρ) : Option Lingering :=
  match d.stage with
  | .returned report => some report
  | _ => none

/-- A connection ends. -/
def release (d : Drain ρ) (slot : Slot) : Drain ρ :=
  { d with watch := d.watch.release slot }

def endListener (d : Drain ρ) : Drain ρ := { d with listenerEnded := true }

/-- The clock moves on to the given time, and never back. -/
def setNow (d : Drain ρ) (time : Nat) : Drain ρ := { d with now := max d.now time }

end Drain

end SubscriptionGateway
