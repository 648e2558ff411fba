import SubscriptionGateway.Schedule
import SubscriptionGateway.Server.Tracker

/-! Waiting until no connection is live. A waiter asks for a notification, looks at the count and,
if that is not zero, waits for the notification before it begins anew. A release first lowers the
count and then, if it has become zero, notifies everyone who has asked by then. Each of these is a
step of its own, and steps may come in any order. -/
namespace SubscriptionGateway

/-- Where a waiter stands; the flags tell whether it has been notified. -/
inductive Waiter where
  | starting
  /-- It has asked for its notification and is yet to look at the count. -/
  | asked (notified : Bool)
  | parked (notified : Bool)
  | returned
deriving DecidableEq, Repr

namespace Waiter

def notify : Waiter → Waiter
  | .asked _ => .asked true
  | .parked _ => .parked true
  | other => other

/-- One step, given the number of live connections; none when it has to wait or is over. -/
def step? (count : Nat) : Waiter → Option Waiter
  | .starting => some (.asked false)
  | .asked notified => if count = 0 then some .returned else some (.parked notified)
  | .parked true => some .starting
  | .parked false => none
  | .returned => none

end Waiter

/-- A tracker with those who wait for it to be idle. -/
structure IdleWatch (ρ : Type) where
  tracker : Tracker ρ
  waiters : List Waiter
  /-- Releases that have brought the count to zero and are yet to notify. -/
  notices : Nat

namespace IdleWatch

variable {ρ : Type}

def new (tracker : Tracker ρ) : IdleWatch ρ := ⟨tracker, [], 0⟩

def count (w : IdleWatch ρ) : Nat := w.tracker.count

/-- The first step of a release. -/
def lower (w : IdleWatch ρ) (slot : Slot) : IdleWatch ρ :=
  { w with
    tracker := w.tracker.release slot
    notices := if w.count = 1 then w.notices + 1 else w.notices }

/-- The second step of a release that has brought the count to zero. -/
def announce (w : IdleWatch ρ) : IdleWatch ρ :=
  if w.notices = 0 then w
  else { w with waiters := w.waiters.map Waiter.notify, notices := w.notices - 1 }

/-- A release without an interruption. -/
def release (w : IdleWatch ρ) (slot : Slot) : IdleWatch ρ :=
  let lowered := w.lower slot
  if w.count = 1 then lowered.announce else lowered

/-- One more waiter. -/
def enlist (w : IdleWatch ρ) : IdleWatch ρ := { w with waiters := w.waiters ++ [.starting] }

/-- A step of the waiter at a position. -/
def stepWaiter? (w : IdleWatch ρ) (position : Nat) : Option (IdleWatch ρ) :=
  (w.waiters[position]?.bind (Waiter.step? w.count)).map fun next =>
    { w with waiters := w.waiters.set position next }

/-- Whether the waiter at a position has returned. -/
def hasReturned (w : IdleWatch ρ) (position : Nat) : Bool :=
  w.waiters[position]? == some .returned

/-- The waiters as tasks; they cause nothing that anyone can see, and no time passes. -/
def machine : Machine (IdleWatch ρ) Nat Empty where
  now _ := 0
  setNow _ w := w
  tasks w := List.range w.waiters.length
  turn w position := (w.stepWaiter? position).map fun after => (after, [])
  due? _ _ := none
  isCaller _ := false

theorem count_release (w : IdleWatch ρ) (slot : Slot) :
    (w.release slot).count = w.count - 1 := by
  have announced (w : IdleWatch ρ) : w.announce.count = w.count := by
    unfold announce
    split <;> rfl
  simp only [release]
  split
  · exact announced _
  · rfl

theorem step?_eq_returned_iff (count : Nat) (waiter : Waiter) :
    waiter.step? count = some .returned ↔ (∃ notified, waiter = .asked notified) ∧ count = 0 := by
  cases waiter with
  | starting => simp [Waiter.step?]
  | asked notified => by_cases zero : count = 0 <;> simp [Waiter.step?, zero]
  | parked notified => cases notified <;> simp [Waiter.step?]
  | returned => simp [Waiter.step?]

end IdleWatch

end SubscriptionGateway
