import SubscriptionGateway.Proofs.Session.Gate
import SubscriptionGateway.Proofs.Session.Rest

/-! Runs in virtual time: the clock moves only while every task waits, and stops wherever one of
them is due. What comes from outside comes at the time that the clock shows. -/
namespace SubscriptionGateway.Session

variable {start s after : Session} {inputs : List (Nat × Stimulus)} {past events : List Event}

namespace Stimulus

/-- Whether there is something new to be read: an item, or the end of what can arrive. -/
def Arrives : Stimulus → Prop
  | .deliver _ | .disconnect | .losePeer => True
  | _ => False

def Requests : Stimulus → Prop
  | .requestShutdown => True
  | _ => False

end Stimulus

/-- What can happen from the start on, with everything that has come from outside and its time, and
with the events. -/
inductive Timed (start : Session) : List (Nat × Stimulus) → List Event → Session → Prop where
  | start : Timed start [] [] start
  | turn {inputs : List (Nat × Stimulus)} {past events : List Event} {s after : Session}
      {task : SessionTask} (run : Timed start inputs past s)
      (taken : s.turn task = some (after, events)) : Timed start inputs (past ++ events) after
  | input {inputs : List (Nat × Stimulus)} {past : List Event} {s : Session}
      (run : Timed start inputs past s) (cause : Stimulus)
      (timeless : ∀ time, cause ≠ .clock time) :
      Timed start (inputs ++ [(s.now, cause)]) past (s.stimulate cause)
  | passes {inputs : List (Nat × Stimulus)} {past : List Event} {s : Session}
      (run : Timed start inputs past s) (idle : s.Idle) (time : Nat)
      (punctual : ∀ task due, s.due? task = some due → time ≤ due) :
      Timed start inputs past (s.setNow time)

theorem Timed.reaches (run : Timed start inputs past s) : Reaches start past s := by
  induction run with
  | start => exact .refl start
  | turn run taken ih => exact ih.snoc (.task taken)
  | @input _ _ s run cause timeless ih => simpa using ih.snoc (.stimulus s cause)
  | @passes _ _ s run idle time punctual ih =>
    have moved : Step s [] (s.setNow time) := .stimulus s (.clock time)
    simpa using ih.snoc moved

@[simp] theorem now_abortWriter (r : Relay) : r.abortWriter.now = r.now := by
  unfold Relay.abortWriter
  split <;> rfl

@[simp] theorem now_cancelId (r : Relay) (id : String) : (r.cancelId id).now = r.now := by
  unfold Relay.cancelId
  split <;> rfl

@[simp] theorem now_endWith (s : Session) (outcome : Outcome) :
    (s.endWith outcome).1.now = s.now := by
  simp [endWith, finish, windDown, Relay.closeRegistry]

/-- No step turns the clock back or moves the deadline of the handshake. -/
theorem Does.clock (does : s.Does events after) :
    s.now ≤ after.now ∧ after.initDeadline = s.initDeadline := by
  cases does with
  | writes | produces | overflows | timesOut | goesAway | ticks | finishes =>
    exact ⟨Nat.le_refl _, rfl⟩
  | hearsEnd => exact ⟨by simp, rfl⟩
  | givesUp => exact ⟨by simp [finish], rfl⟩
  | hears running room next taken =>
    cases taken with
    | parts | breaks | cancels => exact ⟨by simp, rfl⟩
    | rejects | objects | greets | enrols | replies | ignores => exact ⟨Nat.le_refl _, rfl⟩
  | isStirred cause =>
    cases cause with
    | clock time => exact ⟨Nat.le_max_left _ _, rfl⟩
    | deliver | disconnect | losePeer | requestShutdown | closeRegistry | changeEngine =>
      exact ⟨Nat.le_refl _, rfl⟩

theorem Reaches.clock (run : Reaches start past s) (orderly : start.Orderly) :
    start.now ≤ s.now ∧ s.initDeadline = start.initDeadline := by
  induction run with
  | refl => exact ⟨Nat.le_refl _, rfl⟩
  | step head tail ih =>
    have does := does_of_step orderly head
    obtain ⟨later, kept⟩ := does.clock
    obtain ⟨latest, same⟩ := ih (does.orderly orderly)
    exact ⟨Nat.le_trans later latest, same.trans kept⟩

end SubscriptionGateway.Session
