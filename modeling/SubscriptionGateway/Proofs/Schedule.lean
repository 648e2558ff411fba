import SubscriptionGateway.Schedule

/-! Runs of a machine in virtual time, whatever the order of its tasks: they take one turn after the
other, and the clock moves only while all of them wait, and not beyond the time at which one of them
is due. -/
namespace SubscriptionGateway.Machine

variable {State Task Event : Type} (m : Machine State Task Event)

def Idle (s : State) : Prop := ∀ task ∈ m.tasks s, m.turn s task = none

inductive Step (s : State) : List Event → State → Prop where
  | turns {task : Task} {events : List Event} {after : State} (member : task ∈ m.tasks s)
      (taken : m.turn s task = some (after, events)) : Step s events after
  | passes {time : Nat} (idle : m.Idle s) (later : m.now s < time)
      (punctual : ∀ task ∈ m.tasks s, ∀ due, m.due? s task = some due → time ≤ due) :
      Step s [] (m.setNow time s)

inductive Run (first : State) : Nat → List Event → State → Prop where
  | start : Run first 0 [] first
  | snoc {count : Nat} {past events : List Event} {s after : State} (run : Run first count past s)
      (step : m.Step s events after) : Run first (count + 1) (past ++ events) after

variable {m} {first s last : State} {count : Nat} {past : List Event}

/-- Whatever each step keeps, all that was told so far considered, holds at the end of a run. -/
theorem Run.history {P : List Event → State → Prop}
    (kept : ∀ {past events : List Event} {s after : State},
      P past s → m.Step s events after → P (past ++ events) after)
    (run : m.Run first count past last) (holds : P [] first) : P past last := by
  induction run with
  | start => exact holds
  | snoc _ step ih => exact kept ih step

/-- A machine goes on where no task that waits is due at once. -/
theorem exists_step (later : ∀ task ∈ m.tasks s, ∀ due, m.due? s task = some due →
    m.turn s task = none → m.now s < due) : ∃ events after, m.Step s events after := by
  by_cases idle : m.Idle s
  · refine ⟨[], _, .passes idle (Nat.lt_succ_self _) fun task member due found => ?_⟩
    exact later task member due found (idle task member)
  · obtain ⟨task, needed⟩ := Classical.not_forall.mp idle
    obtain ⟨member, able⟩ := Classical.not_imp.mp needed
    obtain ⟨⟨after, events⟩, taken⟩ := Option.ne_none_iff_exists'.mp able
    exact ⟨events, after, .turns member taken⟩

end SubscriptionGateway.Machine
