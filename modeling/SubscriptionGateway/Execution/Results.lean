import SubscriptionGateway.Execution.Engine

/-! The normalised results of one operation: results in the order of the engine, then at most one
failure, then nothing. A refusal, a failure and a panic each end the stream, and the engine is
called only when the results are first asked for. -/
namespace SubscriptionGateway

inductive Results where
  /-- Nobody has asked yet, and the engine has not been called. -/
  | unasked (request : Request) (context : Context)
  /-- The engine answers, at the end of a pause if there is one. -/
  | starting (pause : Option Nat) (answer : Answer)
  /-- The position of the next step, which is taken at the end of a pause if there is one. -/
  | streaming (steps : Nat → StreamStep) (position : Nat) (pause : Option Nat)
  /-- Over. The flag tells whether the engine's own stream was left unfinished. -/
  | spent (unfinished : Bool)

abbrev Element := Except ExecutionFailure ExecutionResult

/-- One step towards the next element. -/
inductive Poll where
  /-- Nothing before the time given, or nothing ever. -/
  | waiting (due : Option Nat)
  /-- The engine has been called. -/
  | called (next : Results)
  | progressed (next : Results)
  | element (value : Element) (next : Results)
  | ended

namespace Results

/-- Whether a pause that ends at the given time lasts on. -/
def isPausing (now : Nat) (pause : Option Nat) : Bool := pause.any fun time => now < time

/-- The time at which a call is answered; an engine that needs no time makes no pause. -/
def answerPause (now delay : Nat) : Option Nat := if delay = 0 then none else some (now + delay)

def poll (engine : Engine) (now : Nat) : Results → Poll
  | .unasked request context =>
    let execution := engine request context
    .called (.starting (answerPause now execution.delay) execution.answer)
  | .starting pause answer =>
    if isPausing now pause then .waiting pause
    else
      match answer with
      | .refused cause => .element (.error cause) (.spent false)
      | .panicked cause => .element (.error cause.failure) (.spent false)
      | .streaming steps => .progressed (.streaming steps 0 none)
  | .streaming steps position pause =>
    if isPausing now pause then .waiting pause
    else
      match steps position with
      | .result value => .element (.ok value) (.streaming steps (position + 1) none)
      | .failure cause => .element (.error cause) (.spent true)
      | .panic cause => .element (.error cause.failure) (.spent false)
      | .wait duration => .progressed (.streaming steps (position + 1) (some (now + duration)))
      | .stall => .waiting none
      | .finish => .progressed (.spent false)
  | .spent _ => .ended

/-- Whether an execution is cut short when the results are dropped in this state. -/
def isUnfinished : Results → Bool
  | .starting _ _ | .streaming _ _ _ => true
  | .unasked _ _ => false
  | .spent unfinished => unfinished

/-- Whether the results have come to a pause that has not been found to be over. -/
def hasPause : Results → Bool
  | .starting pause _ | .streaming _ _ pause => pause.isSome
  | .unasked _ _ | .spent _ => false

/-- When results that are waiting may go on. -/
def due? (engine : Engine) (now : Nat) (r : Results) : Option Nat :=
  match r.poll engine now with
  | .waiting due => due
  | _ => none

/-- After a failure there is nothing more. -/
theorem spent_of_error {engine : Engine} {now : Nat} {r next : Results} {cause : ExecutionFailure}
    (h : r.poll engine now = .element (.error cause) next) :
    ∃ unfinished, next = .spent unfinished := by
  cases r with
  | unasked => simp [poll] at h
  | starting pause answer =>
    simp only [poll] at h
    split at h
    · cases h
    · split at h <;> cases h <;> exact ⟨_, rfl⟩
  | streaming steps position pause =>
    simp only [poll] at h
    split at h
    · cases h
    · split at h <;> cases h <;> exact ⟨_, rfl⟩
  | spent => simp [poll] at h

/-- What one reader saw of some results who waited for them as long as it took. -/
structure Reading where
  /-- The elements, each with the time at which it came. -/
  elements : List (Nat × Element)
  /-- Whether the end was reached. -/
  ended : Bool
  /-- How often the engine was called. -/
  calls : Nat
  /-- The state in which the results were dropped. -/
  rest : Results

/-- Reads until the end, or until so many elements have come, or until nothing more can come. -/
def read (engine : Engine) : (fuel now : Nat) → Results → (limit : Option Nat) → Reading
  | 0, _, r, _ => ⟨[], false, 0, r⟩
  | fuel + 1, now, r, limit =>
    if limit = some 0 then ⟨[], false, 0, r⟩
    else
      match r.poll engine now with
      | .waiting none => ⟨[], false, 0, r⟩
      | .waiting (some due) => read engine fuel (max now due) r limit
      | .called next =>
        let reading := read engine fuel now next limit
        { reading with calls := reading.calls + 1 }
      | .progressed next => read engine fuel now next limit
      | .element value next =>
        let reading := read engine fuel now next (limit.map (· - 1))
        { reading with elements := (now, value) :: reading.elements }
      | .ended => ⟨[], true, 0, r⟩

end Results

end SubscriptionGateway
