import SubscriptionGateway.Proofs.Session.Steps
import SubscriptionGateway.Session.Schedule

/-! Runs of a connection: what a step keeps of the state and of the events so far holds of every
run, and a list of moves that can be played is a run. -/
namespace SubscriptionGateway.Session

theorem Reaches.snoc {start s after : Session} {past events : List Event}
    (run : Reaches start past s) (step : Step s events after) :
    Reaches start (past ++ events) after := by
  have last := Reaches.step step (.refl after)
  rw [List.append_nil] at last
  exact run.trans last

/-- Whatever each step of an orderly connection keeps, the events so far considered, holds at the
end of a run. -/
theorem Reaches.history {P : List Event → Session → Prop}
    (preserved : ∀ {past events : List Event} {s after : Session},
      s.Orderly → P past s → s.Does events after → P (past ++ events) after)
    {s last : Session} {events : List Event} (run : Reaches s events last) (orderly : s.Orderly)
    {past : List Event} (holds : P past s) : P (past ++ events) last := by
  induction run generalizing past with
  | refl => simpa using holds
  | step head tail ih =>
    have does := does_of_step orderly head
    rw [← List.append_assoc]
    exact ih (does.orderly orderly) (preserved orderly holds does)

inductive Move where
  | turn (task : SessionTask)
  | stimulus (cause : Stimulus)

def move (s : Session) : Move → Option (Session × List Event)
  | .turn task => s.turn task
  | .stimulus cause => some (s.stimulate cause, [])

theorem step_of_move {s after : Session} {m : Move} {events : List Event}
    (h : s.move m = some (after, events)) : Step s events after := by
  cases m with
  | turn task => exact .task h
  | stimulus cause => cases h; exact .stimulus s cause

/-- Makes the moves in their order; none when a task would have to wait. -/
def play : List Move → Session → Option (List Event × Session)
  | [], s => some ([], s)
  | m :: rest, s =>
    match s.move m with
    | none => none
    | some (middle, first) =>
      match play rest middle with
      | none => none
      | some (later, last) => some (first ++ later, last)

theorem play_cons_eq_some {m : Move} {rest : List Move} {s last : Session} {events : List Event}
    (h : play (m :: rest) s = some (events, last)) :
    ∃ middle first later, s.move m = some (middle, first) ∧
      play rest middle = some (later, last) ∧ events = first ++ later := by
  simp only [play] at h
  cases made : s.move m with
  | none => simp [made] at h
  | some first =>
    obtain ⟨middle, first⟩ := first
    cases played : play rest middle with
    | none => simp [made, played] at h
    | some later =>
      simp only [made, played] at h
      cases h
      exact ⟨middle, first, _, rfl, played, rfl⟩

theorem reaches_of_play {moves : List Move} {s last : Session} {events : List Event}
    (h : play moves s = some (events, last)) : Reaches s events last := by
  induction moves generalizing s events with
  | nil => cases h; exact .refl _
  | cons m rest ih =>
    obtain ⟨middle, first, later, made, played, rfl⟩ := play_cons_eq_some h
    exact .step (step_of_move made) (ih played)

/-- A run that can be played through, with what is seen at its end. -/
theorem exists_reaches_of_play (s : Session) (moves : List Move)
    (seen : List Event → Session → Bool)
    (h : (play moves s).any (fun played => seen played.1 played.2) = true) :
    ∃ events last, Reaches s events last ∧ seen events last = true := by
  cases played : play moves s with
  | none => simp [played] at h
  | some run => exact ⟨run.1, run.2, reaches_of_play played, by simpa [played] using h⟩

theorem play_append (moves rest : List Move) (s : Session) :
    play (moves ++ rest) s = (play moves s).bind fun played =>
      (play rest played.2).map fun more => (played.1 ++ more.1, more.2) := by
  induction moves generalizing s with
  | nil => simp [play]
  | cons m moves ih =>
    simp only [List.cons_append, play]
    cases s.move m with
    | none => rfl
    | some first =>
      obtain ⟨middle, first⟩ := first
      simp only [ih]
      cases play moves middle with
      | none => rfl
      | some played => cases more : play rest played.2 <;> simp [more]

/-- The same with something to be seen on the way; what is seen at the end is seen of all events. -/
theorem exists_reaches_of_play_append (s : Session) (moves rest : List Move)
    (seen seenAfter : List Event → Session → Bool)
    (h : (play moves s).any (fun played => seen played.1 played.2) = true)
    (hrest : (play (moves ++ rest) s).any (fun played => seenAfter played.1 played.2) = true) :
    ∃ events middle later last, Reaches s events middle ∧ seen events middle = true ∧
      Reaches middle later last ∧ seenAfter (events ++ later) last = true := by
  rw [play_append] at hrest
  cases played : play moves s with
  | none => simp [played] at h
  | some run =>
    cases more : play rest run.2 with
    | none => simp [played, more] at hrest
    | some later =>
      exact ⟨run.1, run.2, later.1, later.2, reaches_of_play played, by simpa [played] using h,
        reaches_of_play more, by simpa [played, more] using hrest⟩

def hearing (message : Message) : List Move :=
  [.stimulus (.deliver (.ok (.text message.encode))), .turn .connection]

def producing (seq count : Nat) : List Move :=
  List.replicate count (.turn (.relay (.producer seq)))

/-- A connection whose engine answers every request with one result. -/
def single (outboundBuffer : Nat) (half : WriteHalf) : Session :=
  .new { SessionConfig.default with outboundBuffer } "single"
    (fun _ _ => .ofSteps [.result (.ofData (.integer 1))] .finish) [] half 0 false

def mute : Session := single 256 (.scripted 0 none (some 0) true)

/-- A handshake whose acknowledgement the writer takes and tries to write. -/
def greeting : List Move :=
  hearing (.connectionInit none) ++ [.turn (.relay .writer), .turn (.relay .writer)]

def subscribing (id : String) : Message := .subscribe id ⟨"one", none, none, none⟩

def isIdle (s : Session) : Bool := s.tasks.all fun task => (s.turn task).isNone

theorem idle_iff {s : Session} : s.Idle ↔ s.isIdle = true := by
  simp only [isIdle, List.all_eq_true, Option.isNone_iff_eq_none]
  refine ⟨fun idle task _ => idle task, fun h task => ?_⟩
  by_cases listed : task ∈ s.tasks
  · exact h task listed
  · obtain _ | _ | seq := task
    · simp [tasks] at listed
    · simp [tasks, Relay.tasks] at listed
    · have absent : s.producers.find? (fun p => p.seq == seq) = none := by
        simpa [tasks, Relay.tasks] using listed
      simp [turn, Relay.turn, absent]

end SubscriptionGateway.Session
