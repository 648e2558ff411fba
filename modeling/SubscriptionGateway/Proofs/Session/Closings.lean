import SubscriptionGateway.Proofs.Session.Runs

/-! The decisions of a connection to close, and its end. Each of them happens once at most, and the
stage of the connection tells which it was. -/
namespace SubscriptionGateway

namespace Event

def closing? : Event → Option CloseReason
  | .closing reason => some reason
  | _ => none

def outcome? : Event → Option Outcome
  | .ended outcome => some outcome
  | _ => none

def Passing (e : Event) : Prop := e.closing? = none ∧ e.outcome? = none

@[simp] theorem passing_arrived (item : Option InboundItem) : (arrived item).Passing := ⟨rfl, rfl⟩

@[simp] theorem passing_registered (id : String) (seq : Nat) : (registered id seq).Passing :=
  ⟨rfl, rfl⟩

end Event

/-- The reasons for which the server decides to close. -/
def closings (events : List Event) : List CloseReason := events.filterMap Event.closing?

def endings (events : List Event) : List Outcome := events.filterMap Event.outcome?

@[simp] theorem closings_append (first second : List Event) :
    closings (first ++ second) = closings first ++ closings second :=
  List.filterMap_append

@[simp] theorem endings_append (first second : List Event) :
    endings (first ++ second) = endings first ++ endings second :=
  List.filterMap_append

theorem mem_closings {events : List Event} {reason : CloseReason} :
    reason ∈ closings events ↔ .closing reason ∈ events := by
  simp only [closings, List.mem_filterMap]
  constructor
  · rintro ⟨e, member, closing⟩
    cases e with
    | closing other => cases closing; exact member
    | _ => cases closing
  · intro member
    exact ⟨_, member, rfl⟩

theorem closings_of_passing {events : List Event} (passing : ∀ e ∈ events, e.Passing) :
    closings events = [] :=
  List.filterMap_eq_nil_iff.mpr fun e member => (passing e member).1

theorem endings_of_passing {events : List Event} (passing : ∀ e ∈ events, e.Passing) :
    endings events = [] :=
  List.filterMap_eq_nil_iff.mpr fun e member => (passing e member).2

namespace Stage

def reason? : Stage → Option CloseReason
  | .closing reason _ | .ended (.serverClosed reason) => some reason
  | _ => none

def outcome? : Stage → Option Outcome
  | .ended outcome => some outcome
  | _ => none

end Stage

theorem passing_enqueue (q : OutboundQueue) (source : Source) (message : Message) :
    ∀ e ∈ (q.enqueue source message).2.2, e.Passing := by
  intro e member
  rcases OutboundQueue.mem_enqueue member with rfl | ⟨why, rfl⟩ | rfl
  · exact ⟨rfl, rfl⟩
  · exact ⟨rfl, rfl⟩
  · exact ⟨rfl, rfl⟩

theorem Producer.Turns.passing {p : Producer} {engine : Engine} {now : Nat} {registry : Registry}
    {queue : OutboundQueue} {taken : ProducerTurn}
    (turned : p.Turns engine now registry queue taken) : ∀ e ∈ taken.events, e.Passing := by
  intro e member
  cases turned.causes e member <;> exact ⟨rfl, rfl⟩

namespace Session

variable {past events : List Event} {s after : Session}

structure Told (past : List Event) (s : Session) : Prop where
  closings : closings past = s.stage.reason?.toList
  endings : endings past = s.stage.outcome?.toList

theorem Told.passing (told : Told past s) (stage : after.stage = s.stage)
    (passing : ∀ e ∈ events, e.Passing) : Told (past ++ events) after where
  closings := by
    rw [closings_append, told.closings, closings_of_passing passing, List.append_nil, stage]
  endings := by
    rw [endings_append, told.endings, endings_of_passing passing, List.append_nil, stage]

theorem Told.close (told : Told past s) (running : s.stage = .running) (reason : CloseReason) :
    Told (past ++ [.closing reason]) (s.close reason).1 where
  closings := by rw [closings_append, told.closings, running]; rfl
  endings := by rw [endings_append, told.endings, running]; rfl

/-- An end that is not the server's decision. -/
theorem Told.endWith (told : Told past s) (running : s.stage = .running) {outcome : Outcome}
    (foreign : ∀ reason, outcome ≠ .serverClosed reason) :
    Told (past ++ [.ended outcome]) (s.endWith outcome).1 where
  closings := by
    rw [closings_append, told.closings, running]
    cases outcome with
    | serverClosed reason => exact absurd rfl (foreign reason)
    | peerClosed | transportFailed => rfl
  endings := by rw [endings_append, told.endings, running]; rfl

theorem Told.finish (told : Told past s) {reason : CloseReason} {deadline : Nat}
    (waiting : s.stage = .closing reason deadline)
    (stage : after.stage = .ended (.serverClosed reason)) :
    Told (past ++ [.ended (.serverClosed reason)]) after where
  closings := by rw [closings_append, told.closings, waiting, stage]; rfl
  endings := by rw [endings_append, told.endings, waiting, stage]; rfl

theorem Told.takes (told : Told past s) (running : s.stage = .running) {item : InboundItem}
    (taken : s.Takes item events after) : Told (past ++ events) after := by
  cases taken with
  | parts | breaks => exact told.endWith running (by simp)
  | rejects | objects => exact told.close running _
  | greets =>
    refine told.passing rfl ?_
    simp only [handshake, send_eq, List.forall_mem_cons]
    exact ⟨⟨rfl, rfl⟩, passing_enqueue _ _ _⟩
  | enrols | cancels | ignores => exact told.passing rfl (by simp)
  | replies => exact told.passing rfl (passing_enqueue _ _ _)

theorem Told.step (told : Told past s) (does : s.Does events after) :
    Told (past ++ events) after := by
  cases does with
  | writes present turned =>
    refine told.passing rfl fun e member => ?_
    obtain ⟨frame, rfl⟩ := turned.delivered e member
    exact ⟨rfl, rfl⟩
  | produces found turned => exact told.passing rfl turned.passing
  | overflows running | timesOut running | goesAway running => exact told.close running _
  | hears running room next taken =>
    rename_i item rest inner
    have heard : Told (past ++ [.arrived (some item)]) { s with inbound := rest } :=
      told.passing rfl (by simp)
    simpa using heard.takes running taken
  | hearsEnd running =>
    have heard : Told (past ++ [.arrived none]) s := told.passing rfl (by simp)
    have foreign : ∀ reason, Outcome.peerClosed ≠ .serverClosed reason := by simp
    simpa using heard.endWith running foreign
  | ticks => exact told.passing rfl (passing_enqueue _ _ _)
  | finishes waiting => exact told.finish waiting rfl
  | givesUp waiting => exact told.finish waiting rfl
  | isStirred cause =>
    cases cause <;> exact told.passing rfl (by simp)

/-- In every run the server has decided to close for the reason that the stage gives, once, and the
connection has ended as the stage says. -/
theorem told_of_reaches {config : SessionConfig} {connectionId : String} {engine : Engine}
    {interceptors : InterceptorChain} {half : WriteHalf} {now : Nat} {shutdown : Bool}
    (run : Reaches (.new config connectionId engine interceptors half now shutdown) events s) :
    Told events s := by
  have orderly := orderly_new config connectionId engine interceptors half now shutdown
  have start : Told [] (new config connectionId engine interceptors half now shutdown) :=
    ⟨rfl, rfl⟩
  exact run.history (fun _ told does => Told.step told does) orderly start

end Session

end SubscriptionGateway
