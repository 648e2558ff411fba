import SubscriptionGateway.Proofs.Session.Rest

/-! What a refused message means for its connection. If it was refused because the queue was full,
the connection is closed once everything waits, and what is left of the run serves nobody. If it was
refused because the writer was gone, nothing follows: the connection takes what arrives as before,
and calls the engine for it, until it closes for a reason of its own. -/
namespace SubscriptionGateway

namespace Event

/-- Whether an event serves the peer: a frame is taken, or the engine gets a request. -/
def Serves : Event → Prop
  | .arrived (some _) | .registered _ _ | .called _ _ _ _ => True
  | _ => False

def refusal? : Event → Option Refusal
  | .refused _ _ why => some why
  | _ => none

end Event

def refusals (events : List Event) : List Refusal := events.filterMap Event.refusal?

theorem mem_refusals {events : List Event} {why : Refusal} :
    why ∈ refusals events ↔ ∃ source message, .refused source message why ∈ events := by
  simp only [refusals, List.mem_filterMap]
  constructor
  · rintro ⟨e, member, refused⟩
    cases e with
    | refused source message => cases refused; exact ⟨source, message, member⟩
    | _ => cases refused
  · rintro ⟨source, message, member⟩
    exact ⟨_, member, rfl⟩

/-- A reader that has heard everything finds what is sent next. -/
theorem Inbound.next_deliver {i : Inbound} (heard : i.items = []) (connected : i.connected = true)
    (reads : i.isRead = true) (item : InboundItem) : (i.deliver item).1.next = .item item i := by
  obtain ⟨items, connected, isRead⟩ := i
  subst heard connected reads
  rfl

namespace Session

variable {past events : List Event} {s after last : Session}

structure Deserted (s : Session) : Prop where
  phase : s.phase = .closed
  empty : s.producers = []

theorem Deserted.step (deserted : s.Deserted) (orderly : s.Orderly) (does : s.Does events after) :
    after.Deserted ∧ ∀ e ∈ events, ¬ e.Serves := by
  have finished : s.stage ≠ .running := fun running => orderly.running.mp running deserted.phase
  cases does with
  | writes present turned =>
    refine ⟨⟨deserted.phase, deserted.empty⟩, fun e member => ?_⟩
    obtain ⟨frame, rfl⟩ := turned.delivered e member
    simp [Event.Serves]
  | produces found => simp [deserted.empty] at found
  | overflows running | timesOut running | goesAway running | hearsEnd running | hears running
  | ticks running => exact absurd running finished
  | finishes => exact ⟨⟨deserted.phase, deserted.empty⟩, by simp [Event.Serves]⟩
  | givesUp => exact ⟨⟨deserted.phase, by simp [finish, deserted.empty]⟩, by simp [Event.Serves]⟩
  | isStirred cause =>
    cases cause <;> exact ⟨⟨deserted.phase, deserted.empty⟩, by simp⟩

theorem Deserted.run (deserted : s.Deserted) (orderly : s.Orderly) (run : Reaches s events last) :
    ∀ e ∈ events, ¬ e.Serves := by
  induction run with
  | refl => simp
  | step head tail ih =>
    have does := does_of_step orderly head
    obtain ⟨still, silent⟩ := deserted.step orderly does
    exact List.forall_mem_append.mpr ⟨silent, ih still (does.orderly orderly)⟩

theorem Known.deserted (known : Known past s) (idle : s.Idle) (closed : s.phase = .closed) :
    s.Deserted :=
  ⟨closed, no_producers_at_rest idle known.enrolled known.tenured known.orderly
    (known.orderly.tornDown closed)⟩

theorem Known.phase_closed_iff (known : Known past s) (idle : s.Idle) :
    s.phase = .closed ↔ .overflow ∈ refusals past ∨ ∃ e ∈ past, e.Departs := by
  constructor
  · intro closed
    obtain ⟨e, member, departs | rfl⟩ := known.departed.phase.mp closed
    · exact .inr ⟨e, member, departs⟩
    · have full := known.departed.signalled member
      exact .inl (mem_refusals.mpr (known.departed.overflowed.mp full))
  · rintro (overflow | ⟨e, member, departs⟩)
    · obtain ⟨source, message, refused⟩ := mem_refusals.mp overflow
      exact known.phase_closed_of_overflow idle refused
    · exact known.departed.phase.mpr ⟨e, member, .inl departs⟩

theorem connectionTurn_of_next {item : InboundItem} {rest : Inbound} (running : s.stage = .running)
    (room : s.queue.overflowed = false) (next : s.inbound.next = .item item rest) :
    s.connectionTurn =
      some (withArrival (some item) ({ s with inbound := rest }.takeItem item)) := by
  simp [connectionTurn, running, room, next]

theorem Known.takes_next (known : Known past s) (idle : s.Idle) (opened : s.phase ≠ .closed)
    (item : InboundItem) :
    (s.stimulate (.deliver item)).turn .connection =
      some (withArrival (some item) (s.takeItem item)) := by
  have running := known.orderly.running.mpr opened
  obtain ⟨room, heard, connected⟩ := task_at_rest idle running
  have next := Inbound.next_deliver heard connected (known.departed.reads running) item
  exact connectionTurn_of_next (s := s.stimulate (.deliver item)) running room next

/-- A connection that is open and at rest after a refusal has lost its writer. -/
theorem Known.queue_shut (known : Known past s) (idle : s.Idle) (opened : s.phase ≠ .closed)
    (refused : refusals past ≠ []) : s.queue.isOpen = false := by
  obtain ⟨why, found⟩ := List.exists_mem_of_ne_nil _ refused
  obtain ⟨source, message, member⟩ := mem_refusals.mp found
  cases why with
  | overflow => exact absurd (known.phase_closed_of_overflow idle member) opened
  | closed => exact known.departed.shut source message member

/-- At every point of every run at which all tasks wait: the connection and its registry are closed
exactly if the queue has refused a message because it was full, or the connection has come to close
for a reason of its own. Once it is closed nothing serves the peer in whatever comes after. While it
is not, the next item that arrives is processed, even if a message has been refused; the writer is
gone then. -/
theorem closed_at_rest_iff {config : SessionConfig} {connectionId : String} {engine : Engine}
    {interceptors : InterceptorChain} {half : WriteHalf} {now : Nat} {shutdown : Bool}
    (run : Reaches (.new config connectionId engine interceptors half now shutdown) events s)
    (idle : s.Idle) :
    (s.phase = .closed ∧ s.registry.closed = true ↔
      .overflow ∈ refusals events ∨ ∃ e ∈ events, e.Departs) ∧
    (s.phase = .closed → ∀ {later last}, Reaches s later last → ∀ e ∈ later, ¬ e.Serves) ∧
    (s.phase ≠ .closed → ∀ item, (s.stimulate (.deliver item)).turn .connection =
      some (withArrival (some item) (s.takeItem item))) ∧
    (s.phase ≠ .closed → refusals events ≠ [] → s.queue.isOpen = false) := by
  have known := known_of_reaches run
  refine ⟨?_, ?_, known.takes_next idle, known.queue_shut idle⟩
  · rw [and_iff_left_of_imp known.orderly.tornDown]
    exact known.phase_closed_iff idle
  · intro closed later last onwards
    exact (known.deserted idle closed).run known.orderly onwards

/-- A handshake that leaves no room in a queue of one message, and a ping that overflows it. -/
def crowded : List Move :=
  hearing (.connectionInit none) ++ hearing (.ping none) ++
    [.turn .connection, .turn (.relay .writer), .turn (.relay .writer)]

/-- The theorem at a run with an overflow. -/
theorem closed_at_rest_of_crowded : ∃ events s,
    Reaches (single 1 (.scripted 0 (some 0) none true)) events s ∧ s.Idle ∧
      refusals events = [.overflow] ∧ s.phase = .closed ∧ s.registry.closed = true ∧
      ∀ later last, Reaches s later last → ∀ e ∈ later, ¬ e.Serves := by
  obtain ⟨events, s, run, seen⟩ := exists_reaches_of_play
    (single 1 (.scripted 0 (some 0) none true)) crowded
    (fun events s => s.isIdle && decide (refusals events = [.overflow])) (by decide +kernel)
  simp only [Bool.and_eq_true, decide_eq_true_eq] at seen
  obtain ⟨idle, refused⟩ := seen
  obtain ⟨closes, silent, -⟩ := closed_at_rest_iff run (idle_iff.mpr idle)
  obtain ⟨phase, registry⟩ := closes.mpr (.inl (by simp [refused]))
  exact ⟨events, s, run, idle_iff.mpr idle, refused, phase, registry, fun _ _ => silent phase⟩

/-- A connection whose writer has failed: its pong is refused, everything waits, and it is still
open. It takes the `subscribe` that comes after that, and calls the engine. -/
theorem served_after_refusal : ∃ events s later last,
    Reaches mute events s ∧ s.Idle ∧ refusals events = [.closed] ∧ s.phase = .initialized ∧
      s.registry.closed = false ∧ Reaches s later last ∧ later.any Event.isCall = true := by
  obtain ⟨events, s, later, last, before, seen, onwards, called⟩ := exists_reaches_of_play_append
    mute (greeting ++ hearing (.ping none)) (hearing (subscribing "1") ++ producing 1 2)
    (fun events s => s.isIdle && decide (refusals events = [.closed]) &&
      decide (s.phase = .initialized) && !s.registry.closed && !events.any Event.isCall)
    (fun events _ => events.any Event.isCall) (by decide +kernel) (by decide +kernel)
  simp only [Bool.and_eq_true, decide_eq_true_eq, Bool.not_eq_true'] at seen
  obtain ⟨⟨⟨⟨idle, refused⟩, phase⟩, registry⟩, uncalled⟩ := seen
  rw [List.any_append, uncalled, Bool.false_or] at called
  exact ⟨events, s, later, last, before, idle_iff.mpr idle, refused, phase, registry, onwards,
    called⟩

end Session

end SubscriptionGateway
