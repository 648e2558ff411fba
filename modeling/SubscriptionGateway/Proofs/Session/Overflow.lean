import SubscriptionGateway.Proofs.Session.Closings
import SubscriptionGateway.Proofs.Session.Refusals

/-! The overflow of the outbound queue. The first message that finds the queue full raises it, and
from there a connection hears nothing more and has one end only. -/
namespace SubscriptionGateway

namespace Event

def Overflows : Event → Prop
  | .refused _ _ .overflow => True
  | _ => False

/-- Whether the connection takes what has arrived, or finds that nothing more can arrive. -/
def IsArrival : Event → Prop
  | .arrived _ => True
  | _ => False

theorem not_arrival_of_enqueue {q : OutboundQueue} {source : Source} {message : Message}
    {e : Event} (member : e ∈ (q.enqueue source message).2.2) : ¬ e.IsArrival := by
  rcases OutboundQueue.mem_enqueue member with rfl | ⟨why, rfl⟩ | rfl <;> exact not_false

end Event

theorem CloseReason.eq_outboundOverflow_of_code {reason : CloseReason}
    (code : reason.code = CloseReason.outboundOverflow.code) : reason = .outboundOverflow := by
  simpa using CloseReason.code_eq_iff.mp code

namespace Session

variable {past events : List Event} {s after last : Session} {capacity : Nat}

theorem Takes.not_arrival {item : InboundItem} (taken : s.Takes item events after) :
    ∀ e ∈ events, ¬ e.IsArrival := by
  cases taken with
  | parts | breaks | rejects | objects | enrols | cancels | ignores => simp [Event.IsArrival]
  | greets =>
    rw [handshake, List.forall_mem_cons]
    exact ⟨not_false, fun e member => Event.not_arrival_of_enqueue member⟩
  | replies => exact fun e member => Event.not_arrival_of_enqueue member

/-- A step hears something at its very beginning, and only while the signal is down. -/
theorem Does.arrival (does : s.Does events after) :
    (∀ e ∈ events, ¬ e.IsArrival) ∨
      s.queue.overflowed = false ∧
        ∃ item rest, events = .arrived item :: rest ∧ ∀ e ∈ rest, ¬ e.IsArrival := by
  cases does with
  | writes present turned =>
    refine .inl fun e member => ?_
    obtain ⟨frame, rfl⟩ := turned.delivered e member
    exact not_false
  | produces found turned =>
    refine .inl fun e member => ?_
    cases turned.causes e member <;> exact not_false
  | overflows | timesOut | goesAway | finishes | givesUp | isStirred =>
    exact .inl (by simp [Event.IsArrival])
  | ticks => exact .inl fun e member => Event.not_arrival_of_enqueue member
  | hears running room next taken => exact .inr ⟨room, _, _, rfl, taken.not_arrival⟩
  | hearsEnd running room => exact .inr ⟨room, _, _, rfl, by simp [Event.IsArrival]⟩

/-- What the queue tells of the past, and what its signal means for the connection. -/
structure Gauged (capacity : Nat) (past : List Event) (s : Session) : Prop where
  capacity : s.queue.capacity = capacity
  fits : s.queue.messages.length ≤ s.queue.capacity
  settled : s.queue.Settled
  counted : Metrics.overflowsTotal past = s.queue.overflowed.toNat
  deaf : past.Pairwise fun first later => first.Overflows → ¬ later.IsArrival
  doomed : s.queue.overflowed = true →
    s.stage = .running ∨ s.stage.reason? = some .outboundOverflow

theorem Departed.overflowed_of_overflows (departed : Departed past s) {e : Event}
    (member : e ∈ past) (overflows : e.Overflows) : s.queue.overflowed = true := by
  refine departed.overflowed.mpr ?_
  unfold Event.Overflows at overflows
  split at overflows
  · exact ⟨_, _, member⟩
  · cases overflows

theorem Gauged.deaf_step (gauged : Gauged capacity past s) (departed : Departed past s)
    (does : s.Does events after) :
    (past ++ events).Pairwise fun first later => first.Overflows → ¬ later.IsArrival := by
  refine List.pairwise_append.mpr ⟨gauged.deaf, ?_, fun first old later new overflows => ?_⟩
  · rcases does.arrival with none | ⟨-, item, rest, rfl, none⟩
    · exact List.pairwise_of_forall_mem_list fun _ _ later member _ => none later member
    · refine List.pairwise_cons.mpr ⟨fun _ _ overflows => overflows.elim, ?_⟩
      exact List.pairwise_of_forall_mem_list fun _ _ later new _ => none later new
  · rcases does.arrival with none | ⟨room, -⟩
    · exact none later new
    · have full := departed.overflowed_of_overflows old overflows
      simp [room] at full

/-- Once the signal is up the connection can only close for it. -/
theorem Does.doomed (does : s.Does events after) (full : s.queue.overflowed = true)
    (doomed : s.stage = .running ∨ s.stage.reason? = some .outboundOverflow) :
    after.stage = .running ∨ after.stage.reason? = some .outboundOverflow := by
  cases does with
  | writes | produces => exact doomed
  | overflows => exact .inr rfl
  | hears _ room | hearsEnd _ room | timesOut _ room | goesAway _ room | ticks _ room =>
    simp [room] at full
  | finishes waiting | givesUp waiting =>
    rw [waiting] at doomed
    exact .inr (doomed.resolve_left (by simp))
  | isStirred cause => cases cause <;> exact doomed

theorem Gauged.step (gauged : Gauged capacity past s) (departed : Departed past s)
    (orderly : s.Orderly) (does : s.Does events after) :
    Gauged capacity (past ++ events) after := by
  have deaf := gauged.deaf_step departed does
  have counted (raised : Metrics.overflowsTotal events + s.queue.overflowed.toNat =
      after.queue.overflowed.toNat) :
      Metrics.overflowsTotal (past ++ events) = after.queue.overflowed.toNat := by
    rw [Metrics.overflowsTotal_append, gauged.counted, Nat.add_comm, raised]
  cases does.fills orderly with
  | offers running still offered =>
    refine ⟨offered.capacity.trans gauged.capacity, ?_, offered.settled gauged.settled,
      counted offered.overflowsTotal, deaf, fun _ => .inl still⟩
    rw [offered.capacity]
    exact offered.length_le gauged.fits
  | spares spared =>
    refine ⟨spared.capacity.trans gauged.capacity, ?_, spared.settled gauged.settled,
      counted spared.overflowsTotal, deaf, fun full => ?_⟩
    · rw [spared.capacity]
      exact Nat.le_trans spared.length gauged.fits
    · have before : s.queue.overflowed = true := spared.overflowed ▸ full
      exact does.doomed before (gauged.doomed before)

/-- No message is offered to the queue of a connection that is torn down. -/
theorem unoffered_of_closed (orderly : s.Orderly) (closed : s.phase = .closed)
    (run : Reaches s events last) : ∀ e ∈ events, ¬ e.IsOffer := by
  induction run with
  | refl => simp
  | step head tail ih =>
    have does := does_of_step orderly head
    have still := does.phase_closed_iff.mpr (.inl closed)
    refine List.forall_mem_append.mpr ⟨?_, ih (does.orderly orderly) still⟩
    cases does.fills orderly with
    | offers running => exact absurd closed (orderly.running.mp running)
    | spares spared => exact spared.unoffered

theorem gauged_of_reaches {config : SessionConfig} {connectionId : String} {engine : Engine}
    {interceptors : InterceptorChain} {half : WriteHalf} {now : Nat} {shutdown : Bool}
    (run : Reaches (.new config connectionId engine interceptors half now shutdown) events s) :
    Gauged (max config.outboundBuffer 1) events s := by
  have orderly := orderly_new config connectionId engine interceptors half now shutdown
  have start : Gauged (max config.outboundBuffer 1) []
      (new config connectionId engine interceptors half now shutdown) :=
    ⟨rfl, Nat.zero_le _, fun _ => rfl, rfl, .nil, by simp [new, Relay.new, OutboundQueue.new]⟩
  have kept := run.history (P := fun past s => Departed past s ∧ Gauged _ past s)
    (fun orderly past does => ⟨past.1.step orderly does, past.2.step past.1 orderly does⟩)
    orderly ⟨departed_new .., start⟩
  exact kept.2

theorem overflowed_iff (departed : Departed past s) :
    s.queue.overflowed = true ↔ .overflow ∈ refusals past :=
  departed.overflowed.trans mem_refusals.symm

theorem Gauged.queued (gauged : Gauged capacity past s) (positive : 0 < capacity)
    (fills : s.Fills events after) (source : Source) (message : Message) :
    (.accepted source message ∈ events → s.queue.messages.length < capacity) ∧
      ∀ why, .refused source message why ∈ events →
        (why = .overflow ↔ s.queue.messages.length = capacity) := by
  cases fills with
  | spares spared =>
    exact ⟨fun accepted => absurd trivial (spared.unoffered _ accepted),
      fun why refused => absurd trivial (spared.unoffered _ refused)⟩
  | offers running still offered =>
    have held := gauged.capacity
    subst held
    exact offered.queued gauged.fits gauged.settled positive source message

/-- A connection closes for an overflow exactly if a message has been refused for it. -/
theorem Gauged.outcome_iff (gauged : Gauged capacity past s) (departed : Departed past s)
    (told : Told past s) {outcome : Outcome} (ended : s.stage = .ended outcome) :
    outcome = .serverClosed .outboundOverflow ↔ .overflow ∈ refusals past := by
  constructor
  · rintro rfl
    have decided : .outboundOverflow ∈ closings past := by
      rw [told.closings, ended]
      exact List.mem_singleton_self _
    exact (overflowed_iff departed).mp (departed.signalled (mem_closings.mp decided))
  · intro overflow
    have reason := gauged.doomed ((overflowed_iff departed).mpr overflow)
    replace reason := reason.resolve_left (by simp [ended])
    rw [ended] at reason
    unfold Stage.reason? at reason
    split at reason
    · next equal => cases equal
    · next equal => cases equal; cases reason; rfl
    · cases reason

/-- In every run, whatever the size of the queue, the progress of the writer and the operations: the
overflow is counted once at most, and it is counted exactly if a message has been refused because of
it. A message is accepted only while fewer messages than the queue holds are queued, and a refusal
is an overflow exactly if so many are. After such a refusal nothing is heard any more, the
connection closes for the overflow unless it has already come to that, and its outcome is this one
exactly if there was such a refusal. After the teardown no message is offered to the queue at all.
-/
theorem overflow_is_exact {config : SessionConfig} {connectionId : String} {engine : Engine}
    {interceptors : InterceptorChain} {half : WriteHalf} {now : Nat} {shutdown : Bool}
    (run : Reaches (.new config connectionId engine interceptors half now shutdown) events s) :
    (Metrics.overflowsTotal events = if .overflow ∈ refusals events then 1 else 0) ∧
    (∀ {caused after}, Step s caused after → ∀ source message,
      (.accepted source message ∈ caused →
        s.queue.messages.length < max config.outboundBuffer 1) ∧
      ∀ why, .refused source message why ∈ caused →
        (why = .overflow ↔ s.queue.messages.length = max config.outboundBuffer 1)) ∧
    (events.Pairwise fun first later => first.Overflows → ¬ later.IsArrival) ∧
    (.overflow ∈ refusals events →
      s.stage = .running ∧ s.turn .connection = some (s.close .outboundOverflow) ∨
        s.stage.reason? = some .outboundOverflow) ∧
    (∀ outcome, s.stage = .ended outcome →
      (outcome = .serverClosed .outboundOverflow ↔ .overflow ∈ refusals events) ∧
      ((∃ reason, outcome = .serverClosed reason ∧ reason.code = 1013) ↔
        .overflow ∈ refusals events)) ∧
    (s.phase = .closed → ∀ {later last}, Reaches s later last → ∀ e ∈ later, ¬ e.IsOffer) := by
  have known := known_of_reaches run
  have gauged := gauged_of_reaches run
  have told := told_of_reaches run
  have full := overflowed_iff known.departed
  refine ⟨?_, ?_, gauged.deaf, fun overflow => ?_, fun outcome ended => ?_, ?_⟩
  · rw [gauged.counted]
    cases signal : s.queue.overflowed <;> simp [← full, signal]
  · intro caused after step
    have positive : 0 < max config.outboundBuffer 1 := by omega
    exact gauged.queued positive ((does_of_step known.orderly step).fills known.orderly)
  · refine (gauged.doomed (full.mpr overflow)).imp_left fun running => ⟨running, ?_⟩
    simp [turn, connectionTurn, running, full.mpr overflow]
  · have outcome_iff := gauged.outcome_iff known.departed told ended
    refine ⟨outcome_iff, ?_⟩
    rw [← outcome_iff]
    constructor
    · rintro ⟨reason, rfl, code⟩
      exact congrArg _ (CloseReason.eq_outboundOverflow_of_code code)
    · rintro rfl
      exact ⟨_, rfl, rfl⟩
  · intro closed later last onwards
    exact unoffered_of_closed known.orderly closed onwards

/-- A client whose handshake fills the queue and whose ping overflows it. The writer empties the
queue and sends the close frame, and the connection ends. -/
def overrun : List Move :=
  hearing (.connectionInit none) ++ hearing (.ping none) ++ [.turn .connection] ++
    List.replicate 4 (.turn (.relay .writer)) ++ [.turn .connection]

/-- The theorem at this run; a queue of no message is one of one message. -/
theorem overflow_of_overrun : ∃ events s,
    Reaches (single 0 (.scripted 0 none none true)) events s ∧ refusals events = [.overflow] ∧
      Metrics.overflowsTotal events = 1 ∧ s.stage = .ended (.serverClosed .outboundOverflow) := by
  obtain ⟨events, s, run, seen⟩ := exists_reaches_of_play
    (single 0 (.scripted 0 none none true)) overrun
    (fun events s => decide (refusals events = [.overflow]) && s.stage.outcome?.isSome)
    (by decide +kernel)
  simp only [Bool.and_eq_true, decide_eq_true_eq] at seen
  obtain ⟨refused, finished⟩ := seen
  have overflow : .overflow ∈ refusals events := by simp [refused]
  obtain ⟨counted, -, -, -, outcomes, -⟩ := overflow_is_exact run
  rw [if_pos overflow] at counted
  cases stage : s.stage with
  | running | closing => simp [stage, Stage.outcome?] at finished
  | ended outcome =>
    obtain rfl := (outcomes outcome stage).1.mpr overflow
    exact ⟨events, s, run, refused, counted, stage⟩

end Session

end SubscriptionGateway
