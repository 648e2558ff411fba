import SubscriptionGateway.Proofs.Outbound.Room
import SubscriptionGateway.Proofs.Session.Tenure

/-! How a connection comes to close: because the overflow signal is up, or for a reason of its own.
A message that is refused because the writer is gone is neither. -/
namespace SubscriptionGateway

/-- Whether an event closes the connection for another reason than an overflow. -/
def Event.Departs : Event → Prop
  | .closing reason => reason ≠ .outboundOverflow
  | .ended .peerClosed | .ended (.transportFailed _) => True
  | _ => False

def Event.Closes (e : Event) : Prop := e.Departs ∨ e = .closing .outboundOverflow

theorem Event.closes_closing (reason : CloseReason) : (Event.closing reason).Closes := by
  by_cases overflow : reason = .outboundOverflow
  · exact .inr (by rw [overflow])
  · exact .inl overflow

def CloseReason.IsObjection : CloseReason → Prop
  | .outboundOverflow | .initTimeout | .goingAway => False
  | _ => True

namespace Session

theorem isObjection_rejection (phase : Phase) (error : DecodeError) :
    (rejection phase error).IsObjection := by
  unfold rejection
  split
  · split <;> trivial
  · trivial

theorem isObjection_of_objection? {s : Session} {message : Message} {reason : CloseReason}
    (h : s.objection? message = some reason) : reason.IsObjection := by
  unfold objection? at h
  split at h
  · cases h
  · cases h; trivial
  · cases h; trivial
  · split at h
    · cases h; trivial
    · cases h
  · cases h; trivial
  · cases h; trivial
  · cases h; trivial
  · cases h

variable {past events : List Event} {s after : Session}

theorem Orderly.running_of_live (orderly : s.Orderly) {id : String} {seq : Nat}
    (live : s.registry.seq? id = some seq) : s.stage = .running := by
  refine orderly.running.mpr fun closed => ?_
  have empty := orderly.sound.emptied (orderly.tornDown closed)
  simp [Registry.entries_nil_iff.mp empty id] at live

inductive Fills (s : Session) (events : List Event) (after : Session) : Prop where
  | offers {source : Source} {message : Message} (running : s.stage = .running)
      (still : after.stage = .running)
      (offered : s.queue.Offered source message events after.queue)
  | spares (spared : s.queue.Spared events after.queue)

theorem spared_abortWriter (r : Relay) (unoffered : ∀ e ∈ events, ¬ e.IsOffer) :
    r.queue.Spared events r.abortWriter.queue := by
  unfold Relay.abortWriter
  split
  · exact r.queue.spared_of_unoffered unoffered
  · exact r.queue.spared_close unoffered

theorem spared_endWith (s : Session) (outcome : Outcome) (unoffered : ∀ e ∈ events, ¬ e.IsOffer) :
    s.queue.Spared events (s.endWith outcome).1.queue :=
  spared_abortWriter s.toRelay.closeRegistry unoffered

theorem Takes.fills {item : InboundItem} (taken : s.Takes item events after)
    (running : s.stage = .running) : s.Fills events after := by
  cases taken with
  | parts | breaks => exact .spares (spared_endWith s _ (by simp [Event.IsOffer]))
  | rejects | objects | enrols | ignores =>
    exact .spares (s.queue.spared_of_unoffered (by simp [Event.IsOffer]))
  | greets =>
    exact .offers running running ((s.queue.offered_enqueue .connection _).cons not_false)
  | cancels =>
    refine .spares ?_
    rw [Relay.queue_cancelId]
    exact s.queue.spared_of_unoffered (by simp)
  | replies => exact .offers running running (s.queue.offered_enqueue .connection _)

theorem Does.fills (does : s.Does events after) (orderly : s.Orderly) : s.Fills events after := by
  cases does with
  | writes present turned => exact .spares turned.spares
  | produces found turned =>
    rcases turned.offers with ⟨live, message, offered⟩ | ⟨same, unoffered⟩
    · have running := orderly.running_of_live live
      exact .offers running running offered
    · exact .spares (same ▸ s.queue.spared_of_unoffered unoffered)
  | overflows | timesOut | goesAway | finishes =>
    exact .spares (s.queue.spared_of_unoffered (by simp [Event.IsOffer]))
  | hears running room next taken =>
    cases taken.fills running with
    | offers before still offered => exact .offers before still (offered.cons not_false)
    | spares spared => exact .spares (spared.cons not_false)
  | hearsEnd => exact .spares (spared_endWith s _ (by simp [Event.IsOffer]))
  | ticks running => exact .offers running running (s.queue.offered_enqueue .connection _)
  | givesUp => exact .spares (spared_abortWriter s.toRelay (by simp [Event.IsOffer]))
  | isStirred cause => cases cause <;> exact .spares (s.queue.spared_of_unoffered (by simp))

theorem Fills.signals (fills : s.Fills events after) : s.queue.Signals events after.queue := by
  cases fills with
  | offers running still offered => exact offered.signals
  | spares spared => exact spared.signals

theorem not_closes_of_harmless {e : Event} (harmless : e.Harmless) : ¬ e.Closes := by
  intro closes
  refine harmless.2 "" 0 ?_
  rcases closes with departs | rfl
  · unfold Event.Departs at departs
    split at departs <;> trivial
  · trivial

theorem phase_of_calm (phase : after.phase = s.phase) (calm : ∀ e ∈ events, ¬ e.Closes) :
    after.phase = .closed ↔ s.phase = .closed ∨ ∃ e ∈ events, e.Closes := by
  rw [phase]
  refine ⟨.inl, fun h => h.resolve_right ?_⟩
  rintro ⟨e, member, closes⟩
  exact calm e member closes

theorem phase_of_shut (phase : after.phase = .closed) {e : Event} (member : e ∈ events)
    (closes : e.Closes) : after.phase = .closed ↔ s.phase = .closed ∨ ∃ e ∈ events, e.Closes :=
  iff_of_true phase (.inr ⟨e, member, closes⟩)

theorem phase_of_takes {rest : Inbound} {item : InboundItem}
    (taken : Takes { s with inbound := rest } item events after) :
    after.phase = .closed ↔
      s.phase = .closed ∨ ∃ e ∈ Event.arrived (some item) :: events, e.Closes := by
  have arrived : ¬ (Event.arrived (some item)).Closes := by simp [Event.Closes, Event.Departs]
  cases taken with
  | parts => exact phase_of_shut rfl (e := .ended .peerClosed) (by simp) (.inl trivial)
  | breaks cause =>
    exact phase_of_shut rfl (e := .ended (.transportFailed cause)) (by simp) (.inl trivial)
  | rejects | objects =>
    exact phase_of_shut rfl (List.mem_cons_of_mem _ (List.mem_singleton_self _))
      (Event.closes_closing _)
  | greets decoded fresh =>
    have before : s.phase ≠ .closed := fun closed => by simp [closed] at fresh
    refine iff_of_false (by simp [handshake, send_eq]) ?_
    rintro (closed | ⟨e, member, closes⟩)
    · exact before closed
    · simp only [handshake, send_eq, List.mem_cons] at member
      rcases member with rfl | rfl | sent
      · exact arrived closes
      · simp [Event.Closes, Event.Departs] at closes
      · exact not_closes_of_harmless (harmless_enqueue _ _ e sent) closes
  | enrols | cancels | ignores =>
    refine phase_of_calm rfl ?_
    simp [Event.Closes, Event.Departs]
  | replies =>
    refine phase_of_calm rfl ?_
    simp only [List.forall_mem_cons]
    exact ⟨arrived, fun e member => not_closes_of_harmless (harmless_enqueue _ _ e member)⟩

theorem Does.phase_closed_iff (h : s.Does events after) :
    after.phase = .closed ↔ s.phase = .closed ∨ ∃ e ∈ events, e.Closes := by
  cases h with
  | writes present turned =>
    refine phase_of_calm rfl fun e member => ?_
    obtain ⟨frame, rfl⟩ := turned.delivered e member
    simp [Event.Closes, Event.Departs]
  | produces found turned =>
    refine phase_of_calm rfl fun e member => ?_
    cases turned.causes e member <;> simp [Event.Closes, Event.Departs]
  | overflows | timesOut | goesAway =>
    exact phase_of_shut rfl (List.mem_singleton_self _) (Event.closes_closing _)
  | hearsEnd => exact phase_of_shut rfl (e := .ended .peerClosed) (by simp) (.inl trivial)
  | hears running room next taken => exact phase_of_takes taken
  | ticks =>
    exact phase_of_calm rfl fun e member => not_closes_of_harmless (harmless_enqueue _ _ e member)
  | finishes | givesUp => exact phase_of_calm rfl (by simp [Event.Closes, Event.Departs])
  | isStirred cause => cases cause <;> exact phase_of_calm rfl (by simp)

inductive Decision (s : Session) (after : Session) : CloseReason → Prop where
  | overflow (full : s.queue.overflowed = true) : Decision s after .outboundOverflow
  | timeout (fresh : s.phase = .uninitialized) (late : s.initDeadline ≤ s.now)
      (made : after = (s.close .initTimeout).1) : Decision s after .initTimeout
  | shutdown (asked : s.shutdown = true) : Decision s after .goingAway
  | objection {reason : CloseReason} (sent : reason.IsObjection) : Decision s after reason

theorem Takes.isObjection {item : InboundItem} (taken : s.Takes item events after)
    {reason : CloseReason} (closing : .closing reason ∈ events) : reason.IsObjection := by
  cases taken with
  | rejects =>
    obtain rfl := Event.closing.inj (List.mem_singleton.mp closing)
    exact isObjection_rejection _ _
  | objects decoded forbidden =>
    obtain rfl := Event.closing.inj (List.mem_singleton.mp closing)
    exact isObjection_of_objection? forbidden
  | greets =>
    have sent := (List.mem_cons.mp closing).resolve_left (by simp)
    have harmless := harmless_enqueue _ _ _ sent
    exact absurd (Event.closes_closing reason) (not_closes_of_harmless harmless)
  | replies =>
    have harmless := harmless_enqueue _ _ _ closing
    exact absurd (Event.closes_closing reason) (not_closes_of_harmless harmless)
  | parts | breaks | enrols | cancels | ignores => simp at closing

theorem Does.decision (h : s.Does events after) {reason : CloseReason}
    (closing : .closing reason ∈ events) : s.Decision after reason := by
  cases h with
  | overflows running full =>
    obtain rfl := Event.closing.inj (List.mem_singleton.mp closing)
    exact .overflow full
  | timesOut running room fresh late =>
    obtain rfl := Event.closing.inj (List.mem_singleton.mp closing)
    exact .timeout fresh late rfl
  | goesAway running room asked =>
    obtain rfl := Event.closing.inj (List.mem_singleton.mp closing)
    exact .shutdown asked
  | hears running room next taken =>
    exact .objection (taken.isObjection ((List.mem_cons.mp closing).resolve_left (by simp)))
  | writes present turned =>
    obtain ⟨frame, made⟩ := turned.delivered _ closing
    cases made
  | produces found turned => cases turned.causes _ closing
  | ticks =>
    have harmless := harmless_enqueue _ _ _ closing
    exact absurd (Event.closes_closing reason) (not_closes_of_harmless harmless)
  | hearsEnd | finishes | givesUp | isStirred => simp at closing

theorem Does.overflowed_of_closing (h : s.Does events after)
    (closing : .closing .outboundOverflow ∈ events) : s.queue.overflowed = true := by
  cases h.decision closing with
  | overflow full => exact full
  | objection sent => exact sent.elim

theorem isRead_of_next {i rest : Inbound} {item : InboundItem} (h : i.next = .item item rest) :
    rest.isRead = i.isRead := by
  unfold Inbound.next at h
  split at h
  · cases h; rfl
  · split at h <;> cases h

theorem Does.reads (h : s.Does events after) (running : after.stage = .running) :
    s.stage = .running ∧ (s.inbound.isRead = true → after.inbound.isRead = true) := by
  cases h with
  | writes | produces | ticks => exact ⟨running, id⟩
  | overflows | timesOut | goesAway => simp [close] at running
  | hearsEnd => simp [endWith, finish] at running
  | finishes | givesUp => simp [finish] at running
  | hears going room next taken =>
    refine ⟨going, fun reads => ?_⟩
    have kept := (isRead_of_next next).trans reads
    cases taken with
    | parts | breaks => simp [endWith, finish] at running
    | rejects | objects => simp [close] at running
    | _ => exact kept
  | isStirred cause =>
    cases cause with
    | deliver item =>
      refine ⟨running, fun reads => ?_⟩
      simp only [stimulate, Inbound.deliver]
      split <;> exact reads
    | _ => exact ⟨running, id⟩

structure Departed (past : List Event) (s : Session) : Prop where
  phase : s.phase = .closed ↔ ∃ e ∈ past, e.Closes
  signalled : .closing .outboundOverflow ∈ past → s.queue.overflowed = true
  overflowed : s.queue.overflowed = true ↔
    ∃ source message, .refused source message .overflow ∈ past
  shut : ∀ source message, .refused source message .closed ∈ past → s.queue.isOpen = false
  reads : s.stage = .running → s.inbound.isRead = true

theorem Departed.step (departed : Departed past s) (orderly : s.Orderly)
    (does : s.Does events after) : Departed (past ++ events) after := by
  have signals := (does.fills orderly).signals
  refine ⟨?_, ?_, ?_, ?_, ?_⟩
  · rw [does.phase_closed_iff, departed.phase]
    simp only [List.mem_append, or_and_right, exists_or]
  · intro closing
    refine signals.overflowed.mpr (.inl ?_)
    exact (List.mem_append.mp closing).elim departed.signalled does.overflowed_of_closing
  · rw [signals.overflowed, departed.overflowed]
    simp only [List.mem_append, exists_or]
  · intro source message refused
    rcases List.mem_append.mp refused with old | new
    · exact signals.stays (departed.shut source message old)
    · exact signals.shut source message new
  · intro running
    obtain ⟨before, kept⟩ := does.reads running
    exact kept (departed.reads before)

theorem departed_new (config : SessionConfig) (connectionId : String) (engine : Engine)
    (interceptors : InterceptorChain) (half : WriteHalf) (now : Nat) (shutdown : Bool) :
    Departed [] (Session.new config connectionId engine interceptors half now shutdown) := by
  constructor <;> simp [Session.new, Relay.new, OutboundQueue.new, Inbound.empty]

end Session

end SubscriptionGateway
