import SubscriptionGateway.Metrics
import SubscriptionGateway.Proofs.Operation.Turns
import SubscriptionGateway.Proofs.Outbound.Writer

/-! The room in the queue. A turn offers one message or none, and what becomes of the message
depends on how many are queued: there is room for so many and no more, and the first message that
finds none raises the overflow signal, which is counted and stays. A message that is refused because
the writer is gone leaves a queue that stays shut. -/
namespace SubscriptionGateway

def Event.IsOffer : Event → Prop
  | .accepted _ _ | .refused _ _ _ | .overflowed => True
  | _ => False

namespace Metrics

theorem overflowsTotal_append (first second : List Event) :
    overflowsTotal (first ++ second) = overflowsTotal first + overflowsTotal second :=
  List.countP_append

theorem overflowsTotal_of_unoffered {events : List Event} (unoffered : ∀ e ∈ events, ¬ e.IsOffer) :
    overflowsTotal events = 0 := by
  refine List.countP_eq_zero.mpr fun e member overflow => unoffered e member ?_
  cases e with
  | overflowed => trivial
  | _ => cases overflow

end Metrics

namespace OutboundQueue

variable {q after : OutboundQueue} {source : Source} {message : Message}
  {why : Option Refusal} {events rest : List Event}

/-- Nothing waits in a queue that nobody takes messages from. -/
def Settled (q : OutboundQueue) : Prop := q.isOpen = false → q.messages = []

inductive Offered (q : OutboundQueue) (source : Source) (message : Message) (events : List Event)
    (after : OutboundQueue) : Prop where
  | among {why : Option Refusal} {before made rest : List Event}
      (offers : q.Offers source message (after, why, made))
      (whole : events = before ++ (made ++ rest)) (apart : ∀ e ∈ before ++ rest, ¬ e.IsOffer)

/-- Nothing is offered to the queue in some events, though messages may leave it. -/
structure Spared (q : OutboundQueue) (events : List Event) (after : OutboundQueue) : Prop where
  capacity : after.capacity = q.capacity
  length : after.messages.length ≤ q.messages.length
  overflowed : after.overflowed = q.overflowed
  stays : q.isOpen = false → after.isOpen = false
  settled : q.Settled → after.Settled
  unoffered : ∀ e ∈ events, ¬ e.IsOffer

theorem Offers.offered (offers : q.Offers source message (after, why, events)) :
    q.Offered source message events after :=
  .among offers (show events = [] ++ (events ++ []) by simp) (by simp)

theorem offered_enqueue (q : OutboundQueue) (source : Source) (message : Message) :
    q.Offered source message (q.enqueue source message).2.2 (q.enqueue source message).1 :=
  (q.offers_enqueue source message).offered

theorem spared_of_unoffered (q : OutboundQueue) (unoffered : ∀ e ∈ events, ¬ e.IsOffer) :
    q.Spared events q :=
  ⟨rfl, Nat.le_refl _, rfl, id, id, unoffered⟩

theorem spared_close (q : OutboundQueue) (unoffered : ∀ e ∈ events, ¬ e.IsOffer) :
    q.Spared events q.close :=
  ⟨rfl, Nat.zero_le _, rfl, fun _ => rfl, fun _ _ => rfl, unoffered⟩

theorem spared_take {text : String} (taken : q.take? = some (text, after)) : q.Spared [] after := by
  unfold take? at taken
  split at taken
  · cases taken
  · next messages =>
    cases taken
    have waits : q.messages ≠ [] := by simp [messages]
    exact ⟨rfl, by simp [messages], rfl, id, fun settled gone => absurd (settled gone) waits,
      by simp⟩

theorem Offered.append (offered : q.Offered source message events after)
    (others : ∀ e ∈ rest, ¬ e.IsOffer) : q.Offered source message (events ++ rest) after := by
  cases offered with
  | @among _ before made later offers whole apart =>
    have longer : events ++ rest = before ++ (made ++ (later ++ rest)) := by simp [whole]
    refine .among offers longer ?_
    rw [← List.append_assoc]
    exact List.forall_mem_append.mpr ⟨apart, others⟩

theorem Offered.cons (offered : q.Offered source message events after) {e : Event}
    (other : ¬ e.IsOffer) : q.Offered source message (e :: events) after := by
  cases offered with
  | @among _ before made later offers whole apart =>
    have longer : e :: events = (e :: before) ++ (made ++ later) := by simp [whole]
    exact .among offers longer (List.forall_mem_cons.mpr ⟨other, apart⟩)

theorem Spared.cons (spared : q.Spared events after) {e : Event} (other : ¬ e.IsOffer) :
    q.Spared (e :: events) after :=
  { spared with unoffered := List.forall_mem_cons.mpr ⟨other, spared.unoffered⟩ }

theorem Offered.capacity (offered : q.Offered source message events after) :
    after.capacity = q.capacity := by
  cases offered with | among offers => cases offers <;> rfl

theorem Offered.length_le (offered : q.Offered source message events after)
    (fits : q.messages.length ≤ q.capacity) : after.messages.length ≤ q.capacity := by
  cases offered with | among offers =>
  cases offers with
  | accepted isOpen room =>
    simp only [isFull, decide_eq_false_iff_not] at room
    simp only [List.length_append, List.length_singleton]
    omega
  | overflow | closed => exact fits

theorem Offered.settled (offered : q.Offered source message events after) (settled : q.Settled) :
    after.Settled := by
  cases offered with | among offers =>
  cases offers with
  | accepted isOpen => exact fun gone => absurd isOpen (Bool.eq_false_iff.mp gone)
  | overflow | closed => exact settled

/-- The signal is counted when it is raised, and not again. -/
theorem Offered.overflowsTotal (offered : q.Offered source message events after) :
    Metrics.overflowsTotal events + q.overflowed.toNat = after.overflowed.toNat := by
  cases offered with | among offers whole apart =>
  obtain ⟨earlier, later⟩ := List.forall_mem_append.mp apart
  simp only [whole, Metrics.overflowsTotal_append, Metrics.overflowsTotal_of_unoffered earlier,
    Metrics.overflowsTotal_of_unoffered later]
  cases offers with
  | accepted | closed => simp [Metrics.overflowsTotal, Metrics.isOverflow]
  | overflow =>
    cases q.overflowed <;> simp [Metrics.overflowsTotal, Metrics.isOverflow]

theorem Spared.overflowsTotal (spared : q.Spared events after) :
    Metrics.overflowsTotal events + q.overflowed.toNat = after.overflowed.toNat := by
  rw [Metrics.overflowsTotal_of_unoffered spared.unoffered, spared.overflowed, Nat.zero_add]

theorem Offered.exists_offers (offered : q.Offered source message events after) :
    ∃ why made, q.Offers source message (after, why, made) ∧
      ∀ e, e.IsOffer → (e ∈ events ↔ e ∈ made) := by
  cases offered with
  | @among why before made later offers whole apart =>
    refine ⟨why, made, offers, fun e offer => ?_⟩
    have outside : e ∉ before ++ later := fun member => apart e member offer
    simp only [List.mem_append, not_or] at outside
    simp [whole, outside]

/-- What becomes of the message depends on how many are queued: it is accepted while there are fewer
than the queue can hold, and if it is refused while there are so many, that is an overflow. -/
theorem Offered.queued (offered : q.Offered source message events after)
    (fits : q.messages.length ≤ q.capacity) (settled : q.Settled) (positive : 0 < q.capacity)
    (sender : Source) (sent : Message) :
    (.accepted sender sent ∈ events → q.messages.length < q.capacity) ∧
      ∀ why, .refused sender sent why ∈ events →
        (why = .overflow ↔ q.messages.length = q.capacity) := by
  obtain ⟨_, made, offers, among⟩ := offered.exists_offers
  refine ⟨fun accepted => ?_, fun why refused => ?_⟩
  · have member := (among (.accepted sender sent) trivial).mp accepted
    cases offers with
    | accepted isOpen room => simpa [isFull] using room
    | overflow => split at member <;> simp at member
    | closed => simp at member
  · have member := (among (.refused sender sent why) trivial).mp refused
    cases offers with
    | accepted => simp at member
    | overflow isOpen full =>
      have told : why = .overflow := by split at member <;> simp at member <;> exact member.2.2
      exact iff_of_true told (Nat.le_antisymm fits (by simpa [isFull] using full))
    | closed gone =>
      have told : why = .closed := by simp at member; exact member.2.2
      have empty : q.messages.length = 0 := by rw [settled gone, List.length_nil]
      exact iff_of_false (by simp [told]) (by omega)

structure Signals (q : OutboundQueue) (events : List Event) (after : OutboundQueue) : Prop where
  overflowed : after.overflowed = true ↔
    q.overflowed = true ∨ ∃ source message, .refused source message .overflow ∈ events
  shut : ∀ source message, .refused source message .closed ∈ events → after.isOpen = false
  stays : q.isOpen = false → after.isOpen = false

theorem Offers.signals (offers : q.Offers source message (after, why, events)) :
    q.Signals events after := by
  cases offers with
  | accepted => exact ⟨by simp, by simp, id⟩
  | overflow =>
    refine ⟨by simp, fun other sent refused => ?_, id⟩
    split at refused <;> simp at refused
  | closed gone => exact ⟨by simp, fun _ _ _ => gone, id⟩

theorem Offered.signals (offered : q.Offered source message events after) :
    q.Signals events after := by
  obtain ⟨why, made, offers, among⟩ := offered.exists_offers
  have signals := offers.signals
  have told (other : Source) (sent : Message) (cause : Refusal) :
      .refused other sent cause ∈ events ↔ .refused other sent cause ∈ made :=
    among (.refused other sent cause) trivial
  exact ⟨by simpa only [told] using signals.overflowed, by simpa only [told] using signals.shut,
    signals.stays⟩

theorem Spared.signals (spared : q.Spared events after) : q.Signals events after := by
  have unrefused (other : Source) (sent : Message) (cause : Refusal) :
      .refused other sent cause ∉ events := fun refused => spared.unoffered _ refused trivial
  exact ⟨by simp [spared.overflowed, unrefused], by simp [unrefused], spared.stays⟩

end OutboundQueue

theorem Writer.queue_sendClose (w : Writer) (frame : CloseFrame) (q : OutboundQueue) :
    (w.sendClose frame q).queue = q.close := by
  unfold sendClose
  split <;> rfl

theorem Writer.Turns.spares {w : Writer} {now : Nat} {q : OutboundQueue} {taken : WriterTurn}
    (turned : w.Turns now q taken) : q.Spared taken.events taken.queue := by
  have unoffered : ∀ e ∈ taken.events, ¬ e.IsOffer := by
    intro e member
    obtain ⟨frame, rfl⟩ := turned.delivered e member
    exact id
  cases turned with
  | heeds | delivers => exact q.spared_of_unoffered unoffered
  | begins ready taken => exact OutboundQueue.spared_take taken
  | fails | isDeserted => exact q.spared_close unoffered
  | closes =>
    rw [w.queue_sendClose]
    exact q.spared_close unoffered

namespace Producer

variable {p : Producer} {engine : Engine} {now : Nat} {registry : Registry} {queue : OutboundQueue}
  {taken : ProducerTurn}

theorem unoffered_finish {rest : Results} {how : OperationFate} :
    ∀ e ∈ (p.finish rest how registry queue []).events, ¬ e.IsOffer := by
  intro e member
  unfold finish at member
  split at member <;> simp at member
  · rcases member with rfl | rfl <;> exact not_false
  · rw [member]
    exact not_false

theorem offered_finish {rest : Results} {how : OperationFate} {message : Message}
    {after : OutboundQueue} {events : List Event}
    (offered : queue.Offered (.operation p.seq) message events after) :
    queue.Offered (.operation p.seq) message (p.finish rest how registry after events).events
      after := by
  have events_eq : (p.finish rest how registry after events).events =
      events ++ (p.finish rest how registry queue []).events := by simp [finish]
  rw [events_eq]
  exact offered.append unoffered_finish

/-- Only the producer of a live registration offers a message in its turn. -/
theorem Turns.offers (turned : p.Turns engine now registry queue taken) :
    (registry.seq? p.id = some p.seq ∧
      ∃ message, queue.Offered (.operation p.seq) message taken.events taken.queue) ∨
    taken.queue = queue ∧ ∀ e ∈ taken.events, ¬ e.IsOffer := by
  have offered {message : Message} {why : Refusal} {after : OutboundQueue} {events : List Event}
      (refused : queue.enqueue (.operation p.seq) message = (after, some why, events)) :
      queue.Offered (.operation p.seq) message events after :=
    OutboundQueue.Offers.offered (refused ▸ queue.offers_enqueue (.operation p.seq) message)
  cases turned with
  | starts | calls | progresses => exact .inr ⟨rfl, by simp [start, proceed, Event.IsOffer]⟩
  | stops => exact .inr ⟨rfl, unoffered_finish⟩
  | relays started live polled isOpen room =>
    exact .inl ⟨live, _, OutboundQueue.Offers.offered (.accepted isOpen room)⟩
  | isRefused started live polled refused => exact .inl ⟨live, _, offered_finish (offered refused)⟩
  | terminates started live terminal isOpen room =>
    exact .inl ⟨live, _, offered_finish (OutboundQueue.Offers.offered (.accepted isOpen room))⟩
  | terminalRefused started live terminal refused =>
    exact .inl ⟨live, _, offered_finish (offered refused)⟩

end Producer

end SubscriptionGateway
