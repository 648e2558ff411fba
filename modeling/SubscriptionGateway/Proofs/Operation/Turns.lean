import SubscriptionGateway.Operation.Producer
import SubscriptionGateway.Proofs.Execution.Elements
import SubscriptionGateway.Proofs.Operation.Registry

/-! All that a turn of a producer can do, and all that can become of a message offered to the
queue. Later proofs go by these cases and do not open the functions again. -/
namespace SubscriptionGateway

namespace OutboundQueue

inductive Offers (q : OutboundQueue) (source : Source) (message : Message) :
    OutboundQueue × Option Refusal × List Event → Prop where
  | accepted (isOpen : q.isOpen = true) (room : q.isFull = false) :
      Offers q source message
        ({ q with messages := q.messages ++ [message.encode] }, none, [.accepted source message])
  | overflow (isOpen : q.isOpen = true) (full : q.isFull = true) :
      Offers q source message
        ({ q with overflowed := true }, some .overflow,
          .refused source message .overflow :: if q.overflowed then [] else [.overflowed])
  | closed (gone : q.isOpen = false) :
      Offers q source message (q, some .closed, [.refused source message .closed])

theorem offers_enqueue (q : OutboundQueue) (source : Source) (message : Message) :
    Offers q source message (q.enqueue source message) := by
  unfold enqueue offer
  by_cases opened : q.isOpen = true
  · by_cases full : q.isFull = true
    · simpa [opened, full] using Offers.overflow opened full
    · simpa [opened, full] using Offers.accepted opened (by simpa using full)
  · simpa [opened] using Offers.closed (by simpa using opened)

theorem mem_enqueue {q : OutboundQueue} {source : Source} {message : Message} {e : Event}
    (member : e ∈ (q.enqueue source message).2.2) :
    e = .accepted source message ∨ (∃ why, e = .refused source message why) ∨ e = .overflowed := by
  have offered := q.offers_enqueue source message
  generalize q.enqueue source message = outcome at offered member
  cases offered with
  | accepted => exact .inl (List.mem_singleton.mp member)
  | overflow =>
    rcases List.mem_cons.mp member with refused | signal
    · exact .inr (.inl ⟨_, refused⟩)
    · split at signal
      · cases signal
      · exact .inr (.inr (List.mem_singleton.mp signal))
  | closed => exact .inr (.inl ⟨_, List.mem_singleton.mp member⟩)

/-- The events of a refusal: the refusal itself, and perhaps the signal. -/
theorem mem_of_refused {q after : OutboundQueue} {source : Source} {message : Message}
    {why : Refusal} {events : List Event}
    (refused : q.enqueue source message = (after, some why, events)) :
    .refused source message why ∈ events ∧
      ∀ e ∈ events, e = .refused source message why ∨ e = .overflowed := by
  have offered := q.offers_enqueue source message
  rw [refused] at offered
  cases offered with
  | overflow => split <;> simp
  | closed => simp

end OutboundQueue

def Message.isTerminal : Message → Bool
  | .error _ _ | .complete _ => true
  | _ => false

namespace Producer

/-- The message with which an operation ends of itself, the fate that it stands for, and the results
that are dropped with the producer. -/
inductive Terminal (p : Producer) (engine : Engine) (now : Nat) :
    Message → OperationFate → Results → Prop where
  | failed {cause : ExecutionFailure} {rest : Results}
      (polled : p.results.poll engine now = .element (.error cause) rest) :
      Terminal p engine now (.error p.id cause.errors) .failed rest
  | completed (polled : p.results.poll engine now = .ended) :
      Terminal p engine now (.complete p.id) .completed p.results

theorem Terminal.asked {p : Producer} {engine : Engine} {now : Nat} {message : Message}
    {how : OperationFate} {rest : Results} (h : p.Terminal engine now message how rest) :
    p.results.Asked := by
  cases h with
  | failed polled | completed polled => exact Results.asked_of_poll polled (by simp)

theorem Terminal.named {p : Producer} {engine : Engine} {now : Nat} {message : Message}
    {how : OperationFate} {rest : Results} (h : p.Terminal engine now message how rest) :
    message.id? = some p.id := by
  cases h <;> rfl

/-- What a turn of a producer does. Being cancelled comes before everything but the first turn. -/
inductive Turns (p : Producer) (engine : Engine) (now : Nat) (registry : Registry)
    (queue : OutboundQueue) : ProducerTurn → Prop where
  | starts (fresh : p.started = false) : Turns p engine now registry queue (p.start registry queue)
  | calls {request : Request} {context : Context} (started : p.started = true)
      (unasked : p.results = .unasked request context)
      (going : registry.isCancelled p.seq = false) :
      Turns p engine now registry queue
        (p.proceed (.starting (Results.answerPause now (engine request context).delay)
          (engine request context).answer) registry queue
          [.called p.seq request context (engine request context)])
  | progresses {next : Results} (started : p.started = true)
      (polled : p.results.poll engine now = .progressed next)
      (going : registry.isCancelled p.seq = false) :
      Turns p engine now registry queue (p.proceed next registry queue [])
  /-- The token is cancelled, or the registration is found to be gone when there is something to
  report. -/
  | stops {rest : Results} (started : p.started = true)
      (gone : registry.isCancelled p.seq = true ∨ registry.seq? p.id ≠ some p.seq)
      (left : rest = p.results ∨ registry.isCancelled p.seq = false ∧
        ∃ value, p.results.poll engine now = .element value rest) :
      Turns p engine now registry queue (p.finish rest .cancelled registry queue [])
  | relays {value : ExecutionResult} {next : Results} (started : p.started = true)
      (live : registry.seq? p.id = some p.seq)
      (polled : p.results.poll engine now = .element (.ok value) next)
      (isOpen : queue.isOpen = true) (room : queue.isFull = false)
      (going : registry.isCancelled p.seq = false) :
      Turns p engine now registry queue
        ⟨.running { p with results := next, asking := true }, registry,
          { queue with messages := queue.messages ++ [(Message.next p.id value).encode] },
          [.accepted (.operation p.seq) (.next p.id value)]⟩
  /-- The registration stays where it is. -/
  | isRefused {value : ExecutionResult} {rest : Results} {why : Refusal} {after : OutboundQueue}
      {events : List Event} (started : p.started = true)
      (live : registry.seq? p.id = some p.seq)
      (polled : p.results.poll engine now = .element (.ok value) rest)
      (refused : queue.enqueue (.operation p.seq) (.next p.id value) = (after, some why, events))
      (going : registry.isCancelled p.seq = false) :
      Turns p engine now registry queue (p.finish rest .refused registry after events)
  | terminates {message : Message} {how : OperationFate} {rest : Results}
      (started : p.started = true) (live : registry.seq? p.id = some p.seq)
      (terminal : p.Terminal engine now message how rest)
      (isOpen : queue.isOpen = true) (room : queue.isFull = false)
      (going : registry.isCancelled p.seq = false) :
      Turns p engine now registry queue
        (p.finish rest how (registry.drop p.id)
          { queue with messages := queue.messages ++ [message.encode] }
          [.accepted (.operation p.seq) message])
  /-- The id is freed even so. -/
  | terminalRefused {message : Message} {how : OperationFate} {rest : Results} {why : Refusal}
      {after : OutboundQueue} {events : List Event} (started : p.started = true)
      (live : registry.seq? p.id = some p.seq) (terminal : p.Terminal engine now message how rest)
      (refused : queue.enqueue (.operation p.seq) message = (after, some why, events))
      (going : registry.isCancelled p.seq = false) :
      Turns p engine now registry queue
        (p.finish rest .refused (registry.drop p.id) after events)

variable {p : Producer} {engine : Engine} {now : Nat} {registry : Registry} {queue : OutboundQueue}

theorem turns_emit {value : ExecutionResult} {next : Results} (started : p.started = true)
    (polled : p.results.poll engine now = .element (.ok value) next)
    (going : registry.isCancelled p.seq = false) :
    p.Turns engine now registry queue (p.emit value next registry queue) := by
  unfold emit Registry.emit
  by_cases live : registry.seq? p.id = some p.seq
  · rw [if_pos (Registry.isLive_iff.mpr live)]
    have offered := queue.offers_enqueue (.operation p.seq) (.next p.id value)
    generalize outcome : queue.enqueue (.operation p.seq) (.next p.id value) = taken at offered ⊢
    cases offered with
    | accepted isOpen room => exact .relays started live polled isOpen room going
    | overflow => exact .isRefused started live polled outcome going
    | closed => exact .isRefused started live polled outcome going
  · rw [if_neg (mt Registry.isLive_iff.mp live)]
    exact .stops started (.inr live) (.inr ⟨going, _, polled⟩)

theorem turns_terminate {message : Message} {how : OperationFate} {rest : Results}
    (started : p.started = true) (terminal : p.Terminal engine now message how rest)
    (going : registry.isCancelled p.seq = false) :
    p.Turns engine now registry queue (p.terminate message how rest registry queue) := by
  unfold terminate Registry.finish
  by_cases live : registry.seq? p.id = some p.seq
  · rw [if_pos (Registry.isLive_iff.mpr live)]
    have offered := queue.offers_enqueue (.operation p.seq) message
    generalize outcome : queue.enqueue (.operation p.seq) message = taken at offered ⊢
    cases offered with
    | accepted isOpen room => exact .terminates started live terminal isOpen room going
    | overflow => exact .terminalRefused started live terminal outcome going
    | closed => exact .terminalRefused started live terminal outcome going
  · rw [if_neg (mt Registry.isLive_iff.mp live)]
    refine .stops started (.inr live) ?_
    cases terminal with
    | failed polled => exact .inr ⟨going, _, polled⟩
    | completed => exact .inl rfl

theorem turns_advance {taken : ProducerTurn} (started : p.started = true)
    (h : p.advance engine now registry queue = some taken) :
    p.Turns engine now registry queue taken := by
  unfold advance at h
  split at h
  · next cancelled =>
    cases h
    exact .stops started (.inl cancelled) (.inl rfl)
  · next uncancelled =>
    have going : registry.isCancelled p.seq = false := by simpa using uncancelled
    cases polled : p.results.poll engine now with
    | waiting due => simp [polled] at h
    | called next =>
      obtain ⟨request, context, unasked, rfl⟩ := Results.eq_unasked_of_called polled
      simp only [unasked] at h
      cases h
      exact .calls started unasked going
    | progressed next =>
      simp only [polled] at h
      cases h
      exact .progresses started polled going
    | element value next =>
      cases value with
      | ok value =>
        simp only [polled] at h
        cases h
        exact turns_emit started polled going
      | error cause =>
        simp only [polled] at h
        cases h
        exact turns_terminate started (.failed polled) going
    | ended =>
      simp only [polled] at h
      cases h
      exact turns_terminate started (.completed polled) going

theorem turns_of_turn {taken : ProducerTurn} (h : p.turn engine now registry queue = some taken) :
    p.Turns engine now registry queue taken := by
  unfold turn at h
  split at h
  · next started => exact turns_advance started h
  · next fresh =>
    cases h
    exact .starts (by simpa using fresh)

/-- A producer that is cancelled has nothing left to do but to start and to end. -/
theorem Turns.of_cancelled {taken : ProducerTurn} (h : p.Turns engine now registry queue taken)
    (cancelled : registry.isCancelled p.seq = true) :
    p.started = false ∧ taken = p.start registry queue ∨
      p.started = true ∧ taken = p.finish p.results .cancelled registry queue [] := by
  cases h with
  | starts fresh => exact .inl ⟨fresh, rfl⟩
  | stops started gone left =>
    rcases left with rfl | ⟨going, -⟩
    · exact .inr ⟨started, rfl⟩
    · simp [cancelled] at going
  | calls _ _ going | progresses _ _ going | relays _ _ _ _ _ going | isRefused _ _ _ _ going
  | terminates _ _ _ _ _ going | terminalRefused _ _ _ _ going => simp [cancelled] at going

theorem Turns.started {taken : ProducerTurn} (h : p.Turns engine now registry queue taken)
    {after : Producer} (running : taken.state = .running after) : after.started = true := by
  cases h with
  | starts => cases running; rfl
  | calls started | progresses started | relays started => cases running; exact started
  | stops | isRefused | terminates | terminalRefused => cases running

/-- A producer that ends drops its results as they are, or as its last element has left them. -/
theorem Turns.ended {taken : ProducerTurn} (h : p.Turns engine now registry queue taken)
    {how : OperationFate} (ended : taken.state = .ended how) :
    ∃ rest after full events, taken = p.finish rest how after full events ∧
      (rest = p.results ∨ ∃ value, p.results.poll engine now = .element value rest) := by
  cases h with
  | starts | calls | progresses | relays => cases ended
  | stops started gone left =>
    cases ended
    exact ⟨_, _, _, _, rfl, left.imp_right And.right⟩
  | isRefused started live polled => cases ended; exact ⟨_, _, _, _, rfl, .inr ⟨_, polled⟩⟩
  | terminates started live terminal | terminalRefused started live terminal =>
    cases ended
    cases terminal with
    | failed polled => exact ⟨_, _, _, _, rfl, .inr ⟨_, polled⟩⟩
    | completed => exact ⟨_, _, _, _, rfl, .inl rfl⟩

theorem Turns.registry_eq {taken : ProducerTurn} (h : p.Turns engine now registry queue taken) :
    taken.registry = registry ∨ taken.registry = registry.drop p.id := by
  cases h with
  | starts | calls | progresses | stops | relays | isRefused => exact .inl rfl
  | terminates | terminalRefused => exact .inr rfl

inductive Causes (p : Producer) (registry after : Registry) : Event → Prop where
  | started : Causes p registry after (.operationStarted p.seq)
  | called {request : Request} {context : Context} (execution : Execution)
      (unasked : p.results = .unasked request context) :
      Causes p registry after (.called p.seq request context execution)
  | accepted {message : Message} (live : registry.seq? p.id = some p.seq)
      (named : message.id? = some p.id)
      (freed : message.isTerminal = true → after = registry.drop p.id) :
      Causes p registry after (.accepted (.operation p.seq) message)
  | refused (message : Message) (why : Refusal) :
      Causes p registry after (.refused (.operation p.seq) message why)
  | overflowed : Causes p registry after .overflowed
  | ended (how : OperationFate) : Causes p registry after (.operationEnded p.seq p.id how)
  | abandoned : Causes p registry after (.abandoned p.id)

theorem causes_finish {rest : Results} {how : OperationFate} {after : Registry}
    {events : List Event} (caused : ∀ e ∈ events, p.Causes registry after e) :
    ∀ e ∈ (p.finish rest how after queue events).events, p.Causes registry after e := by
  intro e member
  simp only [finish, List.mem_append, List.mem_singleton] at member
  rcases member with (old | rfl) | dropped
  · exact caused e old
  · exact .ended how
  · split at dropped
    · cases List.mem_singleton.mp dropped
      exact .abandoned
    · cases dropped

theorem causes_refused {message : Message} {why : Refusal} {after : Registry}
    {full : OutboundQueue} {events : List Event}
    (refused : queue.enqueue (.operation p.seq) message = (full, some why, events)) :
    ∀ e ∈ events, p.Causes registry after e := by
  intro e member
  rcases (OutboundQueue.mem_of_refused refused).2 e member with rfl | rfl
  · exact .refused message why
  · exact .overflowed

theorem Turns.causes {taken : ProducerTurn} (h : p.Turns engine now registry queue taken) :
    ∀ e ∈ taken.events, p.Causes registry taken.registry e := by
  cases h with
  | starts => simpa [start] using Causes.started
  | calls started unasked => simpa [proceed] using Causes.called _ unasked
  | progresses => simp [proceed]
  | stops => exact causes_finish (by simp)
  | relays started live => simpa using Causes.accepted live rfl (by simp [Message.isTerminal])
  | isRefused started live polled refused => exact causes_finish (causes_refused refused)
  | terminates started live terminal =>
    exact causes_finish (by simpa using Causes.accepted live terminal.named fun _ => rfl)
  | terminalRefused started live terminal refused =>
    exact causes_finish (causes_refused refused)

theorem Turns.lastSeq_eq {taken : ProducerTurn} (h : p.Turns engine now registry queue taken) :
    taken.registry.lastSeq = registry.lastSeq := by
  rcases h.registry_eq with same | freed
  · rw [same]
  · rw [freed, Registry.lastSeq_drop]

/-- A turn sends at most one message, and that before anything else. -/
theorem Turns.accepted_first {taken : ProducerTurn} (h : p.Turns engine now registry queue taken)
    {source : Source} {message : Message} : .accepted source message ∉ taken.events.tail := by
  cases h with
  | starts => simp [start]
  | calls | progresses => simp [proceed]
  | relays => simp
  | stops => unfold finish; split <;> simp
  | terminates => unfold finish; split <;> simp
  | isRefused started live polled refused | terminalRefused started live terminal refused =>
    intro member
    have old := List.mem_of_mem_tail member
    simp only [finish, List.mem_append, List.mem_singleton] at old
    rcases old with (new | ended) | dropped
    · simpa using (OutboundQueue.mem_of_refused refused).2 _ new
    · cases ended
    · split at dropped <;> simp at dropped

end Producer

end SubscriptionGateway
