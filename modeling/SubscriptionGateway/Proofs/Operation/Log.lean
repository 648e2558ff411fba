import SubscriptionGateway.Proofs.Operation.Turns

/-! What the events of a connection say about one operation: the calls of the engine made for it,
the messages that the queue accepted from it, and how it ended. `FollowsAnswer` compares the
messages with the answer of the engine; every turn of a producer keeps to it. -/
namespace SubscriptionGateway

namespace Event

def producer? : Event → Option Nat
  | .called seq _ _ _ | .operationStarted seq | .operationEnded seq _ _ => some seq
  | .accepted (.operation seq) _ | .refused (.operation seq) _ _ => some seq
  | _ => none

def registration? : Event → Option (String × Nat)
  | .registered id seq => some (id, seq)
  | _ => none

def sent? (seq : Nat) : Event → Option Message
  | .accepted (.operation number) message => if number = seq then some message else none
  | _ => none

def call? (seq : Nat) : Event → Option Execution
  | .called number _ _ execution => if number = seq then some execution else none
  | _ => none

def fate? (seq : Nat) : Event → Option OperationFate
  | .operationEnded number _ how => if number = seq then some how else none
  | _ => none

theorem sent?_eq_some {seq : Nat} {e : Event} {message : Message} :
    e.sent? seq = some message ↔ e = .accepted (.operation seq) message := by
  cases e with
  | accepted source m => cases source <;> simp [sent?]
  | _ => simp [sent?]

theorem eq_none_of_producer?_ne {seq : Nat} {e : Event} (h : e.producer? ≠ some seq) :
    e.sent? seq = none ∧ e.call? seq = none ∧ e.fate? seq = none := by
  cases e with
  | accepted source m => cases source <;> simp_all [producer?, sent?, call?, fate?]
  | _ => simp_all [producer?, sent?, call?, fate?]

end Event

/-- The messages of an operation that the queue has accepted, in their order. -/
def sentBy (seq : Nat) (events : List Event) : List Message := events.filterMap (Event.sent? seq)

def callsOf (seq : Nat) (events : List Event) : List Execution :=
  events.filterMap (Event.call? seq)

def fatesOf (seq : Nat) (events : List Event) : List OperationFate :=
  events.filterMap (Event.fate? seq)

section Lists

variable (seq : Nat) (e : Event) (first second : List Event)

@[simp] theorem sentBy_nil : sentBy seq [] = [] := rfl

@[simp] theorem callsOf_nil : callsOf seq [] = [] := rfl

@[simp] theorem fatesOf_nil : fatesOf seq [] = [] := rfl

@[simp] theorem sentBy_cons :
    sentBy seq (e :: first) = (e.sent? seq).toList ++ sentBy seq first := by
  cases h : e.sent? seq <;> simp [sentBy, h]

@[simp] theorem callsOf_cons :
    callsOf seq (e :: first) = (e.call? seq).toList ++ callsOf seq first := by
  cases h : e.call? seq <;> simp [callsOf, h]

@[simp] theorem fatesOf_cons :
    fatesOf seq (e :: first) = (e.fate? seq).toList ++ fatesOf seq first := by
  cases h : e.fate? seq <;> simp [fatesOf, h]

@[simp] theorem sentBy_append :
    sentBy seq (first ++ second) = sentBy seq first ++ sentBy seq second :=
  List.filterMap_append

@[simp] theorem callsOf_append :
    callsOf seq (first ++ second) = callsOf seq first ++ callsOf seq second :=
  List.filterMap_append

@[simp] theorem fatesOf_append :
    fatesOf seq (first ++ second) = fatesOf seq first ++ fatesOf seq second :=
  List.filterMap_append

end Lists

def Untouched (seq : Nat) (events : List Event) : Prop := ∀ e ∈ events, e.producer? ≠ some seq

theorem Untouched.eq_nil {seq : Nat} {events : List Event} (h : Untouched seq events) :
    sentBy seq events = [] ∧ callsOf seq events = [] ∧ fatesOf seq events = [] := by
  refine ⟨?_, ?_, ?_⟩ <;> refine List.filterMap_eq_nil_iff.mpr fun e member => ?_
  · exact (Event.eq_none_of_producer?_ne (h e member)).1
  · exact (Event.eq_none_of_producer?_ne (h e member)).2.1
  · exact (Event.eq_none_of_producer?_ne (h e member)).2.2

/-- The accepted messages of an operation are the beginning of what the answer of the engine comes
to, and all of it when the operation has completed or failed. An operation for which the engine was
never called has sent nothing and can only have been cancelled. -/
def FollowsAnswer (id : String) (seq : Nat) (events : List Event) : Prop :=
  match callsOf seq events with
  | [] => sentBy seq events = [] ∧ ∀ how ∈ fatesOf seq events, how = .cancelled
  | [execution] =>
    (∃ count, sentBy seq events <+: execution.answer.messages id count) ∧
      ∀ how ∈ fatesOf seq events, how = .completed ∨ how = .failed →
        ∃ count, ∀ more, sentBy seq events = execution.answer.messages id (count + more)
  | _ => False

theorem FollowsAnswer.append {id : String} {seq : Nat} {events later : List Event}
    (h : FollowsAnswer id seq events) (untouched : Untouched seq later) :
    FollowsAnswer id seq (events ++ later) := by
  obtain ⟨sent, calls, fates⟩ := untouched.eq_nil
  simpa [FollowsAnswer, sent, calls, fates] using h

theorem map_message_ok (id : String) (values : List ExecutionResult) :
    (values.map Except.ok).map (Element.message id) = values.map (.next id) := by
  simp [Element.message, Function.comp_def]

theorem all_isOk_map_ok (values : List ExecutionResult) :
    (values.map (Except.ok : _ → Element)).all Except.isOk = true := by
  simp [Except.toBool]

theorem Answer.Leads.messages_prefix {a : Answer} {values : List ExecutionResult} {r : Results}
    (h : a.Leads (values.map .ok) r) (id : String) :
    ∃ count, values.map (.next id) <+: a.messages id count := by
  obtain ⟨count, seen⟩ := h.exists_prefix
  refine ⟨count, ?_⟩
  rw [← map_message_ok]
  exact (seen.map (Element.message id)).trans (List.prefix_append _ _)

theorem Answer.messages_of_ends {a : Answer} {count : Nat} (h : a.ends count = true)
    (id : String) (more : Nat) : a.messages id (count + more) = a.messages id count := by
  obtain ⟨elements, ends⟩ := a.elements_of_ends h more
  simp [messages, elements, ends, h]

theorem Answer.Leads.messages_completed {a : Answer} {values : List ExecutionResult}
    {unfinished : Bool} (h : a.Leads (values.map .ok) (.spent unfinished)) (id : String) :
    ∃ count, ∀ more, a.messages id (count + more) = values.map (.next id) ++ [.complete id] := by
  obtain ⟨count, elements, ends⟩ := h.spent
  refine ⟨count, fun more => ?_⟩
  rw [Answer.messages_of_ends ends, messages, elements, ends, map_message_ok, all_isOk_map_ok]
  rfl

theorem Answer.Leads.messages_failed {a : Answer} {values : List ExecutionResult}
    {cause : ExecutionFailure} {unfinished : Bool}
    (h : a.Leads (values.map .ok ++ [.error cause]) (.spent unfinished)) (id : String) :
    ∃ count, ∀ more,
      a.messages id (count + more) = values.map (.next id) ++ [.error id cause.errors] := by
  obtain ⟨count, elements, ends⟩ := h.spent
  refine ⟨count, fun more => ?_⟩
  rw [Answer.messages_of_ends ends, messages, elements, List.map_append, map_message_ok]
  simp [Element.message, Except.toBool]

namespace Producer

/-- A running producer has sent its results so far, each as a `next`, and nothing else. -/
def Follows (p : Producer) (events : List Event) : Prop :=
  fatesOf p.seq events = [] ∧
    ((callsOf p.seq events = [] ∧ sentBy p.seq events = [] ∧
        ∃ request context, p.results = .unasked request context) ∨
      ∃ execution, ∃ values : List ExecutionResult, callsOf p.seq events = [execution] ∧
        sentBy p.seq events = values.map (.next p.id) ∧
        execution.answer.Leads (values.map .ok) p.results)

variable {p : Producer} {events later : List Event}

theorem Follows.append (h : p.Follows events) (untouched : Untouched p.seq later) :
    p.Follows (events ++ later) := by
  obtain ⟨sent, calls, fates⟩ := untouched.eq_nil
  simpa [Follows, sent, calls, fates] using h

theorem Follows.followsAnswer (h : p.Follows events) : FollowsAnswer p.id p.seq events := by
  obtain ⟨fates, ⟨calls, sent, -⟩ | ⟨execution, values, calls, sent, leads⟩⟩ := h
  · simp [FollowsAnswer, fates, calls, sent]
  · simp only [FollowsAnswer, fates, calls, sent]
    exact ⟨leads.messages_prefix p.id, by simp⟩

section Finish

variable (p) (rest : Results) (how : OperationFate) (registry : Registry) (queue : OutboundQueue)
  (events : List Event)

@[simp] theorem sentBy_finish :
    sentBy p.seq (p.finish rest how registry queue events).events = sentBy p.seq events := by
  unfold finish
  split <;> simp [Event.sent?]

@[simp] theorem callsOf_finish :
    callsOf p.seq (p.finish rest how registry queue events).events = callsOf p.seq events := by
  unfold finish
  split <;> simp [Event.call?]

@[simp] theorem fatesOf_finish :
    fatesOf p.seq (p.finish rest how registry queue events).events =
      fatesOf p.seq events ++ [how] := by
  unfold finish
  split <;> simp [Event.fate?]

end Finish

/-- An operation that stops halfway has followed its answer as far as it got. -/
theorem Follows.stop (h : p.Follows events) {how : OperationFate}
    (early : how = .cancelled ∨ how = .refused ∧ p.results.Asked)
    (sent : sentBy p.seq later = []) (calls : callsOf p.seq later = [])
    (fates : fatesOf p.seq later = [how]) :
    FollowsAnswer p.id p.seq (events ++ later) ∧ fatesOf p.seq (events ++ later) = [how] := by
  obtain ⟨none, ⟨uncalled, silent, request, context, unasked⟩ |
    ⟨execution, values, called, seen, leads⟩⟩ := h
  · have cancelled : how = .cancelled := by simpa [unasked, Results.Asked] using early
    simp [FollowsAnswer, none, sent, calls, fates, uncalled, silent, cancelled]
  · refine ⟨?_, by simp [none, fates]⟩
    simp only [FollowsAnswer, callsOf_append, sentBy_append, fatesOf_append, called, calls, seen,
      sent, none, fates, List.append_nil, List.nil_append, List.mem_singleton]
    refine ⟨leads.messages_prefix p.id, ?_⟩
    intro fate same ended
    subst same
    rcases early with rfl | ⟨rfl, -⟩ <;> simp at ended

theorem logs_refused {queue after : OutboundQueue} {source : Source} {message : Message}
    {why : Refusal} (h : queue.enqueue source message = (after, some why, later)) (seq : Nat) :
    sentBy seq later = [] ∧ callsOf seq later = [] ∧ fatesOf seq later = [] := by
  have only := (OutboundQueue.mem_of_refused h).2
  refine ⟨?_, ?_, ?_⟩ <;> refine List.filterMap_eq_nil_iff.mpr fun e member => ?_ <;>
    rcases only e member with rfl | rfl <;> rfl

variable {engine : Engine} {now : Nat} {registry : Registry} {queue : OutboundQueue}
  {taken : ProducerTurn}

theorem Follows.asked (h : p.Follows events) (asked : p.results.Asked) :
    fatesOf p.seq events = [] ∧ ∃ execution, ∃ values : List ExecutionResult,
      callsOf p.seq events = [execution] ∧ sentBy p.seq events = values.map (.next p.id) ∧
        execution.answer.Leads (values.map .ok) p.results := by
  obtain ⟨none, ⟨-, -, request, context, unasked⟩ | logged⟩ := h
  · simp [unasked, Results.Asked] at asked
  · exact ⟨none, logged⟩

/-- A turn that leaves the producer running keeps its log in step with its results. -/
theorem Turns.follows {after : Producer} (turns : p.Turns engine now registry queue taken)
    (h : p.Follows events) (running : taken.state = .running after) :
    after.id = p.id ∧ after.seq = p.seq ∧ after.Follows (events ++ taken.events) := by
  cases turns with
  | starts =>
    cases running
    refine ⟨rfl, rfl, ?_⟩
    simpa [start, Follows, Event.sent?, Event.call?, Event.fate?] using h
  | @calls request context started unasked =>
    cases running
    refine ⟨rfl, rfl, ?_⟩
    obtain ⟨none, ⟨uncalled, silent, -⟩ | ⟨execution, values, -, -, leads⟩⟩ := h
    · refine ⟨by simp [proceed, none, Event.fate?], .inr ⟨engine request context, [], ?_⟩⟩
      simp [proceed, uncalled, silent, Event.call?, Event.sent?, Answer.Leads.starting]
    · rw [unasked] at leads
      exact absurd leads.1 (by simp [Results.Asked])
  | progresses started polled =>
    cases running
    refine ⟨rfl, rfl, ?_⟩
    obtain ⟨none, execution, values, called, seen, leads⟩ :=
      h.asked (Results.asked_of_poll polled (by simp))
    refine ⟨by simpa [proceed] using none, .inr ⟨execution, values, ?_⟩⟩
    simpa [proceed, called, seen] using leads.progressed polled
  | @relays value next started live polled isOpen room =>
    cases running
    refine ⟨rfl, rfl, ?_⟩
    obtain ⟨none, execution, values, called, seen, leads⟩ :=
      h.asked (Results.asked_of_poll polled (by simp))
    refine ⟨by simp [none, Event.fate?], .inr ⟨execution, values ++ [value], ?_⟩⟩
    simpa [called, seen, Event.call?, Event.sent?] using leads.element polled
  | stops | isRefused | terminates | terminalRefused => cases running

theorem Follows.terminate {message : Message} {how : OperationFate} {rest : Results}
    (h : p.Follows events) (terminal : p.Terminal engine now message how rest)
    (sent : sentBy p.seq later = [message]) (calls : callsOf p.seq later = [])
    (fates : fatesOf p.seq later = [how]) :
    FollowsAnswer p.id p.seq (events ++ later) ∧ fatesOf p.seq (events ++ later) = [how] := by
  obtain ⟨none, execution, values, called, seen, leads⟩ := h.asked terminal.asked
  obtain ⟨count, whole⟩ : ∃ count, ∀ more, execution.answer.messages p.id (count + more) =
      values.map (.next p.id) ++ [message] := by
    cases terminal with
    | failed polled =>
      obtain ⟨unfinished, rfl⟩ := Results.spent_of_error polled
      exact (leads.element polled).messages_failed p.id
    | completed polled =>
      obtain ⟨unfinished, spent⟩ := Results.eq_spent_of_ended polled
      rw [spent] at leads
      exact leads.messages_completed p.id
  refine ⟨?_, by simp [none, fates]⟩
  simp only [FollowsAnswer, callsOf_append, sentBy_append, called, calls, seen, sent,
    List.append_nil]
  exact ⟨⟨count, by rw [← whole 0]; exact List.prefix_rfl⟩,
    fun _ _ _ => ⟨count, fun more => (whole more).symm⟩⟩

/-- A producer that ends in a turn has followed its answer, and ends only this once. -/
theorem Turns.followsAnswer {how : OperationFate}
    (turns : p.Turns engine now registry queue taken) (h : p.Follows events)
    (finished : taken.state = .ended how) :
    FollowsAnswer p.id p.seq (events ++ taken.events) ∧
      fatesOf p.seq (events ++ taken.events) = [how] := by
  cases turns with
  | starts | calls | progresses | relays => cases finished
  | stops => cases finished; exact h.stop (.inl rfl) (by simp) (by simp) (by simp)
  | isRefused started live polled refused =>
    cases finished
    obtain ⟨sent, calls, fates⟩ := logs_refused refused p.seq
    exact h.stop (.inr ⟨rfl, Results.asked_of_poll polled (by simp)⟩) (by simpa using sent)
      (by simpa using calls) (by simp [fates])
  | terminates started live terminal =>
    cases finished
    exact h.terminate terminal (by simp [Event.sent?]) (by simp [Event.call?])
      (by simp [Event.fate?])
  | terminalRefused started live terminal refused =>
    cases finished
    obtain ⟨sent, calls, fates⟩ := logs_refused refused p.seq
    exact h.stop (.inr ⟨rfl, terminal.asked⟩) (by simpa using sent) (by simpa using calls)
      (by simp [fates])

theorem Causes.producer? {after : Registry} {e : Event} (h : p.Causes registry after e) :
    e.registration? = none ∧ ∀ seq, e.producer? = some seq → seq = p.seq := by
  cases h <;> simp [Event.registration?, Event.producer?, eq_comm]

theorem Turns.untouched (turns : p.Turns engine now registry queue taken) {seq : Nat}
    (other : seq ≠ p.seq) : Untouched seq taken.events := fun e member same =>
  other ((turns.causes e member).producer?.2 seq same)

end Producer

end SubscriptionGateway
