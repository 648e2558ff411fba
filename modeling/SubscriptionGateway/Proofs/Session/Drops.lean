import SubscriptionGateway.Proofs.Session.Rest

/-! What becomes of the executions that the engine has begun. The producer of an operation holds the
stream of its execution, and drops it when it ends; a stream that has not come to its end by then is
abandoned. -/
namespace SubscriptionGateway

/-- The operation has ended, and with it an execution whose stream was cut short or had come to its
end. -/
def Released (seq : Nat) (execution : Execution) (events : List Event) : Prop :=
  ∃ before id how after, events = before ++ .operationEnded seq id how :: after ∧
    ((∃ later, after = .abandoned id :: later) ∨ ∃ count, execution.answer.ends count = true)

theorem Released.append {seq : Nat} {execution : Execution} {events : List Event}
    (h : Released seq execution events) (later : List Event) :
    Released seq execution (events ++ later) := by
  obtain ⟨before, id, how, after, rfl, dropped⟩ := h
  refine ⟨before, id, how, after ++ later, by simp, dropped.imp_left ?_⟩
  rintro ⟨rest, rfl⟩
  exact ⟨rest ++ later, rfl⟩

theorem Answer.Leads.isUnfinished_or_ends {a : Answer} {past : List Element} {r : Results}
    (h : a.Leads past r) : r.isUnfinished = true ∨ ∃ count, a.ends count = true := by
  cases r with
  | unasked => exact False.elim h.1
  | starting | streaming => exact .inl rfl
  | spent unfinished =>
    obtain ⟨count, -, ends⟩ := h.spent
    exact .inr ⟨count, ends⟩

namespace Producer

variable {p : Producer} {engine : Engine} {now : Nat} {registry : Registry} {queue : OutboundQueue}
  {taken : ProducerTurn} {past : List Event} {how : OperationFate}

theorem Turns.uncalled_of_ended (turned : p.Turns engine now registry queue taken)
    (ended : taken.state = .ended how) : callsOf p.seq taken.events = [] := by
  cases turned with
  | starts | calls | progresses | relays => cases ended
  | stops => simp
  | isRefused started live polled refused | terminalRefused started live terminal refused =>
    simpa using (logs_refused refused p.seq).2.1
  | terminates => simp [Event.call?]

theorem Follows.uncalled {request : Request} {context : Context} (h : p.Follows past)
    (unasked : p.results = .unasked request context) : callsOf p.seq past = [] := by
  obtain ⟨-, ⟨uncalled, -⟩ | ⟨execution, values, -, -, leads⟩⟩ := h
  · exact uncalled
  · rw [unasked] at leads
    exact False.elim leads.1

theorem Follows.leads (h : p.Follows past) {execution : Execution}
    (called : execution ∈ callsOf p.seq past) :
    ∃ seen, execution.answer.Leads seen p.results := by
  obtain ⟨-, ⟨uncalled, -⟩ | ⟨only, values, calls, -, leads⟩⟩ := h
  · simp [uncalled] at called
  · obtain rfl : execution = only := by simpa [calls] using called
    exact ⟨_, leads⟩

theorem Follows.released (h : p.Follows past) (turned : p.Turns engine now registry queue taken)
    (ended : taken.state = .ended how) {execution : Execution}
    (called : execution ∈ callsOf p.seq past) :
    Released p.seq execution (past ++ taken.events) := by
  obtain ⟨rest, after, full, events, rfl, dropped⟩ := turned.ended ended
  obtain ⟨seen, leads⟩ : ∃ seen, execution.answer.Leads seen rest := by
    obtain ⟨seen, leads⟩ := h.leads called
    rcases dropped with rfl | ⟨value, polled⟩
    · exact ⟨seen, leads⟩
    · exact ⟨_, leads.element polled⟩
  have split : past ++ (p.finish rest how after full events).events = (past ++ events) ++
      .operationEnded p.seq p.id how ::
        if rest.isUnfinished then [.abandoned p.id] else [] := by
    simp [finish]
  refine ⟨past ++ events, p.id, how, _, split, ?_⟩
  rcases leads.isUnfinished_or_ends with unfinished | ends
  · exact .inl ⟨[], by simp [unfinished]⟩
  · exact .inr ends

end Producer

namespace Session

variable {past events : List Event} {s after : Session}

theorem Books.goes_on_or_ends (books : s.Books events after)
    (distinct : (s.producers.map Producer.seq).Nodup) {p : Producer} (member : p ∈ s.producers) :
    (∃ q ∈ after.producers, q.seq = p.seq) ∨
      ∃ taken how, p.Turns s.engine s.now s.registry s.queue taken ∧
        taken.state = .ended how ∧ events = taken.events := by
  cases books with
  | keeps _ producers | leaves _ producers | shuts _ producers | frees _ _ producers =>
    exact .inl ⟨p, producers ▸ member, rfl⟩
  | enrols _ _ _ producers => exact .inl ⟨p, producers ▸ List.mem_append_left _ member, rfl⟩
  | @produces other taken _ found turned _ producers =>
    by_cases same : p.seq = other.seq
    · obtain rfl : p = other :=
        eq_of_seq_eq distinct member (List.mem_of_find?_eq_some found) same
      have fares := turned.fares
      cases fares with
      | @goesOn q running _ seq =>
        refine .inl ⟨q, ?_, seq⟩
        rw [producers, running]
        exact (Relay.mem_replace_running member).mpr (.inl rfl)
      | isGone ended | isCut ended | isFreed ended => exact .inr ⟨taken, _, turned, ended, rfl⟩
    · exact .inl ⟨p, producers ▸ Relay.mem_replace_of_ne member same, rfl⟩

theorem Books.untouched (books : s.Books events after) {seq : Nat}
    (absent : ∀ p ∈ s.producers, p.seq ≠ seq) : Untouched seq events := by
  intro e member caused
  obtain ⟨p, taken, found, turned, rfl⟩ := books.turn_of_producer? member caused
  have mine := (turned.causes e member).producer?.2 seq caused
  exact absent p (List.mem_of_find?_eq_some found) mine.symm

/-- Every execution that has begun is held by the producer of its operation, or is released. -/
def Accounted (past : List Event) (s : Session) : Prop :=
  ∀ seq, ∀ execution ∈ callsOf seq past,
    (∃ p ∈ s.producers, p.seq = seq) ∨ Released seq execution past

theorem Accounted.step (accounted : Accounted past s) (enrolled : Enrolled past s)
    (books : s.Books events after) : Accounted (past ++ events) after := by
  intro seq execution called
  rw [callsOf_append] at called
  by_cases runs : ∃ p ∈ s.producers, p.seq = seq
  · -- A producer that ends has made its call before this step.
    obtain ⟨p, member, rfl⟩ := runs
    rcases books.goes_on_or_ends enrolled.distinct member with
      still | ⟨taken, how, turned, ended, rfl⟩
    · exact .inl still
    · rw [turned.uncalled_of_ended ended, List.append_nil] at called
      exact .inr ((enrolled.follows p member).released turned ended called)
  · have untouched : Untouched seq events :=
      books.untouched fun p member same => runs ⟨p, member, same⟩
    rw [untouched.eq_nil.2.1, List.append_nil] at called
    have released := (accounted seq execution called).resolve_left runs
    exact .inr (released.append events)

theorem accounted_of_reaches {config : SessionConfig} {connectionId : String} {engine : Engine}
    {interceptors : InterceptorChain} {half : WriteHalf} {now : Nat} {shutdown : Bool}
    (run : Reaches (.new config connectionId engine interceptors half now shutdown) events s) :
    Accounted events s :=
  run.of_books (by simp [Accounted]) fun enrolled accounted books => accounted.step enrolled books

end Session

end SubscriptionGateway
