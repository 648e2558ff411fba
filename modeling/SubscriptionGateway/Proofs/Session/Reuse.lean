import SubscriptionGateway.Proofs.Session.Decision
import SubscriptionGateway.Proofs.Session.Delivery

/-! When an id can be used again. As long as the queue accepts everything, an id is taken exactly
while an operation is outstanding under it: one that the client has not completed and that has not
sent its last message. What is left of an earlier operation of the id cannot touch anything. -/
namespace SubscriptionGateway

namespace Producer

variable {p : Producer} {engine : Engine} {now : Nat} {registry : Registry} {queue : OutboundQueue}
  {message : Message} {how : OperationFate} {rest : Results} {taken : ProducerTurn}

theorem Terminal.isTerminal (terminal : p.Terminal engine now message how rest) :
    message.isTerminal = true := by
  cases terminal <;> rfl

/-- A producer that takes its entry out offers its last message in the same turn. -/
theorem Turns.frees (turned : p.Turns engine now registry queue taken)
    (freed : taken.registry ≠ registry) :
    registry.seq? p.id = some p.seq ∧ taken.registry = registry.drop p.id ∧
      ∃ message : Message, message.isTerminal = true ∧
        (.accepted (.operation p.seq) message ∈ taken.events ∨
          ∃ why, .refused (.operation p.seq) message why ∈ taken.events) := by
  cases turned with
  | starts | calls | progresses | stops | relays | isRefused => exact absurd rfl freed
  | terminates started live terminal =>
    refine ⟨live, rfl, _, terminal.isTerminal, .inl ?_⟩
    simp [finish]
  | @terminalRefused message how rest why after events started live terminal refused =>
    obtain ⟨first, -⟩ := OutboundQueue.mem_of_refused refused
    refine ⟨live, rfl, message, terminal.isTerminal, .inr ⟨why, ?_⟩⟩
    exact List.mem_append_left _ (List.mem_append_left _ first)

end Producer

/-- A turn changes no producer but its own. -/
theorem Relay.mem_replace_iff {producers : List Producer} {q : Producer} {seq : Nat}
    {state : ProducerState} (own : ∀ after, state = .running after → after.seq = seq)
    (ne : q.seq ≠ seq) : q ∈ replace producers seq state ↔ q ∈ producers := by
  refine ⟨fun member => ?_, fun member => mem_replace_of_ne member ne⟩
  cases state with
  | ended how => exact (mem_replace_ended.mp member).1
  | running after =>
    obtain ⟨other, known, rfl⟩ := List.mem_map.mp member
    by_cases same : other.seq = seq
    · simp [same, own after rfl] at ne
    · simpa [same] using known

theorem refusals_append (first second : List Event) :
    refusals (first ++ second) = refusals first ++ refusals second :=
  List.filterMap_append

namespace Session

variable {past events : List Event} {s after : Session} {id : String} {seq : Nat}

/-- An operation has been accepted under the id, the client has not completed the id since then, and
the last message of the operation has not been accepted. -/
def Outstanding (past : List Event) (id : String) (seq : Nat) : Prop :=
  ∃ before later, past = before ++ .registered id seq :: later ∧ ¬ Completed id later ∧
    ∀ message, .accepted (.operation seq) message ∈ later → message.isTerminal = false

/-- Every outstanding operation is live, unless the registry is closed or something was refused. -/
def Lasting (past : List Event) (s : Session) : Prop :=
  s.registry.closed = false → refusals past = [] →
    ∀ id seq, Outstanding past id seq → s.registry.seq? id = some seq

/-- An operation that a step leaves outstanding was so before, or is new. -/
theorem Outstanding.of_append (h : Outstanding (past ++ events) id seq) :
    Outstanding past id seq ∧ ¬ Completed id events ∧
        (∀ message, .accepted (.operation seq) message ∈ events → message.isTerminal = false) ∨
      .registered id seq ∈ events := by
  obtain ⟨before, later, split, uncompleted, going⟩ := h
  rcases append_eq_append_cons split with ⟨middle, old, rfl⟩ | ⟨middle, rfl, new⟩
  · refine .inl ⟨⟨before, middle, old, ?_, ?_⟩, ?_, ?_⟩
    · exact fun completed => uncompleted (completed.append_left events)
    · exact fun message sent => going message (List.mem_append_left _ sent)
    · exact fun completed => uncompleted (completed.append_right middle)
    · exact fun message sent => going message (List.mem_append_right _ sent)
  · exact .inr (by simp [new])

theorem Lasting.step (lasting : Lasting past s) (books : s.Books events after) :
    Lasting (past ++ events) after := by
  intro opened unrefused id seq outstanding
  obtain ⟨unrefused, silent⟩ : refusals past = [] ∧ refusals events = [] := by
    simpa [refusals_append] using unrefused
  have before : s.registry.closed = false :=
    Bool.eq_false_iff.mpr fun closed => by simp [books.closed closed] at opened
  rcases outstanding.of_append with ⟨old, uncompleted, going⟩ | new
  · have live := lasting before unrefused id seq old
    cases books with
    | keeps registry | leaves registry => rw [registry]; exact live
    | shuts registry => simp [registry, Registry.closed_close] at opened
    | frees decoded registry =>
      rw [registry]
      refine Relay.seq?_cancelId.mpr ⟨?_, live⟩
      rintro rfl
      exact uncompleted ⟨_, List.mem_singleton_self _, decoded⟩
    | @enrols _ other _ _ number _ decoded known free =>
      -- The id is taken, so that the new operation has another one.
      have unused := (Registry.register_eq_ok free).2.1
      have different : id ≠ other := by
        rintro rfl
        simp [live] at unused
      rw [Registry.seq?_register_of_ne free different]
      exact live
    | @produces p taken _ found turned registry =>
      by_cases same : taken.registry = s.registry
      · rw [registry, same]
        exact live
      · obtain ⟨own, freed, message, terminal, offered⟩ := turned.frees same
        have different : id ≠ p.id := by
          rintro rfl
          obtain rfl : p.seq = seq := Option.some.inj (own.symm.trans live)
          rcases offered with accepted | ⟨why, refused⟩
          · simp [going message accepted] at terminal
          · have listed : why ∈ refusals taken.events := mem_refusals.mpr ⟨_, _, refused⟩
            simp [silent] at listed
        rw [registry, freed]
        exact Registry.seq?_drop_eq_some.mpr ⟨different, live⟩
  · cases books with
    | keeps _ _ harmless => exact absurd (harmless _ new).1.2 (by simp [Event.registration?])
    | shuts _ _ common => exact absurd (common _ new).2 (by simp [Event.registration?])
    | leaves | frees => simp at new
    | enrols decoded known free =>
      obtain ⟨rfl, rfl⟩ : id = _ ∧ seq = _ := by simpa using new
      exact Registry.seq?_register_self free
    | produces found turned =>
      exact absurd (turned.causes _ new).producer?.1 (by simp [Event.registration?])

theorem lasting_of_reaches {config : SessionConfig} {connectionId : String} {engine : Engine}
    {interceptors : InterceptorChain} {half : WriteHalf} {now : Nat} {shutdown : Bool}
    (run : Reaches (.new config connectionId engine interceptors half now shutdown) past s) :
    Lasting past s := by
  have orderly := orderly_new config connectionId engine interceptors half now shutdown
  have start : Lasting [] (new config connectionId engine interceptors half now shutdown) := by
    rintro - - id seq ⟨before, later, split, -⟩
    simp at split
  exact run.history (fun orderly lasting does => Lasting.step lasting (books_of_does orderly does))
    orderly start

/-- What is live is outstanding: whatever ends an operation takes its entry out. -/
theorem Hushed.outstanding (hushed : Hushed past s) (tenured : Tenured past s)
    (live : s.registry.seq? id = some seq) : Outstanding past id seq := by
  have made := mem_registrations.mp (tenured.enlisted id seq live)
  obtain ⟨before, later, split⟩ := List.append_of_mem made
  obtain ⟨-, -, finished⟩ := hushed _ _ _ _ split
  have unsilenced : ∀ e ∈ later, ¬ e.Silences id seq := fun e member silenced =>
    (finished ⟨e, member, silenced⟩).2 live
  refine ⟨before, later, split, ?_, ?_⟩
  · rintro ⟨frame, arrived, decoded⟩
    exact unsilenced _ arrived decoded
  · intro message accepted
    refine Bool.eq_false_iff.mpr fun terminal => ?_
    exact unsilenced _ accepted ⟨rfl, terminal⟩

/-- The text of the terminal message of a registration has been delivered in its place. -/
def TerminalDelivered (past : List Event) (seq : Nat) : Prop :=
  ∃ first message second, past = first ++ .accepted (.operation seq) message :: second ∧
    message.isTerminal = true ∧
    (deliveredFrames past)[(acceptedTexts first).length]? = some (.text message.encode)

/-- Once the client has completed the latest operation of an id, or that operation has sent its last
message, nothing is live under the id. -/
theorem Hushed.free_of_ended (hushed : Hushed past s) (tenured : Tenured past s)
    {before later : List Event} (split : past = before ++ .registered id seq :: later)
    (latest : ∀ number, .registered id number ∉ later)
    (ended : Completed id later ∨
      ∃ message, .accepted (.operation seq) message ∈ past ∧ message.isTerminal = true) :
    s.registry.seq? id = none := by
  obtain ⟨untouched, -, finished⟩ := hushed _ _ _ _ split
  have isOver : Over id seq s := by
    rcases ended with ⟨frame, arrived, decoded⟩ | ⟨message, accepted, terminal⟩
    · exact finished ⟨_, arrived, decoded⟩
    · rw [split] at accepted
      rcases List.mem_append.mp accepted with early | late
      · exact absurd rfl (untouched _ early)
      · exact finished ⟨_, (List.mem_cons.mp late).resolve_left (by simp), rfl, terminal⟩
  refine Option.eq_none_iff_forall_ne_some.mpr fun number live => ?_
  -- What is live can only be the latest registration of the id, and that one is over.
  have made := mem_registrations.mp (tenured.enlisted id number live)
  rw [split] at made
  rcases List.mem_append.mp made with earlier | last
  · obtain ⟨first, second, again⟩ := List.append_of_mem earlier
    have whole : past = first ++ .registered id number ::
        (second ++ .registered id seq :: later) := by simp [split, again]
    obtain ⟨-, -, replaced⟩ := hushed _ _ _ _ whole
    exact (replaced ⟨.registered id seq, by simp, rfl⟩).2 live
  · rcases List.mem_cons.mp last with same | later
    · cases same
      exact isOver.2 live
    · exact latest number later

/-- A producer whose registration is not live any more leaves everything but itself as it is. -/
theorem Known.superseded (known : Known past s) {p : Producer} (member : p ∈ s.producers)
    (gone : s.registry.seq? p.id ≠ some p.seq)
    (taken : s.turn (.relay (.producer p.seq)) = some (after, events)) :
    (∃ producers, after = { s with producers } ∧
      ∀ q, q.seq ≠ p.seq → (q ∈ producers ↔ q ∈ s.producers)) ∧
      acceptedTexts events = [] := by
  have cancelled := (known.tenured.running p member).resolve_left gone
  have found := find?_of_mem known.enrolled.distinct member
  obtain ⟨⟨relay, caused⟩, turned, made⟩ := Option.map_eq_some_iff.mp taken
  simp only [Relay.turn, found] at turned
  obtain ⟨result, advanced, same⟩ := Option.map_eq_some_iff.mp turned
  cases same
  cases made
  rcases (Producer.turns_of_turn advanced).of_cancelled cancelled with ⟨-, rfl⟩ | ⟨-, rfl⟩
  · refine ⟨⟨_, rfl, fun q ne => Relay.mem_replace_iff ?_ ne⟩, rfl⟩
    intro after running
    cases running
    rfl
  · refine ⟨⟨_, rfl, fun q ne => Relay.mem_replace_iff ?_ ne⟩, ?_⟩
    · intro after running
      cases running
    · unfold Producer.finish
      split <;> simp [Event.acceptedText?]

/-- In every run in which the queue has refused nothing and nobody else has closed the registry, for
a `subscribe` that comes after the handshake: it is turned away for its id exactly if an operation
is outstanding under the id, and else it starts an operation; so it does if the latest operation of
the id is one that the client has completed, or one whose last message has been accepted or
delivered. A producer that was left behind changes nothing but itself, and sends nothing. Of two
operations of the id the messages are apart in time, and those of the second follow the engine's
answer to it. -/
theorem taken_iff_outstanding {config : SessionConfig} {connectionId : String} {engine : Engine}
    {interceptors : InterceptorChain} {half : WriteHalf} {now : Nat} {shutdown : Bool}
    (undisturbed : Undisturbed (.new config connectionId engine interceptors half now shutdown)
      past s) (ready : s.phase = .initialized) (unrefused : refusals past = [])
    {frame : InboundFrame} {payload : SubscribePayload}
    (decoded : frame.message? = some (.subscribe id payload)) (rest : Inbound) :
    let heard : Session := { s with inbound := rest }
    let outcome := heard.takeItem (.ok frame)
    (outcome = heard.close (.subscriberExists id) ↔ ∃ seq, Outstanding past id seq) ∧
    ((∀ seq, ¬ Outstanding past id seq) → heard.Starts id payload outcome) ∧
    (∀ before seq later, past = before ++ .registered id seq :: later →
      (∀ number, .registered id number ∉ later) →
      Completed id later ∨ TerminalDelivered past seq ∨
        (∃ message, .accepted (.operation seq) message ∈ past ∧ message.isTerminal = true) →
      heard.Starts id payload outcome) ∧
    (∀ p ∈ s.producers, s.registry.seq? p.id ≠ some p.seq →
      ∀ after events, s.turn (.relay (.producer p.seq)) = some (after, events) →
        (∃ producers, after = { s with producers } ∧
          ∀ q, q.seq ≠ p.seq → (q ∈ producers ↔ q ∈ s.producers)) ∧
        acceptedTexts events = []) ∧
    (∀ before seq middle number later,
      past = before ++ .registered id seq :: (middle ++ .registered id number :: later) →
        sentBy seq later = [] ∧ sentBy number (before ++ .registered id seq :: middle) = [] ∧
          FollowsAnswer id number past) := by
  intro heard outcome
  have run := undisturbed.reaches
  have known := known_of_reaches run
  have opened : s.registry.closed = false := undisturbed.opens (by simp [ready])
  have live_iff : ∀ seq, s.registry.seq? id = some seq ↔ Outstanding past id seq := fun seq =>
    ⟨known.hushed.outstanding known.tenured, lasting_of_reaches run opened unrefused id seq⟩
  have data : frame ≠ .close := by
    rintro rfl
    simp [InboundFrame.message?, InboundFrame.decoded?] at decoded
  have behind : heard.DecidesBehind frame outcome := known.decidesBehind ready data rest
  have starts : s.registry.seq? id = none → heard.Starts id payload outcome :=
    fun free => behind.free id payload decoded free opened
  refine ⟨?_, ?_, ?_, ?_, ?_⟩
  · rw [behind.taken id payload decoded]
    exact exists_congr live_iff
  · intro settled
    refine starts (Option.eq_none_iff_forall_ne_some.mpr fun seq live => ?_)
    exact settled seq ((live_iff seq).mp live)
  · intro before seq later split latest ended
    refine starts (known.hushed.free_of_ended known.tenured split latest ?_)
    rcases ended with completed | ⟨first, message, second, sent, terminal, -⟩ | accepted
    · exact .inl completed
    · exact .inr ⟨message, by simp [sent], terminal⟩
    · exact .inr accepted
  · intro p member gone after events taken
    exact known.superseded member gone taken
  · intro before seq middle number later split
    obtain ⟨-, silent, -⟩ := known.hushed _ _ _ _ split
    have again : past =
        (before ++ .registered id seq :: middle) ++ .registered id number :: later := by
      simp [split]
    obtain ⟨untouched, -, -⟩ := known.hushed _ _ _ _ again
    have made : (id, number) ∈ registrations past := mem_registrations.mpr (by simp [split])
    refine ⟨?_, untouched.eq_nil.1, known.enrolled.followsAnswer made⟩
    rw [List.pairwise_append, List.pairwise_cons] at silent
    exact List.filterMap_eq_nil_iff.mpr fun e member => silent.2.1.1 e member rfl

/-- The theorem at an id that the client has completed, while the producer of the operation has yet
to find out. -/
theorem starts_of_completed_id : ∃ past s, Reaches (single 256 .direct) past s ∧
    (∃ p ∈ s.producers, p.id = "1") ∧ (∀ seq, ¬ Outstanding past "1" seq) ∧
      let heard : Session := { s with inbound := .empty }
      heard.Starts "1" ⟨"one", none, none, none⟩
        (heard.takeItem (.ok (.text (subscribing "1").encode))) := by
  obtain ⟨past, s, undisturbed, seen⟩ := exists_undisturbed_of_play (single 256 .direct)
    (hearing (.connectionInit none) ++ hearing (subscribing "1") ++ producing 1 3 ++
      hearing (.complete "1")) (by decide)
    (fun past s => decide (s.phase = .initialized) && decide (refusals past = []) &&
      decide (s.registry.seq? "1" = none) && s.producers.any fun p => p.id == "1")
    (by decide +kernel)
  simp only [Bool.and_eq_true, decide_eq_true_eq, List.any_eq_true, beq_iff_eq] at seen
  obtain ⟨⟨⟨ready, unrefused⟩, free⟩, left⟩ := seen
  have run := undisturbed.reaches
  let frame : InboundFrame := .text (subscribing "1").encode
  have decoded : frame.message? = some (subscribing "1") := by decide +kernel
  have data : frame ≠ .close := by simp [frame]
  obtain ⟨taken, starts, -⟩ := taken_iff_outstanding undisturbed ready unrefused decoded .empty
  have settled : ∀ seq, ¬ Outstanding past "1" seq := by
    intro seq outstanding
    have closes := taken.mpr ⟨seq, outstanding⟩
    have behind := (known_of_reaches run).decidesBehind ready data .empty
    obtain ⟨number, live⟩ := (behind.taken "1" _ decoded).mp closes
    cases free.symm.trans live
  exact ⟨past, s, run, left, settled, starts settled⟩

end Session

end SubscriptionGateway
