import SubscriptionGateway.Proofs.Operation.Log
import SubscriptionGateway.Proofs.Session.Runs

/-! What the steps of a connection do to the registry and to the producers: an account of few
entries, which is all that the registrations depend on. -/
namespace SubscriptionGateway

namespace Event

/-- What ends a registration: its terminal message, the client's `complete` for its id, another
registration of the id, or the end of the connection. -/
def Silences (id : String) (seq : Nat) : Event → Prop
  | .accepted (.operation number) message => number = seq ∧ message.isTerminal = true
  | .arrived (some (.ok frame)) => frame.message? = some (.complete id)
  | .registered other _ => other = id
  | .closing _ | .ended _ => True
  | _ => False

def Common (e : Event) : Prop := e.producer? = none ∧ e.registration? = none

@[simp] theorem common_arrived (item : Option InboundItem) : (arrived item).Common := ⟨rfl, rfl⟩

@[simp] theorem common_closing (reason : CloseReason) : (closing reason).Common := ⟨rfl, rfl⟩

@[simp] theorem common_ended (outcome : Outcome) : (ended outcome).Common := ⟨rfl, rfl⟩

def Harmless (e : Event) : Prop := e.Common ∧ ∀ id seq, ¬ e.Silences id seq

end Event

def registrations (events : List Event) : List (String × Nat) :=
  events.filterMap Event.registration?

@[simp] theorem registrations_nil : registrations [] = [] := rfl

@[simp] theorem registrations_append (first second : List Event) :
    registrations (first ++ second) = registrations first ++ registrations second :=
  List.filterMap_append

theorem mem_registrations {events : List Event} {id : String} {seq : Nat} :
    (id, seq) ∈ registrations events ↔ .registered id seq ∈ events := by
  simp only [registrations, List.mem_filterMap]
  constructor
  · rintro ⟨e, member, made⟩
    cases e <;> simp_all [Event.registration?]
  · intro member
    exact ⟨_, member, rfl⟩

theorem registrations_eq_nil {events : List Event} (h : ∀ e ∈ events, e.registration? = none) :
    registrations events = [] :=
  List.filterMap_eq_nil_iff.mpr h

namespace Relay

variable {producers : List Producer} {p q after : Producer}

theorem mem_replace_running (member : p ∈ producers) :
    q ∈ replace producers p.seq (.running after) ↔
      q = after ∨ q ∈ producers ∧ q.seq ≠ p.seq := by
  simp only [replace, List.mem_map]
  constructor
  · rintro ⟨other, known, rfl⟩
    by_cases same : other.seq = p.seq
    · simp [same]
    · simp [same, known]
  · rintro (rfl | ⟨known, ne⟩)
    · exact ⟨p, member, by simp⟩
    · exact ⟨q, known, by simp [ne]⟩

theorem mem_replace_ended {how : OperationFate} {seq : Nat} :
    q ∈ replace producers seq (.ended how) ↔ q ∈ producers ∧ q.seq ≠ seq := by
  simp [replace]

theorem mem_replace_of_ne {seq : Nat} {state : ProducerState} (member : q ∈ producers)
    (ne : q.seq ≠ seq) : q ∈ replace producers seq state := by
  cases state with
  | running after => exact List.mem_map.mpr ⟨q, member, by simp [ne]⟩
  | ended how => exact mem_replace_ended.mpr ⟨member, ne⟩

theorem nodup_replace {seq : Nat} {state : ProducerState}
    (same : ∀ after, state = .running after → after.seq = seq)
    (distinct : (producers.map Producer.seq).Nodup) :
    ((replace producers seq state).map Producer.seq).Nodup := by
  cases state with
  | running after =>
    have kept : (replace producers seq (.running after)).map Producer.seq =
        producers.map Producer.seq := by
      simp only [replace, List.map_map]
      refine List.map_congr_left fun other _ => ?_
      by_cases h : other.seq = seq
      · simp [h, same after rfl]
      · simp [h]
    rwa [kept]
  | ended how => exact distinct.sublist (List.filter_sublist.map Producer.seq)

end Relay

namespace Session

inductive Books (s : Session) : List Event → Session → Prop where
  | keeps {events : List Event} {after : Session} (registry : after.registry = s.registry)
      (producers : after.producers = s.producers) (harmless : ∀ e ∈ events, e.Harmless) :
      Books s events after
  | leaves {outcome : Outcome} {after : Session} (registry : after.registry = s.registry)
      (producers : after.producers = s.producers) (closed : s.registry.closed = true) :
      Books s [.ended outcome] after
  | shuts {events : List Event} {after : Session} (registry : after.registry = s.registry.close)
      (producers : after.producers = s.producers) (common : ∀ e ∈ events, e.Common) :
      Books s events after
  | frees {frame : InboundFrame} {id : String} {after : Session}
      (decoded : frame.message? = some (.complete id))
      (registry : after.registry = (s.toRelay.cancelId id).registry)
      (producers : after.producers = s.producers) :
      Books s [.arrived (some (.ok frame))] after
  | enrols {frame : InboundFrame} {id : String} {payload : SubscribePayload} {context : Context}
      {seq : Nat} {after : Session} (decoded : frame.message? = some (.subscribe id payload))
      (known : s.context = some context) (free : s.registry.register id = .ok (seq, after.registry))
      (producers : after.producers =
        s.producers ++ [.new id seq (.ofSubscribe id payload) context]) :
      Books s [.arrived (some (.ok frame)), .registered id seq] after
  | produces {p : Producer} {taken : ProducerTurn} {after : Session}
      (found : s.producers.find? (fun other => other.seq == p.seq) = some p)
      (turned : p.Turns s.engine s.now s.registry s.queue taken)
      (registry : after.registry = taken.registry)
      (producers : after.producers = Relay.replace s.producers p.seq taken.state) :
      Books s taken.events after

theorem harmless_enqueue (q : OutboundQueue) (message : Message) :
    ∀ e ∈ (q.enqueue .connection message).2.2, e.Harmless := by
  intro e member
  rcases OutboundQueue.mem_enqueue member with rfl | ⟨why, rfl⟩ | rfl <;>
    exact ⟨⟨rfl, rfl⟩, fun _ _ => id⟩

theorem harmless_arrived {frame : InboundFrame} {message : Message}
    (decoded : frame.message? = some message) (other : ∀ id, message ≠ .complete id) :
    (Event.arrived (some (.ok frame))).Harmless := by
  refine ⟨⟨rfl, rfl⟩, fun id _ silenced => other id ?_⟩
  rw [Event.Silences, decoded] at silenced
  exact Option.some.inj silenced

theorem books_of_takes {s after : Session} {rest : Inbound} {item : InboundItem}
    {events : List Event} (taken : Takes { s with inbound := rest } item events after) :
    s.Books (.arrived (some item) :: events) after := by
  cases taken with
  | parts | breaks =>
    exact .shuts (registry_endWith _ _) (producers_endWith _ _) (by simp)
  | rejects | objects =>
    exact .shuts rfl rfl (by simp)
  | greets decoded fresh =>
    refine .keeps rfl rfl ?_
    simp only [handshake, send_eq, List.forall_mem_cons]
    exact ⟨harmless_arrived decoded (by simp), ⟨⟨rfl, rfl⟩, fun _ _ => id⟩, harmless_enqueue _ _⟩
  | enrols decoded ready known free => exact .enrols decoded known free rfl
  | cancels decoded ready => exact .frees decoded rfl (by simp)
  | replies decoded ready =>
    refine .keeps rfl rfl ?_
    simp only [send_eq, List.forall_mem_cons]
    exact ⟨harmless_arrived decoded (by simp), harmless_enqueue _ _⟩
  | ignores decoded ready harmless =>
    refine .keeps rfl rfl ?_
    simp only [List.forall_mem_cons]
    refine ⟨harmless_arrived decoded ?_, by simp⟩
    rcases harmless with ⟨payload, rfl⟩ | ⟨id, payload, rfl, -⟩ <;> simp

theorem books_of_does {s after : Session} {events : List Event} (orderly : s.Orderly)
    (h : s.Does events after) : s.Books events after := by
  have finished : s.stage ≠ .running → s.registry.closed = true := fun h =>
    orderly.tornDown (by simpa [h] using orderly.running)
  cases h with
  | writes present turned =>
    refine .keeps rfl rfl fun e member => ?_
    obtain ⟨frame, rfl⟩ := turned.delivered e member
    exact ⟨⟨rfl, rfl⟩, fun _ _ => id⟩
  | produces found turned => exact .produces found turned rfl rfl
  | overflows | timesOut | goesAway =>
    exact .shuts (registry_close s _) (producers_close s _) (by simp)
  | hearsEnd =>
    exact .shuts (registry_endWith s _) (producers_endWith s _) (by simp)
  | hears running room next taken => exact books_of_takes taken
  | ticks => exact .keeps rfl rfl (harmless_enqueue _ _)
  | finishes waiting => exact .leaves rfl rfl (finished (by simp [waiting]))
  | givesUp waiting =>
    exact .leaves (by simp [finish]) (by simp [finish]) (finished (by simp [waiting]))
  | isStirred cause =>
    cases cause with
    | closeRegistry => exact .shuts rfl rfl (by simp)
    | deliver | disconnect | losePeer | requestShutdown | changeEngine | clock =>
      exact .keeps rfl rfl (by simp)

variable {s after : Session} {events : List Event}

theorem Books.closed (books : s.Books events after) (closed : s.registry.closed = true) :
    after.registry.closed = true := by
  cases books with
  | keeps registry | leaves registry => rw [registry]; exact closed
  | shuts registry => rw [registry]; rfl
  | frees decoded registry =>
    rw [registry, Relay.closed_cancelId]
    exact closed
  | enrols decoded known free => simp [(Registry.register_eq_ok free).1] at closed
  | produces found turned registry =>
    rw [registry]
    rcases turned.registry_eq with same | freed
    · rw [same]; exact closed
    · rw [freed]; simpa using closed

theorem Books.isCancelled (books : s.Books events after) {seq : Nat}
    (cancelled : s.registry.isCancelled seq = true) : after.registry.isCancelled seq = true := by
  cases books with
  | keeps registry | leaves registry => rw [registry]; exact cancelled
  | shuts registry => rw [registry]; exact Registry.isCancelled_close.mpr (.inl cancelled)
  | frees decoded registry =>
    rw [registry]
    exact Relay.isCancelled_cancelId.mpr (.inl cancelled)
  | enrols decoded known free =>
    obtain ⟨-, -, -, registry⟩ := Registry.register_eq_ok free
    rw [registry]
    exact cancelled
  | produces found turned registry =>
    rw [registry]
    rcases turned.registry_eq with same | freed
    · rw [same]; exact cancelled
    · rw [freed]; exact cancelled

/-- What an operation does, it does in a turn of its producer. -/
theorem Books.turn_of_producer? (books : s.Books events after) {e : Event} (member : e ∈ events)
    {seq : Nat} (caused : e.producer? = some seq) :
    ∃ p taken, s.producers.find? (fun other => other.seq == p.seq) = some p ∧
      p.Turns s.engine s.now s.registry s.queue taken ∧ events = taken.events := by
  have foreign : ¬ e.Common := fun common => by simp [common.1] at caused
  cases books with
  | keeps registry producers harmless => exact absurd (harmless e member).1 foreign
  | shuts registry producers common => exact absurd (common e member) foreign
  | leaves | frees => cases List.mem_singleton.mp member; cases caused
  | enrols =>
    rcases List.mem_cons.mp member with rfl | last
    · cases caused
    · cases List.mem_singleton.mp last; cases caused
  | produces found turned => exact ⟨_, _, found, turned, rfl⟩

end Session

end SubscriptionGateway
