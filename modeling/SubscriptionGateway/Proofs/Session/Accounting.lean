import SubscriptionGateway.Proofs.Session.Closings
import SubscriptionGateway.Proofs.Session.Rest

/-! The accounts of one connection. An operation is entered when its `subscribe` is accepted, and it
is written off in the turn in which its producer ends, so that what is entered and not written off
is what runs. It counts as completed or failed in the turn in which the queue accepts its last
message, and in no other. -/
namespace SubscriptionGateway

namespace Metrics

variable (first second : List Event)

@[simp] theorem operationsStarted_append :
    operationsStarted (first ++ second) = operationsStarted first + operationsStarted second :=
  List.countP_append

@[simp] theorem operationsCompleted_append :
    operationsCompleted (first ++ second) =
      operationsCompleted first + operationsCompleted second :=
  List.countP_append

@[simp] theorem operationsFailed_append :
    operationsFailed (first ++ second) = operationsFailed first + operationsFailed second :=
  List.countP_append

end Metrics

namespace Event

def acceptsComplete : Event → Bool
  | .accepted _ (.complete _) => true
  | _ => false

def acceptsError : Event → Bool
  | .accepted _ (.error _ _) => true
  | _ => false

structure Unbooked (e : Event) : Prop where
  registered : Metrics.isRegistered e = false
  ended : Metrics.isOperationEnded e = false
  completed : Metrics.isCompleted e = false
  failed : Metrics.isFailed e = false
  acceptsComplete : e.acceptsComplete = false
  acceptsError : e.acceptsError = false

theorem unbooked_accepted {source : Source} {message : Message}
    (going : message.isTerminal = false) : (accepted source message).Unbooked := by
  cases message with
  | complete | error => cases going
  | _ => exact ⟨rfl, rfl, rfl, rfl, rfl, rfl⟩

/-- What is no operation's is no entry, unless the connection itself sends a last message. -/
theorem Common.unbooked {e : Event} (common : e.Common)
    (going : ∀ message, e = .accepted .connection message → message.isTerminal = false) :
    e.Unbooked := by
  obtain ⟨foreign, unregistered⟩ := common
  cases e with
  | registered => cases unregistered
  | operationEnded | called => cases foreign
  | accepted source message =>
    cases source with
    | connection => exact unbooked_accepted (going message rfl)
    | operation => cases foreign
  | _ => exact ⟨rfl, rfl, rfl, rfl, rfl, rfl⟩

end Event

open Metrics

/-- The entries that some events make: so many operations are entered, and so many are written off,
the completed ones with their `complete` and the failed ones with their `error`. -/
structure Entries (events : List Event) (entered writtenOff : Nat) : Prop where
  entered : operationsStarted events = entered
  writtenOff : events.countP isOperationEnded = writtenOff
  completed : operationsCompleted events = events.countP Event.acceptsComplete
  failed : operationsFailed events = events.countP Event.acceptsError

namespace Entries

variable {first second events : List Event}

theorem append {entered writtenOff more moreOff : Nat} (h : Entries first entered writtenOff)
    (t : Entries second more moreOff) :
    Entries (first ++ second) (entered + more) (writtenOff + moreOff) where
  entered := by rw [operationsStarted_append, h.entered, t.entered]
  writtenOff := by rw [List.countP_append, h.writtenOff, t.writtenOff]
  completed := by rw [operationsCompleted_append, List.countP_append, h.completed, t.completed]
  failed := by rw [operationsFailed_append, List.countP_append, h.failed, t.failed]

theorem of_unbooked (unbooked : ∀ e ∈ events, e.Unbooked) : Entries events 0 0 := by
  have none {q : Event → Bool} (h : ∀ e ∈ events, q e = false) : events.countP q = 0 :=
    List.countP_eq_zero.mpr fun e member => by simp [h e member]
  refine ⟨?_, ?_, ?_, ?_⟩
  · exact none fun e member => (unbooked e member).registered
  · exact none fun e member => (unbooked e member).ended
  · rw [none fun e member => (unbooked e member).acceptsComplete]
    exact none fun e member => (unbooked e member).completed
  · rw [none fun e member => (unbooked e member).acceptsError]
    exact none fun e member => (unbooked e member).failed

end Entries

/-- Whether a `subscribe` arrives and its id is registered at once. -/
def Event.isEnrolledBy : Event → Event → Bool
  | .arrived (some (.ok frame)), .registered id _ =>
    match frame.message? with
    | some (.subscribe wanted _) => wanted == id
    | _ => false
  | _, _ => false

theorem Event.isEnrolledBy_eq_false {e next : Event} (h : isRegistered next = false) :
    e.isEnrolledBy next = false := by
  unfold isEnrolledBy
  split
  · cases h
  · rfl

def acceptedSubscribes : List Event → Nat
  | first :: second :: rest =>
    (first.isEnrolledBy second).toNat + acceptedSubscribes (second :: rest)
  | _ => 0

/-- Every operation that some events enter has its `subscribe` directly before it. -/
structure Answers (events : List Event) : Prop where
  counted : acceptedSubscribes events = operationsStarted events
  headed : ∀ e ∈ events.head?, isRegistered e = false

namespace Answers

variable {first second events : List Event}

theorem acceptedSubscribes_append (headed : ∀ e ∈ second.head?, isRegistered e = false) :
    acceptedSubscribes (first ++ second) =
      acceptedSubscribes first + acceptedSubscribes second := by
  induction first with
  | nil => simp [acceptedSubscribes]
  | cons e rest ih =>
    cases rest with
    | cons next rest =>
      simp only [List.cons_append, acceptedSubscribes] at ih ⊢
      omega
    | nil =>
      cases second with
      | nil => rfl
      | cons next rest =>
        -- The second part does not begin with a registration, so that nothing is answered here.
        have apart : e.isEnrolledBy next = false := Event.isEnrolledBy_eq_false (headed next rfl)
        simp [acceptedSubscribes, apart]

theorem append (h : Answers first) (t : Answers second) : Answers (first ++ second) where
  counted := by
    rw [acceptedSubscribes_append t.headed, operationsStarted_append, h.counted, t.counted]
  headed e member := by
    cases first with
    | nil => exact t.headed e member
    | cons => exact h.headed e member

theorem of_unregistered (unregistered : ∀ e ∈ events, isRegistered e = false) :
    Answers events := by
  induction events with
  | nil => exact ⟨rfl, by simp⟩
  | cons e rest ih =>
    have own := unregistered e List.mem_cons_self
    have alone : Answers [e] :=
      ⟨by simp [acceptedSubscribes, operationsStarted, own], by simpa using own⟩
    exact alone.append (ih fun other member => unregistered other (List.mem_cons_of_mem e member))

theorem of_common (common : ∀ e ∈ events, e.Common) : Answers events := by
  refine of_unregistered fun e member => ?_
  have unregistered := (common e member).2
  cases e with
  | registered => cases unregistered
  | _ => rfl

end Answers

namespace Producer

variable {p : Producer} {engine : Engine} {now : Nat} {registry : Registry} {queue : OutboundQueue}
  {taken : ProducerTurn} {message : Message} {how : OperationFate} {rest : Results}
  {events : List Event}

theorem entries_finish (settled : Entries (events ++ [.operationEnded p.seq p.id how]) 0 1) :
    Entries (p.finish rest how registry queue events).events 0 1 := by
  have dropped : Entries (if rest.isUnfinished then [.abandoned p.id] else []) 0 0 := by
    refine .of_unbooked fun e member => ?_
    split at member
    · cases List.mem_singleton.mp member
      exact ⟨rfl, rfl, rfl, rfl, rfl, rfl⟩
    · cases member
  exact settled.append dropped

theorem Terminal.entries (terminal : p.Terminal engine now message how rest) :
    Entries [.accepted (.operation p.seq) message, .operationEnded p.seq p.id how] 0 1 := by
  cases terminal <;> exact ⟨rfl, rfl, rfl, rfl⟩

theorem entries_refused {why : Refusal} {after : OutboundQueue}
    (refused : queue.enqueue (.operation p.seq) message = (after, some why, events)) :
    Entries (events ++ [.operationEnded p.seq p.id .refused]) 0 1 := by
  have unbooked : Entries events 0 0 := .of_unbooked fun e member => by
    rcases (OutboundQueue.mem_of_refused refused).2 e member with rfl | rfl <;>
      exact ⟨rfl, rfl, rfl, rfl, rfl, rfl⟩
  exact unbooked.append ⟨rfl, rfl, rfl, rfl⟩

/-- A producer is written off when it ends, and then only. -/
theorem Turns.entries (turned : p.Turns engine now registry queue taken) :
    ∃ writtenOff, Entries taken.events 0 writtenOff ∧
      taken.state.remaining.length + writtenOff = 1 := by
  cases turned with
  | starts | calls | progresses | relays => exact ⟨0, ⟨rfl, rfl, rfl, rfl⟩, rfl⟩
  | stops => exact ⟨1, entries_finish ⟨rfl, rfl, rfl, rfl⟩, rfl⟩
  | isRefused started live polled refused =>
    exact ⟨1, entries_finish (entries_refused refused), rfl⟩
  | terminates started live terminal => exact ⟨1, entries_finish terminal.entries, rfl⟩
  | terminalRefused started live terminal refused =>
    exact ⟨1, entries_finish (entries_refused refused), rfl⟩

end Producer

namespace Session

variable {past events : List Event} {s after : Session}

/-- The connection itself sends no operation's last message. -/
theorem Takes.going {item : InboundItem} (taken : s.Takes item events after) {message : Message}
    (sent : .accepted .connection message ∈ events) : message.isTerminal = false := by
  cases taken with
  | greets =>
    have acknowledged := (List.mem_cons.mp sent).resolve_left (by simp)
    obtain rfl : message = .connectionAck none := by
      simpa using OutboundQueue.mem_enqueue acknowledged
    rfl
  | @replies frame payload =>
    obtain rfl : message = .pong payload := by simpa using OutboundQueue.mem_enqueue sent
    rfl
  | parts | breaks | rejects | objects | enrols | cancels | ignores => simp at sent

theorem Does.going (does : s.Does events after) {message : Message}
    (sent : .accepted .connection message ∈ events) : message.isTerminal = false := by
  cases does with
  | writes present turned =>
    obtain ⟨frame, made⟩ := turned.delivered _ sent
    cases made
  | produces found turned => cases turned.causes _ sent
  | hears running room next taken =>
    exact taken.going ((List.mem_cons.mp sent).resolve_left (by simp))
  | ticks =>
    obtain rfl : message = .ping none := by simpa using OutboundQueue.mem_enqueue sent
    rfl
  | overflows | hearsEnd | timesOut | goesAway | finishes | givesUp | isStirred => simp at sent

structure Posts (s : Session) (events : List Event) (after : Session) (entered writtenOff : Nat) :
    Prop where
  entries : Entries events entered writtenOff
  lastSeq : after.registry.lastSeq = s.registry.lastSeq + entered
  running : after.producers.length + writtenOff = s.producers.length + entered

theorem Does.entries_of_common (does : s.Does events after) (common : ∀ e ∈ events, e.Common) :
    Entries events 0 0 :=
  .of_unbooked fun e member => (common e member).unbooked fun _ same => does.going (same ▸ member)

theorem length_replace {producers : List Producer} {p : Producer} {state : ProducerState}
    (distinct : (producers.map Producer.seq).Nodup) (member : p ∈ producers) :
    (Relay.replace producers p.seq state).length + 1 =
      producers.length + state.remaining.length := by
  obtain ⟨before, after, rfl, replaced⟩ := exists_replace_eq distinct member
  rw [replaced]
  simp only [List.length_append, List.length_cons]
  omega

theorem exists_posts (enrolled : Enrolled past s) (orderly : s.Orderly)
    (does : s.Does events after) :
    ∃ entered writtenOff, s.Posts events after entered writtenOff := by
  cases books_of_does orderly does with
  | keeps registry producers harmless =>
    have entries := does.entries_of_common fun e member => (harmless e member).1
    exact ⟨0, 0, entries, by rw [registry]; rfl, by rw [producers]⟩
  | leaves registry producers =>
    exact ⟨0, 0, does.entries_of_common (by simp), by rw [registry]; rfl, by rw [producers]⟩
  | shuts registry producers common =>
    refine ⟨0, 0, does.entries_of_common common, ?_, by rw [producers]⟩
    rw [registry, Registry.lastSeq_close]
    rfl
  | frees decoded registry producers =>
    refine ⟨0, 0, does.entries_of_common (by simp), ?_, by rw [producers]⟩
    rw [registry, Relay.lastSeq_cancelId]
    rfl
  | enrols decoded known free producers =>
    obtain ⟨-, -, number, registry⟩ := Registry.register_eq_ok free
    refine ⟨1, 0, ⟨rfl, rfl, rfl, rfl⟩, by rw [registry]; exact number, ?_⟩
    rw [producers, List.length_append]
    rfl
  | @produces p taken _ found turned registry producers =>
    obtain ⟨writtenOff, entries, left⟩ := turned.entries
    have member := List.mem_of_find?_eq_some found
    have replaced : (Relay.replace s.producers p.seq taken.state).length + 1 =
        s.producers.length + taken.state.remaining.length :=
      length_replace enrolled.distinct member
    refine ⟨0, writtenOff, entries, by rw [registry, turned.lastSeq_eq]; rfl, ?_⟩
    rw [producers]
    omega

theorem Does.answers (orderly : s.Orderly) (does : s.Does events after) : Answers events := by
  cases books_of_does orderly does with
  | keeps registry producers harmless => exact .of_common fun e member => (harmless e member).1
  | leaves | frees => exact .of_common (by simp)
  | shuts registry producers common => exact .of_common common
  | enrols decoded =>
    refine ⟨?_, by simp [isRegistered]⟩
    simp [acceptedSubscribes, Event.isEnrolledBy, decoded, operationsStarted, isRegistered]
  | produces found turned =>
    refine .of_unregistered fun e member => ?_
    cases turned.causes e member <;> rfl

/-- What is entered and not written off is what runs. -/
def Balanced (past : List Event) (s : Session) : Prop :=
  ∃ writtenOff, Entries past s.registry.lastSeq writtenOff ∧
    s.registry.lastSeq = writtenOff + s.producers.length

theorem Balanced.step (balanced : Balanced past s) {entered writtenOff : Nat}
    (posts : s.Posts events after entered writtenOff) : Balanced (past ++ events) after := by
  obtain ⟨before, entries, conserved⟩ := balanced
  have lastSeq := posts.lastSeq
  have running := posts.running
  refine ⟨before + writtenOff, ?_, by omega⟩
  rw [lastSeq]
  exact entries.append posts.entries

theorem balanced_of_reaches {config : SessionConfig} {connectionId : String} {engine : Engine}
    {interceptors : InterceptorChain} {half : WriteHalf} {now : Nat} {shutdown : Bool}
    (run : Reaches (.new config connectionId engine interceptors half now shutdown) past s) :
    Balanced past s := by
  have orderly := orderly_new config connectionId engine interceptors half now shutdown
  have start : Balanced [] (new config connectionId engine interceptors half now shutdown) :=
    ⟨0, ⟨rfl, rfl, rfl, rfl⟩, rfl⟩
  have both := run.history (P := fun past s => Enrolled past s ∧ Balanced past s)
    (fun orderly ⟨enrolled, balanced⟩ does => by
      obtain ⟨entered, writtenOff, posts⟩ := exists_posts enrolled orderly does
      exact ⟨enrolled.step (books_of_does orderly does), balanced.step posts⟩)
    orderly ⟨enrolled_new .., start⟩
  exact both.2

end Session

end SubscriptionGateway
