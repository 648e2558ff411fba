import SubscriptionGateway.Proofs.Operation.Turns
import SubscriptionGateway.Proofs.Outbound.Writer
import SubscriptionGateway.Session.Session

/-! All that a step of a connection can do, one case for each kind of step. The invariants of a
connection are proved by these cases and do not open the functions again. -/
namespace SubscriptionGateway

namespace InboundFrame

/-- What a frame is decoded to; the peer's close frame carries no message. -/
def decoded? : InboundFrame → Option (Except DecodeError Message)
  | .text content => some (Message.decode content)
  | .binary content => some (Message.decodeBinary content)
  | .close => none

def message? (frame : InboundFrame) : Option Message :=
  frame.decoded?.bind Except.toOption

theorem message?_eq_some {frame : InboundFrame} {message : Message} :
    frame.message? = some message ↔ frame.decoded? = some (.ok message) := by
  unfold message?
  rcases frame.decoded? with _ | (_ | _) <;> simp [Except.toOption]

end InboundFrame

namespace Relay

@[simp] theorem registry_abortWriter (r : Relay) : r.abortWriter.registry = r.registry := by
  unfold abortWriter
  split <;> rfl

@[simp] theorem producers_abortWriter (r : Relay) : r.abortWriter.producers = r.producers := by
  unfold abortWriter
  split <;> rfl

@[simp] theorem producers_cancelId (r : Relay) (id : String) :
    (r.cancelId id).producers = r.producers := by
  unfold cancelId
  split <;> rfl

@[simp] theorem queue_cancelId (r : Relay) (id : String) : (r.cancelId id).queue = r.queue := by
  unfold cancelId
  split <;> rfl

@[simp] theorem writer_cancelId (r : Relay) (id : String) : (r.cancelId id).writer = r.writer := by
  unfold cancelId
  split <;> rfl

theorem registry_cancelId (r : Relay) (id : String) :
    (r.registry.seq? id = none ∧ (r.cancelId id).registry = r.registry) ∨
      ∃ seq, r.registry.seq? id = some seq ∧
        (r.cancelId id).registry = (r.registry.drop id).cancel seq := by
  unfold cancelId Registry.remove
  cases live : r.registry.seq? id with
  | none => exact .inl ⟨rfl, rfl⟩
  | some seq => exact .inr ⟨seq, rfl, rfl⟩

theorem seq?_cancelId {r : Relay} {id other : String} {seq : Nat} :
    (r.cancelId id).registry.seq? other = some seq ↔
      other ≠ id ∧ r.registry.seq? other = some seq := by
  rcases r.registry_cancelId id with ⟨free, same⟩ | ⟨number, -, freed⟩
  · rw [same]
    refine ⟨fun live => ⟨?_, live⟩, And.right⟩
    rintro rfl
    simp [free] at live
  · rw [freed, Registry.seq?_cancel, Registry.seq?_drop_eq_some]

theorem isCancelled_cancelId {r : Relay} {id : String} {seq : Nat} :
    (r.cancelId id).registry.isCancelled seq = true ↔
      r.registry.isCancelled seq = true ∨ r.registry.seq? id = some seq := by
  rcases r.registry_cancelId id with ⟨free, same⟩ | ⟨number, live, freed⟩
  · simp [same, free]
  · simp only [freed, live, Registry.isCancelled_cancel, Registry.isCancelled_drop, Bool.or_eq_true,
      beq_iff_eq, Option.some.injEq]
    rw [or_comm, @eq_comm _ seq number]

@[simp] theorem lastSeq_cancelId (r : Relay) (id : String) :
    (r.cancelId id).registry.lastSeq = r.registry.lastSeq := by
  rcases r.registry_cancelId id with ⟨-, same⟩ | ⟨number, -, freed⟩
  · rw [same]
  · simp [freed]

@[simp] theorem closed_cancelId (r : Relay) (id : String) :
    (r.cancelId id).registry.closed = r.registry.closed := by
  rcases r.registry_cancelId id with ⟨-, same⟩ | ⟨number, -, freed⟩
  · rw [same]
  · simp [freed]

theorem turns_of_producerTurn {r relay : Relay} {seq : Nat} {events : List Event}
    (h : r.turn (.producer seq) = some (relay, events)) :
    ∃ p taken, r.producers.find? (fun other => other.seq == p.seq) = some p ∧
      p.Turns r.engine r.now r.registry r.queue taken ∧ events = taken.events ∧
      relay = { r with
        registry := taken.registry, queue := taken.queue
        producers := replace r.producers p.seq taken.state } := by
  simp only [Relay.turn] at h
  split at h
  · cases h
  · next p found =>
    obtain ⟨taken, turned, made⟩ := Option.map_eq_some_iff.mp h
    cases made
    obtain rfl : p.seq = seq := by simpa using List.find?_some found
    exact ⟨p, taken, found, Producer.turns_of_turn turned, rfl, rfl⟩

theorem sound_cancelId {r : Relay} (sound : r.registry.Sound) (id : String) :
    (r.cancelId id).registry.Sound := by
  rcases r.registry_cancelId id with ⟨-, same⟩ | ⟨number, -, freed⟩
  · rwa [same]
  · rw [freed]
    exact (sound.drop id).cancel number

end Relay

namespace Session

theorem send_eq (s : Session) (message : Message) :
    s.send message = ({ s with queue := (s.queue.enqueue .connection message).1 },
      (s.queue.enqueue .connection message).2.2) := rfl

@[simp] theorem registry_endWith (s : Session) (outcome : Outcome) :
    (s.endWith outcome).1.registry = s.registry.close := by
  simp [endWith, finish, windDown, Relay.closeRegistry]

@[simp] theorem producers_endWith (s : Session) (outcome : Outcome) :
    (s.endWith outcome).1.producers = s.producers := by
  simp [endWith, finish, windDown, Relay.closeRegistry]

@[simp] theorem registry_close (s : Session) (reason : CloseReason) :
    (s.close reason).1.registry = s.registry.close := rfl

@[simp] theorem producers_close (s : Session) (reason : CloseReason) :
    (s.close reason).1.producers = s.producers := rfl

def objection? (s : Session) (message : Message) : Option CloseReason :=
  match s.phase, message with
  | .uninitialized, .connectionInit _ => none
  | .uninitialized, _ => some .unauthorized
  | .initialized, .connectionInit _ => some .tooManyInitRequests
  | .initialized, .subscribe id _ =>
    if !s.registry.closed && s.registry.contains id then some (.subscriberExists id) else none
  | .initialized, .connectionAck _ | .initialized, .next _ _ | .initialized, .error _ _ =>
    some .invalidMessage
  | _, _ => none

/-- What is kept by every step: the task runs until the phase is closed, a closed phase means a
closed registry, and the context comes with the handshake. -/
structure Orderly (s : Session) : Prop where
  running : s.stage = .running ↔ s.phase ≠ .closed
  tornDown : s.phase = .closed → s.registry.closed = true
  sound : s.registry.Sound
  greeted : s.phase = .initialized → s.context.isSome = true
  ungreeted : s.phase = .uninitialized → s.context = none

inductive Takes (s : Session) : InboundItem → List Event → Session → Prop where
  | parts : Takes s (.ok .close) [.ended .peerClosed] (s.endWith .peerClosed).1
  | breaks (cause : TransportError) :
      Takes s (.error cause) [.ended (.transportFailed cause)]
        (s.endWith (.transportFailed cause)).1
  | rejects {frame : InboundFrame} {error : DecodeError}
      (unreadable : frame.decoded? = some (.error error)) :
      Takes s (.ok frame) [.closing (rejection s.phase error)] (s.close (rejection s.phase error)).1
  | objects {frame : InboundFrame} {message : Message} {reason : CloseReason}
      (decoded : frame.message? = some message) (forbidden : s.objection? message = some reason) :
      Takes s (.ok frame) [.closing reason] (s.close reason).1
  | greets {frame : InboundFrame} {payload : Option Members}
      (decoded : frame.message? = some (.connectionInit payload))
      (fresh : s.phase = .uninitialized) :
      Takes s (.ok frame) (s.handshake payload).2 (s.handshake payload).1
  | enrols {frame : InboundFrame} {id : String} {payload : SubscribePayload} {context : Context}
      {seq : Nat} {registry : Registry}
      (decoded : frame.message? = some (.subscribe id payload)) (ready : s.phase = .initialized)
      (known : s.context = some context) (free : s.registry.register id = .ok (seq, registry)) :
      Takes s (.ok frame) [.registered id seq]
        { s with toRelay := { s.toRelay with registry }.startProducer seq
                   (.ofSubscribe id payload) context }
  | cancels {frame : InboundFrame} {id : String} (decoded : frame.message? = some (.complete id))
      (ready : s.phase = .initialized) :
      Takes s (.ok frame) [] { s with toRelay := s.toRelay.cancelId id }
  | replies {frame : InboundFrame} {payload : Option Members}
      (decoded : frame.message? = some (.ping payload)) (ready : s.phase = .initialized) :
      Takes s (.ok frame) (s.send (.pong payload)).2 (s.send (.pong payload)).1
  /-- A pong, or a `subscribe` while the registry is closed. -/
  | ignores {frame : InboundFrame} {message : Message} (decoded : frame.message? = some message)
      (ready : s.phase = .initialized)
      (harmless : (∃ payload, message = .pong payload) ∨
        ∃ id payload, message = .subscribe id payload ∧ s.registry.closed = true) :
      Takes s (.ok frame) [] s

theorem takes_subscribe {s : Session} (orderly : s.Orderly) (ready : s.phase = .initialized)
    {frame : InboundFrame} {id : String} {payload : SubscribePayload}
    (decoded : frame.message? = some (.subscribe id payload)) :
    s.Takes (.ok frame) (s.subscribe id payload).2 (s.subscribe id payload).1 := by
  unfold subscribe
  split
  · next other taken =>
    obtain ⟨rfl, opened, live⟩ := Registry.register_eq_alreadyExists taken
    exact .objects decoded (by simp [objection?, ready, opened, live])
  · next refused =>
    have closed := Registry.register_eq_closed refused
    exact .ignores decoded ready (.inr ⟨id, payload, rfl, closed⟩)
  · next seq registry free =>
    dsimp only
    split
    · next missing => simpa [missing] using orderly.greeted ready
    · next context known => exact .enrols decoded ready known free

theorem takes_takeMessage {s : Session} (orderly : s.Orderly) (running : s.stage = .running)
    {frame : InboundFrame} {message : Message} (decoded : frame.message? = some message) :
    s.Takes (.ok frame) (s.takeMessage message).2 (s.takeMessage message).1 := by
  cases phase : s.phase with
  | closed => exact absurd phase (orderly.running.mp running)
  | uninitialized =>
    cases message with
    | connectionInit payload =>
      simpa only [takeMessage, phase] using Takes.greets decoded phase
    | _ =>
      simp only [takeMessage, phase]
      exact .objects decoded (by simp only [objection?, phase])
  | initialized =>
    cases message with
    | subscribe id payload =>
      simpa only [takeMessage, phase] using takes_subscribe orderly phase decoded
    | complete id => simpa only [takeMessage, phase] using Takes.cancels decoded phase
    | ping payload => simpa only [takeMessage, phase] using Takes.replies decoded phase
    | pong payload =>
      simpa only [takeMessage, phase] using Takes.ignores decoded phase (.inl ⟨payload, rfl⟩)
    | connectionInit | connectionAck | next | error =>
      simp only [takeMessage, phase]
      exact .objects decoded (by simp only [objection?, phase])

theorem takes_takeItem {s : Session} (orderly : s.Orderly) (running : s.stage = .running)
    (item : InboundItem) : s.Takes item (s.takeItem item).2 (s.takeItem item).1 := by
  cases item with
  | error cause => exact .breaks cause
  | ok frame =>
    cases frame with
    | close => exact .parts
    | text content | binary content =>
      simp only [takeItem, takeDecoded]
      split
      · next message decoded =>
        exact takes_takeMessage orderly running
          (InboundFrame.message?_eq_some.mpr (congrArg some decoded))
      · next error unreadable => exact .rejects (congrArg some unreadable)

inductive Does (s : Session) : List Event → Session → Prop where
  | writes {writer : Writer} {taken : WriterTurn} (present : s.writer = some writer)
      (turned : writer.Turns s.now s.queue taken) :
      Does s taken.events { s with writer := some taken.writer, queue := taken.queue }
  | produces {p : Producer} {taken : ProducerTurn}
      (found : s.producers.find? (fun other => other.seq == p.seq) = some p)
      (turned : p.Turns s.engine s.now s.registry s.queue taken) :
      Does s taken.events
        { s with
          registry := taken.registry, queue := taken.queue
          producers := Relay.replace s.producers p.seq taken.state }
  | overflows (running : s.stage = .running) (full : s.queue.overflowed = true) :
      Does s [.closing .outboundOverflow] (s.close .outboundOverflow).1
  | hears {item : InboundItem} {rest : Inbound} {events : List Event} {after : Session}
      (running : s.stage = .running) (room : s.queue.overflowed = false)
      (next : s.inbound.next = .item item rest)
      (taken : Takes { s with inbound := rest } item events after) :
      Does s (.arrived (some item) :: events) after
  | hearsEnd (running : s.stage = .running) (room : s.queue.overflowed = false)
      (next : s.inbound.next = .ended) :
      Does s [.arrived none, .ended .peerClosed] (s.endWith .peerClosed).1
  | timesOut (running : s.stage = .running) (room : s.queue.overflowed = false)
      (fresh : s.phase = .uninitialized) (late : s.initDeadline ≤ s.now) :
      Does s [.closing .initTimeout] (s.close .initTimeout).1
  | goesAway (running : s.stage = .running) (room : s.queue.overflowed = false)
      (asked : s.shutdown = true) : Does s [.closing .goingAway] (s.close .goingAway).1
  | ticks {period due : Nat} (running : s.stage = .running) (room : s.queue.overflowed = false)
      (ready : s.phase = .initialized) (paced : s.config.keepAlive = some period)
      (awaited : s.nextTick = some due) (late : due ≤ s.now) :
      Does s (({ s with nextTick := some (tickAfter period due s.now) }).send (.ping none)).2
        (({ s with nextTick := some (tickAfter period due s.now) }).send (.ping none)).1
  /-- The task has waited for the writer to stop. -/
  | finishes {reason : CloseReason} {deadline : Nat} (waiting : s.stage = .closing reason deadline)
      (stopped : s.writerStopped = true) :
      Does s [.ended (.serverClosed reason)] (s.finish (.serverClosed reason)).1
  | givesUp {reason : CloseReason} {deadline : Nat} (waiting : s.stage = .closing reason deadline)
      (late : deadline ≤ s.now) :
      Does s [.ended (.serverClosed reason)]
        ({ s with toRelay := s.toRelay.abortWriter }.finish (.serverClosed reason)).1
  | isStirred (cause : Stimulus) : Does s [] (s.stimulate cause)

theorem does_relayTurn {s : Session} {task : RelayTask} {relay : Relay} {events : List Event}
    (h : s.toRelay.turn task = some (relay, events)) :
    s.Does events { s with toRelay := relay } := by
  cases task with
  | writer =>
    simp only [Relay.turn] at h
    split at h
    · cases h
    · next writer present =>
      obtain ⟨taken, turned, made⟩ := Option.map_eq_some_iff.mp h
      cases made
      exact .writes present (Writer.turns_of_turn turned)
  | producer seq =>
    obtain ⟨p, taken, found, turned, rfl, rfl⟩ := Relay.turns_of_producerTurn h
    exact .produces found turned

theorem does_idleTurn {s after : Session} {events : List Event} (running : s.stage = .running)
    (room : s.queue.overflowed = false) (h : s.idleTurn = some (after, events)) :
    s.Does events after := by
  unfold idleTurn at h
  split at h
  · next late => cases h; exact .timesOut running room late.1 late.2
  · split at h
    · next asked => cases h; exact .goesAway running room asked
    · split at h
      · next ready =>
        unfold tick at h
        split at h
        · next paced awaited =>
          split at h
          · next late => cases h; exact .ticks running room ready paced awaited late
          · cases h
        · cases h
      · cases h

theorem does_connectionTurn {s after : Session} {events : List Event} (orderly : s.Orderly)
    (h : s.connectionTurn = some (after, events)) : s.Does events after := by
  unfold connectionTurn at h
  split at h
  · next running =>
    split at h
    · next full => cases h; exact .overflows running full
    · next clear =>
      have room : s.queue.overflowed = false := by simpa using clear
      split at h
      · next item rest next =>
        cases h
        have heard : ({ s with inbound := rest } : Session).Orderly :=
          ⟨orderly.running, orderly.tornDown, orderly.sound, orderly.greeted, orderly.ungreeted⟩
        exact .hears running room next (takes_takeItem heard running item)
      · next next => cases h; exact .hearsEnd running room next
      · exact does_idleTurn running room h
  · next reason deadline waiting =>
    split at h
    · next stopped => cases h; exact .finishes waiting stopped
    · split at h
      · next late => cases h; exact .givesUp waiting late
      · cases h
  · cases h

theorem does_of_turn {s after : Session} {task : SessionTask} {events : List Event}
    (orderly : s.Orderly) (h : s.turn task = some (after, events)) : s.Does events after := by
  cases task with
  | connection => exact does_connectionTurn orderly h
  | relay task =>
    obtain ⟨⟨relay, caused⟩, turned, made⟩ := Option.map_eq_some_iff.mp h
    cases made
    exact does_relayTurn turned

theorem does_of_step {s after : Session} {events : List Event} (orderly : s.Orderly)
    (h : Step s events after) : s.Does events after := by
  cases h with
  | task taken => exact does_of_turn orderly taken
  | stimulus cause => exact .isStirred cause

theorem orderly_new (config : SessionConfig) (connectionId : String) (engine : Engine)
    (interceptors : InterceptorChain) (half : WriteHalf) (now : Nat) (shutdown : Bool) :
    (Session.new config connectionId engine interceptors half now shutdown).Orderly where
  running := by simp [Session.new]
  tornDown := by simp [Session.new]
  sound := ⟨List.nodup_nil, fun _ => rfl⟩
  greeted := by simp [Session.new]
  ungreeted := by simp [Session.new]

theorem Orderly.closed {s : Session} {before : Registry} (finished : s.stage ≠ .running)
    (phase : s.phase = .closed) (registry : s.registry = before.close) : s.Orderly where
  running := by simp [finished, phase]
  tornDown _ := by rw [registry]; rfl
  sound := registry ▸ before.sound_close
  greeted := by simp [phase]
  ungreeted := by simp [phase]

theorem orderly_close (s : Session) (reason : CloseReason) : (s.close reason).1.Orderly :=
  .closed (by simp [close]) rfl rfl

theorem orderly_endWith (s : Session) (outcome : Outcome) : (s.endWith outcome).1.Orderly :=
  .closed (by simp [endWith, finish]) rfl (registry_endWith s outcome)

/-- Only the registry has changed, and it is still sound. -/
theorem Orderly.of_registry {s after : Session} (orderly : s.Orderly)
    (stage : after.stage = s.stage) (phase : after.phase = s.phase)
    (context : after.context = s.context)
    (closed : s.registry.closed = true → after.registry.closed = true)
    (sound : after.registry.Sound) : after.Orderly where
  running := by rw [stage, phase]; exact orderly.running
  tornDown finished := closed (orderly.tornDown (phase ▸ finished))
  sound := sound
  greeted ready := context ▸ orderly.greeted (phase ▸ ready)
  ungreeted fresh := context ▸ orderly.ungreeted (phase ▸ fresh)

theorem Takes.orderly {s after : Session} {item : InboundItem} {events : List Event}
    (taken : s.Takes item events after) (running : s.stage = .running) (orderly : s.Orderly) :
    after.Orderly := by
  cases taken with
  | parts | breaks => exact orderly_endWith s _
  | rejects | objects => exact orderly_close s _
  | greets =>
    exact ⟨by simpa [handshake, send_eq] using running, by simp [handshake, send_eq],
      orderly.sound, by simp [handshake, send_eq], by simp [handshake, send_eq]⟩
  | enrols decoded ready known free =>
    have sound := orderly.sound.register free
    obtain ⟨opened, -, -, rfl⟩ := Registry.register_eq_ok free
    exact orderly.of_registry rfl rfl rfl id sound
  | cancels =>
    exact orderly.of_registry rfl rfl rfl (by simp) (Relay.sound_cancelId orderly.sound _)
  | replies => exact orderly.of_registry rfl rfl rfl id orderly.sound
  | ignores => exact orderly

theorem Orderly.finish {s : Session} (orderly : s.Orderly) (finished : s.stage ≠ .running)
    (outcome : Outcome) : (s.finish outcome).1.Orderly := by
  have closed : s.phase = .closed := by simpa [finished] using orderly.running
  exact ⟨by simp [Session.finish, closed], orderly.tornDown, orderly.sound, orderly.greeted,
    orderly.ungreeted⟩

theorem Orderly.stimulate {s : Session} (orderly : s.Orderly) (cause : Stimulus) :
    (s.stimulate cause).Orderly := by
  cases cause with
  | closeRegistry =>
    exact orderly.of_registry rfl rfl rfl (fun _ => rfl) s.registry.sound_close
  | deliver | disconnect | losePeer | requestShutdown | changeEngine | clock =>
    exact orderly.of_registry rfl rfl rfl id orderly.sound

theorem Does.orderly {s after : Session} {events : List Event} (h : s.Does events after)
    (orderly : s.Orderly) : after.Orderly := by
  cases h with
  | writes | ticks => exact orderly.of_registry rfl rfl rfl id orderly.sound
  | produces found turned =>
    refine orderly.of_registry rfl rfl rfl ?_ ?_ <;> obtain same | freed := turned.registry_eq
    · simp [same]
    · simp [freed]
    · simpa [same] using orderly.sound
    · simpa [freed] using orderly.sound.drop _
  | overflows | timesOut | goesAway => exact orderly_close s _
  | hearsEnd => exact orderly_endWith s _
  | hears running room next taken =>
    exact taken.orderly running (orderly.of_registry rfl rfl rfl id orderly.sound)
  | finishes waiting => exact orderly.finish (by simp [waiting]) _
  | givesUp waiting =>
    have aborted : ({ s with toRelay := s.toRelay.abortWriter } : Session).Orderly :=
      orderly.of_registry rfl rfl rfl (by simp) (by simpa using orderly.sound)
    exact aborted.finish (by simp [waiting]) _
  | isStirred cause => exact orderly.stimulate cause

theorem orderly_of_reaches {s last : Session} {events : List Event} (run : Reaches s events last)
    (orderly : s.Orderly) : last.Orderly :=
  run.invariant (fun holds step => (does_of_step holds step).orderly holds) orderly

end Session

end SubscriptionGateway
