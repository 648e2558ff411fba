import SubscriptionGateway.Proofs.Session.Envelope
import SubscriptionGateway.Proofs.Session.Gate
import SubscriptionGateway.Proofs.Session.HeldIds
import SubscriptionGateway.Proofs.Session.OwnRegistry
import SubscriptionGateway.Proofs.Session.Refusals

/-! What becomes of a connection for each frame of data that it takes: before the handshake by the
type that the frame names, after it by the message that the frame is decoded to. -/
namespace SubscriptionGateway.Session

variable {past events : List Event} {s : Session} {frame : InboundFrame} {id : String}

/-- What a turn leads to is that the server closes with the code. -/
def ClosesWith (s : Session) (code : Nat) (outcome : Session × List Event) : Prop :=
  ∃ reason : CloseReason, reason.code = code ∧ outcome = s.close reason

structure Initializes (s : Session) (payload : Option Members) (outcome : Session × List Event) :
    Prop where
  phase : outcome.1.phase = .initialized
  context : outcome.1.context = some (s.decorated payload)
  events : outcome.2 =
    [.initialized (s.decorated payload), .accepted .connection (.connectionAck none)]
  rest : outcome.1 = { s with
    phase := outcome.1.phase, context := outcome.1.context, queue := outcome.1.queue }

structure Starts (s : Session) (id : String) (payload : SubscribePayload)
    (outcome : Session × List Event) : Prop where
  events : outcome.2 = [.registered id (s.registry.lastSeq + 1)]
  live : outcome.1.registry.seq? id = some (s.registry.lastSeq + 1)
  uncancelled : outcome.1.registry.isCancelled (s.registry.lastSeq + 1) = false
  others : ∀ other, other ≠ id → outcome.1.registry.seq? other = s.registry.seq? other
  tokens : ∀ seq, outcome.1.registry.isCancelled seq = s.registry.isCancelled seq
  producers : ∃ context, s.context = some context ∧ outcome.1.producers = s.producers ++
    [.new id (s.registry.lastSeq + 1) (.ofSubscribe id payload) context]
  rest : outcome.1 = { s with
    registry := outcome.1.registry, producers := outcome.1.producers }

/-- The entry of the id is taken out, and its registration and no other is cancelled. -/
structure Completes (s : Session) (id : String) (outcome : Session × List Event) : Prop where
  events : outcome.2 = []
  gone : outcome.1.registry.seq? id = none
  cancelled : ∀ seq, outcome.1.registry.isCancelled seq = true ↔
    s.registry.isCancelled seq = true ∨ s.registry.seq? id = some seq
  others : ∀ other, other ≠ id → outcome.1.registry.seq? other = s.registry.seq? other
  spared : ∀ other seq, other ≠ id → s.registry.seq? other = some seq →
    outcome.1.registry.isCancelled seq = false
  unknown : s.registry.seq? id = none → outcome.1 = s
  rest : outcome.1 = { s with registry := outcome.1.registry }

/-- What a frame leads to before the handshake, by what it shows of itself. -/
structure DecidesBefore (s : Session) (frame : InboundFrame) (outcome : Session × List Event) :
    Prop where
  nameless : (∀ envelope type, ¬ frame.Names envelope type) → s.ClosesWith 4400 outcome
  absent : ∀ envelope, frame.Names envelope .connectionInit →
    envelope.get? "payload" = none ∨ envelope.get? "payload" = some .null →
      s.Initializes none outcome
  object : ∀ envelope members, frame.Names envelope .connectionInit →
    envelope.get? "payload" = some (.object members) → s.Initializes (some members) outcome
  other : ∀ envelope value, frame.Names envelope .connectionInit →
    envelope.get? "payload" = some value → value ≠ .null → (∀ members, value ≠ .object members) →
      s.ClosesWith 4400 outcome
  unauthorized : ∀ envelope type, frame.Names envelope type → type ≠ .connectionInit →
    s.ClosesWith 4401 outcome

/-- What a frame leads to after the handshake, by the message in it. A `subscribe` that finds the
registry closed is not taken up. -/
structure DecidesBehind (s : Session) (frame : InboundFrame) (outcome : Session × List Event) :
    Prop where
  unreadable : frame.message? = none → s.ClosesWith 4400 outcome
  again : ∀ payload, frame.message? = some (.connectionInit payload) → s.ClosesWith 4429 outcome
  foreign : ∀ message, frame.message? = some message →
    (s.ClosesWith 4400 outcome ↔ message.type.isFromClient = false)
  taken : ∀ id payload, frame.message? = some (.subscribe id payload) →
    (outcome = s.close (.subscriberExists id) ↔ ∃ seq, s.registry.seq? id = some seq)
  free : ∀ id payload, frame.message? = some (.subscribe id payload) →
    s.registry.seq? id = none → s.registry.closed = false → s.Starts id payload outcome
  late : ∀ id payload, frame.message? = some (.subscribe id payload) →
    s.registry.closed = true → outcome = (s, [])
  complete : ∀ id, frame.message? = some (.complete id) → s.Completes id outcome
  ping : ∀ payload, frame.message? = some (.ping payload) → ∃ offered,
    s.queue.Offers .connection (.pong payload) offered ∧
      outcome = ({ s with queue := offered.1 }, offered.2.2)
  pong : ∀ payload, frame.message? = some (.pong payload) → outcome = (s, [])

/-- Only the codes of the reasons that are no id's matter for a close with one of them. -/
theorem closesWith_invalid {outcome : Session × List Event} :
    s.ClosesWith 4400 outcome ↔ outcome = s.close .invalidMessage := by
  constructor
  · rintro ⟨reason, code, made⟩
    cases reason <;> first | exact made | cases code
  · intro made
    exact ⟨.invalidMessage, rfl, made⟩

theorem takeItem_of_decoded {decoded : Except DecodeError Message}
    (h : frame.decoded? = some decoded) : s.takeItem (.ok frame) = s.takeDecoded decoded := by
  cases frame with
  | text | binary => cases h; rfl
  | close => cases h

theorem takeItem_of_message {message : Message} (h : frame.message? = some message) :
    s.takeItem (.ok frame) = s.takeMessage message := by
  rw [takeItem_of_decoded (InboundFrame.message?_eq_some.mp h)]
  rfl

theorem initializes (unused : s.Unused) (payload : Option Members) :
    s.Initializes payload (s.handshake payload) where
  phase := rfl
  context := rfl
  events := by
    have accepted := unused.accepts (.connectionAck none)
    simpa [handshake, send_eq, decorated] using accepted
  rest := rfl

theorem rejection_of_type? {error : DecodeError} {type : MessageType}
    (known : error.type? = some type) :
    rejection .uninitialized error =
      if type = .connectionInit then .invalidMessage else .unauthorized := by
  simp [rejection, known]

theorem rejection_of_untyped {error : DecodeError} (untyped : error.type? = none) (phase : Phase) :
    rejection phase error = .invalidMessage := by
  cases phase <;> simp [rejection, untyped]

theorem takeMessage_of_uninitialized {message : Message} (fresh : s.phase = .uninitialized)
    (other : message.type ≠ .connectionInit) : s.takeMessage message = s.close .unauthorized := by
  cases message with
  | connectionInit payload => exact absurd rfl other
  | _ => simp only [takeMessage, fresh]

theorem decidesBefore (fresh : s.phase = .uninitialized) (unused : s.Unused)
    (data : frame ≠ .close) : s.DecidesBefore frame (s.takeItem (.ok frame)) := by
  have rejected : ∀ {error}, frame.decoded? = some (.error error) →
      s.takeItem (.ok frame) = s.close (rejection .uninitialized error) := by
    intro error unread
    rw [takeItem_of_decoded unread, takeDecoded, fresh]
  have greeted : ∀ {payload}, frame.decoded? = some (.ok (.connectionInit payload)) →
      s.Initializes payload (s.takeItem (.ok frame)) := by
    intro payload read
    have shaken : s.takeMessage (.connectionInit payload) = s.handshake payload := by
      simp only [takeMessage, fresh]
    rw [takeItem_of_decoded read, takeDecoded, shaken]
    exact initializes unused payload
  refine ⟨?_, ?_, ?_, ?_, ?_⟩
  · intro nameless
    obtain ⟨error, unread, untyped⟩ := InboundFrame.decoded?_of_nameless data nameless
    exact ⟨.invalidMessage, rfl, by rw [rejected unread, rejection_of_untyped untyped]⟩
  · intro envelope named absent
    refine greeted ((InboundFrame.decoded?_of_names named).trans ?_)
    rw [Message.ofEnvelope, Message.decodeObject_of_absent absent]
    rfl
  · intro envelope members named found
    refine greeted ((InboundFrame.decoded?_of_names named).trans ?_)
    rw [Message.ofEnvelope, Message.decodeObject_of_object found]
    rfl
  · intro envelope value named found given other
    have unread := InboundFrame.decoded?_of_names named
    rw [Message.ofEnvelope, Message.decodeObject_of_other found given other] at unread
    exact ⟨.invalidMessage, rfl, by rw [rejected unread]; rfl⟩
  · -- Whether the rest of the frame can be read makes no difference here.
    intro envelope type named other
    have read := InboundFrame.decoded?_of_names named
    refine ⟨.unauthorized, rfl, ?_⟩
    cases known : Message.ofEnvelope type envelope with
    | error error =>
      rw [known] at read
      rw [rejected read, rejection_of_type? (Message.type?_of_ofEnvelope known), if_neg other]
    | ok message =>
      rw [known] at read
      rw [takeItem_of_decoded read]
      exact takeMessage_of_uninitialized fresh (Message.type_ofEnvelope known ▸ other)

theorem takeMessage_subscribe (ready : s.phase = .initialized) (payload : SubscribePayload) :
    s.takeMessage (.subscribe id payload) = s.subscribe id payload := by
  simp only [takeMessage, ready]

/-- A `subscribe` is turned away for its id exactly if the id is registered. -/
theorem subscribe_taken_iff (orderly : s.Orderly) (ready : s.phase = .initialized)
    (payload : SubscribePayload) :
    s.subscribe id payload = s.close (.subscriberExists id) ↔
      ∃ seq, s.registry.seq? id = some seq := by
  constructor
  · intro closes
    have events : (s.subscribe id payload).2 = [.closing (.subscriberExists id)] := by
      rw [closes]
      rfl
    rw [← takeMessage_subscribe ready] at events
    obtain ⟨seq, member⟩ := (closes_subscriberExists_iff orderly ready payload).mp events
    exact ⟨seq, (Registry.mem_entries_iff orderly.sound).mp member⟩
  · rintro ⟨seq, live⟩
    have opened : s.registry.closed = false := by
      refine Bool.eq_false_iff.mpr fun closed => ?_
      simp [Registry.entries_nil_iff.mp (orderly.sound.emptied closed)] at live
    have held : s.registry.contains id = true := Registry.contains_iff.mpr ⟨seq, live⟩
    simp [subscribe, Registry.register, opened, held]

theorem Tenured.starts (tenured : Tenured past s) (orderly : s.Orderly)
    (ready : s.phase = .initialized) (unused : s.registry.seq? id = none)
    (opened : s.registry.closed = false) (payload : SubscribePayload) :
    s.Starts id payload (s.subscribe id payload) := by
  obtain ⟨context, greeted⟩ := Option.isSome_iff_exists.mp (orderly.greeted ready)
  cases registered : s.registry.register id with
  | error cause =>
    cases cause with
    | alreadyExists other =>
      have live := (Registry.register_eq_alreadyExists registered).2.2
      simp [Registry.contains, unused] at live
    | closed => simp [Registry.register_eq_closed registered] at opened
  | ok made =>
    obtain ⟨seq, registry⟩ := made
    have live := Registry.seq?_register_self registered
    have others : ∀ other, other ≠ id → registry.seq? other = s.registry.seq? other :=
      fun other ne => Registry.seq?_register_of_ne registered ne
    obtain ⟨-, -, rfl, result⟩ := Registry.register_eq_ok registered
    have tokens : ∀ seq, registry.isCancelled seq = s.registry.isCancelled seq := by
      intro seq; rw [result]; rfl
    have outcome : s.subscribe id payload =
        ({ s with toRelay := { s.toRelay with registry }.startProducer (s.registry.lastSeq + 1)
                    (.ofSubscribe id payload) context },
          [.registered id (s.registry.lastSeq + 1)]) := by
      simp only [subscribe, registered, greeted]
    rw [outcome]
    refine ⟨rfl, live, ?_, others, tokens, ⟨context, greeted, rfl⟩, rfl⟩
    -- A number that was never given out cannot have been cancelled.
    refine Bool.eq_false_iff.mpr fun cancelled => ?_
    have bound := tenured.numbered _ (tokens _ ▸ cancelled)
    omega

theorem Tenured.completes (tenured : Tenured past s) (enrolled : Enrolled past s) (id : String) :
    s.Completes id ({ s with toRelay := s.toRelay.cancelId id }, []) where
  events := rfl
  gone := Option.eq_none_iff_forall_ne_some.mpr fun _ live => (Relay.seq?_cancelId.mp live).1 rfl
  cancelled _ := Relay.isCancelled_cancelId
  others other ne := by
    refine Option.ext fun seq => ?_
    have kept : (s.toRelay.cancelId id).registry.seq? other = some seq ↔
        other ≠ id ∧ s.registry.seq? other = some seq := Relay.seq?_cancelId
    simpa [ne] using kept
  spared other seq ne live := by
    refine Bool.eq_false_iff.mpr fun cancelled => ?_
    rcases Relay.isCancelled_cancelId.mp cancelled with before | mine
    · simp [tenured.uncancelled other seq live] at before
    · have first := tenured.enlisted other seq live
      have second := tenured.enlisted id seq mine
      exact ne (enrolled.unique first second)
  unknown free := by simp [Relay.cancelId, Registry.remove, free]
  rest := by
    unfold Relay.cancelId
    split <;> rfl

theorem invalid_notMem_subscribe (payload : SubscribePayload) :
    .closing .invalidMessage ∉ (s.subscribe id payload).2 := by
  unfold subscribe
  split
  · simp [close]
  · simp
  · dsimp only
    split <;> simp [close]

/-- Of the messages that can be read, those that are not for the client to send are invalid. -/
theorem takeMessage_invalid_iff (ready : s.phase = .initialized) (message : Message) :
    s.takeMessage message = s.close .invalidMessage ↔ message.type.isFromClient = false := by
  constructor
  · intro closes
    have closing : .closing .invalidMessage ∈ (s.takeMessage message).2 := by
      rw [closes]
      exact List.mem_singleton_self _
    cases message with
    | connectionAck | next | error => rfl
    | subscribe id payload =>
      rw [takeMessage_subscribe ready] at closing
      exact absurd closing (invalid_notMem_subscribe payload)
    | ping payload =>
      simp only [takeMessage, ready] at closing
      have harmless := harmless_enqueue s.queue (.pong payload) _ closing
      exact absurd (Event.closes_closing _) (not_closes_of_harmless harmless)
    | connectionInit | complete | pong => simp [takeMessage, ready, close] at closing
  · intro foreign
    cases message with
    | connectionAck | next | error => simp only [takeMessage, ready]
    | connectionInit | ping | pong | subscribe | complete => cases foreign

theorem decidesBehind (orderly : s.Orderly) (enrolled : Enrolled past s)
    (tenured : Tenured past s) (ready : s.phase = .initialized) (data : frame ≠ .close) :
    s.DecidesBehind frame (s.takeItem (.ok frame)) := by
  have turned : ∀ {message}, frame.message? = some message →
      s.takeItem (.ok frame) = s.takeMessage message := takeItem_of_message
  constructor
  case unreadable =>
    intro unread
    obtain ⟨error, failed⟩ := InboundFrame.decoded?_of_unreadable data unread
    refine ⟨.invalidMessage, rfl, ?_⟩
    rw [takeItem_of_decoded failed, takeDecoded, ready]
    cases error <;> rfl
  case again =>
    intro payload decoded
    refine ⟨.tooManyInitRequests, rfl, ?_⟩
    rw [turned decoded]
    simp only [takeMessage, ready]
  case foreign =>
    intro message decoded
    rw [closesWith_invalid, turned decoded]
    exact takeMessage_invalid_iff ready message
  case taken =>
    intro id payload decoded
    rw [turned decoded, takeMessage_subscribe ready]
    exact subscribe_taken_iff orderly ready payload
  case free =>
    intro id payload decoded unused opened
    rw [turned decoded, takeMessage_subscribe ready]
    exact tenured.starts orderly ready unused opened payload
  case late =>
    intro id payload decoded closed
    rw [turned decoded, takeMessage_subscribe ready]
    simp [subscribe, Registry.register, closed]
  case complete =>
    intro id decoded
    have cancels : s.takeMessage (.complete id) =
        ({ s with toRelay := s.toRelay.cancelId id }, []) := by
      simp only [takeMessage, ready]
    rw [turned decoded, cancels]
    exact tenured.completes enrolled id
  case ping =>
    intro payload decoded
    refine ⟨_, s.queue.offers_enqueue .connection (.pong payload), ?_⟩
    rw [turned decoded]
    simp only [takeMessage, ready, send_eq]
  case pong =>
    intro payload decoded
    rw [turned decoded]
    simp only [takeMessage, ready]

/-- What has arrived besides the frame makes no difference. -/
theorem Known.decidesBehind (known : Known past s) (ready : s.phase = .initialized)
    (data : frame ≠ .close) (rest : Inbound) :
    let heard : Session := { s with inbound := rest }
    heard.DecidesBehind frame (heard.takeItem (.ok frame)) := by
  intro heard
  obtain ⟨orderly, enrolled, -, tenured, -, -⟩ := known
  obtain ⟨distinct, named, rising, numbered, caused, follows, settled⟩ := enrolled
  obtain ⟨enlisted, tokens, uncancelled, running, held, cut⟩ := tenured
  have enrolled : Enrolled past heard :=
    ⟨distinct, named, rising, numbered, caused, follows, settled⟩
  have tenured : Tenured past heard := ⟨enlisted, tokens, uncancelled, running, held, cut⟩
  have orderly : heard.Orderly := orderly.of_registry rfl rfl rfl id orderly.sound
  exact Session.decidesBehind orderly enrolled tenured ready data

/-- At every point of every run at which the connection is open, for every frame of data and
whatever else has arrived: a frame that is next is what the connection takes, unless its queue has
overflowed; before the handshake the outcome depends on the type that the frame names and, for a
`connection_init`, on its payload; behind it on the message that the frame is decoded to and on the
ids that are registered. Unless somebody else has closed the registry, each `subscribe` for an id
that is not registered starts an operation. -/
theorem decision_of_frame {config : SessionConfig} {connectionId : String} {engine : Engine}
    {interceptors : InterceptorChain} {half : WriteHalf} {now : Nat} {shutdown : Bool}
    (run : Reaches (.new config connectionId engine interceptors half now shutdown) events s)
    (opened : s.phase ≠ .closed) (data : frame ≠ .close) (rest : Inbound) :
    let heard : Session := { s with inbound := rest }
    let outcome := heard.takeItem (.ok frame)
    (s.queue.overflowed = false → s.inbound.next = .item (.ok frame) rest →
      s.turn .connection = some (withArrival (some (.ok frame)) outcome)) ∧
    (s.phase = .uninitialized → heard.DecidesBefore frame outcome) ∧
    (s.phase = .initialized → heard.DecidesBehind frame outcome) ∧
    (Undisturbed (.new config connectionId engine interceptors half now shutdown) events s →
      s.phase = .initialized → ∀ id payload, frame.message? = some (.subscribe id payload) →
        s.registry.seq? id = none → heard.Starts id payload outcome) := by
  intro heard outcome
  have known := known_of_reaches run
  refine ⟨?_, ?_, ?_, ?_⟩
  · exact connectionTurn_of_next (known.orderly.running.mpr opened)
  · intro fresh
    have gate := (gated_of_reaches run).1
    have ungreeted := gate.resolve_right fun greeted => greeted.1 fresh
    obtain ⟨isOpen, room, messages, hasProducers, writer⟩ := ungreeted.unused fresh
    have unused : heard.Unused := ⟨isOpen, room, messages, hasProducers, writer⟩
    exact decidesBefore fresh unused data
  · intro ready
    exact known.decidesBehind ready data rest
  · intro undisturbed ready id payload decoded unused
    have isOpen : s.registry.closed = false := undisturbed.opens opened
    exact (known.decidesBehind ready data rest).free id payload decoded unused isOpen

/-- The theorem at an id that is taken by an operation that has not begun to run. -/
theorem decision_of_taken_id : ∃ events s, Reaches (single 256 .direct) events s ∧
    s.phase = .initialized ∧ s.registry.seq? "1" = some 1 ∧
      let heard : Session := { s with inbound := .empty }
      heard.takeItem (.ok (.text (subscribing "1").encode)) =
        heard.close (.subscriberExists "1") := by
  obtain ⟨events, s, run, seen⟩ := exists_reaches_of_play (single 256 .direct)
    (hearing (.connectionInit none) ++ hearing (subscribing "1"))
    (fun _ s => decide (s.phase = .initialized) && decide (s.registry.seq? "1" = some 1))
    (by decide +kernel)
  simp only [Bool.and_eq_true, decide_eq_true_eq] at seen
  obtain ⟨ready, live⟩ := seen
  let frame : InboundFrame := .text (subscribing "1").encode
  have decoded : frame.message? = some (subscribing "1") := by decide +kernel
  have opened : s.phase ≠ .closed := by simp [ready]
  have data : frame ≠ .close := by simp [frame]
  obtain ⟨-, -, behind, -⟩ := decision_of_frame run opened data .empty
  exact ⟨events, s, run, ready, live, ((behind ready).taken "1" _ decoded).mpr ⟨1, live⟩⟩

end SubscriptionGateway.Session
