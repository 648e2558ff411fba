import SubscriptionGateway.Proofs.Session.Silence

/-! The handshake. Before it nothing is sent and no engine is called; it happens once at most, with
the acknowledgement as the first message of the connection and the only one of its kind. -/
namespace SubscriptionGateway

namespace Event

def BeforeHandshake : Event → Prop
  | .accepted _ _ | .refused _ _ _ | .called _ _ _ _ | .registered _ _ | .initialized _ => False
  | .arrived (some (.ok frame)) => ∀ payload, frame.message? ≠ some (.connectionInit payload)
  | _ => True

def BehindHandshake : Event → Prop
  | .accepted _ message => ∀ payload, message ≠ .connectionAck payload
  | .initialized _ => False
  | _ => True

end Event

namespace Session

variable {past events : List Event} {s after : Session}

/-- Nothing has ever been queued, and the writer has had nothing to do. -/
structure Unused (s : Session) : Prop where
  isOpen : s.queue.isOpen = true
  room : 0 < s.queue.capacity
  messages : s.queue.messages = []
  hasProducers : s.queue.hasProducers = true
  writer : ∃ w, s.writer = some w ∧ w.activity = .serving ∧ w.closeOrder = none

inductive Handshakes (s : Session) (events : List Event) (after : Session) : Prop where
  | greets {frame : InboundFrame} {payload : Option Members}
      (decoded : frame.message? = some (.connectionInit payload)) (fresh : s.phase = .uninitialized)
      (caused : events = .arrived (some (.ok frame)) ::
        .initialized (s.interceptors.apply (.new s.connectionId payload)) ::
          (s.queue.enqueue .connection (.connectionAck none)).2.2)
      (context : after.context = some (s.interceptors.apply (.new s.connectionId payload)))
      (phase : after.phase = .initialized)
  | goesOn (context : after.context = s.context)
      (phase : after.phase = s.phase ∨ after.phase = .closed)
      (behind : ∀ e ∈ events, e.BehindHandshake)
      (before : s.phase ≠ .initialized → s.producers = [] → ∀ e ∈ events, e.BeforeHandshake)
      (unused : s.Unused → s.producers = [] → after.phase = .uninitialized → after.Unused)

theorem unused_new (config : SessionConfig) (connectionId : String) (engine : Engine)
    (interceptors : InterceptorChain) (half : WriteHalf) (now : Nat) (shutdown : Bool) :
    (Session.new config connectionId engine interceptors half now shutdown).Unused where
  isOpen := rfl
  room := Nat.lt_of_lt_of_le Nat.zero_lt_one (Nat.le_max_right _ _)
  messages := rfl
  hasProducers := rfl
  writer := ⟨_, rfl, rfl, rfl⟩

theorem Unused.no_turn (unused : s.Unused) {writer : Writer} {taken : WriterTurn}
    (present : s.writer = some writer) (turned : writer.Turns s.now s.queue taken) : False := by
  obtain ⟨w, known, serving, unordered⟩ := unused.writer
  obtain rfl : writer = w := Option.some.inj (present.symm.trans known)
  cases turned with
  | heeds _ ordered => simp [unordered] at ordered
  | begins _ taken => simp [OutboundQueue.take?, unused.messages] at taken
  | delivers writing | fails writing => simp [serving] at writing
  | isDeserted _ alone => simp [unused.hasProducers] at alone
  | closes flushing => simp [serving] at flushing

theorem Unused.stimulate (unused : s.Unused) (cause : Stimulus) : (s.stimulate cause).Unused := by
  obtain ⟨isOpen, room, messages, hasProducers, w, known, serving, unordered⟩ := unused
  cases cause with
  | losePeer =>
    exact ⟨isOpen, room, messages, hasProducers,
      { w with half := { w.half with peerGone := true } },
      by simp [Session.stimulate, losePeer, known], serving, unordered⟩
  | _ => exact ⟨isOpen, room, messages, hasProducers, w, known, serving, unordered⟩

theorem Handshakes.shut (context : after.context = s.context)
    (phase : after.phase = .closed) (behind : ∀ e ∈ events, e.BehindHandshake)
    (before : s.phase ≠ .initialized → ∀ e ∈ events, e.BeforeHandshake) :
    s.Handshakes events after :=
  .goesOn context (.inr phase) behind (fun h _ => before h)
    fun _ _ fresh => by simp [phase] at fresh

theorem Handshakes.ready (ready : s.phase = .initialized) (context : after.context = s.context)
    (phase : after.phase = s.phase) (behind : ∀ e ∈ events, e.BehindHandshake) :
    s.Handshakes events after :=
  .goesOn context (.inl phase) behind (fun fresh => absurd ready fresh)
    fun _ _ fresh => by simp [phase, ready] at fresh

theorem behind_enqueue {q : OutboundQueue} {message : Message}
    (other : ∀ payload, message ≠ .connectionAck payload) :
    ∀ e ∈ (q.enqueue .connection message).2.2, e.BehindHandshake := by
  intro e member
  rcases OutboundQueue.mem_enqueue member with rfl | ⟨why, rfl⟩ | rfl
  · exact other
  · trivial
  · trivial

theorem handshakes_of_takes {rest : Inbound} {item : InboundItem} (opened : s.phase ≠ .closed)
    (taken : Takes { s with inbound := rest } item events after) :
    s.Handshakes (.arrived (some item) :: events) after := by
  cases taken with
  | parts =>
    refine .shut rfl rfl (by simp [Event.BehindHandshake]) fun _ => ?_
    simp [Event.BeforeHandshake, InboundFrame.message?, InboundFrame.decoded?]
  | breaks =>
    exact .shut rfl rfl (by simp [Event.BehindHandshake]) (by simp [Event.BeforeHandshake])
  | rejects unreadable =>
    refine .shut rfl rfl (by simp [Event.BehindHandshake]) fun _ => ?_
    simp [Event.BeforeHandshake, InboundFrame.message?_eq_some, unreadable]
  | objects decoded forbidden =>
    refine .shut rfl rfl (by simp [Event.BehindHandshake]) fun fresh => ?_
    have phase : s.phase = .uninitialized := by
      cases phase : s.phase with
      | uninitialized => rfl
      | initialized => exact absurd phase fresh
      | closed => exact absurd phase opened
    simp only [List.forall_mem_cons, Event.BeforeHandshake, decoded]
    refine ⟨fun payload same => ?_, trivial, by simp⟩
    cases same
    simp [objection?, phase] at forbidden
  | greets decoded fresh => exact .greets decoded fresh rfl rfl rfl
  | enrols decoded ready | cancels decoded ready | ignores decoded ready =>
    exact .ready ready rfl rfl (by simp [Event.BehindHandshake])
  | replies decoded ready =>
    refine .ready ready rfl rfl ?_
    simp only [send_eq, List.forall_mem_cons]
    exact ⟨trivial, behind_enqueue (by simp)⟩

theorem handshakes_of_does (orderly : s.Orderly) (h : s.Does events after) :
    s.Handshakes events after := by
  cases h with
  | writes present turned =>
    have told := turned.delivered
    refine .goesOn rfl (.inl rfl) ?_ (fun _ _ => ?_) fun unused =>
      (unused.no_turn present turned).elim
    · intro e member; obtain ⟨frame, rfl⟩ := told e member; trivial
    · intro e member; obtain ⟨frame, rfl⟩ := told e member; trivial
  | produces found turned =>
    refine .goesOn rfl (.inl rfl) (fun e member => ?_) (fun _ none => ?_) (fun _ none => ?_)
    · cases turned.causes e member with
      | accepted live named => rintro payload rfl; cases named
      | _ => trivial
    · simp [none] at found
    · simp [none] at found
  | overflows | timesOut | goesAway | hearsEnd =>
    exact .shut rfl rfl (by simp [Event.BehindHandshake]) (by simp [Event.BeforeHandshake])
  | hears running room next taken => exact handshakes_of_takes (orderly.running.mp running) taken
  | ticks running room ready =>
    exact .ready ready rfl rfl (behind_enqueue (by simp))
  | finishes waiting | givesUp waiting =>
    have closed : s.phase = .closed := by simpa [waiting] using orderly.running
    exact .shut rfl closed (by simp [Event.BehindHandshake]) (by simp [Event.BeforeHandshake])
  | isStirred cause =>
    have kept : (s.stimulate cause).context = s.context ∧ (s.stimulate cause).phase = s.phase := by
      cases cause <;> exact ⟨rfl, rfl⟩
    exact .goesOn kept.1 (.inl kept.2) (by simp) (by simp) fun unused _ _ => unused.stimulate cause

theorem Handshakes.context_eq (handshakes : s.Handshakes events after) (orderly : s.Orderly)
    {context : Context} (known : s.context = some context) : after.context = some context := by
  cases handshakes with
  | greets _ fresh => simp [orderly.ungreeted fresh] at known
  | goesOn same => rw [same]; exact known

/-- What a connection has from its opening on. -/
theorem Does.identity (h : s.Does events after) :
    after.interceptors = s.interceptors ∧ after.connectionId = s.connectionId ∧
      after.config = s.config := by
  cases h with
  | hears running room next taken => cases taken <;> exact ⟨rfl, rfl, rfl⟩
  | isStirred cause => cases cause <;> exact ⟨rfl, rfl, rfl⟩
  | _ => exact ⟨rfl, rfl, rfl⟩

structure Ungreeted (past : List Event) (s : Session) : Prop where
  context : s.context = none
  phase : s.phase ≠ .initialized
  producers : s.producers = []
  before : ∀ e ∈ past, e.BeforeHandshake
  unused : s.phase = .uninitialized → s.Unused

/-- The context of every operation, for the payload of the client's `connection_init`. -/
def decorated (s : Session) (payload : Option Members) : Context :=
  s.interceptors.apply (.new s.connectionId payload)

/-- A connection that has been initialized once, before anything else was sent or executed. -/
def Greeted (past : List Event) (s : Session) : Prop :=
  s.phase ≠ .uninitialized ∧ ∃ before frame payload later,
    past = before ++ .arrived (some (.ok frame)) :: .initialized (s.decorated payload) ::
      .accepted .connection (.connectionAck none) :: later ∧
    frame.message? = some (.connectionInit payload) ∧ s.context = some (s.decorated payload) ∧
    (∀ e ∈ before, e.BeforeHandshake) ∧ ∀ e ∈ later, e.BehindHandshake

theorem Unused.accepts (unused : s.Unused) (message : Message) :
    (s.queue.enqueue .connection message).2.2 = [.accepted .connection message] := by
  have offered := s.queue.offers_enqueue .connection message
  generalize s.queue.enqueue .connection message = outcome at offered ⊢
  cases offered with
  | accepted => rfl
  | overflow _ full =>
    have room := unused.room
    simp only [OutboundQueue.isFull, unused.messages, List.length_nil, decide_eq_true_eq] at full
    omega
  | closed gone => simp [unused.isOpen] at gone

theorem Books.no_producers (books : s.Books events after) (none : s.producers = [])
    (unknown : s.context = Option.none) : after.producers = [] := by
  cases books with
  | keeps _ producers | leaves _ producers | shuts _ producers | frees _ _ producers =>
    rw [producers]; exact none
  | enrols _ known => simp [unknown] at known
  | produces found => simp [none] at found

theorem Ungreeted.step (ungreeted : Ungreeted past s) (orderly : s.Orderly)
    (does : s.Does events after) :
    Ungreeted (past ++ events) after ∨ Greeted (past ++ events) after := by
  obtain ⟨interceptors, connectionId, -⟩ := does.identity
  cases handshakes_of_does orderly does with
  | greets decoded fresh caused context phase =>
    refine .inr ⟨by simp [phase], past, _, _, [], ?_, decoded, ?_, ungreeted.before, by simp⟩
    · rw [caused, (ungreeted.unused fresh).accepts, decorated, interceptors, connectionId]
    · rw [context, decorated, interceptors, connectionId]
  | goesOn context phase behind before unused =>
    refine .inl ⟨context.trans ungreeted.context, ?_, ?_, ?_, fun fresh => ?_⟩
    · rcases phase with same | closed
      · rw [same]; exact ungreeted.phase
      · simp [closed]
    · exact (books_of_does orderly does).no_producers ungreeted.producers ungreeted.context
    · intro e member
      rcases List.mem_append.mp member with old | new
      · exact ungreeted.before e old
      · exact before ungreeted.phase ungreeted.producers e new
    · rcases phase with same | closed
      · exact unused (ungreeted.unused (same ▸ fresh)) ungreeted.producers fresh
      · simp [closed] at fresh

theorem Greeted.step (greeted : Greeted past s) (orderly : s.Orderly) (does : s.Does events after) :
    Greeted (past ++ events) after := by
  obtain ⟨interceptors, connectionId, -⟩ := does.identity
  obtain ⟨ready, before, frame, payload, later, split, decoded, known, silent, behind⟩ := greeted
  have same : after.decorated payload = s.decorated payload := by
    rw [decorated, interceptors, connectionId, decorated]
  cases handshakes_of_does orderly does with
  | greets _ fresh => exact absurd fresh ready
  | goesOn context phase calm =>
    refine ⟨?_, before, frame, payload, later ++ events, ?_, decoded, ?_, silent, ?_⟩
    · rcases phase with kept | closed
      · rw [kept]; exact ready
      · simp [closed]
    · rw [split, same]; simp
    · rw [context, same]; exact known
    · intro e member
      exact (List.mem_append.mp member).elim (behind e) (calm e)

theorem ungreeted_new (config : SessionConfig) (connectionId : String) (engine : Engine)
    (interceptors : InterceptorChain) (half : WriteHalf) (now : Nat) (shutdown : Bool) :
    Ungreeted [] (Session.new config connectionId engine interceptors half now shutdown) where
  context := rfl
  phase := by simp [Session.new]
  producers := rfl
  before := by simp
  unused _ := unused_new config connectionId engine interceptors half now shutdown

end Session

end SubscriptionGateway
