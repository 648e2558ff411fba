import SubscriptionGateway.Proofs.Session.Handshake

/-! The handshake as a gate to the engine: behind it every call is for the one `subscribe` that was
accepted under its number, and in the one context that the interceptors have made. -/
namespace SubscriptionGateway.Session

variable {past events : List Event} {s after : Session}

def Ordered (past : List Event) (seq : Nat) (request : Request) : Prop :=
  ∃ before frame id payload rest,
    past = before ++ .arrived (some (.ok frame)) :: .registered id seq :: rest ∧
      frame.message? = some (.subscribe id payload) ∧ request = .ofSubscribe id payload

theorem Ordered.append {seq : Nat} {request : Request} (ordered : Ordered past seq request)
    (events : List Event) : Ordered (past ++ events) seq request := by
  obtain ⟨before, frame, id, payload, rest, split, decoded, made⟩ := ordered
  exact ⟨before, frame, id, payload, rest ++ events, by simp [split], decoded, made⟩

/-- Every call, made or still to be made, is for an accepted `subscribe` and in the one context. -/
structure Requested (past : List Event) (s : Session) : Prop where
  waiting : ∀ p ∈ s.producers, ∀ request context, p.results = .unasked request context →
    s.context = some context ∧ Ordered past p.seq request
  called : ∀ seq request context execution, .called seq request context execution ∈ past →
    s.context = some context ∧ Ordered past seq request

theorem unasked_of_running {p q : Producer} {engine : Engine} {now : Nat} {registry : Registry}
    {queue : OutboundQueue} {taken : ProducerTurn} {request : Request} {context : Context}
    (turned : p.Turns engine now registry queue taken) (running : taken.state = .running q)
    (unasked : q.results = .unasked request context) :
    q.seq = p.seq ∧ p.results = .unasked request context := by
  cases turned with
  | starts => cases running; exact ⟨rfl, unasked⟩
  | calls => cases running; cases unasked
  | progresses started polled =>
    cases running
    have asked := (Results.elements_of_progressed polled).1
    simp only at unasked
    simp [unasked, Results.Asked] at asked
  | relays started live polled =>
    cases running
    have asked := (Results.elements_of_element polled).1
    simp only at unasked
    simp [unasked, Results.Asked] at asked
  | stops | isRefused | terminates | terminalRefused => cases running

theorem Requested.step (requested : Requested past s) (orderly : s.Orderly)
    (does : s.Does events after) : Requested (past ++ events) after := by
  have handshakes := handshakes_of_does orderly does
  have kept : ∀ {context seq request}, s.context = some context ∧ Ordered past seq request →
      after.context = some context ∧ Ordered (past ++ events) seq request :=
    fun ⟨known, ordered⟩ => ⟨handshakes.context_eq orderly known, ordered.append events⟩
  have books := books_of_does orderly does
  constructor
  · intro p member request context unasked
    cases books with
    | keeps _ producers | leaves _ producers | shuts _ producers | frees _ _ producers =>
      exact kept (requested.waiting p (producers ▸ member) request context unasked)
    | @enrols frame id payload _ seq _ decoded known free producers =>
      rcases List.mem_append.mp (producers ▸ member) with old | new
      · exact kept (requested.waiting p old request context unasked)
      · cases List.mem_singleton.mp new
        cases unasked
        exact ⟨handshakes.context_eq orderly known, past, frame, id, payload, [], rfl, decoded, rfl⟩
    | @produces turner taken _ found turned _ producers =>
      have member := producers ▸ member
      have turning := List.mem_of_find?_eq_some found
      cases state : taken.state with
      | running q =>
        rw [state] at member
        rcases (Relay.mem_replace_running turning).mp member with rfl | ⟨old, -⟩
        · obtain ⟨seq, waiting⟩ := unasked_of_running turned state unasked
          rw [seq]
          exact kept (requested.waiting turner turning request context waiting)
        · exact kept (requested.waiting p old request context unasked)
      | ended how =>
        rw [state] at member
        have old := (Relay.mem_replace_ended.mp member).1
        exact kept (requested.waiting p old request context unasked)
  · intro seq request context execution member
    rcases List.mem_append.mp member with old | new
    · exact kept (requested.called seq request context execution old)
    · obtain ⟨p, taken, found, turned, rfl⟩ := books.turn_of_producer? new rfl
      cases turned.causes _ new with
      | called _ unasked =>
        exact kept (requested.waiting p (List.mem_of_find?_eq_some found) _ _ unasked)

theorem requested_new (config : SessionConfig) (connectionId : String) (engine : Engine)
    (interceptors : InterceptorChain) (half : WriteHalf) (now : Nat) (shutdown : Bool) :
    Requested [] (Session.new config connectionId engine interceptors half now shutdown) := by
  constructor <;> simp [Session.new, Relay.new]

/-- What is known of every run: the handshake is still to come or has been made, the calls are for
accepted requests, and the interceptors and the connection's id stay what they are. -/
theorem gated_of_reaches {config : SessionConfig} {connectionId : String} {engine : Engine}
    {interceptors : InterceptorChain} {half : WriteHalf} {now : Nat} {shutdown : Bool}
    (run : Reaches (.new config connectionId engine interceptors half now shutdown) events s) :
    (Ungreeted events s ∨ Greeted events s) ∧ Requested events s ∧
      s.interceptors = interceptors ∧ s.connectionId = connectionId := by
  have orderly := orderly_new config connectionId engine interceptors half now shutdown
  have ungreeted := ungreeted_new config connectionId engine interceptors half now shutdown
  have requested := requested_new config connectionId engine interceptors half now shutdown
  refine run.history (P := fun past s => (Ungreeted past s ∨ Greeted past s) ∧ Requested past s ∧
      s.interceptors = interceptors ∧ s.connectionId = connectionId)
    (fun orderly ⟨gate, requested, same, named⟩ does => ⟨?_, requested.step orderly does, ?_⟩)
    orderly ⟨.inl ungreeted, requested, rfl, rfl⟩
  · exact gate.elim (fun ungreeted => ungreeted.step orderly does)
      fun greeted => .inr (greeted.step orderly does)
  · rw [does.identity.1, does.identity.2.1]
    exact ⟨same, named⟩

theorem Enrolled.called_once (enrolled : Enrolled past s) {id : String} {seq : Nat}
    (made : (id, seq) ∈ registrations past) {first second : List Event} {request : Request}
    {context : Context} {execution : Execution}
    (split : past = first ++ .called seq request context execution :: second) :
    callsOf seq first = [] ∧ callsOf seq second = [] := by
  have follows := enrolled.followsAnswer made
  have calls : callsOf seq past = callsOf seq first ++ execution :: callsOf seq second := by
    simp [split, Event.call?]
  unfold FollowsAnswer at follows
  split at follows
  · next none => simp [none] at calls
  · next one =>
    rw [one] at calls
    cases before : callsOf seq first with
    | nil =>
      rw [before, List.nil_append, List.cons.injEq] at calls
      exact ⟨rfl, calls.2.symm⟩
    | cons => simp [before] at calls
  · exact follows.elim

theorem Enrolled.registered_once (enrolled : Enrolled past s) {id : String} {seq : Nat}
    {first second : List Event} (split : past = first ++ .registered id seq :: second) :
    ∀ other, .registered other seq ∉ first ++ second := by
  intro other again
  have rising := enrolled.rising
  have numbers : registrations past =
      registrations first ++ (id, seq) :: registrations second := by
    rw [split, registrations_append]
    rfl
  rw [numbers, List.pairwise_append, List.pairwise_cons] at rising
  rcases List.mem_append.mp again with earlier | later
  · have less := rising.2.2 _ (mem_registrations.mpr earlier) (id, seq) (by simp)
    simp at less
  · have less := rising.2.1.1 _ (mem_registrations.mpr later)
    simp at less

/-- The request of a call is that of the one `subscribe` accepted under its number. -/
theorem subscribe_of_call (enrolled : Enrolled past s) (hushed : Hushed past s)
    (requested : Requested past s) {first second : List Event} {seq : Nat} {request : Request}
    {context : Context} {execution : Execution}
    (split : past = first ++ .called seq request context execution :: second) :
    s.context = some context ∧ callsOf seq first = [] ∧ callsOf seq second = [] ∧
      ∃ before frame id payload rest,
        first = before ++ .arrived (some (.ok frame)) :: .registered id seq :: rest ∧
        frame.message? = some (.subscribe id payload) ∧
        request = ⟨id, payload.query, payload.operationName, payload.variableValues.getD [],
          payload.extensions.getD []⟩ ∧
        ∀ other, .registered other seq ∉ before ++ rest ++ second := by
  have member : .called seq request context execution ∈ past := by simp [split]
  obtain ⟨known, before, frame, id, payload, rest, accepted, decoded, made⟩ :=
    requested.called _ _ _ _ member
  have registered :
      past = (before ++ [.arrived (some (.ok frame))]) ++ .registered id seq :: rest := by
    simp [accepted]
  have untouched := (hushed _ _ _ _ registered).1
  have enlisted : (id, seq) ∈ registrations past := mem_registrations.mpr (by simp [accepted])
  obtain ⟨none, never⟩ := enrolled.called_once enlisted split
  have once := enrolled.registered_once registered
  refine ⟨known, none, never, before, frame, id, payload, ?_⟩
  rcases append_eq_append_cons (split.symm.trans registered) with
    ⟨middle, rfl, rfl⟩ | ⟨middle, same, later⟩
  · refine ⟨middle, by simp, decoded, made, fun other again => once other ?_⟩
    simp only [List.mem_append, List.mem_cons] at again ⊢
    grind
  · -- The call would be before the registration, which has nothing to do with it yet.
    cases middle with
    | nil => cases later
    | cons call middle =>
      cases later
      have early :
          .called seq request context execution ∈ before ++ [.arrived (some (.ok frame))] := by
        simp [same]
      exact absurd rfl (untouched _ early)

/-- In every run the context is there exactly from the handshake on. Either there has been none, and
nothing was sent and no engine called; or the first `connection_init` that could be decoded was
answered with the acknowledgement, the first message of all and the only one of its kind, and each
call of the engine since then is the only one for its registration, comes after the one `subscribe`
that was accepted under that number, carries the request of that frame, and gets the context that
the interceptors make of the connection's id and the payload of the handshake. -/
theorem handshake_is_gate {config : SessionConfig} {connectionId : String} {engine : Engine}
    {interceptors : InterceptorChain} {half : WriteHalf} {now : Nat} {shutdown : Bool}
    (run : Reaches (.new config connectionId engine interceptors half now shutdown) events s) :
    (s.phase = .initialized → s.context.isSome = true) ∧
    (s.phase = .uninitialized → s.context = none) ∧
    (s.phase ≠ .initialized ∧ s.context = none ∧ (∀ e ∈ events, e.BeforeHandshake) ∨
      ∃ before frame payload later,
        events = before ++ .arrived (some (.ok frame)) ::
          .initialized (interceptors.apply (.new connectionId payload)) ::
            .accepted .connection (.connectionAck none) :: later ∧
        frame.message? = some (.connectionInit payload) ∧
        (∀ e ∈ before, e.BeforeHandshake) ∧ (∀ e ∈ later, e.BehindHandshake) ∧
        s.context = some (interceptors.apply (.new connectionId payload)) ∧
        ∀ first second seq request context execution,
          events = first ++ .called seq request context execution :: second →
            context = interceptors.apply (.new connectionId payload) ∧
            callsOf seq first = [] ∧ callsOf seq second = [] ∧
            ∃ earlier frame id payload rest,
              first = earlier ++ .arrived (some (.ok frame)) :: .registered id seq :: rest ∧
              frame.message? = some (.subscribe id payload) ∧
              request = ⟨id, payload.query, payload.operationName, payload.variableValues.getD [],
                payload.extensions.getD []⟩ ∧
              ∀ other, .registered other seq ∉ earlier ++ rest ++ second) := by
  have orderly := orderly_of_reaches run
    (orderly_new config connectionId engine interceptors half now shutdown)
  obtain ⟨enrolled, hushed⟩ := enrolled_hushed_of_reaches run
  obtain ⟨gate, requested, same, named⟩ := gated_of_reaches run
  refine ⟨orderly.greeted, orderly.ungreeted, ?_⟩
  rcases gate with
    ungreeted | ⟨-, before, frame, payload, later, split, decoded, known, silent, behind⟩
  · exact .inl ⟨ungreeted.phase, ungreeted.context, ungreeted.before⟩
  · rw [decorated, same, named] at split known
    refine .inr ⟨before, frame, payload, later, split, decoded, silent, behind, known, ?_⟩
    intro first second seq request context execution called
    obtain ⟨used, once⟩ := subscribe_of_call enrolled hushed requested called
    exact ⟨Option.some.inj (used.symm.trans known), once⟩

def isCallFor (seq : Nat) (request : Request) (context : Context) : Event → Bool
  | .called number asked given _ => decide (number = seq ∧ asked = request ∧ given = context)
  | _ => false

theorem isCallFor_iff {seq : Nat} {request : Request} {context : Context} {e : Event} :
    isCallFor seq request context e = true ↔
      ∃ execution, e = .called seq request context execution := by
  cases e <;> simp [isCallFor]

/-- The name in the client's payload takes the place of the gateway's own, and the request is the
client's with empty extensions. -/
theorem handshake_with_name :
    let start :=
      Session.new .default "c" (fun _ _ => .refusing (.backend "down")) .gateway .direct 0 false
    let context : Context := ⟨"c", some [("name", .string "Ada")], [("name", .string "Ada")]⟩
    ∃ events last, Reaches start events last ∧ last.context = some context ∧
      ∃ first second execution, events = first ++ .called 1
          ⟨"7", "greet", some "greet", [("times", .integer 2)], []⟩ context execution :: second ∧
        callsOf 1 first = [] ∧ callsOf 1 second = [] := by
  intro start context
  let request : Request := ⟨"7", "greet", some "greet", [("times", .integer 2)], []⟩
  obtain ⟨events, last, run, seen⟩ := exists_reaches_of_play start
    (hearing (.connectionInit (some [("name", .string "Ada")])) ++
      hearing (.subscribe "7" ⟨"greet", some "greet", some [("times", .integer 2)], none⟩) ++
      producing 1 2)
    (fun events last => decide (last.context = some context) &&
      events.any (isCallFor 1 request context)) (by decide +kernel)
  rw [Bool.and_eq_true, decide_eq_true_eq, List.any_eq_true] at seen
  obtain ⟨known, e, member, called⟩ := seen
  obtain ⟨execution, rfl⟩ := isCallFor_iff.mp called
  obtain ⟨first, second, split⟩ := List.append_of_mem member
  obtain ⟨-, -, ⟨-, unknown, -⟩ | ⟨_, _, _, _, _, _, _, _, _, calls⟩⟩ := handshake_is_gate run
  · simp [unknown] at known
  · obtain ⟨-, none, never, -⟩ := calls _ _ _ _ _ _ split
    exact ⟨events, last, run, known, first, second, execution, split, none, never⟩

end SubscriptionGateway.Session
