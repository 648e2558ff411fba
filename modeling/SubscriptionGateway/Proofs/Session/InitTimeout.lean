import SubscriptionGateway.Proofs.Session.Closings
import SubscriptionGateway.Proofs.Session.Delivery
import SubscriptionGateway.Proofs.Session.Refusals
import SubscriptionGateway.Proofs.Session.Timed

/-! The time for the handshake. A connection that waits for it takes its first turn when something
arrives, when the deadline is reached or when the server shuts down, whichever comes first, and that
turn ends the waiting for good. -/
namespace SubscriptionGateway

/-- Whether a connection closes because there was no handshake in time: the decision, or the frame
that tells the peer. -/
def Event.TimesOut : Event → Prop
  | .closing .initTimeout => True
  | .delivered (.close 4408 _) => True
  | _ => False

namespace Inbound

theorem next_eq_pending_iff (i : Inbound) :
    i.next = .pending ↔ i.items = [] ∧ i.connected = true := by
  unfold next
  split
  · next items => simp [items]
  · next items => cases connected : i.connected <;> simp [items]

/-- What is delivered to a reader is there to be read, unless nothing could arrive any more. -/
theorem next_deliver_ne_pending {i : Inbound} (reads : i.isRead = true) (item : InboundItem) :
    (i.deliver item).1.next ≠ .pending := by
  rw [Ne, next_eq_pending_iff, deliver]
  cases connected : i.connected <;> simp [reads, connected]

theorem next_disconnect_ne_pending (i : Inbound) : i.disconnect.next ≠ .pending := by
  rw [Ne, next_eq_pending_iff]
  simp [disconnect]

end Inbound

namespace Session

variable {start s after : Session} {inputs : List (Nat × Stimulus)} {past events : List Event}

/-- The turn that ends the waiting for the handshake: what has arrived comes before the deadline,
and the deadline before the shutdown. -/
inductive Decides (s : Session) : List Event → Session → Prop where
  | hears {item : InboundItem} {rest : Inbound} (next : s.inbound.next = .item item rest) :
      Decides s (.arrived (some item) :: ({ s with inbound := rest }.takeItem item).2)
        ({ s with inbound := rest }.takeItem item).1
  | hearsEnd (next : s.inbound.next = .ended) :
      Decides s [.arrived none, .ended .peerClosed] (s.endWith .peerClosed).1
  | timesOut (next : s.inbound.next = .pending) (due : s.now = s.initDeadline) :
      Decides s [.closing .initTimeout] (s.close .initTimeout).1
  | goesAway (next : s.inbound.next = .pending) (early : s.now < s.initDeadline)
      (asked : s.shutdown = true) : Decides s [.closing .goingAway] (s.close .goingAway).1

/-- A connection that still waits for the handshake, with what has come from outside: whatever could
have decided about it has come only now. -/
structure Undecided (start : Session) (inputs : List (Nat × Stimulus)) (s : Session) : Prop where
  fresh : s.phase = .uninitialized
  punctual : s.now ≤ s.initDeadline
  pending : s.inbound.next = .pending ↔ ∀ input ∈ inputs, ¬ input.2.Arrives
  arrivedNow : ∀ input ∈ inputs, input.2.Arrives → input.1 = s.now
  asked : s.shutdown = true ↔ start.shutdown = true ∨ ∃ input ∈ inputs, input.2.Requests
  askedNow : ∀ input ∈ inputs, input.2.Requests → input.1 = s.now
  shutNow : start.shutdown = true → s.now = start.now

structure Expectant (s : Session) : Prop where
  running : s.stage = .running
  room : s.queue.overflowed = false
  reads : s.inbound.isRead = true
  unused : s.Unused
  producers : s.producers = []

theorem expectant_of_reaches {config : SessionConfig} {connectionId : String} {engine : Engine}
    {interceptors : InterceptorChain} {half : WriteHalf} {now : Nat} {shutdown : Bool}
    (run : Reaches (.new config connectionId engine interceptors half now shutdown) past s)
    (fresh : s.phase = .uninitialized) : s.Expectant := by
  have known := known_of_reaches run
  have ungreeted := (gated_of_reaches run).1.resolve_right fun greeted => greeted.1 fresh
  have running : s.stage = .running := known.orderly.running.mpr (by simp [fresh])
  refine ⟨running, ?_, known.departed.reads running, ungreeted.unused fresh, ungreeted.producers⟩
  -- Nothing has been refused, since nothing has been sent.
  refine Bool.eq_false_iff.mpr fun full => ?_
  obtain ⟨source, message, refused⟩ := known.departed.overflowed.mp full
  exact ungreeted.before _ refused

namespace Expectant

theorem turn_relay (expectant : s.Expectant) (task : RelayTask) : s.turn (.relay task) = none := by
  refine Option.eq_none_iff_forall_ne_some.mpr fun ⟨after, events⟩ taken => ?_
  obtain ⟨⟨relay, caused⟩, turned, -⟩ := Option.map_eq_some_iff.mp taken
  cases task with
  | writer =>
    obtain ⟨w, present, -, -⟩ := expectant.unused.writer
    simp only [Relay.turn, present] at turned
    obtain ⟨taken, turned, -⟩ := Option.map_eq_some_iff.mp turned
    exact expectant.unused.no_turn present (Writer.turns_of_turn turned)
  | producer seq => simp [Relay.turn, expectant.producers] at turned

/-- Only the connection's own task waits for a time. -/
theorem due? (expectant : s.Expectant) (fresh : s.phase = .uninitialized) {task : SessionTask}
    {due : Nat} (waits : s.due? task = some due) : due = s.initDeadline := by
  cases task with
  | connection =>
    simp only [Session.due?, connectionDue?, expectant.running, fresh, Option.some.injEq] at waits
    exact waits.symm
  | relay task =>
    cases task with
    | writer =>
      obtain ⟨w, present, serving, -⟩ := expectant.unused.writer
      simp [Session.due?, Relay.due?, present, Writer.due?, serving] at waits
    | producer seq => simp [Session.due?, Relay.due?, expectant.producers] at waits

theorem turn_pending (expectant : s.Expectant) (fresh : s.phase = .uninitialized)
    (next : s.inbound.next = .pending) :
    s.turn .connection = if s.initDeadline ≤ s.now then some (s.close .initTimeout)
      else if s.shutdown then some (s.close .goingAway) else none := by
  simp [turn, connectionTurn, expectant.running, expectant.room, next, idleTurn, fresh]

theorem idle_iff (expectant : s.Expectant) (fresh : s.phase = .uninitialized) :
    s.Idle ↔ s.inbound.next = .pending ∧ s.now < s.initDeadline ∧ s.shutdown = false := by
  constructor
  · intro idle
    have waits := idle .connection
    cases next : s.inbound.next with
    | item item rest =>
      simp [turn, connectionTurn_of_next expectant.running expectant.room next] at waits
    | ended => simp [turn, connectionTurn, expectant.running, expectant.room, next] at waits
    | pending =>
      rw [expectant.turn_pending fresh next] at waits
      by_cases late : s.initDeadline ≤ s.now
      · simp [late] at waits
      · rw [if_neg late] at waits
        exact ⟨rfl, by omega, by simpa using waits⟩
  · rintro ⟨next, early, unasked⟩ task
    cases task with
    | relay task => exact expectant.turn_relay task
    | connection =>
      have notLate : ¬ s.initDeadline ≤ s.now := by omega
      simp [expectant.turn_pending fresh next, notLate, unasked]

/-- Every turn of a connection that waits ends the waiting. -/
theorem decides (expectant : s.Expectant) (fresh : s.phase = .uninitialized)
    (punctual : s.now ≤ s.initDeadline) {task : SessionTask}
    (taken : s.turn task = some (after, events)) :
    task = .connection ∧ s.Decides events after := by
  cases task with
  | relay task => simp [expectant.turn_relay task] at taken
  | connection =>
    refine ⟨rfl, ?_⟩
    cases next : s.inbound.next with
    | item item rest =>
      have turned := connectionTurn_of_next expectant.running expectant.room next
      cases Option.some.inj (turned.symm.trans taken)
      exact .hears next
    | ended =>
      simp only [turn, connectionTurn, expectant.running, expectant.room, next] at taken
      cases taken
      exact .hearsEnd next
    | pending =>
      rw [expectant.turn_pending fresh next] at taken
      by_cases late : s.initDeadline ≤ s.now
      · rw [if_pos late] at taken
        cases taken
        exact .timesOut next (by omega)
      · rw [if_neg late] at taken
        by_cases asked : s.shutdown = true
        · rw [if_pos asked] at taken
          cases taken
          exact .goesAway next (by omega) asked
        · simp [asked] at taken

end Expectant

theorem Takes.leaves {item : InboundItem} (taken : s.Takes item events after)
    (fresh : s.phase = .uninitialized) : after.phase ≠ .uninitialized := by
  cases taken with
  | parts | breaks | rejects | objects => simp [endWith, finish, close, windDown]
  | greets => simp [handshake, send_eq]
  | enrols decoded ready | cancels decoded ready | replies decoded ready
  | ignores decoded ready => simp [fresh] at ready

theorem Decides.leaves (decides : s.Decides events after) (orderly : s.Orderly)
    (running : s.stage = .running) (fresh : s.phase = .uninitialized) :
    after.phase ≠ .uninitialized := by
  cases decides with
  | @hears item rest next =>
    have heard : ({ s with inbound := rest } : Session).Orderly :=
      orderly.of_registry rfl rfl rfl id orderly.sound
    exact (takes_takeItem heard running item).leaves fresh
  | hearsEnd | timesOut | goesAway => simp [endWith, finish, close, windDown]

namespace Undecided

theorem input (undecided : Undecided start inputs s) (reads : s.inbound.isRead = true)
    (cause : Stimulus) (timeless : ∀ time, cause ≠ .clock time) :
    Undecided start (inputs ++ [(s.now, cause)]) (s.stimulate cause) := by
  have now : (s.stimulate cause).now = s.now := by
    cases cause with
    | clock time => exact absurd rfl (timeless time)
    | _ => rfl
  have pending : (s.stimulate cause).inbound.next = .pending ↔
      s.inbound.next = .pending ∧ ¬ cause.Arrives := by
    cases cause with
    | deliver item =>
      simp [stimulate, Stimulus.Arrives, Inbound.next_deliver_ne_pending reads item]
    | disconnect => simp [stimulate, Stimulus.Arrives, Inbound.next_disconnect_ne_pending]
    | losePeer => simp [stimulate, losePeer, Stimulus.Arrives, Inbound.next_disconnect_ne_pending]
    | requestShutdown | closeRegistry | changeEngine | clock =>
      simp [stimulate, Stimulus.Arrives, setNow]
  have asked : (s.stimulate cause).shutdown = true ↔ s.shutdown = true ∨ cause.Requests := by
    cases cause <;> simp [stimulate, Stimulus.Requests, setNow, losePeer]
  constructor
  case fresh =>
    cases cause <;> exact undecided.fresh
  case punctual =>
    rw [now]
    cases cause <;> exact undecided.punctual
  case pending =>
    rw [pending, undecided.pending]
    simp only [List.forall_mem_append, List.forall_mem_singleton]
  case arrivedNow =>
    rw [now]
    simp only [List.forall_mem_append, List.forall_mem_singleton]
    exact ⟨undecided.arrivedNow, fun _ => trivial⟩
  case asked =>
    rw [asked, undecided.asked]
    simp only [List.mem_append, List.mem_singleton, or_and_right, exists_or, exists_eq_left,
      or_assoc]
  case askedNow =>
    rw [now]
    simp only [List.forall_mem_append, List.forall_mem_singleton]
    exact ⟨undecided.askedNow, fun _ => trivial⟩
  case shutNow =>
    rw [now]
    exact undecided.shutNow

/-- Time passes only as long as nothing has come that decides. -/
theorem passes (undecided : Undecided start inputs s) (expectant : s.Expectant) (idle : s.Idle)
    {time : Nat} (punctual : ∀ task due, s.due? task = some due → time ≤ due) :
    Undecided start inputs (s.setNow time) := by
  obtain ⟨next, early, unasked⟩ := (expectant.idle_iff undecided.fresh).mp idle
  have unheard := undecided.pending.mp next
  have wanted : ¬ (start.shutdown = true ∨ ∃ input ∈ inputs, input.2.Requests) := by
    rw [← undecided.asked]
    simp [unasked]
  have due : time ≤ s.initDeadline := by
    refine punctual .connection s.initDeadline ?_
    simp only [due?, connectionDue?, expectant.running, undecided.fresh]
  constructor
  case fresh => exact undecided.fresh
  case punctual => exact Nat.max_le.mpr ⟨undecided.punctual, due⟩
  case pending => exact undecided.pending
  case arrivedNow => exact fun input member arrives => absurd arrives (unheard input member)
  case asked => exact undecided.asked
  case askedNow =>
    exact fun input member requests => absurd (.inr ⟨input, member, requests⟩) wanted
  case shutNow => exact fun shut => absurd (.inl shut) wanted

end Undecided

/-- What has become of a connection: it still waits for the handshake, and nothing has happened; or
its first turn has decided. -/
inductive Fate (start : Session) : List (Nat × Stimulus) → List Event → Session → Prop where
  | waits {inputs : List (Nat × Stimulus)} {s : Session} (undecided : Undecided start inputs s) :
      Fate start inputs [] s
  | decided {earlier later : List (Nat × Stimulus)} {first rest : List Event}
      {u v s : Session} (before : Timed start earlier [] u) (undecided : Undecided start earlier u)
      (turned : u.turn .connection = some (v, first)) (decides : u.Decides first v)
      (onwards : Timed v later rest s) : Fate start (earlier ++ later) (first ++ rest) s

theorem fate_of_timed {config : SessionConfig} {connectionId : String} {engine : Engine}
    {interceptors : InterceptorChain} {half : WriteHalf} {now : Nat} {shutdown : Bool}
    (run : Timed (.new config connectionId engine interceptors half now shutdown) inputs past s) :
    Fate (.new config connectionId engine interceptors half now shutdown) inputs past s := by
  induction run with
  | start =>
    refine .waits ?_
    constructor <;> simp [Session.new, Inbound.empty, Inbound.next]
  | @turn inputs past events s after task run taken ih =>
    cases ih with
    | waits undecided =>
      have expectant := expectant_of_reaches run.reaches undecided.fresh
      obtain ⟨rfl, decides⟩ := expectant.decides undecided.fresh undecided.punctual taken
      have fate := Fate.decided run undecided taken decides .start
      simpa using fate
    | decided before undecided turned decides onwards =>
      rw [List.append_assoc]
      exact .decided before undecided turned decides (.turn onwards taken)
  | @input inputs past s run cause timeless ih =>
    cases ih with
    | waits undecided =>
      have expectant := expectant_of_reaches run.reaches undecided.fresh
      exact .waits (undecided.input expectant.reads cause timeless)
    | decided before undecided turned decides onwards =>
      rw [List.append_assoc]
      exact .decided before undecided turned decides (.input onwards cause timeless)
  | @passes inputs past s run idle time punctual ih =>
    cases ih with
    | waits undecided =>
      have expectant := expectant_of_reaches run.reaches undecided.fresh
      exact .waits (undecided.passes expectant idle punctual)
    | decided before undecided turned decides onwards =>
      exact .decided before undecided turned decides (.passes onwards idle time punctual)

/-- Nothing but the deadline closes a connection for the time of its handshake. -/
theorem Does.initTimeout (does : s.Does events after) (closing : .closing .initTimeout ∈ events) :
    s.phase = .uninitialized ∧ s.initDeadline ≤ s.now ∧ after = (s.close .initTimeout).1 := by
  cases does.decision closing with
  | timeout fresh late made => exact ⟨fresh, late, made⟩
  | objection sent => exact sent.elim

def Expired (past : List Event) (s : Session) : Prop :=
  .closing .initTimeout ∈ past →
    s.initDeadline ≤ s.now ∧ s.context = none ∧ s.phase = .closed

theorem Expired.step (expired : Expired past s) (orderly : s.Orderly)
    (does : s.Does events after) : Expired (past ++ events) after := by
  intro closing
  rcases List.mem_append.mp closing with old | new
  · obtain ⟨late, unknown, closed⟩ := expired old
    obtain ⟨later, same⟩ := does.clock
    refine ⟨by omega, ?_, does.phase_closed_iff.mpr (.inl closed)⟩
    cases handshakes_of_does orderly does with
    | greets _ fresh => simp [closed] at fresh
    | goesOn context => exact context.trans unknown
  · obtain ⟨fresh, late, rfl⟩ := does.initTimeout new
    exact ⟨late, orderly.ungreeted fresh, rfl⟩

theorem Does.leaves (does : s.Does events after) (orderly : s.Orderly)
    (past : s.phase ≠ .uninitialized) : after.phase ≠ .uninitialized := by
  cases handshakes_of_does orderly does with
  | greets _ fresh => exact absurd fresh past
  | goesOn context phase =>
    rcases phase with same | closed
    · rw [same]; exact past
    · simp [closed]

/-- Once the waiting has ended the deadline means nothing any more. -/
theorem Reaches.no_initTimeout (run : Reaches s events after) (orderly : s.Orderly)
    (past : s.phase ≠ .uninitialized) :
    after.phase ≠ .uninitialized ∧ .closing .initTimeout ∉ events := by
  induction run with
  | refl => exact ⟨past, List.not_mem_nil⟩
  | step head tail ih =>
    have does := does_of_step orderly head
    obtain ⟨still, quiet⟩ := ih (does.orderly orderly) (does.leaves orderly past)
    refine ⟨still, fun closing => ?_⟩
    rcases List.mem_append.mp closing with first | later
    · exact past (does.initTimeout first).1
    · exact quiet later

section New

variable {config : SessionConfig} {connectionId : String} {engine : Engine}
  {interceptors : InterceptorChain} {half : WriteHalf} {now : Nat} {shutdown : Bool}

/-- A close frame that was delivered tells of a decision to close. -/
theorem closing_of_delivered
    (run : Reaches (.new config connectionId engine interceptors half now shutdown) past s)
    {code : Nat} {text : String} (delivered : .delivered (.close code text) ∈ past) :
    ∃ reason : CloseReason, .closing reason ∈ past ∧ code = reason.code ∧ text = reason.text := by
  obtain ⟨⟨w, closed, delivers⟩, -⟩ := delivers_of_reaches run
  have isFrame : .close code text ∈ deliveredFrames past :=
    List.mem_filterMap.mpr ⟨_, delivered, rfl⟩
  rcases delivers.frames with ⟨texts, -, onlyTexts⟩ | ⟨reason, closes, whole⟩
  · simp [onlyTexts] at isFrame
  · obtain ⟨sameCode, sameText⟩ : code = reason.code ∧ text = reason.text := by
      simpa [whole] using isFrame
    refine ⟨reason, mem_closings.mp ?_, sameCode, sameText⟩
    rw [(told_of_reaches run).closings]
    rcases closes with ⟨deadline, closing⟩ | ended
    · simp [closing, Stage.reason?]
    · simp [ended, Stage.reason?]

theorem initTimeout_of_timesOut
    (run : Reaches (.new config connectionId engine interceptors half now shutdown) past s)
    {e : Event} (member : e ∈ past) (timesOut : e.TimesOut) : .closing .initTimeout ∈ past := by
  unfold Event.TimesOut at timesOut
  split at timesOut
  · exact member
  · obtain ⟨reason, closing, code, -⟩ := closing_of_delivered run member
    cases reason <;> first | exact closing | cases code
  · exact timesOut.elim

theorem expired_of_reaches
    (run : Reaches (.new config connectionId engine interceptors half now shutdown) past s) :
    Expired past s := by
  have orderly := orderly_new config connectionId engine interceptors half now shutdown
  have start : Expired [] (new config connectionId engine interceptors half now shutdown) := by
    intro closing
    cases closing
  exact run.history (fun orderly expired does => Expired.step expired orderly does) orderly start

/-- The closing comes when the time is over, and not before. -/
theorem late_of_timesOut
    (run : Reaches (.new config connectionId engine interceptors half now shutdown) past s)
    {e : Event} (member : e ∈ past) (timesOut : e.TimesOut) : now + config.initTimeout ≤ s.now := by
  obtain ⟨late, -⟩ := expired_of_reaches run (initTimeout_of_timesOut run member timesOut)
  have orderly := orderly_new config connectionId engine interceptors half now shutdown
  have deadline : s.initDeadline = now + config.initTimeout := (run.clock orderly).2
  omega

theorem no_timesOut_of_initialized
    (run : Reaches (.new config connectionId engine interceptors half now shutdown) past s)
    {context : Context} (greeted : .initialized context ∈ past) : ∀ e ∈ past, ¬ e.TimesOut := by
  intro e member timesOut
  obtain ⟨-, unknown, -⟩ := expired_of_reaches run (initTimeout_of_timesOut run member timesOut)
  rcases (gated_of_reaches run).1 with ungreeted | ⟨-, _, _, _, _, -, -, known, -⟩
  · exact ungreeted.before _ greeted
  · simp [unknown] at known

def Unattended (inputs : List (Nat × Stimulus)) : Prop :=
  ∀ input ∈ inputs, ¬ input.2.Arrives ∧ ¬ input.2.Requests

inductive Lapsed (start : Session) : List (Nat × Stimulus) → List Event → Session → Prop where
  | intro {earlier later : List (Nat × Stimulus)} {rest : List Event} {u s : Session}
      (before : Timed start earlier [] u) (fresh : u.phase = .uninitialized)
      (due : u.now = start.initDeadline)
      (turned : u.turn .connection = some (u.close .initTimeout))
      (onwards : Timed (u.close .initTimeout).1 later rest s) :
      Lapsed start (earlier ++ later) (.closing .initTimeout :: rest) s

theorem Undecided.unattended (undecided : Undecided start inputs s) (quiet : Unattended inputs)
    (serving : start.shutdown = false) : s.inbound.next = .pending ∧ s.shutdown = false := by
  refine ⟨undecided.pending.mpr fun input member => (quiet input member).1, ?_⟩
  refine Bool.eq_false_iff.mpr fun shut => ?_
  rcases undecided.asked.mp shut with before | ⟨input, member, requests⟩
  · simp [serving] at before
  · exact (quiet input member).2 requests

theorem Undecided.goesOn (undecided : Undecided start inputs s) (quiet : Unattended inputs)
    (serving : start.shutdown = false) (expectant : s.Expectant)
    (run : Timed start inputs [] s) : ∃ u, Timed start inputs [] u ∧
      u.now = s.initDeadline ∧ u.turn .connection = some (u.close .initTimeout) := by
  obtain ⟨next, unasked⟩ := undecided.unattended quiet serving
  have fresh := undecided.fresh
  rcases Nat.lt_or_ge s.now s.initDeadline with early | late
  · have idle := (expectant.idle_iff fresh).mpr ⟨next, early, unasked⟩
    have punctual : ∀ task due, s.due? task = some due → s.initDeadline ≤ due :=
      fun task due waits => Nat.le_of_eq (expectant.due? fresh waits).symm
    have moved : (s.setNow s.initDeadline).now = s.initDeadline :=
      Nat.max_eq_right (Nat.le_of_lt early)
    obtain ⟨running, room, reads, ⟨isOpen, space, messages, hasProducers, writer⟩, producers⟩ :=
      expectant
    have later : (s.setNow s.initDeadline).Expectant :=
      ⟨running, room, reads, ⟨isOpen, space, messages, hasProducers, writer⟩, producers⟩
    have late : (s.setNow s.initDeadline).initDeadline ≤ (s.setNow s.initDeadline).now :=
      Nat.le_of_eq moved.symm
    refine ⟨s.setNow s.initDeadline, run.passes idle _ punctual, moved, ?_⟩
    rw [later.turn_pending fresh next, if_pos late]
  · have punctual := undecided.punctual
    refine ⟨s, run, by omega, ?_⟩
    rw [expectant.turn_pending fresh next, if_pos late]

theorem waits_of_uninitialized
    (run : Timed (.new config connectionId engine interceptors half now shutdown) inputs past s)
    (fresh : s.phase = .uninitialized) : past = [] ∧
      Undecided (.new config connectionId engine interceptors half now shutdown) inputs s := by
  cases fate_of_timed run with
  | waits undecided => exact ⟨rfl, undecided⟩
  | decided before undecided turned decides onwards =>
    have orderly := orderly_of_reaches before.reaches
      (orderly_new config connectionId engine interceptors half now shutdown)
    have running := (expectant_of_reaches before.reaches undecided.fresh).running
    have left := decides.leaves orderly running undecided.fresh
    have does := does_of_turn orderly turned
    exact absurd fresh (onwards.reaches.no_initTimeout (does.orderly orderly) left).1

theorem lapsed_of_unattended
    (run : Timed (.new config connectionId engine interceptors half now shutdown) inputs past s)
    (serving : shutdown = false) (quiet : Unattended inputs) (left : s.phase ≠ .uninitialized) :
    Lapsed (.new config connectionId engine interceptors half now shutdown) inputs past s := by
  cases fate_of_timed run with
  | waits undecided => exact absurd undecided.fresh left
  | decided before undecided turned decides onwards =>
    have early : Unattended _ := fun input member => quiet input (List.mem_append_left _ member)
    obtain ⟨next, unasked⟩ := undecided.unattended early serving
    have orderly := orderly_new config connectionId engine interceptors half now shutdown
    cases decides with
    | hears heard => simp [next] at heard
    | hearsEnd ended => simp [next] at ended
    | goesAway _ _ asked => simp [unasked] at asked
    | timesOut _ due =>
      have same := (before.reaches.clock orderly).2
      exact .intro before undecided.fresh (due.trans same) turned onwards

/-- In every run in virtual time, for every setting of the connection: as long as it waits for the
handshake nothing has happened to it, and whatever could have decided about it has come at this very
time; it waits for more exactly if nothing of the kind has come, and any turn that it takes decides.
Otherwise its first turn has decided, and it never waits for the handshake again. No closing for the
handshake's time comes before the deadline. If nothing has come from outside, the connection still
waits and can go on to close at the deadline, or has closed then; at rest it has, from the deadline
on. A connection that has been initialized is never closed for the handshake's time, whatever comes
later and however time goes on. -/
theorem init_timeout_is_punctual
    (run : Timed (.new config connectionId engine interceptors half now shutdown) inputs past s) :
    let start := new config connectionId engine interceptors half now shutdown
    let deadline := now + config.initTimeout
    Fate start inputs past s ∧
    (s.phase = .uninitialized → past = [] ∧ Undecided start inputs s ∧ s.now ≤ deadline ∧
      (s.Idle ↔ s.inbound.next = .pending ∧ s.now < deadline ∧ s.shutdown = false) ∧
      ∀ task after events, s.turn task = some (after, events) → s.Decides events after) ∧
    (∀ e ∈ past, e.TimesOut → deadline ≤ s.now) ∧
    (shutdown = false → Unattended inputs →
      (Lapsed start inputs past s ∨ past = [] ∧ s.now ≤ deadline ∧ ∃ u, Timed start inputs [] u ∧
        u.now = deadline ∧ u.turn .connection = some (u.close .initTimeout)) ∧
      (s.Idle → deadline ≤ s.now → Lapsed start inputs past s)) ∧
    (∀ context, .initialized context ∈ past → ∀ later last, Reaches s later last →
      ∀ e ∈ past ++ later, ¬ e.TimesOut) := by
  intro start deadline
  have isDeadline : s.initDeadline = deadline :=
    (run.reaches.clock (orderly_new config connectionId engine interceptors half now shutdown)).2
  refine ⟨fate_of_timed run, ?_, fun e => late_of_timesOut run.reaches, ?_, ?_⟩
  · intro fresh
    obtain ⟨silent, undecided⟩ := waits_of_uninitialized run fresh
    have expectant := expectant_of_reaches run.reaches fresh
    refine ⟨silent, undecided, isDeadline ▸ undecided.punctual, ?_, ?_⟩
    · rw [expectant.idle_iff fresh, isDeadline]
    · intro task after events taken
      exact (expectant.decides fresh undecided.punctual taken).2
  · intro serving quiet
    by_cases fresh : s.phase = .uninitialized
    · obtain ⟨rfl, undecided⟩ := waits_of_uninitialized run fresh
      have expectant := expectant_of_reaches run.reaches fresh
      obtain ⟨u, onwards, due, turned⟩ := undecided.goesOn quiet serving expectant run
      refine ⟨.inr ⟨rfl, isDeadline ▸ undecided.punctual, u, onwards, due.trans isDeadline, turned⟩,
        fun idle late => ?_⟩
      have early := ((expectant.idle_iff fresh).mp idle).2.1
      omega
    · have lapsed := lapsed_of_unattended run serving quiet fresh
      exact ⟨.inl lapsed, fun _ _ => lapsed⟩
  · intro context greeted later last onwards
    exact no_timesOut_of_initialized (run.reaches.trans onwards) (List.mem_append_left _ greeted)

end New

/-- A handshake that comes together with the deadline and with a shutdown: it is what decides, and
the deadline is of no account any more. -/
theorem init_timeout_of_tie :
    let start := single 256 .direct
    let item : InboundItem := .ok (.text (Message.connectionInit none).encode)
    let inputs := [(start.initDeadline, .requestShutdown), (start.initDeadline, .deliver item)]
    ∃ past last context, Timed start inputs past last ∧ .initialized context ∈ past ∧
      Fate start inputs past last ∧
      ∀ later final, Reaches last later final → ∀ e ∈ past ++ later, ¬ e.TimesOut := by
  intro start item inputs
  have expectant : start.Expectant := expectant_of_reaches (.refl start) rfl
  have idle : start.Idle := (expectant.idle_iff rfl).mpr ⟨rfl, by decide, rfl⟩
  have punctual : ∀ task due, start.due? task = some due → start.initDeadline ≤ due :=
    fun task due waits => Nat.le_of_eq (expectant.due? rfl waits).symm
  let late := start.setNow start.initDeadline
  let tied := (late.stimulate .requestShutdown).stimulate (.deliver item)
  have before : Timed start inputs [] tied :=
    ((Timed.start.passes idle start.initDeadline punctual).input .requestShutdown (by simp)).input
      (.deliver item) (by simp)
  have seen : (tied.turn .connection).any (fun taken => decide (taken.1.phase = .initialized)) := by
    decide +kernel
  cases taken : tied.turn .connection with
  | none => simp [taken] at seen
  | some result =>
    obtain ⟨last, past⟩ := result
    have ready : last.phase = .initialized := by simpa [taken] using seen
    have run : Timed start inputs past last := before.turn taken
    have greeted : Greeted past last :=
      (gated_of_reaches run.reaches).1.resolve_left fun ungreeted => ungreeted.phase ready
    obtain ⟨-, _, frame, payload, _, split, -⟩ := greeted
    have initialized : .initialized (last.decorated payload) ∈ past := by simp [split]
    obtain ⟨fate, -, -, -, safe⟩ := init_timeout_is_punctual run
    exact ⟨past, last, _, run, initialized, fate, safe _ initialized⟩

end Session

end SubscriptionGateway
