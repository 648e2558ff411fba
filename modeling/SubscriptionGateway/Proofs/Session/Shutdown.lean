import SubscriptionGateway.Proofs.Session.InitTimeout
import SubscriptionGateway.Proofs.Session.Teardown

/-! A shutdown of the server, as one of its connections sees it. The shutdown is looked at last,
after an overflow, after whatever has arrived and after the deadline of the handshake; but a
connection cannot come to rest before it has looked at it, and nothing keeps it from there. -/
namespace SubscriptionGateway

def Event.heard? : Event → Option InboundItem
  | .arrived item => item
  | _ => none

/-- Whether a connection takes what has arrived, or is closed by its server. -/
def Event.Attends : Event → Prop
  | .arrived _ | .closing _ => True
  | _ => False

def heard (events : List Event) : List InboundItem := events.filterMap Event.heard?

theorem heard_append (first second : List Event) :
    heard (first ++ second) = heard first ++ heard second := List.filterMap_append

theorem Inbound.items_of_next {i rest : Inbound} {item : InboundItem}
    (next : i.next = .item item rest) : i.items = item :: rest.items := by
  unfold Inbound.next at next
  split at next
  · next items =>
    cases next
    exact items
  · split at next <;> cases next

namespace Session

variable {past since events : List Event} {s t u after last : Session} {cause : List Event}

/-- The step that tears a connection down, for the first of the reasons that there are when it is
taken; the shutdown is the last. -/
inductive Leaves (t : Session) : List Event → Session → Prop where
  | overflows (full : t.queue.overflowed = true) :
      Leaves t [.closing .outboundOverflow] (t.close .outboundOverflow).1
  | hears {item : InboundItem} {rest : Inbound} (room : t.queue.overflowed = false)
      (next : t.inbound.next = .item item rest) :
      Leaves t (.arrived (some item) :: ({ t with inbound := rest }.takeItem item).2)
        ({ t with inbound := rest }.takeItem item).1
  | hearsEnd (room : t.queue.overflowed = false) (next : t.inbound.next = .ended) :
      Leaves t [.arrived none, .ended .peerClosed] (t.endWith .peerClosed).1
  | timesOut (room : t.queue.overflowed = false) (next : t.inbound.next = .pending)
      (fresh : t.phase = .uninitialized) (due : t.initDeadline ≤ t.now) :
      Leaves t [.closing .initTimeout] (t.close .initTimeout).1
  | goesAway (room : t.queue.overflowed = false) (next : t.inbound.next = .pending)
      (early : t.phase = .uninitialized → t.now < t.initDeadline) (asked : t.shutdown = true) :
      Leaves t [.closing .goingAway] (t.close .goingAway).1

theorem leaves_of_idleTurn (room : s.queue.overflowed = false) (next : s.inbound.next = .pending)
    (opened : s.phase ≠ .closed) (taken : s.idleTurn = some (after, events))
    (closed : after.phase = .closed) : s.Leaves events after := by
  unfold idleTurn at taken
  split at taken
  · next late =>
    cases taken
    exact .timesOut room next late.1 late.2
  · next early =>
    split at taken
    · next asked =>
      cases taken
      exact .goesAway room next (fun fresh => Nat.not_le.mp fun due => early ⟨fresh, due⟩) asked
    · split at taken
      · -- A tick does not close anything.
        unfold tick at taken
        split at taken
        · split at taken
          · cases taken
            exact absurd closed opened
          · cases taken
        · cases taken
      · cases taken

theorem TearsDown.leaves (tears : TearsDown t cause u) (orderly : t.Orderly) :
    t.Leaves cause u := by
  obtain ⟨step, opened, closed⟩ := tears
  cases step with
  | stimulus cause => cases cause <;> exact absurd closed opened
  | task taken =>
    rename_i task
    cases task with
    | relay task =>
      obtain ⟨made, -, same⟩ := Option.map_eq_some_iff.mp taken
      cases same
      exact absurd closed opened
    | connection =>
      have running := orderly.running.mpr opened
      cases room : t.queue.overflowed with
      | true =>
        simp only [turn, connectionTurn, running, room, if_true] at taken
        cases taken
        exact .overflows room
      | false =>
        cases next : t.inbound.next with
        | item item rest =>
          have turned := connectionTurn_of_next running room next
          cases Option.some.inj (turned.symm.trans taken)
          exact .hears room next
        | ended =>
          simp only [turn, connectionTurn, running, room, next, Bool.false_eq_true,
            if_false] at taken
          cases taken
          exact .hearsEnd room next
        | pending =>
          simp only [turn, connectionTurn, running, room, next, Bool.false_eq_true,
            if_false] at taken
          exact leaves_of_idleTurn room next opened taken closed

theorem heard_enqueue (q : OutboundQueue) (source : Source) (message : Message) :
    heard (q.enqueue source message).2.2 = [] := by
  refine List.filterMap_eq_nil_iff.mpr fun e member => ?_
  rcases OutboundQueue.mem_enqueue member with rfl | ⟨why, rfl⟩ | rfl <;> rfl

theorem Takes.heard_eq {item : InboundItem} (taken : s.Takes item events after) :
    heard events = [] := by
  cases taken with
  | parts | breaks | rejects | objects | enrols | cancels | ignores => rfl
  | greets => exact heard_enqueue _ _ _
  | replies => exact heard_enqueue _ _ _

theorem heard_of_causes {p : Producer} {registry after : Registry}
    (caused : ∀ e ∈ events, p.Causes registry after e) : heard events = [] :=
  List.filterMap_eq_nil_iff.mpr fun e member => by cases caused e member <;> rfl

theorem Takes.inbound {item : InboundItem} (taken : s.Takes item events after)
    (running : after.stage = .running) : after.inbound = s.inbound := by
  cases taken with
  | parts | breaks | rejects | objects => cases running
  | greets | enrols | cancels | replies | ignores => rfl

/-- A connection takes what has arrived in its order, as long as it runs. -/
theorem Does.hears_in_order (does : s.Does events after) (running : after.stage = .running) :
    ∃ delivered, s.inbound.items ++ delivered = heard events ++ after.inbound.items := by
  cases does with
  | @writes writer taken present turned =>
    have silent : heard taken.events = [] := List.filterMap_eq_nil_iff.mpr fun e member => by
      obtain ⟨frame, rfl⟩ := turned.delivered e member
      rfl
    exact ⟨[], by simp [silent]⟩
  | produces found turned => exact ⟨[], by rw [heard_of_causes turned.causes]; simp⟩
  | overflows | timesOut | goesAway | finishes | hearsEnd | givesUp => cases running
  | hears runs room next taken =>
    rename_i item rest later
    have onwards : heard (.arrived (some item) :: later) = item :: heard later := rfl
    rw [onwards, taken.heard_eq, taken.inbound running, Inbound.items_of_next next]
    exact ⟨[], List.append_nil _⟩
  | ticks => exact ⟨[], by simp [heard_enqueue, send_eq]⟩
  | isStirred cause =>
    cases cause with
    | deliver item =>
      by_cases taken : s.inbound.connected && s.inbound.isRead
      · exact ⟨[item], by simp [stimulate, Inbound.deliver, taken, heard]⟩
      · exact ⟨[], by simp [stimulate, Inbound.deliver, taken, heard]⟩
    | _ => exact ⟨[], List.append_nil _⟩

/-- A connection that is closing or closed takes nothing and closes no more, and stays so. -/
theorem Does.deaf (does : s.Does events after) (orderly : s.Orderly) (closed : s.phase = .closed) :
    after.phase = .closed ∧ ∀ e ∈ events, ¬ e.Attends := by
  have finished : s.stage ≠ .running := fun running => orderly.running.mp running closed
  cases does with
  | writes present turned =>
    refine ⟨closed, fun e member => ?_⟩
    obtain ⟨frame, rfl⟩ := turned.delivered e member
    exact not_false
  | produces found turned =>
    exact ⟨closed, fun e member => by cases turned.causes e member <;> exact not_false⟩
  | overflows running | timesOut running | goesAway running | hearsEnd running | hears running
  | ticks running => exact absurd running finished
  | finishes | givesUp => exact ⟨closed, by simp [Event.Attends]⟩
  | isStirred cause => cases cause <;> exact ⟨closed, by simp⟩

theorem Reaches.deaf (run : Reaches s events last) (orderly : s.Orderly)
    (closed : s.phase = .closed) : last.phase = .closed ∧ ∀ e ∈ events, ¬ e.Attends := by
  induction run with
  | refl => exact ⟨closed, by simp⟩
  | step head tail ih =>
    have does := does_of_step orderly head
    obtain ⟨still, silent⟩ := does.deaf orderly closed
    obtain ⟨ends, quiet⟩ := ih (does.orderly orderly) still
    exact ⟨ends, List.forall_mem_append.mpr ⟨silent, quiet⟩⟩

/-- What waited at the beginning has been taken first, or waits still. -/
theorem Reaches.hears_in_order (run : Reaches s events last) (orderly : s.Orderly)
    (running : last.stage = .running) :
    ∃ delivered, s.inbound.items ++ delivered = heard events ++ last.inbound.items := by
  induction run with
  | refl => exact ⟨[], List.append_nil _⟩
  | @step s middle last first rest head tail ih =>
    have does := does_of_step orderly head
    obtain ⟨later, order⟩ := ih (does.orderly orderly) running
    have opened : last.phase ≠ .closed :=
      (orderly_of_reaches tail (does.orderly orderly)).running.mp running
    have stillRunning : middle.stage = .running := (does.orderly orderly).running.mpr fun closed =>
      opened (tail.deaf (does.orderly orderly) closed).1
    obtain ⟨delivered, before⟩ := does.hears_in_order stillRunning
    refine ⟨delivered ++ later, ?_⟩
    rw [heard_append, List.append_assoc, ← order, ← List.append_assoc, before, List.append_assoc]

theorem Does.shutdown (does : s.Does events after) (asked : s.shutdown = true) :
    after.shutdown = true := by
  cases does with
  | hears runs room next taken => cases taken <;> exact asked
  | isStirred cause => cases cause <;> first | exact asked | rfl
  | _ => exact asked

theorem Reaches.shutdown (run : Reaches s events last) (orderly : s.Orderly)
    (asked : s.shutdown = true) : last.shutdown = true := by
  induction run with
  | refl => exact asked
  | step head tail ih =>
    have does := does_of_step orderly head
    exact ih (does.orderly orderly) (does.shutdown asked)

/-- Nothing that runs waits before it has looked at the shutdown. -/
theorem exists_turn_of_shutdown (orderly : s.Orderly) (asked : s.shutdown = true)
    (opened : s.phase ≠ .closed) : ∃ after events, s.turn .connection = some (after, events) := by
  have running := orderly.running.mpr opened
  simp only [turn, connectionTurn, running, idleTurn, asked, if_true]
  split
  · exact ⟨_, _, rfl⟩
  · split
    · exact ⟨_, _, rfl⟩
    · exact ⟨_, _, rfl⟩
    · split <;> exact ⟨_, _, rfl⟩

theorem closed_of_shutdown (idle : s.Idle) (orderly : s.Orderly) (asked : s.shutdown = true) :
    s.phase = .closed := by
  refine Decidable.byContradiction fun opened => ?_
  obtain ⟨after, events, taken⟩ := exists_turn_of_shutdown orderly asked opened
  simp [idle .connection] at taken

/-- How many turns are left at most to the task of a connection that is asked to shut down: one for
each item that waits, one to close, and one to end. -/
def taskTurnsLeft (s : Session) : Nat :=
  match s.stage with
  | .running => s.inbound.items.length + 2
  | .closing _ _ => 1
  | .ended _ => 0

theorem taskTurnsLeft_of_running (running : s.stage = .running) :
    s.taskTurnsLeft = s.inbound.items.length + 2 := by
  simp [taskTurnsLeft, running]

theorem taskTurnsLeft_le_one (finished : s.stage ≠ .running) : s.taskTurnsLeft ≤ 1 := by
  unfold taskTurnsLeft
  split
  · next running => exact absurd running finished
  · exact Nat.le_refl 1
  · exact Nat.zero_le 1

theorem taskTurnsLeft_le (s : Session) : s.taskTurnsLeft ≤ s.inbound.items.length + 2 := by
  by_cases running : s.stage = .running
  · exact Nat.le_of_eq (taskTurnsLeft_of_running running)
  · have few := taskTurnsLeft_le_one running
    omega

theorem taskTurnsLeft_of_hears {item : InboundItem} {rest : Inbound} (orderly : s.Orderly)
    (running : s.stage = .running) (next : s.inbound.next = .item item rest) :
    ({ s with inbound := rest }.takeItem item).1.taskTurnsLeft < s.taskTurnsLeft := by
  have heard : ({ s with inbound := rest } : Session).Orderly :=
    orderly.of_registry rfl rfl rfl id orderly.sound
  have taken := takes_takeItem heard running item
  rw [taskTurnsLeft_of_running running, Inbound.items_of_next next, List.length_cons]
  by_cases still : ({ s with inbound := rest }.takeItem item).1.stage = .running
  · rw [taskTurnsLeft_of_running still, taken.inbound still]
    exact Nat.lt_succ_self _
  · have few := taskTurnsLeft_le_one still
    omega

theorem taskTurnsLeft_of_turn (orderly : s.Orderly) (asked : s.shutdown = true)
    (h : s.turn .connection = some (after, events)) : after.taskTurnsLeft < s.taskTurnsLeft := by
  simp only [turn, connectionTurn] at h
  split at h
  · next running =>
    have leaves (finished : after.stage ≠ .running) : after.taskTurnsLeft < s.taskTurnsLeft := by
      have few := taskTurnsLeft_le_one finished
      rw [taskTurnsLeft_of_running running]
      omega
    split at h
    · cases h; exact leaves (by simp)
    · split at h
      · next item rest next =>
        have heard : after = ({ s with inbound := rest }.takeItem item).1 :=
          (congrArg Prod.fst (Option.some.inj h)).symm
        rw [heard]
        exact taskTurnsLeft_of_hears orderly running next
      · cases h; exact leaves (by simp [endWith, finish])
      · simp only [idleTurn, asked, if_true] at h
        split at h <;> cases h <;> exact leaves (by simp)
  · next reason deadline waiting =>
    have one : s.taskTurnsLeft = 1 := by simp [taskTurnsLeft, waiting]
    rw [one]
    split at h
    · cases h; exact Nat.one_pos
    · split at h
      · cases h; exact Nat.one_pos
      · cases h
  · cases h

def Move.isConnectionTurn : Move → Bool
  | .turn .connection => true
  | _ => false

def Move.delivers : Move → Bool
  | .stimulus (.deliver _) => true
  | _ => false

theorem taskTurnsLeft_of_move (orderly : s.Orderly) (asked : s.shutdown = true) {m : Move}
    (h : s.move m = some (after, events)) :
    after.taskTurnsLeft + (if m.isConnectionTurn then 1 else 0) ≤
      s.taskTurnsLeft + if m.delivers then 1 else 0 := by
  cases m with
  | turn task =>
    cases task with
    | connection => exact taskTurnsLeft_of_turn orderly asked h
    | relay task =>
      obtain ⟨_, -, made⟩ := Option.map_eq_some_iff.mp h
      cases made
      exact Nat.le_refl _
  | stimulus cause =>
    cases h
    cases cause with
    | deliver item =>
      cases stage : s.stage with
      | running =>
        rw [taskTurnsLeft_of_running stage]
        have longer : (s.inbound.deliver item).1.items.length ≤ s.inbound.items.length + 1 := by
          unfold Inbound.deliver
          split <;> simp
        have most := (s.stimulate (.deliver item)).taskTurnsLeft_le
        simp only [stimulate, Move.isConnectionTurn, Move.delivers, Bool.false_eq_true, if_false,
          if_true] at most ⊢
        omega
      | closing | ended => simp [taskTurnsLeft, stimulate, stage, Move.isConnectionTurn]
    | disconnect | losePeer | requestShutdown | closeRegistry | changeEngine | clock =>
      exact Nat.le_refl _

/-- Whatever else goes on, the task of a connection that is asked to shut down takes no more turns
than it has left. -/
theorem countP_isConnectionTurn {moves : List Move} (orderly : s.Orderly)
    (asked : s.shutdown = true) (played : play moves s = some (events, last)) :
    moves.countP Move.isConnectionTurn + last.taskTurnsLeft ≤
      s.taskTurnsLeft + moves.countP Move.delivers := by
  induction moves generalizing s events with
  | nil => cases played; simp
  | cons m rest ih =>
    obtain ⟨middle, first, later, made, onwards, -⟩ := play_cons_eq_some played
    have does := does_of_step orderly (step_of_move made)
    have fewer := taskTurnsLeft_of_move orderly asked made
    have more := ih (does.orderly orderly) (does.shutdown asked) onwards
    simp only [List.countP_cons]
    omega

/-- How a connection that was open when the shutdown was requested, in the state `s`, is torn down:
in one step that is taken between the request and the rest. Before that step the connection takes
what waited for it, in its order; after it nothing more. The step cancels each entry of the
registry, and nothing is left at rest. -/
structure Withdraws (past : List Event) (s : Session) (before : List Event) (t : Session)
    (cause : List Event) (u : Session) (later : List Event) (last : Session) : Prop where
  run : Reaches (s.stimulate .requestShutdown) before t
  leaves : t.Leaves cause u
  rest : Reaches u later last
  asked : t.shutdown = true
  inOrder : ∃ delivered, s.inbound.items ++ delivered = heard before ++ t.inbound.items
  deaf : ∀ e ∈ later, ¬ e.Attends
  notBefore : s.now ≤ t.now
  notAfter : t.now ≤ last.now
  deadline : t.initDeadline = s.initDeadline
  cancelled : ∀ id seq, (id, seq) ∈ t.registry.entries → last.registry.isCancelled seq = true
  cleared : Cleared (past ++ before) t (cause ++ later) last

/-- Where a connection is at rest after a shutdown that was requested in the state `s`. -/
structure ShutDown (past : List Event) (s : Session) (since : List Event) (last : Session) :
    Prop where
  closed : last.phase = .closed
  registry : last.registry.closed = true ∧ last.registry.entries = []
  gone : last.producers = []
  settled : ∀ id seq, .registered id seq ∈ past ++ since →
    ∃ how, fatesOf seq (past ++ since) = [how]
  told : Told (past ++ since) last
  /-- Whatever comes later, nothing is taken and nothing is started. -/
  deserted : ∀ later final, Reaches last later final → ∀ e ∈ later, ¬ e.Serves ∧ ¬ e.Attends
  withdraws : s.phase ≠ .closed → ∃ before t cause u later,
    since = before ++ (cause ++ later) ∧ Withdraws past s before t cause u later last
  /-- A connection that was closing already is left alone. -/
  closing : s.phase = .closed → ∀ e ∈ since, ¬ e.Attends

/-- A connection that comes to rest. Its tasks can be run until all of them wait; and nobody can
keep its own task from its end, which after a turn for each item it gets, one to close and one to
end is over. -/
structure Settles (s : Session) : Prop where
  rests : ∃ tasks, RestsBy Session.turn s tasks
  own : ∀ moves events last, play moves s = some (events, last) →
    moves.countP Move.isConnectionTurn ≤ s.inbound.items.length + moves.countP Move.delivers + 2

section Runs

variable {config : SessionConfig} {connectionId : String} {engine : Engine}
  {interceptors : InterceptorChain} {half : WriteHalf} {now : Nat} {shutdown : Bool}

/-- It comes to rest if its own task goes first, and then what that leaves behind. -/
theorem exists_rest_of_shutdown {past : List Event} {s : Session}
    (run : Reaches (.new config connectionId engine interceptors half now shutdown) past s)
    (asked : s.shutdown = true) : ∃ tasks, RestsBy Session.turn s tasks := by
  have known := known_of_reaches run
  by_cases closed : s.phase = .closed
  · exact (known.retiring closed).exists_rest
  · obtain ⟨middle, events, taken⟩ := exists_turn_of_shutdown known.orderly asked closed
    have fewer := taskTurnsLeft_of_turn known.orderly asked taken
    have still := (does_of_turn known.orderly taken).shutdown asked
    obtain ⟨tasks, rests⟩ := exists_rest_of_shutdown (run.snoc (.task taken)) still
    exact ⟨.connection :: tasks, .goesOn taken rests⟩
termination_by s.taskTurnsLeft

theorem settles_of_shutdown
    (run : Reaches (.new config connectionId engine interceptors half now shutdown) past s)
    (asked : s.shutdown = true) : s.Settles := by
  refine ⟨exists_rest_of_shutdown run asked, fun moves events last played => ?_⟩
  have turns := countP_isConnectionTurn (known_of_reaches run).orderly asked played
  have most := s.taskTurnsLeft_le
  omega

theorem withdraws_of_reaches
    (early : Reaches (.new config connectionId engine interceptors half now shutdown) past s)
    (late : Reaches (s.stimulate .requestShutdown) since last) (idle : last.Idle)
    (opened : s.phase ≠ .closed) (closed : last.phase = .closed) :
    ∃ before t cause u later,
      since = before ++ (cause ++ later) ∧ Withdraws past s before t cause u later last := by
  have requested : Reaches (.new config connectionId engine interceptors half now shutdown) past
      (s.stimulate .requestShutdown) := by
    simpa using early.snoc (.stimulus s .requestShutdown)
  have orderly := (known_of_reaches requested).orderly
  obtain ⟨before, t, cause, u, later, run, tears, rest, rfl⟩ := late.exists_teardown opened closed
  have ran := requested.trans run
  have known := known_of_reaches ran
  have orderlyU := (does_of_step known.orderly tears.step).orderly known.orderly
  have running := known.orderly.running.mpr tears.opened
  have clock := run.clock orderly
  have onwards := (Reaches.step tears.step rest).clock known.orderly
  exact ⟨before, t, cause, u, later, rfl, run, tears.leaves known.orderly, rest,
    run.shutdown orderly rfl, run.hears_in_order orderly running,
    (rest.deaf orderlyU tears.closed).2, clock.1, onwards.1, clock.2,
    ((known.torn tears).run orderlyU rest).cancelled, cleared_at_rest ran tears rest idle⟩

theorem shutDown_of_reaches
    (early : Reaches (.new config connectionId engine interceptors half now shutdown) past s)
    (late : Reaches (s.stimulate .requestShutdown) since last) (idle : last.Idle) :
    ShutDown past s since last := by
  have requested : Reaches (.new config connectionId engine interceptors half now shutdown) past
      (s.stimulate .requestShutdown) := by
    simpa using early.snoc (.stimulus s .requestShutdown)
  have orderly := (known_of_reaches requested).orderly
  have whole := requested.trans late
  have known := known_of_reaches whole
  have closed := closed_of_shutdown idle known.orderly (late.shutdown orderly rfl)
  have deserted := known.deserted idle closed
  have registry := known.orderly.tornDown closed
  refine ⟨closed, ⟨registry, known.orderly.sound.emptied registry⟩, deserted.empty,
    fun id seq made => ?_, told_of_reaches whole, fun later final onwards e member =>
      ⟨deserted.run known.orderly onwards e member, (onwards.deaf known.orderly closed).2 e member⟩,
    fun opened => withdraws_of_reaches early late idle opened closed,
    fun closing => (late.deaf orderly closing).2⟩
  have settled := known.enrolled.settled _ (mem_registrations.mpr made)
  exact (settled.resolve_left (by simp [deserted.empty])).2

end Runs

end Session

end SubscriptionGateway
