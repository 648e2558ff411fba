import SubscriptionGateway.Proofs.Outbound.Delivery
import SubscriptionGateway.Proofs.Session.Drops

/-! A connection between its teardown and rest. The registry is closed and every producer that is
left is cancelled, so that each of them has nothing to do but to start, if it has not, and to end;
the writer has what is queued and the close frame left. The number of turns that are left falls with
each turn of a task, so that a connection that was torn down comes to rest. -/
namespace SubscriptionGateway

/-- Tasks that take the given turns, one after the other, come to rest by them. -/
inductive RestsBy {State Task Event : Type} (turn : State → Task → Option (State × List Event)) :
    State → List Task → Prop where
  | waits {s : State} (idle : ∀ task, turn s task = none) : RestsBy turn s []
  | goesOn {s after : State} {task : Task} {events : List Event} {tasks : List Task}
      (taken : turn s task = some (after, events)) (rests : RestsBy turn after tasks) :
      RestsBy turn s (task :: tasks)

def Producer.drops (p : Producer) : List Event :=
  if p.results.isUnfinished then [.abandoned p.id] else []

/-- The operation starts at most, ends as cancelled, drops its results and is not heard of again. -/
def Producer.CutShort (p : Producer) (since : List Event) : Prop :=
  ∃ earlier later,
    since = earlier ++ .operationEnded p.seq p.id .cancelled :: (p.drops ++ later) ∧
      (∀ e ∈ earlier, e.producer? = some p.seq → e = .operationStarted p.seq) ∧
      Untouched p.seq later

namespace Producer

variable {p : Producer} {since : List Event}

theorem CutShort.append (h : p.CutShort since) {later : List Event}
    (untouched : Untouched p.seq later) : p.CutShort (since ++ later) := by
  obtain ⟨earlier, rest, rfl, silent, quiet⟩ := h
  exact ⟨earlier, rest ++ later, by simp, silent, List.forall_mem_append.mpr ⟨quiet, untouched⟩⟩

theorem logs_of_silent {earlier : List Event}
    (silent : ∀ e ∈ earlier, e.producer? = some p.seq → e = .operationStarted p.seq) :
    sentBy p.seq earlier = [] ∧ callsOf p.seq earlier = [] ∧ fatesOf p.seq earlier = [] := by
  have none : ∀ e ∈ earlier,
      e.sent? p.seq = none ∧ e.call? p.seq = none ∧ e.fate? p.seq = none := by
    intro e member
    by_cases mine : e.producer? = some p.seq
    · rw [silent e member mine]
      exact ⟨rfl, rfl, rfl⟩
    · exact Event.eq_none_of_producer?_ne mine
  exact ⟨List.filterMap_eq_nil_iff.mpr fun e member => (none e member).1,
    List.filterMap_eq_nil_iff.mpr fun e member => (none e member).2.1,
    List.filterMap_eq_nil_iff.mpr fun e member => (none e member).2.2⟩

theorem untouched_drops (seq : Nat) : Untouched seq p.drops := by
  unfold drops
  split <;> simp [Untouched, Event.producer?]

theorem CutShort.logs (h : p.CutShort since) :
    sentBy p.seq since = [] ∧ callsOf p.seq since = [] ∧ fatesOf p.seq since = [.cancelled] := by
  obtain ⟨earlier, later, rfl, silent, untouched⟩ := h
  obtain ⟨sent, calls, fates⟩ := logs_of_silent silent
  obtain ⟨sent', calls', fates'⟩ := (p.untouched_drops p.seq).eq_nil
  obtain ⟨sent'', calls'', fates''⟩ := untouched.eq_nil
  simp [Event.sent?, Event.call?, Event.fate?, *]

end Producer

namespace Metrics

theorem operationsCancelled_append (first second : List Event) :
    operationsCancelled (first ++ second) =
      operationsCancelled first + operationsCancelled second := by
  simp [operationsCancelled]

theorem operationsCancelled_of_common {events : List Event} (common : ∀ e ∈ events, e.Common) :
    operationsCancelled events = 0 := by
  refine List.countP_eq_zero.mpr fun e member => ?_
  have none := (common e member).1
  cases e <;> simp_all [Event.producer?, isCancelled]

end Metrics

/-- How many turns are left at most to a writer with so many texts in its queue: two for each text,
and those for what it is at and for an order that it has not seen. -/
def Writer.turnsLeft (w : Writer) (waiting : Nat) : Nat :=
  let unseen := w.closeOrder.toList.length
  match w.activity with
  | .serving | .flushing _ => 2 * waiting + 1 + unseen
  | .writing _ _ _ => 2 * waiting + 2 + unseen
  | .stopped => 0

namespace Writer

variable {w : Writer} {now : Nat} {q : OutboundQueue} {taken : WriterTurn}

theorem turnsLeft_of_stopped (h : w.activity = .stopped) (waiting : Nat) :
    w.turnsLeft waiting = 0 := by
  simp [turnsLeft, h]

theorem turnsLeft_of_ready {closing : Option CloseFrame} (ready : w.activity = afterWrite closing)
    (waiting : Nat) :
    w.turnsLeft waiting = 2 * waiting + 1 + w.closeOrder.toList.length := by
  cases closing <;> simp [turnsLeft, ready, afterWrite]

theorem turnsLeft_pos (going : w.activity ≠ .stopped) (waiting : Nat) :
    0 < w.turnsLeft waiting := by
  cases activity : w.activity with
  | stopped => exact absurd activity going
  | serving | writing | flushing =>
    simp only [turnsLeft, activity]
    omega

theorem Turns.turnsLeft_lt (turned : w.Turns now q taken) :
    taken.writer.turnsLeft taken.queue.messages.length < w.turnsLeft q.messages.length := by
  have positive := turnsLeft_pos turned.going q.messages.length
  cases turned with
  | heeds serving ordered => simp [turnsLeft, serving, ordered]
  | begins ready next =>
    rw [turnsLeft_of_ready ready, (messages_of_take next).1]
    simp only [turnsLeft, List.length_cons]
    omega
  | @delivers text due closing writing =>
    have back : (w.complete text closing q).writer.activity = afterWrite closing := rfl
    rw [turnsLeft_of_ready back]
    simp only [turnsLeft, writing, complete]
    omega
  | fails | isDeserted => rwa [turnsLeft_of_stopped (activity_stop w q [])]
  | @closes frame =>
    have stopped : (w.sendClose frame q).writer.activity = .stopped := by
      unfold sendClose
      split <;> rfl
    rwa [turnsLeft_of_stopped stopped]

end Writer

def Relay.writerTurnsLeft (r : Relay) : Nat :=
  r.writer.elim 0 fun w => w.turnsLeft r.queue.messages.length

theorem Relay.writerTurnsLeft_abortWriter (r : Relay) : r.abortWriter.writerTurnsLeft = 0 := by
  unfold abortWriter
  split
  · next none => simp [writerTurnsLeft, none]
  · rfl

def Stage.turnsLeft : Stage → Nat
  | .closing _ _ => 1
  | .running | .ended _ => 0

namespace Session

variable {since events : List Event} {s after last : Session}

/-- The registry is closed, and every producer that is left is cancelled. -/
structure Unwinding (s : Session) : Prop where
  closed : s.registry.closed = true
  distinct : (s.producers.map Producer.seq).Nodup
  cancelled : ∀ p ∈ s.producers, s.registry.isCancelled p.seq = true

inductive Unwinds (s : Session) : List Event → Session → Prop where
  | rests {events : List Event} {after : Session} (producers : after.producers = s.producers)
      (common : ∀ e ∈ events, e.Common) : Unwinds s events after
  | starts {p : Producer} {after : Session} (member : p ∈ s.producers) (fresh : p.started = false)
      (producers : after.producers =
        Relay.replace s.producers p.seq (.running { p with started := true })) :
      Unwinds s [.operationStarted p.seq] after
  | stops {p : Producer} {after : Session} (member : p ∈ s.producers) (started : p.started = true)
      (producers : after.producers = Relay.replace s.producers p.seq (.ended .cancelled)) :
      Unwinds s (.operationEnded p.seq p.id .cancelled :: p.drops) after

theorem Unwinding.unwinds (unwinding : s.Unwinding) (books : s.Books events after) :
    s.Unwinds events after := by
  cases books with
  | keeps _ producers harmless => exact .rests producers fun e member => (harmless e member).1
  | leaves _ producers | frees _ _ producers => exact .rests producers (by simp)
  | shuts _ producers common => exact .rests producers common
  | enrols _ _ free =>
    have opened := (Registry.register_eq_ok free).1
    simp [unwinding.closed] at opened
  | produces found turned _ producers =>
    have member := List.mem_of_find?_eq_some found
    rcases turned.of_cancelled (unwinding.cancelled _ member) with ⟨fresh, rfl⟩ | ⟨started, rfl⟩
    · exact .starts member fresh producers
    · exact .stops member started producers

theorem Unwinds.seq_mem (unwinds : s.Unwinds events after) {q : Producer}
    (member : q ∈ after.producers) : ∃ p ∈ s.producers, p.seq = q.seq := by
  cases unwinds with
  | rests producers => exact ⟨q, producers ▸ member, rfl⟩
  | @starts p _ known _ producers =>
    rw [producers, Relay.mem_replace_running known] at member
    rcases member with rfl | ⟨old, -⟩
    · exact ⟨p, known, rfl⟩
    · exact ⟨q, old, rfl⟩
  | stops _ _ producers =>
    rw [producers, Relay.mem_replace_ended] at member
    exact ⟨q, member.1, rfl⟩

theorem Unwinding.step (unwinding : s.Unwinding) (books : s.Books events after) :
    after.Unwinding where
  closed := books.closed unwinding.closed
  distinct := by
    cases unwinding.unwinds books with
    | rests producers => rw [producers]; exact unwinding.distinct
    | starts _ _ producers =>
      rw [producers]
      exact Relay.nodup_replace (fun q running => by cases running; rfl) unwinding.distinct
    | stops _ _ producers =>
      rw [producers]
      exact Relay.nodup_replace (fun q running => by cases running) unwinding.distinct
  cancelled q member := by
    obtain ⟨p, known, same⟩ := (unwinding.unwinds books).seq_mem member
    exact books.isCancelled (same ▸ unwinding.cancelled p known)

/-- Each producer that leaves is counted as cancelled, and nothing else is. -/
theorem Unwinds.operationsCancelled_eq (unwinds : s.Unwinds events after)
    (distinct : (s.producers.map Producer.seq).Nodup) :
    Metrics.operationsCancelled events + after.producers.length = s.producers.length := by
  cases unwinds with
  | rests producers common => rw [Metrics.operationsCancelled_of_common common, producers]; omega
  | starts member _ producers =>
    obtain ⟨before, rest, split, replaced⟩ := exists_replace_eq distinct member
    rw [producers, replaced, split]
    simp [ProducerState.remaining, Metrics.operationsCancelled, Metrics.isCancelled]
  | @stops p _ member _ producers =>
    obtain ⟨before, rest, split, replaced⟩ := exists_replace_eq distinct member
    have dropped : Metrics.operationsCancelled p.drops = 0 := by
      unfold Producer.drops
      split <;> rfl
    have counted : Metrics.operationsCancelled
        (.operationEnded p.seq p.id .cancelled :: p.drops) = 1 := by
      rw [← List.singleton_append, Metrics.operationsCancelled_append, dropped]
      rfl
    rw [counted, producers, replaced, split]
    simp only [ProducerState.remaining, List.append_nil, List.length_append, List.length_cons]
    omega

/-- What has become, since the teardown, of an operation that was running then. -/
inductive Cutting (p : Producer) (since : List Event) (s : Session) : Prop where
  | waits {q : Producer} (member : q ∈ s.producers) (id : q.id = p.id) (seq : q.seq = p.seq)
      (results : q.results = p.results)
      (silent : ∀ e ∈ since, e.producer? = some p.seq → e = .operationStarted p.seq)
  | isCut (absent : ∀ q ∈ s.producers, q.seq ≠ p.seq) (cut : p.CutShort since)

theorem silent_append {p : Producer}
    (silent : ∀ e ∈ since, e.producer? = some p.seq → e = .operationStarted p.seq)
    (untouched : Untouched p.seq events) :
    ∀ e ∈ since ++ events, e.producer? = some p.seq → e = .operationStarted p.seq := by
  intro e member mine
  rcases List.mem_append.mp member with old | new
  · exact silent e old mine
  · exact absurd mine (untouched e new)

theorem Cutting.step {p : Producer} (cutting : Cutting p since s) (unwinding : s.Unwinding)
    (books : s.Books events after) : Cutting p (since ++ events) after := by
  have unwinds := unwinding.unwinds books
  cases cutting with
  | isCut absent cut =>
    refine .isCut (fun q member => ?_) (cut.append (books.untouched absent))
    obtain ⟨r, known, same⟩ := unwinds.seq_mem member
    exact same ▸ absent r known
  | @waits q member id seq results silent =>
    cases unwinds with
    | rests producers common =>
      exact .waits (producers ▸ member) id seq results
        (silent_append silent (untouched_of_common common p.seq))
    | @starts r _ known fresh producers =>
      by_cases same : q.seq = r.seq
      · -- The turn is its own: it starts, and waits for another.
        obtain rfl := eq_of_seq_eq unwinding.distinct member known same
        refine .waits (q := { q with started := true }) ?_ id seq results ?_
        · rw [producers]
          exact (Relay.mem_replace_running member).mpr (.inl rfl)
        · intro e new mine
          rcases List.mem_append.mp new with old | new
          · exact silent e old mine
          · rw [List.mem_singleton.mp new, seq]
      · refine .waits (producers ▸ Relay.mem_replace_of_ne member same) id seq results ?_
        refine silent_append silent ?_
        simpa [Untouched, Event.producer?, ← seq] using Ne.symm same
    | @stops r _ known started producers =>
      by_cases same : q.seq = r.seq
      · -- Here it ends, and nothing follows so far.
        obtain rfl := eq_of_seq_eq unwinding.distinct member known same
        refine .isCut ?_ ⟨since, [], ?_, silent, by simp [Untouched]⟩
        · rw [producers, ← seq]
          exact fun other kept => (Relay.mem_replace_ended.mp kept).2
        · simp [Producer.drops, id, seq, results]
      · refine .waits (producers ▸ Relay.mem_replace_of_ne member same) id seq results ?_
        refine silent_append silent (List.forall_mem_cons.mpr ⟨?_, r.untouched_drops p.seq⟩)
        simpa [Event.producer?, ← seq] using Ne.symm same

def turnsLeft : List Producer → Nat
  | [] => 0
  | p :: rest => (if p.started then 1 else 2) + turnsLeft rest

theorem turnsLeft_append (first second : List Producer) :
    turnsLeft (first ++ second) = turnsLeft first + turnsLeft second := by
  induction first with
  | nil => simp [turnsLeft]
  | cons p rest ih => simp only [List.cons_append, turnsLeft, ih]; omega

theorem turnsLeft_le (producers : List Producer) : turnsLeft producers ≤ 2 * producers.length := by
  induction producers with
  | nil => simp [turnsLeft]
  | cons p rest ih =>
    simp only [turnsLeft, List.length_cons]
    split <;> omega

end Session

namespace Relay

open Session (turnsLeft turnsLeft_append exists_replace_eq)

structure Waning (r : Relay) : Prop where
  distinct : (r.producers.map Producer.seq).Nodup
  cancelled : ∀ p ∈ r.producers, r.registry.isCancelled p.seq = true

inductive Wanes (r : Relay) : List Event → Relay → Prop where
  | writes {w : Writer} {taken : WriterTurn} (present : r.writer = some w)
      (turned : w.turn r.now r.queue = some taken) :
      Wanes r taken.events { r with writer := some taken.writer, queue := taken.queue }
  | produces {producers : List Producer} {events : List Event}
      (unsent : deliveredFrames events = [])
      (fewer : turnsLeft producers < turnsLeft r.producers)
      (distinct : (producers.map Producer.seq).Nodup)
      (cancelled : ∀ p ∈ producers, r.registry.isCancelled p.seq = true) :
      Wanes r events { r with producers }

variable {r after : Relay} {events : List Event}

theorem Waning.wanes (waning : r.Waning) {task : RelayTask}
    (h : r.turn task = some (after, events)) : r.Wanes events after := by
  cases task with
  | writer =>
    simp only [Relay.turn] at h
    split at h
    · cases h
    · next w present =>
      obtain ⟨taken, turned, made⟩ := Option.map_eq_some_iff.mp h
      cases made
      exact .writes present turned
  | producer seq =>
    obtain ⟨p, taken, found, turned, rfl, rfl⟩ := turns_of_producerTurn h
    have member := List.mem_of_find?_eq_some found
    have stopped := waning.cancelled p member
    have unsent := turned.feeds.silent
    obtain ⟨before, rest, split, replaced⟩ := exists_replace_eq waning.distinct member
    rcases turned.of_cancelled stopped with ⟨fresh, rfl⟩ | ⟨started, rfl⟩
    · refine .produces unsent ?_ ?_ ?_
      · rw [replaced, split]
        simp [Producer.start, ProducerState.remaining, turnsLeft_append, turnsLeft, fresh]
      · refine nodup_replace (fun q running => ?_) waning.distinct
        cases running
        rfl
      · intro q kept
        rcases (mem_replace_running member).mp kept with rfl | ⟨old, -⟩
        · exact stopped
        · exact waning.cancelled q old
    · refine .produces unsent ?_ ?_ ?_
      · rw [replaced, split]
        simp [Producer.finish, ProducerState.remaining, turnsLeft_append, turnsLeft, started]
      · refine nodup_replace (fun q running => ?_) waning.distinct
        cases running
      · exact fun q kept => waning.cancelled q (mem_replace_ended.mp kept).1

theorem Wanes.waning (wanes : r.Wanes events after) (waning : r.Waning) : after.Waning := by
  cases wanes with
  | writes => exact ⟨waning.distinct, waning.cancelled⟩
  | produces _ _ distinct cancelled => exact ⟨distinct, cancelled⟩

theorem Wanes.turnsLeft_lt (wanes : r.Wanes events after) :
    after.writerTurnsLeft + turnsLeft after.producers <
      r.writerTurnsLeft + turnsLeft r.producers := by
  cases wanes with
  | writes present turned =>
    have fewer := (Writer.turns_of_turn turned).turnsLeft_lt
    simpa [writerTurnsLeft, present] using fewer
  | produces _ fewer => simpa [writerTurnsLeft] using fewer

end Relay

namespace Session

variable {since events : List Event} {s after last : Session}

def turnsToRest (s : Session) : Nat :=
  s.stage.turnsLeft + s.toRelay.writerTurnsLeft + turnsLeft s.producers

structure Retiring (s : Session) : Prop where
  orderly : s.Orderly
  closed : s.phase = .closed
  unwinding : s.Unwinding

theorem Retiring.turn_connection (retiring : s.Retiring)
    (h : s.turn .connection = some (after, events)) :
    after.phase = .closed ∧ after.turnsToRest < s.turnsToRest := by
  simp only [turn, connectionTurn] at h
  split at h
  · next running => exact absurd retiring.closed (retiring.orderly.running.mp running)
  · next reason deadline waiting =>
    split at h
    · cases h
      refine ⟨retiring.closed, ?_⟩
      simp [turnsToRest, waiting, Stage.turnsLeft]
    · split at h
      · cases h
        refine ⟨retiring.closed, ?_⟩
        simp only [turnsToRest, waiting, Stage.turnsLeft, Relay.writerTurnsLeft_abortWriter,
          Relay.producers_abortWriter]
        omega
      · cases h
  · cases h

theorem Retiring.turn_relay (retiring : s.Retiring) {task : RelayTask} {relay : Relay}
    (h : s.toRelay.turn task = some (relay, events)) :
    relay.writerTurnsLeft + turnsLeft relay.producers <
      s.toRelay.writerTurnsLeft + turnsLeft s.producers :=
  have waning : s.toRelay.Waning := ⟨retiring.unwinding.distinct, retiring.unwinding.cancelled⟩
  (waning.wanes h).turnsLeft_lt

/-- Each turn of a connection that has been torn down leaves it fewer. -/
theorem Retiring.turn (retiring : s.Retiring) {task : SessionTask}
    (h : s.turn task = some (after, events)) :
    after.Retiring ∧ after.turnsToRest < s.turnsToRest := by
  have does := does_of_turn retiring.orderly h
  have orderly := does.orderly retiring.orderly
  have unwinding := retiring.unwinding.step (books_of_does retiring.orderly does)
  cases task with
  | connection =>
    obtain ⟨closed, fewer⟩ := retiring.turn_connection h
    exact ⟨⟨orderly, closed, unwinding⟩, fewer⟩
  | relay task =>
    obtain ⟨⟨relay, caused⟩, turned, made⟩ := Option.map_eq_some_iff.mp h
    cases made
    have fewer := retiring.turn_relay turned
    refine ⟨⟨orderly, retiring.closed, unwinding⟩, ?_⟩
    simp only [turnsToRest]
    omega

theorem Retiring.stimulate (retiring : s.Retiring) (cause : Stimulus) :
    (s.stimulate cause).Retiring ∧ (s.stimulate cause).turnsToRest = s.turnsToRest := by
  have does : s.Does [] (s.stimulate cause) := .isStirred cause
  have unwinding := retiring.unwinding.step (books_of_does retiring.orderly does)
  have orderly := does.orderly retiring.orderly
  cases cause with
  | losePeer =>
    refine ⟨⟨orderly, retiring.closed, unwinding⟩, ?_⟩
    cases present : s.writer <;>
      simp [Session.stimulate, losePeer, turnsToRest, Relay.writerTurnsLeft, present,
        Writer.turnsLeft]
  | deliver | disconnect | requestShutdown | closeRegistry | changeEngine | clock =>
    exact ⟨⟨orderly, retiring.closed, unwinding⟩, rfl⟩

def Move.isTurn : Move → Bool
  | .turn _ => true
  | .stimulus _ => false

/-- Whatever the surroundings do, a connection that has been torn down takes no more turns than it
has left. -/
theorem Retiring.countP_isTurn {moves : List Move} (retiring : s.Retiring)
    (played : play moves s = some (events, last)) :
    moves.countP Move.isTurn + last.turnsToRest ≤ s.turnsToRest := by
  induction moves generalizing s events with
  | nil => cases played; simp
  | cons m rest ih =>
    obtain ⟨middle, first, later, made, onwards, -⟩ := play_cons_eq_some played
    cases m with
    | turn task =>
      obtain ⟨still, fewer⟩ := retiring.turn made
      have more := ih still onwards
      simp only [List.countP_cons, Move.isTurn, if_true]
      omega
    | stimulus cause =>
      cases made
      obtain ⟨still, same⟩ := retiring.stimulate cause
      simpa [Move.isTurn, same] using ih still onwards

theorem Known.retiring {past : List Event} (known : Known past s) (closed : s.phase = .closed) :
    s.Retiring := by
  have registry := known.orderly.tornDown closed
  have empty := Registry.entries_nil_iff.mp (known.orderly.sound.emptied registry)
  refine ⟨known.orderly, closed, registry, known.enrolled.distinct, fun p member => ?_⟩
  exact (known.tenured.running p member).resolve_left (by simp [empty])

theorem Retiring.exists_rest {s : Session} (retiring : s.Retiring) :
    ∃ tasks, RestsBy Session.turn s tasks := by
  by_cases idle : s.Idle
  · exact ⟨[], .waits idle⟩
  · obtain ⟨task, able⟩ := Classical.not_forall.mp idle
    obtain ⟨⟨middle, events⟩, taken⟩ := Option.ne_none_iff_exists'.mp able
    obtain ⟨still, fewer⟩ := retiring.turn taken
    obtain ⟨tasks, rests⟩ := still.exists_rest
    exact ⟨task :: tasks, .goesOn taken rests⟩
termination_by s.turnsToRest

/-- When the task has ended and the writer has stopped, only the producers are left. -/
theorem turnsToRest_of_ended {outcome : Outcome} (ended : s.stage = .ended outcome)
    (stopped : s.writerStopped = true) : s.turnsToRest = turnsLeft s.producers := by
  have written : s.toRelay.writerTurnsLeft = 0 := by
    cases present : s.writer with
    | none => simp [Relay.writerTurnsLeft, present]
    | some w =>
      have silent : w.activity = .stopped := by
        simpa [Relay.writerStopped, present, Writer.isStopped] using stopped
      simpa [Relay.writerTurnsLeft, present] using Writer.turnsLeft_of_stopped silent _
  simp [turnsToRest, ended, Stage.turnsLeft, written]

end Session

end SubscriptionGateway
