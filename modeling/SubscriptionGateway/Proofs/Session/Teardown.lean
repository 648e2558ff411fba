import SubscriptionGateway.Proofs.Session.Delivery
import SubscriptionGateway.Proofs.Session.Unwinding

/-! The teardown of a connection, on every way out. There is one step in which the phase is closed:
it closes the registry and leaves the producers as they are, wherever they stand. From there on the
connection unwinds, and at rest each operation that was running has been cut short. -/
namespace SubscriptionGateway.Session

variable {past since events : List Event} {s after last t u : Session} {cause : List Event}

structure TearsDown (t : Session) (cause : List Event) (u : Session) : Prop where
  step : Step t cause u
  opened : t.phase ≠ .closed
  closed : u.phase = .closed

theorem Reaches.exists_teardown (run : Reaches s events last) (opened : s.phase ≠ .closed)
    (closed : last.phase = .closed) :
    ∃ before t cause u later, Reaches s before t ∧ TearsDown t cause u ∧ Reaches u later last ∧
      events = before ++ (cause ++ later) := by
  induction run with
  | refl => exact absurd closed opened
  | @step s middle last first rest head tail ih =>
    by_cases torn : middle.phase = .closed
    · exact ⟨[], s, first, middle, rest, .refl s, ⟨head, opened, torn⟩, tail, rfl⟩
    · obtain ⟨before, t, cause, u, later, run, tears, onwards, rfl⟩ := ih torn closed
      exact ⟨first ++ before, t, cause, u, later, .step head run, tears, onwards, by simp⟩

theorem Does.closes_registry (does : s.Does events after) (opened : s.phase ≠ .closed)
    (closed : after.phase = .closed) :
    after.registry = s.registry.close ∧ after.producers = s.producers ∧
      ∀ e ∈ events, e.Common := by
  cases does with
  | overflows | timesOut | goesAway =>
    exact ⟨registry_close s _, producers_close s _, by simp⟩
  | hearsEnd => exact ⟨registry_endWith s _, producers_endWith s _, by simp⟩
  | hears running room next taken =>
    cases taken with
    | parts | breaks => exact ⟨registry_endWith _ _, producers_endWith _ _, by simp⟩
    | rejects | objects => exact ⟨rfl, rfl, by simp⟩
    | greets => simp [handshake, send_eq] at closed
    | enrols | cancels | replies | ignores => exact absurd closed opened
  | writes | produces | ticks | finishes | givesUp => exact absurd closed opened
  | isStirred cause => cases cause <;> exact absurd closed opened

/-- Where a connection stands that was torn down at `t`, with the events since then. -/
structure Torn (t : Session) (since : List Event) (s : Session) : Prop where
  unwinding : s.Unwinding
  cancelled : ∀ id seq, (id, seq) ∈ t.registry.entries → s.registry.isCancelled seq = true
  counted : Metrics.operationsCancelled since + s.producers.length = t.producers.length
  cutting : ∀ p ∈ t.producers, Cutting p since s

theorem Known.torn (known : Known past t) (tears : TearsDown t cause u) : Torn t cause u := by
  obtain ⟨registry, producers, common⟩ :=
    (does_of_step known.orderly tears.step).closes_registry tears.opened tears.closed
  have cancelled : ∀ {id seq}, (id, seq) ∈ t.registry.entries →
      u.registry.isCancelled seq = true := by
    intro id seq member
    rw [registry]
    exact Registry.isCancelled_close.mpr (.inr ⟨id, member⟩)
  refine ⟨⟨?_, ?_, fun p member => ?_⟩, fun _ _ => cancelled, ?_, fun p member => ?_⟩
  · rw [registry]; rfl
  · rw [producers]; exact known.enrolled.distinct
  · -- A producer is live, or was cancelled when its id was freed.
    rcases known.tenured.running p (producers ▸ member) with live | earlier
    · exact cancelled (Registry.mem_entries_of_seq? live)
    · rw [registry]
      exact Registry.isCancelled_close.mpr (.inl earlier)
  · rw [Metrics.operationsCancelled_of_common common, producers]
    omega
  · refine .waits (producers.symm ▸ member) rfl rfl rfl fun e new mine => ?_
    exact absurd mine (untouched_of_common common p.seq e new)

theorem Torn.step (torn : Torn t since s) (books : s.Books events after) :
    Torn t (since ++ events) after where
  unwinding := torn.unwinding.step books
  cancelled id seq member := books.isCancelled (torn.cancelled id seq member)
  counted := by
    have before := torn.counted
    have now := (torn.unwinding.unwinds books).operationsCancelled_eq torn.unwinding.distinct
    rw [Metrics.operationsCancelled_append]
    omega
  cutting p member := (torn.cutting p member).step torn.unwinding books

theorem Torn.run (torn : Torn t since s) (orderly : s.Orderly) (run : Reaches s events last) :
    Torn t (since ++ events) last :=
  run.history (P := Torn t) (fun orderly torn does => torn.step (books_of_does orderly does))
    orderly torn

theorem Torn.cutShort (torn : Torn t since s) (empty : s.producers = []) {p : Producer}
    (member : p ∈ t.producers) : p.CutShort since := by
  cases torn.cutting p member with
  | waits left => simp [empty] at left
  | isCut absent cut => exact cut

def Unpolled (s : Session) : Prop :=
  ∀ p ∈ s.producers, p.started = false → ∃ request context, p.results = .unasked request context

theorem Unpolled.step (unpolled : s.Unpolled) (books : s.Books events after) :
    after.Unpolled := by
  intro q member fresh
  cases books with
  | keeps _ producers | leaves _ producers | shuts _ producers | frees _ _ producers =>
    exact unpolled q (producers ▸ member) fresh
  | enrols _ _ _ producers =>
    rw [producers] at member
    rcases List.mem_append.mp member with old | new
    · exact unpolled q old fresh
    · cases List.mem_singleton.mp new
      exact ⟨_, _, rfl⟩
  | @produces p taken _ found turned _ producers =>
    rw [producers] at member
    cases state : taken.state with
    | ended how =>
      rw [state] at member
      exact unpolled q (Relay.mem_replace_ended.mp member).1 fresh
    | running kept =>
      rw [state, Relay.mem_replace_running (List.mem_of_find?_eq_some found)] at member
      rcases member with rfl | ⟨old, -⟩
      · simp [turned.started state] at fresh
      · exact unpolled q old fresh

/-- What a connection that was torn down at `t` leaves behind: nothing. The events are those before
the teardown and those since then. -/
structure Cleared (before : List Event) (t : Session) (since : List Event) (s : Session) :
    Prop where
  gone : s.producers = []
  settled : ∀ id seq, .registered id seq ∈ before ++ since →
    ∃ how, fatesOf seq (before ++ since) = [how]
  released : ∀ seq, ∀ execution ∈ callsOf seq (before ++ since),
    Released seq execution (before ++ since)
  /-- An operation that was running ends once, as cancelled, and without another word. -/
  cut : ∀ p ∈ t.producers, fatesOf p.seq (before ++ since) = [.cancelled] ∧
    p.CutShort since ∧ sentBy p.seq since = [] ∧ callsOf p.seq since = []
  unpolled : ∀ p ∈ t.producers, p.started = false → callsOf p.seq (before ++ since) = []
  counted : Metrics.operationsCancelled since = t.producers.length

section Runs

variable {config : SessionConfig} {connectionId : String} {engine : Engine}
  {interceptors : InterceptorChain} {half : WriteHalf} {now : Nat} {shutdown : Bool}
  {before later : List Event}

theorem unpolled_of_reaches
    (run : Reaches (.new config connectionId engine interceptors half now shutdown) events s) :
    s.Unpolled :=
  run.of_books (P := fun _ s => s.Unpolled) (by simp [Unpolled, Session.new, Relay.new])
    fun _ unpolled books => unpolled.step books

theorem cleared_at_rest
    (early : Reaches (.new config connectionId engine interceptors half now shutdown) before t)
    (tears : TearsDown t cause u) (late : Reaches u later last) (idle : last.Idle) :
    Cleared before t (cause ++ later) last := by
  have knownT := known_of_reaches early
  have orderly := (does_of_step knownT.orderly tears.step).orderly knownT.orderly
  have torn := (knownT.torn tears).run orderly late
  have whole := early.trans (.step tears.step late)
  have known := known_of_reaches whole
  have empty := no_producers_at_rest idle known.enrolled known.tenured known.orderly
    torn.unwinding.closed
  refine ⟨empty, fun id seq made => ?_, fun seq execution called => ?_, fun p member => ?_,
    fun p member fresh => ?_, by simpa [empty] using torn.counted⟩
  · have settled := known.enrolled.settled _ (mem_registrations.mpr made)
    exact (settled.resolve_left (by simp [empty])).2
  · have accounted := accounted_of_reaches whole seq execution called
    exact accounted.resolve_left (by simp [empty])
  · have cut := torn.cutShort empty member
    obtain ⟨sent, calls, fates⟩ := cut.logs
    have running := (knownT.enrolled.follows p member).1
    exact ⟨by rw [fatesOf_append, running, fates]; rfl, cut, sent, calls⟩
  · obtain ⟨request, context, unasked⟩ := unpolled_of_reaches early p member fresh
    have uncalled := (knownT.enrolled.follows p member).uncalled unasked
    rw [callsOf_append, uncalled, (torn.cutShort empty member).logs.2.1]
    rfl

/-- Every run in which the task of a connection comes to its end has torn the connection down in one
step, for whatever reason and whatever was running. When the task ends, the registry is closed and
empty, and every entry that the teardown has found is cancelled. The tasks that are left come to
rest: there are at most two turns for each producer, whatever the surroundings do. At rest nothing
is left of the connection. -/
theorem teardown_is_complete {outcome : Outcome}
    (run : Reaches (.new config connectionId engine interceptors half now shutdown) events s)
    (ended : s.stage = .ended outcome) :
    s.registry.closed = true ∧ s.registry.entries = [] ∧
    (∀ moves rest last, play moves s = some (rest, last) →
      moves.countP Move.isTurn ≤ 2 * s.producers.length) ∧
    ∃ before t cause u later,
      Reaches (.new config connectionId engine interceptors half now shutdown) before t ∧
      TearsDown t cause u ∧ Reaches u later s ∧ events = before ++ (cause ++ later) ∧
      (∀ id seq, (id, seq) ∈ t.registry.entries → s.registry.isCancelled seq = true) ∧
      ∀ rest last, Reaches s rest last → last.Idle →
        Cleared before t (cause ++ (later ++ rest)) last := by
  have known := known_of_reaches run
  have finished : s.stage ≠ .running := by simp [ended]
  have phase : s.phase = .closed := by simpa [finished] using known.orderly.running
  have closed := known.orderly.tornDown phase
  obtain ⟨before, t, cause, u, later, early, tears, late, rfl⟩ :=
    run.exists_teardown (by simp [Session.new]) phase
  have knownT := known_of_reaches early
  have orderly := (does_of_step knownT.orderly tears.step).orderly knownT.orderly
  have torn := (knownT.torn tears).run orderly late
  refine ⟨closed, known.orderly.sound.emptied closed, fun moves rest last played => ?_, before, t,
    cause, u, later, early, tears, late, rfl, torn.cancelled, fun rest last onwards idle =>
      cleared_at_rest early tears (late.trans onwards) idle⟩
  obtain ⟨⟨w, frame, delivers⟩, -⟩ := delivers_of_reaches run
  have stopped : s.writerStopped = true := by
    simp [Relay.writerStopped, delivers.present, Writer.isStopped, delivers.isOver outcome ended]
  have turns := (known.retiring phase).countP_isTurn played
  have left := turnsToRest_of_ended ended stopped
  have most := turnsLeft_le s.producers
  omega

end Runs

/-- A connection whose engine takes its time for the operation "2", and gives one result for every
other and then nothing more. -/
def varied : Session :=
  .new SessionConfig.default "varied"
    (fun request _ =>
      { Execution.ofSteps [.result (.ofData (.integer 1))] .stall with
        delay := if request.operationId = "2" then 50 else 0 }) [] .direct 0 false

/-- Four operations: one that nobody has polled, one whose call is not answered yet, one that waits
for its next result, and one whose result is ready. Then the peer closes. -/
def parting : List Move :=
  hearing (.connectionInit none) ++ hearing (subscribing "1") ++
    hearing (subscribing "2") ++ producing 2 2 ++ hearing (subscribing "3") ++ producing 3 4 ++
    hearing (subscribing "4") ++ producing 4 3 ++
    [.stimulus (.deliver (.ok .close)), .turn .connection]

/-- The theorem at that run, which goes on until everything waits. -/
theorem teardown_of_parting :
    ∃ events s rest last, Reaches varied events s ∧ s.stage = .ended .peerClosed ∧
      s.producers.map Producer.started = [false, true, true, true] ∧
      s.registry.entries = [] ∧ Reaches s rest last ∧ last.Idle ∧ last.producers = [] ∧
      Metrics.operationsCancelled (events ++ rest) = 4 ∧ callsOf 1 (events ++ rest) = [] ∧
      ∀ seq, ∀ execution ∈ callsOf seq (events ++ rest),
        Released seq execution (events ++ rest) := by
  obtain ⟨events, s, rest, last, run, seen, onwards, after⟩ := exists_reaches_of_play_append varied
    parting (producing 4 1 ++ producing 2 1 ++ producing 1 2 ++ producing 3 1)
    (fun _ s => decide (s.stage = .ended .peerClosed) &&
      decide (s.producers.map Producer.started = [false, true, true, true]))
    (fun events last => last.isIdle && decide (Metrics.operationsCancelled events = 4) &&
      (callsOf 1 events).isEmpty) (by decide +kernel) (by decide +kernel)
  simp only [Bool.and_eq_true, decide_eq_true_eq, List.isEmpty_iff] at seen after
  obtain ⟨ended, started⟩ := seen
  obtain ⟨⟨idle, counted⟩, uncalled⟩ := after
  obtain ⟨-, entries, -, before, t, cause, u, later, -, -, -, split, -, rests⟩ :=
    teardown_is_complete run ended
  have cleared := rests rest last onwards (idle_iff.mpr idle)
  have whole : events ++ rest = before ++ (cause ++ (later ++ rest)) := by simp [split]
  exact ⟨events, s, rest, last, run, ended, started, entries, onwards, idle_iff.mpr idle,
    cleared.gone, counted, uncalled, whole ▸ cleared.released⟩

end SubscriptionGateway.Session
