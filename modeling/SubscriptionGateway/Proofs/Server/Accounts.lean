import Mathlib.Algebra.Order.BigOperators.Group.List
import Mathlib.Algebra.Order.Ring.Int
import SubscriptionGateway.Proofs.Server.Fleet
import SubscriptionGateway.Proofs.Session.Accounting

/-! The counters and gauges over any number of connections. Each connection keeps its accounts, and
the counters add up over the connections. -/
namespace SubscriptionGateway

namespace Metrics

theorem countP_isEnded (events : List Event) :
    events.countP isEnded = (endings events).length := by
  rw [endings, List.length_filterMap_eq_countP]
  exact List.countP_congr fun e _ => by cases e <;> simp [isEnded, Event.outcome?]

theorem closesTotal_eq (code : Nat) (events : List Event) :
    closesTotal code events = (closings events).countP fun reason => reason.code == code := by
  rw [closings, List.countP_filterMap]
  exact List.countP_congr fun e _ => by cases e <;> simp [isClosingWith, Event.closing?]

end Metrics

open Metrics

namespace Session

def hasEnded (s : Session) : Bool := s.stage.outcome?.isSome

def closesWith (code : Nat) (s : Session) : Bool := s.stage.reason?.any fun r => r.code == code

def isClosed (s : Session) : Bool := s.stage.reason?.isSome

variable {past : List Event} {s : Session}

theorem Told.ended (told : Told past s) : past.countP isEnded = if s.hasEnded then 1 else 0 := by
  rw [countP_isEnded, told.endings, hasEnded]
  cases s.stage.outcome? <;> rfl

theorem Told.closed (told : Told past s) (code : Nat) :
    closesTotal code past = if s.closesWith code then 1 else 0 := by
  rw [closesTotal_eq, told.closings, closesWith]
  cases s.stage.reason? with
  | none => rfl
  | some reason => simp [List.countP_cons]

theorem active_nonneg (producers : List Producer) : 0 ≤ active producers := by
  induction producers with
  | nil => exact Int.le_refl 0
  | cons p rest ih =>
    simp only [active, Producer.weight]
    split <;> omega

end Session

namespace Fleet

variable {log events : List Event} {sessions after : List Session}

def runningProducers (sessions : List Session) : Int :=
  (sessions.map fun s => (s.producers.length : Int)).sum

theorem countP_eq_sum (q : Session → Bool) (sessions : List Session) :
    sessions.countP q = (sessions.map fun s => if q s then 1 else 0).sum := by
  induction sessions with
  | nil => rfl
  | cons s rest ih => rw [List.countP_cons, ih, List.map_cons, List.sum_cons, Nat.add_comm]

/-- Each reason has one of the codes, and only one. -/
theorem sum_closesWith (s : Session) :
    (closeCodes.map fun code => if s.closesWith code then 1 else 0).sum =
      if s.isClosed then 1 else 0 := by
  unfold Session.closesWith Session.isClosed
  cases s.stage.reason? with
  | none => rfl
  | some reason => cases reason <;> rfl

theorem sum_countP_closesWith (sessions : List Session) :
    (closeCodes.map fun code => sessions.countP (Session.closesWith code)).sum =
      sessions.countP Session.isClosed := by
  induction sessions with
  | nil => rfl
  | cons s rest ih =>
    simp only [List.countP_cons]
    rw [List.sum_map_add, ih, sum_closesWith]

theorem closesWith_of_unknown {code : Nat} (unknown : code ∉ closeCodes) (s : Session) :
    s.closesWith code = false := by
  unfold Session.closesWith
  cases s.stage.reason? with
  | none => rfl
  | some reason =>
    have other : reason.code ≠ code := fun same => unknown (same ▸ code_mem_closeCodes reason)
    simpa using other

theorem Member.known (m : Member) : Session.Known m.past m.session := by
  obtain ⟨_, _, _, _, _, _, _, run⟩ := m.lives
  exact Session.known_of_reaches run

theorem Member.balanced (m : Member) : Session.Balanced m.past m.session := by
  obtain ⟨_, _, _, _, _, _, _, run⟩ := m.lives
  exact Session.balanced_of_reaches run

theorem Member.told (m : Member) : Session.Told m.past m.session := by
  obtain ⟨_, _, _, _, _, _, _, run⟩ := m.lives
  exact Session.told_of_reaches run

/-- What the counters and gauges say of the connections, at any time. -/
structure Accounts (log : List Event) (sessions : List Session) : Prop where
  conserved : (operationsStarted log : Int) = operationsCompleted log + operationsFailed log +
    operationsCancelled log + runningProducers sessions
  gauge : operationsActive log = (sessions.map fun s => Session.active s.producers).sum
  accepted : operationsStarted log = acceptedSubscribes log
  numbered : operationsStarted log = (sessions.map fun s => s.registry.lastSeq).sum
  completed : operationsCompleted log = log.countP Event.acceptsComplete
  failed : operationsFailed log = log.countP Event.acceptsError
  ended : log.countP isEnded = sessions.countP Session.hasEnded
  closes : ∀ code, closesTotal code log = sessions.countP (Session.closesWith code)

theorem Step.answers (step : Step sessions events after) (orderly : ∀ s ∈ sessions, s.Orderly) :
    Answers events ∧ ∀ s ∈ after, s.Orderly := by
  cases step with
  | opens =>
    refine ⟨.of_unregistered (by simp [isRegistered]), fun s member => ?_⟩
    rcases List.mem_append.mp member with old | new
    · exact orderly s old
    · cases List.mem_singleton.mp new
      exact Session.orderly_new ..
  | moves step =>
    have does := Session.does_of_step (orderly _ (by simp)) step
    refine ⟨does.answers (orderly _ (by simp)), fun s member => ?_⟩
    simp only [List.mem_append, List.mem_cons] at member orderly
    rcases member with old | rfl | old
    · exact orderly s (.inl old)
    · exact does.orderly (orderly _ (.inr (.inl rfl)))
    · exact orderly s (.inr (.inr old))
  | pongs => exact ⟨.of_unregistered (by simp [isRegistered]), orderly⟩

theorem answers_of_reaches (run : Reaches [] log sessions) : Answers log := by
  have both := run.history (P := fun past sessions => Answers past ∧ ∀ s ∈ sessions, s.Orderly)
    (fun ⟨answers, orderly⟩ step =>
      have stepped := step.answers orderly
      ⟨answers.append stepped.1, stepped.2⟩)
    (⟨⟨rfl, by simp⟩, by simp⟩ : Answers [] ∧ ∀ s ∈ ([] : List Session), s.Orderly)
  exact both.1

/-- Two tallies that agree on every connection agree on the log. -/
theorem Recorded.congr {members : List Member} (recorded : Recorded log sessions members)
    {M : Type} [AddCommMonoid M] {f g : List Event → M} (first : Tally f) (second : Tally g)
    (opened : f [.opened] = g [.opened]) (same : ∀ m : Member, f m.past = g m.past) :
    f log = g log := by
  rw [recorded.2 first, recorded.2 second, opened, List.map_congr_left fun m _ => by rw [same m]]

theorem accounts_of_reaches (run : Reaches [] log sessions) : Accounts log sessions := by
  obtain ⟨members, recorded⟩ := exists_members run
  have tally {q : Event → Bool} (silent : ∀ payload, q (.ponged payload) = false) :=
    tally_countP silent
  refine ⟨?_, ?_, (answers_of_reaches run).counted.symm, ?_, ?_, ?_, ?_, fun code => ?_⟩
  · -- What is entered and not written off is a tally, and on each connection it is what runs.
    let outstanding (events : List Event) : Int :=
      operationsStarted events - events.countP isOperationEnded
    have left : Tally outstanding := by
      refine ⟨rfl, fun first second => ?_, fun _ => rfl⟩
      simp only [outstanding, operationsStarted_append, List.countP_append, Int.natCast_add]
      omega
    have running : outstanding log = runningProducers sessions := by
      refine recorded.sum_eq left fun m => ?_
      obtain ⟨writtenOff, entries, conserved⟩ := m.balanced
      have none : outstanding [.opened] = 0 := rfl
      simp only [none, outstanding, entries.entered, entries.writtenOff, conserved]
      omega
    have ended := countP_isOperationEnded log
    simp only [outstanding, ended] at running
    omega
  · refine recorded.sum_eq ⟨rfl, operationsActive_append, fun _ => rfl⟩ fun m => ?_
    rw [m.known.counted]
    exact Int.zero_add _
  · refine recorded.sum_eq (tally fun _ => rfl) fun m => ?_
    obtain ⟨writtenOff, entries, -⟩ := m.balanced
    exact (Nat.zero_add _).trans entries.entered
  · refine recorded.congr (tally fun _ => rfl) (tally fun _ => rfl) rfl fun m => ?_
    obtain ⟨writtenOff, entries, -⟩ := m.balanced
    exact entries.completed
  · refine recorded.congr (tally fun _ => rfl) (tally fun _ => rfl) rfl fun m => ?_
    obtain ⟨writtenOff, entries, -⟩ := m.balanced
    exact entries.failed
  · rw [countP_eq_sum]
    refine recorded.sum_eq (tally fun _ => rfl) fun m => ?_
    exact (Nat.zero_add _).trans m.told.ended
  · rw [countP_eq_sum]
    refine recorded.sum_eq (tally fun _ => rfl) fun m => ?_
    exact (Nat.zero_add _).trans (m.told.closed code)

/-- At rest every producer counts in the gauge. -/
theorem runningProducers_at_rest (run : Reaches [] log sessions) (idle : ∀ s ∈ sessions, s.Idle) :
    (sessions.map fun s => Session.active s.producers).sum = runningProducers sessions := by
  obtain ⟨members, rfl, -⟩ := exists_members run
  rw [runningProducers, List.map_map, List.map_map]
  refine congrArg List.sum (List.map_congr_left fun m member => ?_)
  have atRest := idle m.session (List.mem_map_of_mem member)
  exact Session.active_of_started fun p known =>
    (Session.producer_at_rest atRest m.known.enrolled known).1

/-- In every run of any number of connections, whenever all of them are at rest: the operations that
were started are those that have completed, those that have failed, those that were cancelled and
those that are active, and the active ones are those whose producers run. At any time the gauge is
not negative; the operations that were started are the accepted `subscribe`s, and the registrations
that the registries have made; those that have completed or failed are the `complete`s and `error`s
that the queues have accepted; the connections that are no longer active are those that have ended;
and each connection that the server has decided to close is counted once, under the code of its
reason. -/
theorem accounts_balance (run : Reaches [] log sessions) :
    ((∀ s ∈ sessions, s.Idle) →
      (operationsStarted log : Int) = operationsCompleted log + operationsFailed log +
        operationsCancelled log + operationsActive log ∧
      operationsActive log = runningProducers sessions) ∧
    0 ≤ operationsActive log ∧
    operationsStarted log = acceptedSubscribes log ∧
    operationsStarted log = (sessions.map fun s => s.registry.lastSeq).sum ∧
    operationsCompleted log = log.countP Event.acceptsComplete ∧
    operationsFailed log = log.countP Event.acceptsError ∧
    (connectionsTotal log : Int) - connectionsActive log = sessions.countP Session.hasEnded ∧
    (∀ code, closesTotal code log = sessions.countP (Session.closesWith code)) ∧
    (∀ code, code ∉ closeCodes → closesTotal code log = 0) ∧
    (closeCodes.map fun code => closesTotal code log).sum = sessions.countP Session.isClosed := by
  have accounts := accounts_of_reaches run
  refine ⟨fun idle => ?_, ?_, accounts.accepted, accounts.numbered, accounts.completed,
    accounts.failed, ?_, accounts.closes, fun code unknown => ?_, ?_⟩
  · have active : operationsActive log = runningProducers sessions :=
      accounts.gauge.trans (runningProducers_at_rest run idle)
    exact ⟨active ▸ accounts.conserved, active⟩
  · rw [accounts.gauge]
    refine List.sum_nonneg fun count member => ?_
    obtain ⟨s, -, rfl⟩ := List.mem_map.mp member
    exact Session.active_nonneg s.producers
  · rw [← accounts.ended, connectionsActive]
    omega
  · rw [accounts.closes]
    exact List.countP_eq_zero.mpr fun s _ => by simp [closesWith_of_unknown unknown s]
  · simp only [accounts.closes]
    exact sum_countP_closesWith sessions

/-- A connection whose engine takes every request and never comes to a result. -/
def stalling : Session :=
  .new .default "stalling" (fun _ _ => .ofSteps [] .stall) [] .direct 0 false

/-- Of two connections one has completed its operation and was closed for a second handshake; the
operation of the other one goes on. -/
theorem accounts_of_two_connections :
    ∃ log sessions, Reaches [] log sessions ∧ (∀ s ∈ sessions, s.Idle) ∧
      operationsActive log = 1 ∧ runningProducers sessions = 1 ∧
      operationsStarted log = 2 ∧ acceptedSubscribes log = 2 ∧
      closesTotal 4429 log = 1 ∧ sessions.countP (Session.closesWith 4429) = 1 := by
  let subscribed := Session.hearing (.connectionInit none) ++
    Session.hearing (Session.subscribing "1")
  obtain ⟨first, s, run, seen⟩ := Session.exists_reaches_of_play (.single 256 .direct)
    (subscribed ++ Session.producing 1 6 ++ Session.hearing (.connectionInit none) ++
      List.replicate 8 (.turn (.relay .writer)) ++ [.turn .connection])
    (fun events last => last.isIdle && operationsActive events == 0 &&
      operationsStarted events == 1 && closesTotal 4429 events == 1)
    (by decide +kernel)
  obtain ⟨second, t, running, seenAfter⟩ := Session.exists_reaches_of_play stalling
    (subscribed ++ Session.producing 1 3 ++ List.replicate 2 (.turn (.relay .writer)))
    (fun events last => last.isIdle && operationsActive events == 1 &&
      operationsStarted events == 1 && closesTotal 4429 events == 0)
    (by decide +kernel)
  simp only [Bool.and_eq_true, beq_iff_eq] at seen seenAfter
  obtain ⟨⟨⟨idle, active⟩, started⟩, closed⟩ := seen
  obtain ⟨⟨⟨idleAfter, activeAfter⟩, startedAfter⟩, closedAfter⟩ := seenAfter
  have both : Reaches [] ((.opened :: first) ++ (.opened :: second)) [s, t] :=
    (Reaches.of_session run).trans (Reaches.of_session running)
  have atRest : ∀ u ∈ [s, t], u.Idle := by
    simpa using ⟨Session.idle_iff.mpr idle, Session.idle_iff.mpr idleAfter⟩
  have opened (events : List Event) : operationsActive (.opened :: events) =
      operationsActive events := (operationsActive_append [.opened] events).trans (Int.zero_add _)
  have activeBoth : operationsActive ((.opened :: first) ++ (.opened :: second)) = 1 := by
    rw [operationsActive_append, opened, opened, active, activeAfter]
    rfl
  have startedBoth : operationsStarted ((.opened :: first) ++ (.opened :: second)) = 2 := by
    have startedFirst : operationsStarted (.opened :: first) = 1 := started
    have startedSecond : operationsStarted (.opened :: second) = 1 := startedAfter
    rw [operationsStarted_append, startedFirst, startedSecond]
  have closedBoth : closesTotal 4429 ((.opened :: first) ++ (.opened :: second)) = 1 := by
    have closedFirst : closesTotal 4429 (.opened :: first) = 1 := closed
    have closedSecond : closesTotal 4429 (.opened :: second) = 0 := closedAfter
    rw [closesTotal, List.countP_append]
    exact congrArg₂ (· + ·) closedFirst closedSecond
  obtain ⟨balance, -, accepted, -, -, -, -, closes, -⟩ := accounts_balance both
  exact ⟨_, _, both, atRest, activeBoth, (balance atRest).2.symm.trans activeBoth, startedBoth,
    accepted.symm.trans startedBoth, closedBoth, (closes 4429).symm.trans closedBoth⟩

end Fleet

namespace Gateway

/-- The gateway keeps its accounts whatever it is asked for. -/
theorem accounts_of_reaches {config : ServerConfig} {socketRoute : RoutePattern} {engine : Engine}
    {interceptors : InterceptorChain} {servesMetrics : Bool} {log : List GatewayEvent}
    {g : Gateway}
    (run : Reaches (.new config socketRoute engine interceptors servesMetrics) log g) :
    Fleet.Accounts (log.map GatewayEvent.event) g.sessions :=
  Fleet.accounts_of_reaches run.fleet

end Gateway

end SubscriptionGateway
