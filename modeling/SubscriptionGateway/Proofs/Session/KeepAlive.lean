import SubscriptionGateway.Proofs.Session.Gate
import SubscriptionGateway.Proofs.Session.Rest

/-! The pings of a connection. The first tick is set when the connection opens, but ticks are taken
from the handshake on; one that is taken late puts off those after it, so that what has been missed
is never made up for. -/
namespace SubscriptionGateway

namespace Event

/-- Whether the connection offers a ping of its own to the queue, whatever becomes of it. -/
def isPing : Event → Bool
  | .accepted .connection (.ping _) | .refused .connection (.ping _) _ => true
  | _ => false

theorem isPing_of_enqueue {q : OutboundQueue} {message : Message}
    (other : ∀ payload, message ≠ .ping payload) :
    ∀ e ∈ (q.enqueue .connection message).2.2, e.isPing = false := by
  intro e member
  rcases OutboundQueue.mem_enqueue member with rfl | ⟨why, rfl⟩ | rfl
  · cases message with
    | ping payload => exact absurd rfl (other payload)
    | _ => rfl
  · cases message with
    | ping payload => exact absurd rfl (other payload)
    | _ => rfl
  · rfl

end Event

theorem Producer.Turns.pingless {p : Producer} {engine : Engine} {now : Nat} {registry : Registry}
    {queue : OutboundQueue} {taken : ProducerTurn}
    (turned : p.Turns engine now registry queue taken) : ∀ e ∈ taken.events, e.isPing = false := by
  intro e member
  cases turned.causes e member <;> rfl

def pingTimes (past : List (Nat × Event)) : List Nat :=
  (past.filter fun told => told.2.isPing).map Prod.fst

@[simp] theorem pingTimes_append (first second : List (Nat × Event)) :
    pingTimes (first ++ second) = pingTimes first ++ pingTimes second := by
  simp [pingTimes]

theorem pingTimes_of_pingless {events : List Event} (pingless : ∀ e ∈ events, e.isPing = false)
    (time : Nat) : pingTimes (events.map (time, ·)) = [] := by
  simpa [pingTimes] using pingless

theorem pingTimes_enqueue (q : OutboundQueue) (time : Nat) :
    pingTimes ((q.enqueue .connection (.ping none)).2.2.map (time, ·)) = [time] := by
  have offered := q.offers_enqueue .connection (.ping none)
  generalize q.enqueue .connection (.ping none) = outcome at offered ⊢
  cases offered with
  | accepted | closed => rfl
  | overflow => split <;> rfl

/-- Of times so far apart there is one at most in a shorter stretch. -/
theorem countP_stretch_le {times : List Nat} {period tolerance : Nat}
    (spaced : times.Pairwise fun earlier later => earlier + period ≤ later + tolerance)
    (first : Nat) :
    times.countP (fun time => first ≤ time ∧ time + tolerance < first + period) ≤ 1 := by
  induction times with
  | nil => exact Nat.zero_le _
  | cons time rest ih =>
    obtain ⟨apart, others⟩ := List.pairwise_cons.mp spaced
    rw [List.countP_cons]
    split
    · next inside =>
      have none :
          rest.countP (fun time => first ≤ time ∧ time + tolerance < first + period) = 0 := by
        refine List.countP_eq_zero.mpr fun later member within => ?_
        have far := apart later member
        simp only [decide_eq_true_eq] at inside within
        omega
      omega
    · exact ih others

namespace Session

variable {start s after : Session} {past : List (Nat × Event)} {events : List Event}

/-- What can happen from a start on, with the time of each event. The clock may go on between any
two steps. -/
inductive Dated (start : Session) : List (Nat × Event) → Session → Prop where
  | start : Dated start [] start
  | step {past : List (Nat × Event)} {events : List Event} {s after : Session}
      (run : Dated start past s) (step : Step s events after) :
      Dated start (past ++ events.map (s.now, ·)) after

theorem Dated.reaches (run : Dated start past s) : Reaches start (past.map Prod.snd) s := by
  induction run with
  | start => exact .refl start
  | step run step ih => simpa [Function.comp_def] using ih.snoc step

/-- The step that an event belongs to, with what was told before it. -/
theorem Dated.exists_step {before later : List (Nat × Event)} {time : Nat} {e : Event}
    (run : Dated start (before ++ (time, e) :: later) s) :
    ∃ earlier u first rest v, Dated start earlier u ∧ Step u (first ++ e :: rest) v ∧
      time = u.now ∧ before = earlier ++ first.map (u.now, ·) := by
  generalize whole : before ++ (time, e) :: later = past at run
  induction run generalizing later with
  | start => simp at whole
  | @step past events u after run step ih =>
    rcases append_eq_append_cons whole.symm with ⟨middle, inside, -⟩ | ⟨middle, made, split⟩
    · exact ih inside.symm
    · obtain ⟨first, second, rfl, rfl, told⟩ := List.map_eq_append_iff.mp split
      obtain ⟨_, rest, rfl, same, -⟩ := List.map_eq_cons_iff.mp told
      cases same
      exact ⟨past, u, first, rest, after, run, step, rfl, made⟩

def record (past : List (Nat × Event)) (s : Session) :
    List Move → Option (List (Nat × Event) × Session)
  | [] => some (past, s)
  | m :: rest =>
    (s.move m).bind fun (after, events) => record (past ++ events.map (s.now, ·)) after rest

theorem dated_of_record {moves : List Move} {last : Session} {whole : List (Nat × Event)}
    (run : Dated start past s) (made : record past s moves = some (whole, last)) :
    Dated start whole last := by
  induction moves generalizing past s with
  | nil => cases made; exact run
  | cons m rest ih =>
    obtain ⟨⟨after, events⟩, moved, others⟩ := Option.bind_eq_some_iff.mp made
    exact ih (run.step (step_of_move moved)) others

inductive Paces (s : Session) (events : List Event) (after : Session) : Prop where
  | ticks {period due : Nat} (ready : s.phase = .initialized)
      (paced : s.config.keepAlive = some period) (awaited : s.nextTick = some due)
      (late : due ≤ s.now) (caused : events = (s.queue.enqueue .connection (.ping none)).2.2)
      (next : after.nextTick = some (tickAfter period due s.now))
  | rests (next : after.nextTick = s.nextTick) (pingless : ∀ e ∈ events, e.isPing = false)

/-- What the peer sends neither moves the tick nor causes a ping. -/
theorem Takes.pingless {item : InboundItem} (taken : s.Takes item events after) :
    after.nextTick = s.nextTick ∧ ∀ e ∈ events, e.isPing = false := by
  cases taken with
  | parts | breaks | rejects | objects | enrols | cancels | ignores =>
    exact ⟨rfl, by simp [Event.isPing]⟩
  | greets =>
    refine ⟨rfl, ?_⟩
    simp only [handshake, send_eq, List.forall_mem_cons]
    exact ⟨rfl, Event.isPing_of_enqueue (by simp)⟩
  | replies => exact ⟨rfl, Event.isPing_of_enqueue (by simp)⟩

theorem Does.paces (does : s.Does events after) : s.Paces events after := by
  cases does with
  | writes present turned =>
    refine .rests rfl fun e member => ?_
    obtain ⟨frame, rfl⟩ := turned.delivered e member
    rfl
  | produces found turned => exact .rests rfl turned.pingless
  | overflows | timesOut | goesAway | hearsEnd | finishes | givesUp =>
    exact .rests rfl (by simp [Event.isPing])
  | hears running room next taken =>
    obtain ⟨kept, pingless⟩ := taken.pingless
    exact .rests kept (List.forall_mem_cons.mpr ⟨rfl, pingless⟩)
  | ticks running room ready paced awaited late => exact .ticks ready paced awaited late rfl rfl
  | isStirred cause => cases cause <;> exact .rests rfl (by simp)

/-- The next tick is put off if this one is late, and never brought forward by more than the
tolerance. -/
theorem tickAfter_bounds (period : Nat) {due now : Nat} (late : due ≤ now) :
    due ≤ tickAfter period due now ∧ tickAfter period due now ≤ now + period ∧
      now + period ≤ tickAfter period due now + tickTolerance := by
  unfold tickAfter
  split <;> omega

/-- The pings so far and the tick that comes next, for a connection that was opened at a time: the
tick is due a period after the last ping at the latest, and earlier by the tolerance at most. -/
structure Paced (opened period : Nat) (past : List (Nat × Event)) (s : Session) : Prop where
  paced : s.config.keepAlive = some period
  due : ∃ due, s.nextTick = some due ∧ opened + period ≤ due ∧
    due ≤ (pingTimes past).getLast?.getD opened + period ∧
    ∀ time ∈ pingTimes past, time + period ≤ due + tickTolerance
  begun : ∀ time ∈ pingTimes past, opened + period ≤ time
  spaced : (pingTimes past).Pairwise fun earlier later => earlier + period ≤ later + tickTolerance

theorem Paced.step {opened period : Nat} (paced : Paced opened period past s)
    (does : s.Does events after) :
    Paced opened period (past ++ events.map (s.now, ·)) after := by
  have config : after.config.keepAlive = some period := by
    rw [does.identity.2.2]
    exact paced.paced
  obtain ⟨due, awaited, first, soon, behind⟩ := paced.due
  cases does.paces with
  | rests next pingless =>
    have same : pingTimes (past ++ events.map (s.now, ·)) = pingTimes past := by
      rw [pingTimes_append, pingTimes_of_pingless pingless, List.append_nil]
    refine ⟨config, ?_, ?_, ?_⟩ <;> rw [same]
    · exact ⟨due, next.trans awaited, first, soon, behind⟩
    · exact paced.begun
    · exact paced.spaced
  | @ticks pace tick ready known waiting late caused next =>
    obtain rfl : period = pace := Option.some.inj (paced.paced.symm.trans known)
    obtain rfl : due = tick := Option.some.inj (awaited.symm.trans waiting)
    have more : pingTimes (past ++ events.map (s.now, ·)) = pingTimes past ++ [s.now] := by
      rw [pingTimes_append, caused, pingTimes_enqueue]
    obtain ⟨later, near, far⟩ := tickAfter_bounds period late
    refine ⟨config, ⟨_, next, Nat.le_trans first later, ?_, ?_⟩, ?_, ?_⟩ <;> rw [more]
    · simpa using near
    · refine List.forall_mem_append.mpr ⟨fun time member => ?_, by simpa using far⟩
      have := behind time member
      omega
    · exact List.forall_mem_append.mpr ⟨paced.begun, by simpa using Nat.le_trans first late⟩
    · refine List.pairwise_append.mpr ⟨paced.spaced, by simp, fun time member now isNow => ?_⟩
      obtain rfl := List.mem_singleton.mp isNow
      have := behind time member
      omega

section New

variable {config : SessionConfig} {connectionId : String} {engine : Engine}
  {interceptors : InterceptorChain} {half : WriteHalf} {now : Nat} {shutdown : Bool} {period : Nat}

theorem paced_of_dated (isPeriod : config.keepAlive = some period)
    (run : Dated (.new config connectionId engine interceptors half now shutdown) past s) :
    Paced now period past s := by
  induction run with
  | start =>
    refine ⟨isPeriod, ⟨now + period, ?_, Nat.le_refl _, Nat.le_refl _, ?_⟩, ?_, .nil⟩
    · simp [new, isPeriod]
    · simp [pingTimes]
    · simp [pingTimes]
  | step run step ih =>
    have orderly := orderly_of_reaches run.reaches
      (orderly_new config connectionId engine interceptors half now shutdown)
    exact ih.step (does_of_step orderly step)

/-- A ping comes behind the acknowledgement of the handshake, and not behind the end. -/
theorem before_ping {before later : List (Nat × Event)} {time : Nat} {e : Event}
    (run : Dated (.new config connectionId engine interceptors half now shutdown)
      (before ++ (time, e) :: later) s) (ping : e.isPing = true) :
    (∃ acknowledged, (acknowledged, .accepted .connection (.connectionAck none)) ∈ before) ∧
      ∀ told ∈ before, ¬ told.2.Closes := by
  obtain ⟨earlier, u, first, rest, v, before, step, -, rfl⟩ := run.exists_step
  have known := known_of_reaches before.reaches
  have among : e ∈ first ++ e :: rest := by simp
  cases (does_of_step known.orderly step).paces with
  | rests next pingless => simp [pingless e among] at ping
  | ticks ready paced awaited late caused =>
    constructor
    · rcases (gated_of_reaches before.reaches).1 with ungreeted | ⟨-, _, _, _, _, split, -⟩
      · exact absurd ready ungreeted.phase
      · have told : .accepted .connection (.connectionAck none) ∈ earlier.map Prod.snd := by
          simp [split]
        obtain ⟨⟨acknowledged, _⟩, member, rfl⟩ := List.mem_map.mp told
        exact ⟨acknowledged, List.mem_append_left _ member⟩
    · refine List.forall_mem_append.mpr ⟨fun told member closes => ?_, fun told member => ?_⟩
      · have closed := known.departed.phase.mpr ⟨_, List.mem_map_of_mem member, closes⟩
        simp [ready] at closed
      · obtain ⟨other, inFirst, rfl⟩ := List.mem_map.mp member
        have sent : other ∈ (u.queue.enqueue .connection (.ping none)).2.2 :=
          caused ▸ List.mem_append_left _ inFirst
        exact not_closes_of_harmless (harmless_enqueue _ _ other sent)

/-- A connection at rest behind the handshake waits for its tick. -/
theorem tick_at_rest (idle : s.Idle) (orderly : s.Orderly) (ready : s.phase = .initialized)
    (isPeriod : s.config.keepAlive = some period) {due : Nat} (awaited : s.nextTick = some due) :
    s.now < due := by
  have running : s.stage = .running := orderly.running.mpr (by simp [ready])
  obtain ⟨room, items, connected⟩ := task_at_rest idle running
  have waits := idle .connection
  simp only [turn, connectionTurn, running, room, Inbound.next, items, connected, idleTurn, ready,
    tick, isPeriod, awaited] at waits
  refine Nat.lt_of_not_le fun late => ?_
  cases asked : s.shutdown <;> simp [asked, late] at waits

/-- In every run of a connection with a period for its pings, however late the handshake is and
however the clock goes on between any two steps: every ping comes behind the acknowledgement of the
handshake, a period after the opening at the earliest, and before anything that closes the
connection. Two pings are a period apart, less the tolerance of a tick, so that there is one at most
in a shorter stretch of time; and a connection that is at rest behind the handshake has sent a ping,
or was opened, less than a period ago. -/
theorem pings_are_spaced (isPeriod : config.keepAlive = some period)
    (run : Dated (.new config connectionId engine interceptors half now shutdown) past s) :
    (∀ before time e later, past = before ++ (time, e) :: later → e.isPing = true →
      (∃ acknowledged, (acknowledged, .accepted .connection (.connectionAck none)) ∈ before) ∧
      now + period ≤ time ∧ ∀ told ∈ before, ¬ told.2.Closes) ∧
    (pingTimes past).Pairwise (fun earlier later => earlier + period ≤ later + 5) ∧
    (∀ first,
      (pingTimes past).countP (fun time => first ≤ time ∧ time + 5 < first + period) ≤ 1) ∧
    (s.Idle → s.phase = .initialized →
      s.now < (pingTimes past).getLast?.getD now + period) := by
  have paced := paced_of_dated isPeriod run
  refine ⟨?_, paced.spaced, countP_stretch_le paced.spaced, fun idle ready => ?_⟩
  · rintro before time e later rfl ping
    obtain ⟨acknowledged, going⟩ := before_ping run ping
    have sent : time ∈ pingTimes (before ++ (time, e) :: later) :=
      List.mem_map.mpr ⟨(time, e), List.mem_filter.mpr ⟨by simp, ping⟩, rfl⟩
    exact ⟨acknowledged, paced.begun time sent, going⟩
  · obtain ⟨due, awaited, -, soon, -⟩ := paced.due
    have orderly := orderly_of_reaches run.reaches
      (orderly_new config connectionId engine interceptors half now shutdown)
    exact Nat.lt_of_lt_of_le (tick_at_rest idle orderly ready paced.paced awaited) soon

end New

/-- A handshake ten periods late, with one ping at once, one after a period, one three milliseconds
late, and one that is not put off for that. -/
theorem pings_of_late_handshake :
    let config : SessionConfig := { SessionConfig.default with keepAlive := some 10 }
    let start := new config "late" (fun _ _ => .refusing (.backend "down")) [] .direct 0 false
    config.keepAlive = some 10 ∧ ∃ past last, Dated start past last ∧
      pingTimes past = [100, 110, 123, 130] ∧
      (pingTimes past).Pairwise (fun earlier later => earlier + 10 ≤ later + 5) ∧
      (pingTimes past).countP (fun time => 100 ≤ time ∧ time + 5 < 100 + 10) ≤ 1 := by
  intro config start
  have isPeriod : config.keepAlive = some 10 := rfl
  let ticking (time : Nat) : List Move := [.stimulus (.clock time), .turn .connection]
  let moves := .stimulus (.clock 100) :: hearing (.connectionInit none) ++ ticking 100 ++
    ticking 110 ++ ticking 123 ++ ticking 130
  have seen : (record [] start moves).any
      (fun made => pingTimes made.1 = [100, 110, 123, 130]) = true := by decide +kernel
  cases made : record [] start moves with
  | none => simp [made] at seen
  | some result =>
    obtain ⟨past, last⟩ := result
    have run : Dated start past last := dated_of_record .start made
    obtain ⟨-, spaced, few, -⟩ := pings_are_spaced isPeriod run
    exact ⟨isPeriod, past, last, run, by simpa [made] using seen, spaced, few 100⟩

end Session

end SubscriptionGateway
