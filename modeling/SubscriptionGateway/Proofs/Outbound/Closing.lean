import Mathlib.Algebra.BigOperators.Group.List.Basic
import Mathlib.Algebra.Ring.Nat
import SubscriptionGateway.Outbound.Closing
import SubscriptionGateway.Proofs.Schedule
import SubscriptionGateway.Proofs.Session.Unwinding

/-! The orderly end of a writer. Once it is ordered to close, the writer has what it is at, what is
queued and the close frame left to write, and the fates of these writes tell the time at which it is
done. Against that time stands the deadline of the caller. -/
namespace SubscriptionGateway

namespace WriteHalf

def behind (h : WriteHalf) (texts : Nat) : WriteHalf :=
  { h with delivered := h.delivered + texts }

/-- When so many texts that are written one after the other from a time on are delivered; none if
one of them is not. -/
def deliveredBy? : WriteHalf → (time count : Nat) → Option Nat
  | _, time, 0 => some time
  | h, time, count + 1 =>
    if h.nextFate.outcome = .delivered then
      (h.behind 1).deliveredBy? (time + h.nextFate.delay) count
    else none

def lastFrames (h : WriteHalf) (frame : CloseFrame) : List OutboundFrame :=
  if h.acceptsClose && !h.peerGone then [.close frame.code frame.reason] else []

theorem behind_behind (h : WriteHalf) (first second : Nat) :
    (h.behind first).behind second = h.behind (first + second) := by
  simp [behind, Nat.add_assoc]

/-- All texts are delivered if each of them is, and the time is the sum of their delays. -/
theorem deliveredBy?_eq_some_iff {h : WriteHalf} {time count last : Nat} :
    h.deliveredBy? time count = some last ↔
      (∀ i < count, (h.behind i).nextFate.outcome = .delivered) ∧
        time + ((List.range count).map fun i => (h.behind i).nextFate.delay).sum = last := by
  induction count generalizing h time with
  | zero => simp [deliveredBy?]
  | succ count ih =>
    have first : h.behind 0 = h := rfl
    simp only [deliveredBy?, List.range_succ_eq_map, List.map_cons, List.map_map, List.sum_cons,
      Nat.forall_lt_succ_left, first]
    by_cases fate : h.nextFate.outcome = .delivered
    · simp only [fate, if_true, ih, behind_behind, Nat.add_comm 1, true_and, Nat.add_assoc]
      rfl
    · simp [fate]

theorem le_of_deliveredBy? {h : WriteHalf} {time count last : Nat}
    (delivered : h.deliveredBy? time count = some last) : time ≤ last := by
  have := (deliveredBy?_eq_some_iff.mp delivered).2
  omega

end WriteHalf

namespace Writer

/-- When a writer with so many texts in its queue has delivered them, the one in its hand first;
none if one of them is not delivered. -/
def flushedBy? (w : Writer) (now waiting : Nat) : Option Nat :=
  match w.activity with
  | .writing _ due _ =>
    if w.half.nextFate.outcome = .delivered then
      (w.half.behind 1).deliveredBy? (max now due) waiting
    else none
  | _ => w.half.deliveredBy? now waiting

/-- The writer is to close, and has not stopped: it is still to see the order, or has seen it. -/
inductive Heads (w : Writer) (frame : CloseFrame) : Prop where
  | isUnaware (ordered : w.closeOrder = some frame)
      (active : w.activity = .serving ∨ ∃ text due, w.activity = .writing text due none)
  | isAware (active : w.activity = .flushing frame ∨
      ∃ text due, w.activity = .writing text due (some frame))

variable {w : Writer} {now waiting last : Nat} {q : OutboundQueue} {frame : CloseFrame}
  {taken : WriterTurn}

theorem le_of_flushedBy? (flushed : w.flushedBy? now waiting = some last) : now ≤ last := by
  unfold flushedBy? at flushed
  split at flushed
  · split at flushed
    · have := WriteHalf.le_of_deliveredBy? flushed
      omega
    · cases flushed
  · exact WriteHalf.le_of_deliveredBy? flushed

theorem Heads.going (heads : w.Heads frame) : w.activity ≠ .stopped := by
  rcases heads with ⟨-, active | ⟨_, _, active⟩⟩ | ⟨active | ⟨_, _, active⟩⟩ <;> simp [active]

/-- What a writer does on its way to the close frame: it moves a text on, at the time that was to be
expected, or it stops. -/
inductive Flushes (w : Writer) (now : Nat) (q : OutboundQueue) (frame : CloseFrame) :
    WriterTurn → Prop where
  | moves {taken : WriterTurn} (sent : List String) (heads : taken.writer.Heads frame)
      (flushed : taken.writer.flushedBy? now taken.queue.messages.length =
        w.flushedBy? now q.messages.length)
      (last : taken.writer.half.lastFrames frame = w.half.lastFrames frame)
      (texts : w.inHand ++ q.messages = sent ++ (taken.writer.inHand ++ taken.queue.messages))
      (delivered : deliveredFrames taken.events = sent.map .text) : Flushes w now q frame taken
  | fails (never : w.flushedBy? now q.messages.length = none) :
      Flushes w now q frame (w.stop q [])
  | closes (flushed : w.flushedBy? now q.messages.length = some now)
      (none : w.inHand ++ q.messages = []) : Flushes w now q frame (w.sendClose frame q)

theorem flushedBy?_of_ready {closing : Option CloseFrame}
    (ready : w.activity = afterWrite closing) :
    w.flushedBy? now waiting = w.half.deliveredBy? now waiting := by
  cases closing <;> simp [flushedBy?, ready, afterWrite]

theorem flushes_of_writing {text : String} {due : Nat} {closing : Option CloseFrame}
    (writing : w.activity = .writing text due closing)
    (heads : (w.complete text closing q).writer.Heads frame) (turned : w.turn now q = some taken) :
    w.Flushes now q frame taken := by
  cases turns_of_turn turned with
  | heeds active | isDeserted active | closes active => simp [writing] at active
  | @begins _ _ other ready => cases other <;> simp [writing, afterWrite] at ready
  | @delivers other _ _ active late fate =>
    obtain ⟨rfl, rfl, rfl⟩ := WriterActivity.writing.inj (writing.symm.trans active)
    have back : (w.complete text closing q).writer.activity = afterWrite closing := rfl
    refine .moves [text] heads ?_ rfl ?_ rfl
    · rw [flushedBy?_of_ready back]
      simp [flushedBy?, writing, fate, Nat.max_eq_left late, complete, WriteHalf.behind]
    · rw [(inHand_of_ready back).1]
      simp [inHand, writing, complete]
  | fails active late fate =>
    exact .fails (by simp [flushedBy?, active, fate])

theorem flushes_of_flushing (flushing : w.activity = .flushing frame)
    (turned : w.turn now q = some taken) : w.Flushes now q frame taken := by
  have ready : w.activity = afterWrite (some frame) := flushing
  have idle := (inHand_of_ready ready).1
  cases turns_of_turn turned with
  | heeds active | isDeserted active | delivers active | fails active => simp [flushing] at active
  | @begins text rest closing active next =>
    obtain rfl : closing = some frame := by
      cases closing <;> simp_all [afterWrite]
    have split := (messages_of_take next).1
    refine .moves [] (.isAware (.inr ⟨_, _, rfl⟩)) ?_ rfl ?_ rfl
    · rw [flushedBy?_of_ready ready, split]
      simp [flushedBy?, WriteHalf.deliveredBy?]
    · rw [idle, split]
      simp [inHand]
  | @closes other active empty =>
    obtain rfl : other = frame := WriterActivity.flushing.inj (active.symm.trans flushing)
    have last := messages_of_take_none empty
    refine .closes ?_ (by simp [idle, last])
    rw [flushedBy?_of_ready ready, last]
    rfl

theorem Heads.flushes (heads : w.Heads frame) (turned : w.turn now q = some taken) :
    w.Flushes now q frame taken := by
  rcases heads with ⟨ordered, serving | ⟨text, due, writing⟩⟩ | ⟨flushing | ⟨text, due, writing⟩⟩
  · simp only [turn, serving, ordered, Option.some.injEq] at turned
    subst turned
    refine .moves [] (.isAware (.inl rfl)) ?_ rfl ?_ rfl <;>
      simp [flushedBy?, inHand, serving]
  · exact flushes_of_writing writing (.isUnaware ordered (.inl rfl)) turned
  · exact flushes_of_flushing flushing turned
  · exact flushes_of_writing writing (.isAware (.inl rfl)) turned

/-- While the writer waits for a write, the time at which it will be done stays the same. -/
theorem Heads.flushedBy?_wait (heads : w.Heads frame) (waits : w.turn now q = none)
    (waiting : Nat) {time : Nat} (punctual : ∀ due, w.due? now = some due → time ≤ due) :
    w.flushedBy? time waiting = w.flushedBy? now waiting := by
  have writing : ∃ text due closing, w.activity = .writing text due closing := by
    rcases heads with ⟨ordered, serving | ⟨text, due, writing⟩⟩ | ⟨flushing | ⟨text, due, writing⟩⟩
    · simp [turn, serving, ordered] at waits
    · exact ⟨text, due, none, writing⟩
    · simp only [turn, flushing] at waits
      split at waits <;> cases waits
    · exact ⟨text, due, some frame, writing⟩
  obtain ⟨text, due, closing, writing⟩ := writing
  by_cases early : now < due
  · have := punctual due (by simp [due?, writing, early])
    have same : max time due = max now due := by omega
    simp only [flushedBy?, writing, same]
  · -- The write is over time, and the writer would go on if it were not stalled.
    have stalled : w.half.nextFate.outcome = .stalled := by
      simp only [turn, writing, early, if_false] at waits
      cases fate : w.half.nextFate.outcome with
      | stalled => rfl
      | delivered | failed => simp [fate] at waits
    simp [flushedBy?, writing, stalled]

end Writer

theorem lastFrames_eq_sendClose (w : Writer) (frame : CloseFrame) (q : OutboundQueue) :
    deliveredFrames (w.sendClose frame q).events = w.half.lastFrames frame ∧
      (w.sendClose frame q).writer.activity = .stopped := by
  unfold Writer.sendClose WriteHalf.lastFrames
  split <;> simp [Writer.stop, Event.delivered?]

inductive Closing.Returns (c : Closing) : Closing → Prop where
  | finds (stopped : c.relay.writerStopped = true) : Returns c { c with returned := true }
  | aborts (late : c.deadline ≤ c.relay.now) :
      Returns c { c with relay := c.relay.abortWriter, returned := true }

structure FlushPlan where
  frame : CloseFrame
  /-- The text in hand, and behind it those in the queue. -/
  texts : List String
  /-- The close frame, unless it is refused. -/
  lasts : List OutboundFrame
  /-- When all texts are delivered; none if one of them is not. -/
  finish : Option Nat
  deadline : Nat

namespace FlushPlan

def of (r : Relay) (w : Writer) (frame : CloseFrame) (limit : Nat) : FlushPlan where
  frame := frame
  texts := w.inHand ++ r.queue.messages
  lasts := w.half.lastFrames frame
  finish := w.flushedBy? r.now r.queue.messages.length
  deadline := r.now + limit

inductive Ends (plan : FlushPlan) (frames : List OutboundFrame) : Prop where
  | whole {time : Nat} (finish : plan.finish = some time) (inTime : time ≤ plan.deadline)
      (delivered : frames = plan.texts.map .text ++ plan.lasts)
  | part (begun : List String) (late : ∀ time, plan.finish = some time → plan.deadline ≤ time)
      (begins : begun <+: plan.texts) (delivered : frames = begun.map .text)

inductive Course (plan : FlushPlan) (frames : List OutboundFrame) (c : Closing) : Prop where
  | flushes (w : Writer) (sent : List String) (present : c.relay.writer = some w)
      (heads : w.Heads plan.frame) (waits : c.returned = false)
      (inTime : c.relay.now ≤ plan.deadline)
      (finish : w.flushedBy? c.relay.now c.relay.queue.messages.length = plan.finish)
      (lasts : w.half.lastFrames plan.frame = plan.lasts)
      (texts : plan.texts = sent ++ (w.inHand ++ c.relay.queue.messages))
      (delivered : frames = sent.map .text)
  | isOver (w : Writer) (present : c.relay.writer = some w) (stopped : w.activity = .stopped)
      (inTime : c.returned = false → c.relay.now ≤ plan.deadline) (ends : plan.Ends frames)

namespace Course

variable {plan : FlushPlan} {frames : List OutboundFrame} {c : Closing}

/-- A step of the relay under a caller who waits or has gone. -/
theorem relays (course : plan.Course frames c) {relay : Relay} {events : List Event}
    (wanes : c.relay.Wanes events relay) :
    plan.Course (frames ++ deliveredFrames events) { c with relay } := by
  cases wanes with
  | produces unsent =>
    rw [unsent, List.append_nil]
    cases course with
    | flushes w sent present heads waits inTime finish lasts texts delivered =>
      exact .flushes w sent present heads waits inTime finish lasts texts delivered
    | isOver w present stopped inTime ends => exact .isOver w present stopped inTime ends
  | @writes other taken known turned =>
    cases course with
    | isOver w present stopped =>
      obtain rfl : other = w := Option.some.inj (known.symm.trans present)
      simp [Writer.turn, stopped] at turned
    | flushes w sent present heads waits inTime finish lasts texts delivered =>
      obtain rfl : other = w := Option.some.inj (known.symm.trans present)
      cases heads.flushes turned with
      | moves more heads flushed last split sends =>
        refine .flushes _ (sent ++ more) rfl heads waits inTime (flushed.trans finish)
          (last.trans lasts) ?_ ?_
        · rw [texts, split, List.append_assoc]
        · rw [delivered, sends, List.map_append]
      | fails never =>
        have lost : plan.finish = none := finish.symm.trans never
        refine .isOver _ rfl rfl (fun _ => inTime) (.part sent (by simp [lost]) ?_ ?_)
        · exact texts ▸ List.prefix_append _ _
        · simpa [Writer.stop] using delivered
      | closes flushed none =>
        obtain ⟨frames, stopped⟩ := lastFrames_eq_sendClose other plan.frame c.relay.queue
        have finished : plan.finish = some c.relay.now := finish.symm.trans flushed
        refine .isOver _ rfl stopped (fun _ => inTime) (.whole finished inTime ?_)
        rw [frames, lasts, delivered, texts, none, List.append_nil]

theorem returns (course : plan.Course frames c) (deadline : c.deadline = plan.deadline)
    {after : Closing} (returns : c.Returns after) : plan.Course frames after := by
  cases course with
  | isOver w present stopped inTime ends =>
    cases returns with
    | finds => exact .isOver w present stopped (by simp) ends
    | aborts =>
      refine .isOver (w.stop c.relay.queue []).writer ?_ rfl (by simp) ends
      simp [Relay.abortWriter, present]
  | flushes w sent present heads waits inTime finish lasts texts delivered =>
    cases returns with
    | finds stopped =>
      have going := heads.going
      simp [Relay.writerStopped, present, Writer.isStopped, going] at stopped
    | aborts late =>
      have slow (time : Nat) (flushed : plan.finish = some time) : plan.deadline ≤ time := by
        have := Writer.le_of_flushedBy? (finish.trans flushed)
        omega
      refine .isOver (w.stop c.relay.queue []).writer ?_ rfl (by simp)
        (.part sent slow (texts ▸ List.prefix_append _ _) delivered)
      simp [Relay.abortWriter, present]

theorem passes (course : plan.Course frames c) (deadline : c.deadline = plan.deadline) {time : Nat}
    (idle : Closing.machine.Idle c)
    (punctual : ∀ task ∈ Closing.machine.tasks c, ∀ due,
      Closing.machine.due? c task = some due → time ≤ due) :
    plan.Course frames { c with relay := { c.relay with now := time } } := by
  have inTime (waits : c.returned = false) : time ≤ plan.deadline := by
    rw [← deadline]
    exact punctual .caller (List.mem_cons_self ..) _ (by simp [Closing.machine, waits])
  cases course with
  | isOver w present stopped _ ends => exact .isOver w present stopped inTime ends
  | flushes w sent present heads waits _ finish lasts texts delivered =>
    have member : ClosingTask.relay .writer ∈ Closing.machine.tasks c := by
      simp [Closing.machine, Relay.tasks]
    have resting : w.turn c.relay.now c.relay.queue = none := by
      simpa [Closing.machine, Closing.turn, Relay.turn, present] using idle _ member
    have same := heads.flushedBy?_wait resting c.relay.queue.messages.length
      fun due found => punctual _ member due (by simpa [Closing.machine, Relay.due?, present])
    exact .flushes w sent present heads waits (inTime waits) (same.trans finish) lasts texts
      delivered

end Course

end FlushPlan

namespace Closing

variable {c after : Closing} {events past : List Event} {plan : FlushPlan}

inductive Moves (c : Closing) : List Event → Closing → Prop where
  | returns {after : Closing} (waits : c.returned = false) (returns : c.Returns after) :
      Moves c [] after
  | relays {relay : Relay} {events : List Event} (wanes : c.relay.Wanes events relay) :
      Moves c events { c with relay }
  | passes {time : Nat} (idle : machine.Idle c)
      (punctual : ∀ task ∈ machine.tasks c, ∀ due, machine.due? c task = some due → time ≤ due)
      (later : c.relay.now < time) :
      Moves c [] { c with relay := { c.relay with now := time } }

theorem moves_of_step (waning : c.relay.Waning) (step : machine.Step c events after) :
    c.Moves events after := by
  cases step with
  | @turns task _ _ member taken =>
    cases task with
    | caller =>
      simp only [machine, turn, callerTurn] at taken
      split at taken
      · cases taken
      · next waits =>
        have waits : c.returned = false := by simpa using waits
        split at taken
        · next stopped => cases taken; exact .returns waits (.finds stopped)
        · split at taken
          · next late => cases taken; exact .returns waits (.aborts late)
          · cases taken
    | relay task =>
      obtain ⟨⟨relay, caused⟩, turned, made⟩ := Option.map_eq_some_iff.mp taken
      cases made
      exact .relays (waning.wanes turned)
  | passes idle later punctual => exact .passes idle punctual later

structure Follows (plan : FlushPlan) (past : List Event) (c : Closing) : Prop where
  course : plan.Course (deliveredFrames past) c
  deadline : c.deadline = plan.deadline
  waning : c.relay.Waning

theorem Follows.step (follows : Follows plan past c) (step : machine.Step c events after) :
    Follows plan (past ++ events) after := by
  have waning := follows.waning
  cases moves_of_step waning step with
  | returns waits returns =>
    rw [List.append_nil]
    refine ⟨follows.course.returns follows.deadline returns, ?_, ?_⟩
    · cases returns <;> exact follows.deadline
    · cases returns with
      | finds => exact waning
      | aborts => exact ⟨by simpa using waning.distinct, by simpa using waning.cancelled⟩
  | relays wanes =>
    have course := follows.course.relays wanes
    rw [← deliveredFrames_append] at course
    exact ⟨course, follows.deadline, wanes.waning waning⟩
  | passes idle punctual later =>
    rw [List.append_nil]
    exact ⟨follows.course.passes follows.deadline idle punctual, follows.deadline,
      ⟨waning.distinct, waning.cancelled⟩⟩

def stepsLeft (c : Closing) : Nat :=
  c.deadline - c.relay.now + c.relay.writerTurnsLeft + Session.turnsLeft c.relay.producers

theorem stepsLeft_lt (waning : c.relay.Waning) (step : machine.Step c events after)
    (waits : after.returned = false) :
    c.returned = false ∧ after.stepsLeft < c.stepsLeft := by
  cases moves_of_step waning step with
  | returns _ returns => cases returns <;> cases waits
  | @relays relay _ wanes =>
    have fewer := wanes.turnsLeft_lt
    have now : relay.now = c.relay.now := by cases wanes <;> rfl
    refine ⟨waits, ?_⟩
    simp only [stepsLeft, now]
    omega
  | @passes time idle punctual later =>
    have soon : time ≤ c.deadline :=
      punctual .caller (List.mem_cons_self ..) _ (by simpa [machine] using waits)
    refine ⟨waits, ?_⟩
    simp only [stepsLeft, Relay.writerTurnsLeft]
    omega

theorem Follows.exists_step (follows : Follows plan past c) (waits : c.returned = false) :
    ∃ events after, machine.Step c events after := by
  refine Machine.exists_step fun task member due found idle => ?_
  cases task with
  | caller =>
    obtain rfl : c.deadline = due := by simpa [machine, waits] using found
    refine Nat.lt_of_not_le fun late => ?_
    have late : c.deadline ≤ c.relay.now := late
    simp only [machine, turn, callerTurn, waits, late, if_true, Bool.false_eq_true,
      if_false] at idle
    split at idle <;> cases idle
  | relay task =>
    cases task with
    | writer =>
      obtain ⟨w, present, found⟩ := Option.bind_eq_some_iff.mp found
      unfold Writer.due? at found
      split at found
      · split at found
        · next early => cases found; exact early
        · cases found
      · cases found
    | producer seq =>
      obtain ⟨p, known, -⟩ := Option.bind_eq_some_iff.mp found
      have cancelled := follows.waning.cancelled p (List.mem_of_find?_eq_some known)
      have able := Option.map_eq_none_iff.mp idle
      simp only [Relay.turn, known, Option.map_eq_none_iff, Producer.turn] at able
      split at able
      · simp [Producer.advance, cancelled] at able
      · cases able

/-- The caller has gone back, and since then nothing has been delivered. -/
structure Over (past : List Event) (c : Closing) : Prop where
  returned : c.returned = true
  stopped : c.relay.writerStopped = true
  waning : c.relay.Waning
  silent : deliveredFrames past = []

theorem Over.step (silence : Over past c) (step : machine.Step c events after) :
    Over (past ++ events) after := by
  have returned := silence.returned
  cases moves_of_step silence.waning step with
  | returns waits => simp [returned] at waits
  | relays wanes =>
    have waning := wanes.waning silence.waning
    cases wanes with
    | @writes w _ present turned =>
      have stopped : w.activity = .stopped := by
        simpa [Relay.writerStopped, present, Writer.isStopped] using silence.stopped
      simp [Writer.turn, stopped] at turned
    | produces unsent => exact ⟨returned, silence.stopped, waning, by simp [silence.silent, unsent]⟩
  | passes =>
    exact ⟨returned, silence.stopped, ⟨silence.waning.distinct, silence.waning.cancelled⟩,
      by simpa using silence.silent⟩

theorem Follows.isOver (follows : Follows plan past c) (returned : c.returned = true) :
    Over [] c := by
  refine ⟨returned, ?_, follows.waning, rfl⟩
  cases follows.course with
  | flushes w sent present heads waits => simp [returned] at waits
  | isOver w present stopped => simp [Relay.writerStopped, present, Writer.isStopped, stopped]

theorem Follows.inTime (follows : Follows plan past c) (waits : c.returned = false) :
    c.relay.now ≤ plan.deadline := by
  cases follows.course with
  | flushes _ _ _ _ _ inTime => exact inTime
  | isOver _ _ _ inTime => exact inTime waits

theorem Follows.ends (follows : Follows plan past c) (returned : c.returned = true) :
    plan.Ends (deliveredFrames past) := by
  cases follows.course with
  | flushes w sent present heads waits => simp [returned] at waits
  | isOver _ _ _ _ ends => exact ends

theorem now_eq_of_returns (waning : c.relay.Waning) (step : machine.Step c events after)
    (waits : c.returned = false) (returned : after.returned = true) :
    after.relay.now = c.relay.now := by
  cases moves_of_step waning step with
  | returns _ returns =>
    cases returns with
    | finds => rfl
    | aborts =>
      simp only [Relay.abortWriter]
      split <;> rfl
  | relays | passes => simp [waits] at returned

section Runs

variable {first last : Closing} {count : Nat}

theorem Follows.run (start : Follows plan [] first) (run : machine.Run first count past last) :
    Follows plan past last :=
  run.history (fun follows step => follows.step step) start

theorem Over.run (start : Over [] first) (run : machine.Run first count past last) :
    Over past last :=
  run.history (fun silence step => silence.step step) start

theorem Follows.count_le (start : Follows plan [] first) (run : machine.Run first count past last)
    (waits : last.returned = false) : count + last.stepsLeft ≤ first.stepsLeft := by
  induction run with
  | start => simp
  | snoc run step ih =>
    obtain ⟨waited, fewer⟩ := stepsLeft_lt (start.run run).waning step waits
    have := ih waited
    omega

theorem Follows.exists_return (start : Follows plan [] first) {count : Nat} {past : List Event}
    {c : Closing} (run : machine.Run first count past c) (waits : c.returned = false) :
    ∃ count past before events after, machine.Run first count past before ∧
      before.returned = false ∧ machine.Step before events after ∧ after.returned = true := by
  have follows := start.run run
  obtain ⟨events, after, step⟩ := follows.exists_step waits
  cases onwards : after.returned with
  | true => exact ⟨count, past, c, events, after, run, waits, step, onwards⟩
  | false =>
    have := (stepsLeft_lt follows.waning step onwards).2
    exact start.exists_return (run.snoc step) onwards
termination_by c.stepsLeft

end Runs

theorem stepsLeft_begin_le {r : Relay} {w : Writer} (present : r.writer = some w)
    (active : w.activity = .serving ∨ ∃ text due, w.activity = .writing text due none)
    (frame : CloseFrame) (limit : Nat) :
    (begin r frame limit).stepsLeft ≤
      limit + (2 * r.queue.messages.length + 3) + 2 * r.producers.length := by
  have producers := Session.turnsLeft_le r.producers
  have writer : (r.orderClose frame).writerTurnsLeft ≤ 2 * r.queue.messages.length + 3 := by
    rcases active with serving | ⟨text, due, writing⟩
    · simp [Relay.writerTurnsLeft, Relay.orderClose, Writer.turnsLeft, Writer.orderClose, present,
        serving]
    · simp [Relay.writerTurnsLeft, Relay.orderClose, Writer.turnsLeft, Writer.orderClose, present,
        writing]
  simp only [stepsLeft, begin, Relay.orderClose] at writer ⊢
  omega

theorem follows_begin {r : Relay} {w : Writer} (present : r.writer = some w)
    (active : w.activity = .serving ∨ ∃ text due, w.activity = .writing text due none)
    (waning : r.Waning) (frame : CloseFrame) (limit : Nat) :
    Follows (.of r w frame limit) [] (.begin r frame limit) where
  course := by
    refine .flushes (w.orderClose frame) [] ?_ (.isUnaware rfl active) rfl (Nat.le_add_right ..)
      rfl rfl rfl rfl
    simp [begin, Relay.orderClose, present]
  deadline := rfl
  waning := ⟨waning.distinct, waning.cancelled⟩

/-- A writer that is idle or at a text is closed, with whatever is queued, and with no producer left
that is not cancelled. Whatever the order of the turns, the caller waits no longer than the limit,
and only for so many steps; as long as the caller waits, something goes on, so that in the end the
caller is back. If the pending text and all that is queued are delivered before the deadline, the
transport has got exactly these, in their order, and then the close frame, unless it refuses it. If
one of them is not delivered, or not until after the deadline, it has got a beginning of them and no
close frame. Once the caller is back, nothing is delivered any more. -/
theorem closing_is_punctual {r : Relay} {w : Writer} (present : r.writer = some w)
    (active : w.activity = .serving ∨ ∃ text due, w.activity = .writing text due none)
    (waning : r.Waning) (frame : CloseFrame) (limit : Nat) :
    let plan := FlushPlan.of r w frame limit
    let first := begin r frame limit
    (∀ {count past c}, machine.Run first count past c → c.returned = false →
      c.relay.now ≤ r.now + limit ∧
        count ≤ limit + (2 * r.queue.messages.length + 3) + 2 * r.producers.length ∧
        ∃ events after, machine.Step c events after) ∧
    (∃ count past c events after, machine.Run first count past c ∧ c.returned = false ∧
      machine.Step c events after ∧ after.returned = true) ∧
    ∀ {count past c events after}, machine.Run first count past c → c.returned = false →
      machine.Step c events after → after.returned = true →
        after.relay.now ≤ r.now + limit ∧
        (∀ time, plan.finish = some time → time < r.now + limit →
          deliveredFrames (past ++ events) =
            (w.inHand ++ r.queue.messages).map .text ++ w.half.lastFrames frame) ∧
        ((∀ time, plan.finish = some time → r.now + limit < time) →
          ∃ begun, begun <+: w.inHand ++ r.queue.messages ∧
            deliveredFrames (past ++ events) = begun.map .text) ∧
        ∀ {more later last}, machine.Run after more later last → deliveredFrames later = [] := by
  intro plan first
  have start := follows_begin present active waning frame limit
  refine ⟨fun run waits => ?_, start.exists_return .start rfl, fun run waits step returned => ?_⟩
  · have follows := start.run run
    have fewer := start.count_le run waits
    have most := stepsLeft_begin_le present active frame limit
    exact ⟨follows.inTime waits, by omega, follows.exists_step waits⟩
  · have before := start.run run
    have follows := before.step step
    have now := now_eq_of_returns before.waning step waits returned
    refine ⟨now ▸ before.inTime waits, fun time finish early => ?_, fun late => ?_,
      fun onwards => ((follows.isOver returned).run onwards).silent⟩
    · cases follows.ends returned with
      | whole _ _ delivered => exact delivered
      | part _ late => exact absurd early (Nat.not_lt_of_le (late time finish))
    · cases follows.ends returned with
      | whole finish inTime => exact absurd inTime (Nat.not_le_of_lt (late _ finish))
      | part begun _ begins delivered => exact ⟨begun, begins, delivered⟩

/-- A text in hand and one in the queue, thirty milliseconds each, are ahead of the close frame, and
an operation is cancelled that has not begun. -/
theorem closing_of_slow_writes :
    let w : Writer := ⟨.scripted 30 none none true, .writing "a" 20 none, none⟩
    let queue : OutboundQueue := ⟨8, ["b"], false, true, true⟩
    let engine : Engine := fun _ _ => ⟨0, .streaming fun _ => .stall⟩
    let producer : Producer := .ofSteps "1" 1 fun _ => .stall
    let r : Relay := ⟨engine, 0, ⟨[], 1, true, [1]⟩, queue, some w, [producer]⟩
    let frame : CloseFrame := ⟨1001, "going away"⟩
    (FlushPlan.of r w frame 100).finish = some 50 ∧
      ∃ count past c events after, machine.Run (begin r frame 100) count past c ∧
        machine.Step c events after ∧ c.returned = false ∧ after.returned = true ∧
          after.relay.now ≤ 100 ∧ deliveredFrames (past ++ events) =
            [.text "a", .text "b", .close 1001 "going away"] := by
  intro w queue engine producer r frame
  have finish : (FlushPlan.of r w frame 100).finish = some 50 := by rfl
  have waning : r.Waning := ⟨by decide, by simp [r, producer]; decide⟩
  have ⟨_, ⟨count, past, c, events, after, run, waits, step, returned⟩, outcome⟩ :=
    closing_is_punctual (r := r) rfl (.inr ⟨"a", 20, rfl⟩) waning frame 100
  obtain ⟨inTime, whole, -, -⟩ := outcome run waits step returned
  have delivered := whole 50 finish (by decide)
  exact ⟨finish, count, past, c, events, after, run, step, waits, returned, inTime, delivered⟩

end Closing

end SubscriptionGateway
