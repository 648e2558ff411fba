import Mathlib.Logic.Relation
import SubscriptionGateway.Proofs.Server.Idle
import SubscriptionGateway.Proofs.Server.Slots
import SubscriptionGateway.Server.Drain

/-! What a drain reports. While the caller waits, slots are taken, bound and given back, and the
listener ends or does not; whenever the caller can go on, it does so without an interruption, so
that what it reports is what is live when it returns. -/
namespace SubscriptionGateway

variable {ρ : Type}

structure Occupancy (ρ : Type) where
  watch : IdleWatch ρ
  slots : List Slot

namespace Occupancy

def new (limit : Nat) : Occupancy ρ := ⟨.new (.new limit), []⟩

/-- A step of anybody but the waiter at a position. A slot is bound at most once, and to give it
back is a single step. -/
inductive Step (own : Option Nat) : Occupancy ρ → Occupancy ρ → Prop where
  | reserves {watch : IdleWatch ρ} {slots : List Slot} {slot : Slot} {tracker : Tracker ρ}
      (taken : watch.tracker.reserve? = some (slot, tracker)) :
      Step own ⟨watch, slots⟩ ⟨{ watch with tracker }, slots ++ [slot]⟩
  | binds (watch : IdleWatch ρ) (before later : List Slot) (id : String) (registry : ρ) :
      Step own ⟨watch, before ++ ⟨none⟩ :: later⟩
        ⟨{ watch with tracker := (watch.tracker.bind id registry).2 },
          before ++ (watch.tracker.bind id registry).1 :: later⟩
  | releases (watch : IdleWatch ρ) (before later : List Slot) (slot : Slot) :
      Step own ⟨watch, before ++ slot :: later⟩ ⟨watch.release slot, before ++ later⟩
  | enlists (watch : IdleWatch ρ) (slots : List Slot) :
      Step own ⟨watch, slots⟩ ⟨watch.enlist, slots⟩
  | waits {watch after : IdleWatch ρ} {position : Nat} (slots : List Slot)
      (other : own ≠ some position) (moved : watch.stepWaiter? position = some after) :
      Step own ⟨watch, slots⟩ ⟨after, slots⟩

inductive Reaches (first : Occupancy ρ) : Occupancy ρ → Prop where
  | refl : Reaches first first
  | snoc {o after : Occupancy ρ} (run : Reaches first o) (step : Step none o after) :
      Reaches first after

/-- The count is that of the slots that are out, only their registries are known, and nobody waits
in vain. -/
structure Sound (o : Occupancy ρ) : Prop where
  counted : o.watch.count = o.slots.length
  known : ∀ entry ∈ o.watch.tracker.registries, (⟨some entry.1⟩ : Slot) ∈ o.slots
  quiet : o.watch.notices = 0
  awake : o.watch.Awake

variable {own : Option Nat} {o after : Occupancy ρ}

theorem sound_new (limit : Nat) : (new limit : Occupancy ρ).Sound :=
  ⟨rfl, by simp [new, IdleWatch.new, Tracker.new], rfl, IdleWatch.awake_new _⟩

theorem mem_forget_iff {t : Tracker ρ} {id : String} {entry : String × ρ} :
    entry ∈ (t.forget id).registries ↔ entry ∈ t.registries ∧ entry.1 ≠ id := by
  simp [Tracker.forget]

theorem mem_others {before later : List Slot} {slot other : Slot}
    (member : other ∈ before ++ slot :: later) (ne : other ≠ slot) : other ∈ before ++ later := by
  rw [List.mem_append, List.mem_cons] at member
  exact List.mem_append.mpr (member.imp_right fun later => later.resolve_left ne)

/-- The registries that are left when a slot is given back are known under other ids. -/
theorem mem_unbind {t : Tracker ρ} {slot : Slot} {entry : String × ρ}
    (member : entry ∈ (t.unbind slot).registries) :
    entry ∈ t.registries ∧ (⟨some entry.1⟩ : Slot) ≠ slot := by
  unfold Tracker.unbind at member
  split at member
  · next id bound =>
    obtain ⟨old, other⟩ := mem_forget_iff.mp member
    refine ⟨old, fun same => other ?_⟩
    simpa [← same] using bound
  · next unbound =>
    refine ⟨member, fun same => ?_⟩
    simp [← same] at unbound

theorem Sound.step (sound : o.Sound) (step : Step own o after) : after.Sound := by
  have counted := sound.counted
  have known := sound.known
  cases step with
  | reserves taken =>
    obtain ⟨-, rfl, rfl⟩ := Tracker.eq_of_reserve? taken
    refine ⟨?_, fun entry member => List.mem_append_left _ (known entry member), sound.quiet,
      sound.awake.tracker (Nat.le_succ _)⟩
    simpa [IdleWatch.count] using counted
  | binds watch before later id registry =>
    refine ⟨?_, fun entry member => ?_, sound.quiet, sound.awake.tracker (Nat.le_refl _)⟩
    · simpa [IdleWatch.count, Tracker.count_bind] using counted
    · rcases List.mem_cons.mp member with rfl | old
      · exact List.mem_append_right _ List.mem_cons_self
      · have others := mem_others (known entry (mem_forget_iff.mp old).1) (by simp)
        exact (List.Sublist.append_left (List.sublist_cons_self ..) _).subset others
  | releases watch before later slot =>
    refine ⟨?_, fun entry member => ?_, ?_, sound.awake.release slot⟩
    · rw [IdleWatch.count_release, counted]
      simp
    · rw [IdleWatch.tracker_release, Tracker.release_eq] at member
      obtain ⟨old, other⟩ := mem_unbind member
      exact mem_others (known entry old) other
    · rw [IdleWatch.notices_release]
      exact sound.quiet
  | enlists => exact ⟨counted, known, sound.quiet, sound.awake.enlist⟩
  | waits slots other moved =>
    have awake := sound.awake.stepWaiter? moved
    obtain ⟨waiter, next, -, -, rfl⟩ := IdleWatch.stepWaiter?_eq_some moved
    exact ⟨counted, known, sound.quiet, awake⟩

theorem Reaches.sound (run : Reaches o after) (start : o.Sound) : after.Sound := by
  induction run with
  | refl => exact start
  | snoc _ step ih => exact ih.step step

/-- The others leave a waiter who waits for a notification where it is. -/
theorem Step.isParked {position : Nat} {waiter : Waiter} (step : Step (some position) o after)
    (found : o.watch.waiters[position]? = some waiter) (parked : waiter.IsParked) :
    ∃ later, after.watch.waiters[position]? = some later ∧ later.IsParked := by
  cases step with
  | reserves | binds => exact ⟨waiter, found, parked⟩
  | releases => exact IdleWatch.isParked_release found parked
  | enlists watch =>
    obtain ⟨inside, -⟩ := List.getElem?_eq_some_iff.mp found
    refine ⟨waiter, ?_, parked⟩
    rwa [IdleWatch.enlist, List.getElem?_append_left inside]
  | @waits watch _ other slots apart moved =>
    obtain ⟨_, next, -, -, rfl⟩ := IdleWatch.stepWaiter?_eq_some moved
    have ne : other ≠ position := fun same => apart (same ▸ rfl)
    exact ⟨waiter, by rwa [List.getElem?_set_ne ne], parked⟩

/-- Where no slot is out, no operation is counted. -/
theorem Sound.remaining_eq (sound : o.Sound) (none : o.slots = []) (size : ρ → Nat) :
    o.watch.count = 0 ∧ o.watch.tracker.liveOperations size = 0 := by
  have unknown : o.watch.tracker.registries = [] := by
    refine List.eq_nil_iff_forall_not_mem.mpr fun entry member => ?_
    have place := sound.known entry member
    simp [none] at place
  exact ⟨by simp [sound.counted, none], by simp [Tracker.liveOperations, unknown]⟩

end Occupancy

namespace Drain

variable {d after : Drain ρ}

/-- The caller's own place among the waiters. -/
def own? (d : Drain ρ) : Option Nat :=
  match d.stage with
  | .waiting position => some position
  | .listening | .returned _ => none

/-- Whether the caller has found the listener ended and no connection live. -/
def isDrained (d : Drain ρ) : Bool :=
  match d.stage with
  | .waiting position => d.watch.hasReturned position
  | .listening | .returned _ => false

inductive Turns (d : Drain ρ) : Drain ρ → Prop where
  | hears (listening : d.stage = .listening) (ended : d.listenerEnded = true) :
      Turns d { d with watch := d.watch.enlist, stage := .waiting d.watch.waiters.length }
  | moves {position : Nat} {watch : IdleWatch ρ} (waiting : d.stage = .waiting position)
      (moved : d.watch.stepWaiter? position = some watch) : Turns d { d with watch }
  | finishes {position : Nat} (waiting : d.stage = .waiting position)
      (found : d.watch.waiters[position]? = some .returned) :
      Turns d { d with stage := .returned ⟨0, 0⟩ }
  | givesUp (late : d.deadline ≤ d.now) (undrained : d.isDrained = false)
      (pending : d.stage = .listening ∧ d.listenerEnded = false ∨
        ∃ position, d.stage = .waiting position ∧ d.watch.stepWaiter? position = none) :
      Turns d { d with stage := .returned d.remaining }

theorem giveUp_eq_some (h : d.giveUp = some after) :
    d.deadline ≤ d.now ∧ after = { d with stage := .returned d.remaining } := by
  unfold giveUp at h
  split at h
  · next late => cases h; exact ⟨late, rfl⟩
  · cases h

theorem turns_of_turn (h : d.turn = some after) : d.Turns after := by
  unfold turn at h
  split at h
  · next listening =>
    split at h
    · next ended => cases h; exact .hears listening ended
    · next going =>
      obtain ⟨late, rfl⟩ := giveUp_eq_some h
      refine .givesUp late (by simp [isDrained, listening]) (.inl ⟨listening, by simpa using going⟩)
  · next position waiting =>
    split at h
    · next found => cases h; exact .finishes waiting (by simpa [IdleWatch.hasReturned] using found)
    · next unfound =>
      split at h
      · next watch moved => cases h; exact .moves waiting moved
      · next stuck =>
        obtain ⟨late, rfl⟩ := giveUp_eq_some h
        refine .givesUp late ?_ (.inr ⟨position, waiting, stuck⟩)
        simpa [isDrained, waiting] using unfound
  · cases h

/-- One turn after the other, without an interruption. -/
def Serves : Drain ρ → Drain ρ → Prop := Relation.ReflTransGen fun d after => d.turn = some after

/-- A drain with the slots that are out. While the caller is among the waiters, the listener has
ended, and if the caller has found the tracker idle, it is idle still. -/
structure Underway (deadline : Nat) (slots : List Slot) (d : Drain ρ) : Prop where
  shutdown : d.shutdown = true
  deadline : d.deadline = deadline
  sound : Occupancy.Sound ⟨d.watch, slots⟩
  own : ∀ position, d.stage = .waiting position → d.listenerEnded = true ∧
    ∃ waiter, d.watch.waiters[position]? = some waiter ∧
      (waiter = .returned → d.watch.count = 0)

def Parked (d : Drain ρ) : Prop :=
  ∀ position, d.stage = .waiting position →
    ∃ waiter, d.watch.waiters[position]? = some waiter ∧ waiter.IsParked

variable {deadline : Nat} {slots : List Slot}

theorem Underway.turn (underway : d.Underway deadline slots) (turns : d.Turns after) :
    after.Underway deadline slots := by
  obtain ⟨shutdown, same, sound, own⟩ := underway
  cases turns with
  | hears listening ended =>
    have step : Occupancy.Step none ⟨d.watch, slots⟩ ⟨d.watch.enlist, slots⟩ := .enlists _ _
    refine ⟨shutdown, same, sound.step step, ?_⟩
    rintro position waiting
    cases waiting
    exact ⟨ended, .starting, by simp [IdleWatch.enlist], by simp⟩
  | @moves position watch waiting moved =>
    have step : Occupancy.Step none ⟨d.watch, slots⟩ ⟨watch, slots⟩ := .waits _ (by simp) moved
    refine ⟨shutdown, same, sound.step step, ?_⟩
    intro other still
    obtain ⟨ended, -⟩ := own other still
    obtain rfl : position = other := DrainStage.waiting.inj (waiting.symm.trans still)
    obtain ⟨waiter, next, found, stepped, rfl⟩ := IdleWatch.stepWaiter?_eq_some moved
    obtain ⟨inside, -⟩ := List.getElem?_eq_some_iff.mp found
    refine ⟨ended, next, List.getElem?_set_self inside, ?_⟩
    rintro rfl
    exact ((IdleWatch.step?_eq_returned_iff _ _).mp stepped).2
  | finishes | givesUp => exact ⟨shutdown, same, sound, by simp⟩

theorem Underway.serves (underway : d.Underway deadline slots) (serves : d.Serves after) :
    after.Underway deadline slots := by
  induction serves with
  | refl => exact underway
  | tail _ taken ih => exact ih.turn (turns_of_turn taken)

/-- A caller who is stuck among the waiters has no notification. -/
theorem Underway.parked_of_stuck (underway : d.Underway deadline slots) {position : Nat}
    (waiting : d.stage = .waiting position) (undrained : d.isDrained = false)
    (stuck : d.watch.stepWaiter? position = none) :
    d.watch.waiters[position]? = some (.parked false) := by
  obtain ⟨-, waiter, found, -⟩ := underway.own position waiting
  simp only [IdleWatch.stepWaiter?, found, Option.bind_some, Option.map_eq_none_iff] at stuck
  rcases Waiter.eq_of_step?_eq_none stuck with rfl | rfl
  · simp [isDrained, waiting, IdleWatch.hasReturned, found] at undrained
  · exact found

/-- A caller who is stuck among the waiters waits for some slot. -/
theorem Underway.ne_nil_of_stuck (underway : d.Underway deadline slots) {position : Nat}
    (waiting : d.stage = .waiting position) (undrained : d.isDrained = false)
    (stuck : d.watch.stepWaiter? position = none) : slots ≠ [] := by
  have parked := List.mem_of_getElem? (underway.parked_of_stuck waiting undrained stuck)
  have quiet : ¬ 0 < d.watch.notices := Nat.not_lt_of_le (Nat.le_of_eq underway.sound.quiet)
  have live : 0 < d.watch.count := (underway.sound.awake parked).resolve_right quiet
  have counted : d.watch.count = slots.length := underway.sound.counted
  exact List.ne_nil_of_length_pos (by omega)

/-- A caller who cannot go on listens, waits without a notification, or is back. -/
theorem Underway.waits_of_turn (underway : d.Underway deadline slots) (h : d.turn = none) :
    (d.deadline ≤ d.now ∨ d.listenerEnded = true ∧ slots = [] → d.report?.isSome = true) ∧
      d.Parked := by
  unfold Drain.turn at h
  split at h
  · next listening =>
    split at h
    · cases h
    · next going =>
      refine ⟨fun due => ?_, fun position waiting => by simp [listening] at waiting⟩
      rcases due with late | ⟨ended, -⟩
      · simp [giveUp, late] at h
      · exact absurd ended going
  · next position waiting =>
    split at h
    · cases h
    · next unfound =>
      have undrained : d.isDrained = false := by simpa [isDrained, waiting] using unfound
      split at h
      · cases h
      · next stuck =>
        refine ⟨fun due => ?_, fun other still => ?_⟩
        · rcases due with late | ⟨-, none⟩
          · simp [giveUp, late] at h
          · exact absurd none (underway.ne_nil_of_stuck waiting undrained stuck)
        · obtain rfl : position = other := DrainStage.waiting.inj (waiting.symm.trans still)
          exact ⟨_, underway.parked_of_stuck waiting undrained stuck, false, rfl⟩
  · next report returned =>
    refine ⟨fun _ => by simp [report?, returned], fun position waiting => ?_⟩
    simp [returned] at waiting

/-- What the turn tells with which the caller comes back. -/
theorem Underway.report (underway : d.Underway deadline slots) (taken : d.turn = some after)
    {report : Lingering} (returned : after.report? = some report) :
    report = after.remaining ∧
      (d.isDrained = true → after.listenerEnded = true ∧ slots = [] ∧ report = ⟨0, 0⟩) ∧
      (d.isDrained = false →
        deadline ≤ after.now ∧ (after.listenerEnded = false ∨ slots ≠ [])) := by
  have turns := turns_of_turn taken
  cases turns with
  | hears => cases returned
  | moves waiting => simp [report?, waiting] at returned
  | @finishes position waiting found =>
    obtain ⟨ended, waiter, known, idle⟩ := underway.own position waiting
    obtain rfl : .returned = waiter := Option.some.inj (found.symm.trans known)
    have none : slots = [] :=
      List.eq_nil_of_length_eq_zero (underway.sound.counted.symm.trans (idle rfl))
    obtain ⟨zero, silent⟩ := underway.sound.remaining_eq none d.size
    have drained : d.isDrained = true := by simp [isDrained, waiting, IdleWatch.hasReturned, found]
    cases returned
    refine ⟨?_, fun _ => ⟨ended, none, rfl⟩, fun undrained => by simp [drained] at undrained⟩
    simp [remaining, zero, silent]
  | givesUp late undrained pending =>
    cases returned
    refine ⟨rfl, fun drained => by simp [undrained] at drained, fun _ => ⟨?_, ?_⟩⟩
    · exact underway.deadline ▸ late
    · rcases pending with ⟨-, going⟩ | ⟨position, waiting, stuck⟩
      · exact .inl going
      · exact .inr (underway.ne_nil_of_stuck waiting undrained stuck)

def turnsLeft (d : Drain ρ) : Nat :=
  match d.stage with
  | .listening => 7
  | .waiting position => (d.watch.waiters[position]?.elim 0 Waiter.turnsLeft) + 1
  | .returned _ => 0

theorem turnsLeft_lt (taken : d.turn = some after) : after.turnsLeft < d.turnsLeft := by
  cases turns_of_turn taken with
  | hears listening => simp [turnsLeft, listening, IdleWatch.enlist, Waiter.turnsLeft]
  | @moves position watch waiting moved =>
    obtain ⟨waiter, next, found, stepped, rfl⟩ := IdleWatch.stepWaiter?_eq_some moved
    obtain ⟨inside, -⟩ := List.getElem?_eq_some_iff.mp found
    have fewer := Waiter.turnsLeft_lt stepped
    simp only [turnsLeft, waiting, found, List.getElem?_set_self inside, Option.elim]
    omega
  | finishes waiting => simp [turnsLeft, waiting]
  | givesUp _ _ pending =>
    rcases pending with ⟨listening, -⟩ | ⟨position, waiting, -⟩
    · simp [turnsLeft, listening]
    · simp [turnsLeft, waiting]

/-- A caller who is served comes to wait or is back. -/
theorem exists_served (d : Drain ρ) : ∃ after, d.Serves after ∧ after.turn = none := by
  cases taken : d.turn with
  | none => exact ⟨d, .refl, taken⟩
  | some middle =>
    have := turnsLeft_lt taken
    obtain ⟨after, serves, waits⟩ := exists_served middle
    exact ⟨after, .head taken serves, waits⟩
termination_by d.turnsLeft

end Drain

structure Draining (ρ : Type) where
  drain : Drain ρ
  slots : List Slot

namespace Draining

/-- A step of the surroundings, or all the turns that the caller can take, without an
interruption. -/
inductive Step : Draining ρ → Draining ρ → Prop where
  | stirs {d : Drain ρ} {slots later : List Slot} {watch : IdleWatch ρ}
      (step : Occupancy.Step d.own? ⟨d.watch, slots⟩ ⟨watch, later⟩) :
      Step ⟨d, slots⟩ ⟨{ d with watch }, later⟩
  /-- Operations begin and end. -/
  | counts (d : Drain ρ) (slots : List Slot) (size : ρ → Nat) :
      Step ⟨d, slots⟩ ⟨{ d with size }, slots⟩
  | listenerEnds (d : Drain ρ) (slots : List Slot) : Step ⟨d, slots⟩ ⟨d.endListener, slots⟩
  | passes (d : Drain ρ) (slots : List Slot) (time : Nat) : Step ⟨d, slots⟩ ⟨d.setNow time, slots⟩
  | serves {d after : Drain ρ} (slots : List Slot) (serves : d.Serves after)
      (waits : after.turn = none) : Step ⟨d, slots⟩ ⟨after, slots⟩

inductive Reaches (first : Draining ρ) : Draining ρ → Prop where
  | refl : Reaches first first
  | snoc {d after : Draining ρ} (run : Reaches first d) (step : Step d after) : Reaches first after

structure Known (deadline : Nat) (d : Draining ρ) : Prop where
  underway : d.drain.Underway deadline d.slots
  parked : d.drain.Parked

variable {deadline : Nat} {d after : Draining ρ}

theorem Known.step (known : Known deadline d) (step : Step d after) : Known deadline after := by
  obtain ⟨⟨shutdown, same, sound, own⟩, parked⟩ := known
  cases step with
  | @stirs d slots later watch step =>
    have stays (position : Nat) (waiting : d.stage = .waiting position) :
        ∃ waiter, watch.waiters[position]? = some waiter ∧ waiter.IsParked := by
      obtain ⟨waiter, found, waits⟩ := parked position waiting
      simp only [Drain.own?, waiting] at step
      exact step.isParked found waits
    refine ⟨⟨shutdown, same, sound.step step, fun position waiting => ?_⟩, stays⟩
    obtain ⟨waiter, found, notified, rfl⟩ := stays position waiting
    exact ⟨(own position waiting).1, _, found, by simp⟩
  | counts => exact ⟨⟨shutdown, same, sound, own⟩, parked⟩
  | listenerEnds =>
    exact ⟨⟨shutdown, same, sound, fun position waiting => ⟨rfl, (own position waiting).2⟩⟩, parked⟩
  | passes => exact ⟨⟨shutdown, same, sound, own⟩, parked⟩
  | serves slots serves waits =>
    have underway := Drain.Underway.serves ⟨shutdown, same, sound, own⟩ serves
    exact ⟨underway, (underway.waits_of_turn waits).2⟩

theorem Reaches.known {first : Draining ρ} (run : Reaches first d) (start : Known deadline first) :
    Known deadline d := by
  induction run with
  | refl => exact start
  | snoc _ step ih => exact ih.step step

theorem known_begin {o : Occupancy ρ} (sound : o.Sound) (now : Nat) (size : ρ → Nat)
    (listenerEnded : Bool) (limit : Nat) :
    Known (now + limit) ⟨.begin now o.watch size listenerEnded limit, o.slots⟩ :=
  ⟨⟨rfl, rfl, sound, by simp [Drain.begin]⟩, by simp [Drain.Parked, Drain.begin]⟩

/-- Whatever has happened to the tracker before, and whatever becomes of the listener and of the
slots while the caller waits: the shutdown is signalled from the first moment on. The turn with
which the caller comes back reports what is live at that moment. Either the caller has found the
listener ended and the tracker idle, and then no slot is out and the report of nothing is the true
one; or the time is over, and the listener has not ended or some slot is out. Before the deadline
it is the former. A caller who is served comes to wait or is back, and is back at the latest when
the time is over, or when the listener has ended and no slot is out. -/
theorem drain_report_is_exact {places : Nat} {o : Occupancy ρ}
    (history : Occupancy.Reaches (.new places) o) (now limit : Nat) (size : ρ → Nat)
    (listenerEnded : Bool) {d : Draining ρ}
    (run : Reaches ⟨.begin now o.watch size listenerEnded limit, o.slots⟩ d) :
    d.drain.shutdown = true ∧
    (∀ {before after report}, d.drain.Serves before → before.turn = some after →
      after.report? = some report →
        report = ⟨after.watch.count, after.watch.tracker.liveOperations after.size⟩ ∧
        (before.isDrained = true →
          after.listenerEnded = true ∧ d.slots = [] ∧ report = ⟨0, 0⟩) ∧
        (before.isDrained = false →
          now + limit ≤ after.now ∧ (after.listenerEnded = false ∨ d.slots ≠ [])) ∧
        (after.now < now + limit → before.isDrained = true)) ∧
    (∃ after, d.drain.Serves after ∧ after.turn = none) ∧
    ∀ {after}, d.drain.Serves after → after.turn = none →
      (now + limit ≤ after.now ∨ after.listenerEnded = true ∧ d.slots = []) →
        after.report?.isSome = true := by
  have known := run.known (known_begin (history.sound (Occupancy.sound_new places)) now size
    listenerEnded limit)
  refine ⟨known.underway.shutdown, fun serves taken returned => ?_, d.drain.exists_served,
    fun serves waits due => ?_⟩
  · obtain ⟨exact, drained, undrained⟩ := (known.underway.serves serves).report taken returned
    refine ⟨exact, drained, undrained, fun early => ?_⟩
    refine Bool.of_not_eq_false fun pending => ?_
    exact Nat.not_le_of_lt early (undrained pending).1
  · have underway := known.underway.serves serves
    rw [← underway.deadline] at due
    exact (underway.waits_of_turn waits).1 due

/-- The listener ends, but a connection with three operations outlives the limit. -/
theorem drain_of_outlived_connection :
    let watch : IdleWatch Nat := ⟨⟨2, 1, [("c1", 3)]⟩, [], 0⟩
    let first : Draining Nat := ⟨.begin 0 watch id false 5, [⟨some "c1"⟩]⟩
    ∃ d after, Reaches first d ∧ d.drain.turn = some after ∧ d.drain.isDrained = false ∧
      after.report? = some ⟨1, 3⟩ ∧ after.remaining = ⟨1, 3⟩ ∧ d.drain.shutdown = true ∧
      5 ≤ after.now ∧ (after.listenerEnded = false ∨ d.slots ≠ []) := by
  intro watch first
  let slots : List Slot := [⟨some "c1"⟩]
  let taken : Occupancy Nat := ⟨.new ⟨2, 1, []⟩, [⟨none⟩]⟩
  have reserved : Occupancy.Step none (.new 2) taken :=
    @Occupancy.Step.reserves Nat none (.new (.new 2)) [] ⟨none⟩ ⟨2, 1, []⟩ rfl
  have bound : Occupancy.Step none taken ⟨watch, slots⟩ := .binds taken.watch [] [] "c1" 3
  have history : Occupancy.Reaches (.new 2) ⟨watch, slots⟩ := .snoc (.snoc .refl reserved) bound
  let parked : Drain Nat :=
    { (Drain.begin 0 watch id true 5) with
      watch := { watch with waiters := [.parked false] }
      stage := .waiting 0 }
  have serves : (Drain.begin 0 watch id false 5).endListener.Serves parked :=
    .head rfl (.head rfl (.single rfl))
  have run : Reaches first ⟨parked.setNow 5, slots⟩ := Reaches.refl
    |>.snoc (.listenerEnds ..) |>.snoc (.serves slots serves rfl) |>.snoc (.passes ..)
  have ⟨shutdown, outcome, _⟩ := drain_report_is_exact history 0 5 id false run
  have givesUp : (parked.setNow 5).turn =
      some { parked.setNow 5 with stage := .returned ⟨1, 3⟩ } := rfl
  obtain ⟨exact, -, undrained, -⟩ := outcome .refl givesUp rfl
  obtain ⟨late, live⟩ := undrained rfl
  exact ⟨_, _, run, givesUp, rfl, rfl, exact.symm, shutdown, late, live⟩

end Draining

end SubscriptionGateway
