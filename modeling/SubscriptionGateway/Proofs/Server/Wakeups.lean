import Mathlib.Logic.Relation
import SubscriptionGateway.Proofs.Server.Idle
import SubscriptionGateway.Proofs.Server.Slots

/-! Those who wait for a tracker to be idle, while slots are taken and given back. To give a slot
back is to forget its registry, to lower the count and, if that has made it zero, to notify all who
have asked for it; between any two of these steps, and between those of a waiter, the others take
theirs. -/
namespace SubscriptionGateway

variable {ρ : Type}

inductive Handback where
  | begun (slot : Slot)
  /-- The registry is forgotten, and the slot still counts. -/
  | unbound
  /-- The count has come to zero with this slot, and nobody has been notified of it yet. -/
  | unannounced
deriving DecidableEq

namespace Handback

def counts : Handback → Bool
  | .begun _ | .unbound => true
  | .unannounced => false

@[simp] theorem counts_begun (slot : Slot) : (begun slot).counts = true := rfl

@[simp] theorem counts_unbound : unbound.counts = true := rfl

@[simp] theorem counts_unannounced : unannounced.counts = false := rfl

end Handback

theorem Waiter.eq_returned_of_notify {w : Waiter} (h : w.notify = .returned) : w = .returned := by
  cases w <;> first | rfl | cases h

namespace IdleWatch

theorem count_lower (w : IdleWatch ρ) (slot : Slot) : (w.lower slot).count = w.count - 1 := rfl

theorem notices_lower (w : IdleWatch ρ) (slot : Slot) :
    (w.lower slot).notices = if w.count = 1 then w.notices + 1 else w.notices := rfl

theorem hasReturned_iff {w : IdleWatch ρ} {position : Nat} :
    w.hasReturned position = true ↔ w.waiters[position]? = some .returned := beq_iff_eq

/-- Nobody returns because of a notification, or because somebody else begins to wait. -/
theorem returned_of_announce {w : IdleWatch ρ} {position : Nat}
    (returned : w.announce.waiters[position]? = some .returned) :
    w.waiters[position]? = some .returned := by
  unfold announce at returned
  split at returned
  · exact returned
  · rw [List.getElem?_map, Option.map_eq_some_iff] at returned
    obtain ⟨waiter, found, notified⟩ := returned
    rwa [Waiter.eq_returned_of_notify notified] at found

theorem returned_of_enlist {w : IdleWatch ρ} {position : Nat}
    (returned : w.enlist.waiters[position]? = some .returned) :
    w.waiters[position]? = some .returned := by
  rw [enlist, List.getElem?_append] at returned
  split at returned
  · exact returned
  · cases within : position - w.waiters.length <;> simp [within] at returned

/-- A waiter who goes on by itself, with nobody in between. -/
def GoesOn (position : Nat) : IdleWatch ρ → IdleWatch ρ → Prop :=
  Relation.ReflTransGen fun w after => w.stepWaiter? position = some after

/-- On an idle tracker, with nobody left to be notified, whoever waits goes on and returns. -/
theorem exists_returned {w : IdleWatch ρ} {position : Nat} {waiter : Waiter}
    (found : w.waiters[position]? = some waiter) (idle : w.count = 0) (told : w.notices = 0)
    (awake : w.Awake) : ∃ after, GoesOn position w after ∧ after.hasReturned position = true := by
  cases moved : w.stepWaiter? position with
  | none =>
    simp only [stepWaiter?, found, Option.bind_some, Option.map_eq_none_iff] at moved
    rcases Waiter.eq_of_step?_eq_none moved with rfl | rfl
    · exact ⟨w, .refl, hasReturned_iff.mpr found⟩
    · have reason := awake (List.mem_of_getElem? found)
      omega
  | some middle =>
    have awake := awake.stepWaiter? moved
    obtain ⟨other, next, known, stepped, rfl⟩ := stepWaiter?_eq_some moved
    obtain rfl : waiter = other := Option.some.inj (found.symm.trans known)
    have := Waiter.turnsLeft_lt stepped
    obtain ⟨inside, -⟩ := List.getElem?_eq_some_iff.mp found
    have there := List.getElem?_set_self (a := next) inside
    have still : count { w with waiters := w.waiters.set position next } = 0 := idle
    obtain ⟨after, goesOn, returned⟩ := exists_returned there still told awake
    exact ⟨after, .head moved goesOn, returned⟩
termination_by waiter.turnsLeft

end IdleWatch

/-- A tracker with those who wait for it, the slots that are out and those being given back. -/
structure Turnover (ρ : Type) where
  watch : IdleWatch ρ
  slots : List Slot
  handbacks : List Handback

namespace Turnover

def new (limit : Nat) : Turnover ρ := ⟨.new (.new limit), [], []⟩

/-- One step of anybody. A slot is given back once. -/
inductive Step : Turnover ρ → Turnover ρ → Prop where
  | reserves {watch : IdleWatch ρ} {slot : Slot} {tracker : Tracker ρ} (slots : List Slot)
      (handbacks : List Handback) (taken : watch.tracker.reserve? = some (slot, tracker)) :
      Step ⟨watch, slots, handbacks⟩ ⟨{ watch with tracker }, slots ++ [slot], handbacks⟩
  | binds (watch : IdleWatch ρ) (before later : List Slot) (slot : Slot)
      (handbacks : List Handback) (id : String) (registry : ρ) :
      Step ⟨watch, before ++ slot :: later, handbacks⟩
        ⟨{ watch with tracker := (watch.tracker.bind id registry).2 },
          before ++ (watch.tracker.bind id registry).1 :: later, handbacks⟩
  | begins (watch : IdleWatch ρ) (before later : List Slot) (slot : Slot)
      (handbacks : List Handback) :
      Step ⟨watch, before ++ slot :: later, handbacks⟩
        ⟨watch, before ++ later, handbacks ++ [.begun slot]⟩
  | unbinds (watch : IdleWatch ρ) (slots : List Slot) (before later : List Handback)
      (slot : Slot) :
      Step ⟨watch, slots, before ++ .begun slot :: later⟩
        ⟨{ watch with tracker := watch.tracker.unbind slot }, slots, before ++ .unbound :: later⟩
  | lowers {watch : IdleWatch ρ} (slots : List Slot) (before later : List Handback)
      (others : watch.count ≠ 1) :
      Step ⟨watch, slots, before ++ .unbound :: later⟩ ⟨watch.lower ⟨none⟩, slots, before ++ later⟩
  | empties {watch : IdleWatch ρ} (slots : List Slot) (before later : List Handback)
      (last : watch.count = 1) :
      Step ⟨watch, slots, before ++ .unbound :: later⟩
        ⟨watch.lower ⟨none⟩, slots, before ++ .unannounced :: later⟩
  | announces (watch : IdleWatch ρ) (slots : List Slot) (before later : List Handback) :
      Step ⟨watch, slots, before ++ .unannounced :: later⟩ ⟨watch.announce, slots, before ++ later⟩
  | enlists (watch : IdleWatch ρ) (slots : List Slot) (handbacks : List Handback) :
      Step ⟨watch, slots, handbacks⟩ ⟨watch.enlist, slots, handbacks⟩
  | waits {watch after : IdleWatch ρ} {position : Nat} (slots : List Slot)
      (handbacks : List Handback) (moved : watch.stepWaiter? position = some after) :
      Step ⟨watch, slots, handbacks⟩ ⟨after, slots, handbacks⟩

def Reaches : Turnover ρ → Turnover ρ → Prop := Relation.ReflTransGen Step

/-- The count is that of the slots that are out or not given back so far, each notice is that of a
slot which came to be the last, and nobody waits in vain. -/
structure Sound (t : Turnover ρ) : Prop where
  counted : t.watch.count = t.slots.length + t.handbacks.countP Handback.counts
  noticed : t.watch.notices = t.handbacks.count .unannounced
  awake : t.watch.Awake

variable {t after : Turnover ρ} {position : Nat}

theorem sound_new (limit : Nat) : (new limit : Turnover ρ).Sound :=
  ⟨rfl, rfl, IdleWatch.awake_new _⟩

theorem Sound.step (sound : t.Sound) (step : Step t after) : after.Sound := by
  obtain ⟨counted, noticed, awake⟩ := sound
  cases step with
  | reserves slots handbacks taken =>
    obtain ⟨-, rfl, rfl⟩ := Tracker.eq_of_reserve? taken
    refine ⟨?_, noticed, awake.tracker (Nat.le_succ _)⟩
    simp only [IdleWatch.count, List.length_append, List.length_singleton] at counted ⊢
    omega
  | binds watch before later slot handbacks id registry =>
    refine ⟨?_, noticed, awake.tracker (Nat.le_refl _)⟩
    simpa [IdleWatch.count, Tracker.count_bind] using counted
  | begins watch before later slot handbacks =>
    refine ⟨?_, by simpa using noticed, awake⟩
    simp only [List.length_append, List.length_cons, List.countP_append, List.countP_singleton,
      Handback.counts_begun, if_true] at counted ⊢
    omega
  | unbinds watch slots before later slot =>
    have same : (watch.tracker.unbind slot).count = watch.count := watch.tracker.count_unbind slot
    refine ⟨?_, by simpa using noticed, awake.tracker (Nat.le_of_eq same.symm)⟩
    simpa [IdleWatch.count, same, List.countP_cons] using counted
  | lowers slots before later others =>
    refine ⟨?_, by simpa [IdleWatch.notices_lower, others] using noticed, awake.lower _⟩
    simp only [IdleWatch.count_lower, List.countP_append, List.countP_cons,
      Handback.counts_unbound, if_true] at counted ⊢
    omega
  | @empties watch slots before later last =>
    refine ⟨?_, ?_, awake.lower _⟩
    · simp only [IdleWatch.count_lower, List.countP_append, List.countP_cons,
        Handback.counts_unbound, Handback.counts_unannounced, Bool.false_eq_true, if_true, if_false]
        at counted ⊢
      omega
    · have pending : watch.notices = before.count .unannounced + later.count .unannounced := by
        simpa using noticed
      simp [IdleWatch.notices_lower, last, pending, Nat.add_assoc]
  | announces watch slots before later =>
    have notices : watch.notices = (before.count .unannounced + later.count .unannounced) + 1 := by
      simpa [Nat.add_assoc] using noticed
    have pending : 0 < watch.notices := by omega
    refine ⟨?_, ?_, awake.announce⟩
    · simpa [IdleWatch.announce_of_pos pending, IdleWatch.count] using counted
    · simp [IdleWatch.announce_of_pos pending, notices]
  | enlists => exact ⟨counted, noticed, awake.enlist⟩
  | waits slots handbacks moved =>
    have stays := awake.stepWaiter? moved
    obtain ⟨waiter, next, -, -, rfl⟩ := IdleWatch.stepWaiter?_eq_some moved
    exact ⟨counted, noticed, stays⟩

theorem Reaches.sound {first : Turnover ρ} (run : Reaches first t) (start : first.Sound) :
    t.Sound := by
  induction run with
  | refl => exact start
  | tail _ step ih => exact ih.step step

/-- A slot that is given back without an interruption. -/
theorem reaches_release (watch : IdleWatch ρ) (before later : List Slot) (slot : Slot) :
    Reaches ⟨watch, before ++ slot :: later, []⟩ ⟨watch.release slot, before ++ later, []⟩ := by
  let unbound : IdleWatch ρ := { watch with tracker := watch.tracker.unbind slot }
  have same : unbound.count = watch.count := watch.tracker.count_unbind slot
  have opened : Reaches ⟨watch, before ++ slot :: later, []⟩
      ⟨unbound, before ++ later, [.unbound]⟩ :=
    .tail (.single (.begins watch before later slot [])) (.unbinds watch _ [] [] slot)
  have lowered : unbound.lower ⟨none⟩ = watch.lower slot := by
    simp only [IdleWatch.lower, same, Tracker.release_eq]
    rfl
  by_cases last : watch.count = 1
  · have released : watch.release slot = (unbound.lower ⟨none⟩).announce := by
      rw [lowered, IdleWatch.release, if_pos last]
    rw [released]
    exact (opened.tail (.empties _ [] [] (same.trans last))).tail (.announces _ _ [] [])
  · have released : watch.release slot = unbound.lower ⟨none⟩ := by
      rw [lowered, IdleWatch.release, if_neg last]
    rw [released]
    exact opened.tail (.lowers _ [] [] fun one => last (same.symm.trans one))

/-- Only a step of its own lets a waiter return, and that only if it finds nobody live. -/
theorem Step.returns (step : Step t after) (waiting : t.watch.hasReturned position = false)
    (returned : after.watch.hasReturned position = true) :
    t.watch.stepWaiter? position = some after.watch ∧ t.watch.count = 0 := by
  rw [IdleWatch.hasReturned_iff] at returned
  have pending : t.watch.waiters[position]? ≠ some .returned := fun same => by
    simp [IdleWatch.hasReturned_iff.mpr same] at waiting
  cases step with
  | reserves | binds | begins | unbinds | lowers | empties => exact absurd returned pending
  | announces watch => exact absurd (IdleWatch.returned_of_announce returned) pending
  | enlists watch => exact absurd (IdleWatch.returned_of_enlist returned) pending
  | @waits watch _ own slots handbacks moved =>
    obtain ⟨waiter, next, found, stepped, rfl⟩ := IdleWatch.stepWaiter?_eq_some moved
    by_cases same : own = position
    · subst same
      obtain ⟨inside, -⟩ := List.getElem?_eq_some_iff.mp found
      rw [List.getElem?_set_self inside] at returned
      obtain rfl := Option.some.inj returned
      exact ⟨moved, ((IdleWatch.step?_eq_returned_iff _ _).mp stepped).2⟩
    · rw [List.getElem?_set_ne same] at returned
      exact absurd returned pending

/-- In every state that can be reached: if anybody waits for a notification and has none, a
connection is live, or a slot with which the count came to zero is yet to be announced; so while no
slot is being given back, some slot is out. A waiter returns only in a step in which it finds the
count at zero. And whoever waits while the count is zero and all is announced will return if it is
let go on. -/
theorem no_wakeup_is_lost {limit : Nat} (run : Reaches (new limit : Turnover ρ) t) :
    (.parked false ∈ t.watch.waiters →
      (0 < t.watch.count ∨ .unannounced ∈ t.handbacks) ∧ (t.handbacks = [] → t.slots ≠ [])) ∧
    (∀ {after position}, Step t after → t.watch.hasReturned position = false →
      after.watch.hasReturned position = true →
        t.watch.stepWaiter? position = some after.watch ∧ t.watch.count = 0) ∧
    (∀ {position waiter}, t.watch.waiters[position]? = some waiter → t.watch.count = 0 →
      .unannounced ∉ t.handbacks →
        ∃ after, t.watch.GoesOn position after ∧ after.hasReturned position = true) := by
  obtain ⟨counted, noticed, awake⟩ := run.sound (sound_new limit)
  refine ⟨fun parked => ⟨?_, fun none => ?_⟩, Step.returns, fun found idle announced => ?_⟩
  · refine (awake parked).imp_right fun pending => List.count_pos_iff.mp ?_
    rwa [← noticed]
  · have live := (awake parked).resolve_right (by simp [noticed, none])
    rw [none] at counted
    exact List.ne_nil_of_length_pos (by simpa [counted] using live)
  · have told : t.watch.notices = 0 := by rw [noticed, List.count_eq_zero.mpr announced]
    exact IdleWatch.exists_returned found idle told awake

/-- The only slot is given back and taken again before the waiter is told: it waits on, and returns
when the slot is given back once more. -/
theorem wakeup_of_late_waiter :
    ∃ t u v : Turnover Unit, Reaches (new 1) t ∧ .parked false ∈ t.watch.waiters ∧
      t.watch.count = 0 ∧ .unannounced ∈ t.handbacks ∧
      Reaches t u ∧ .parked false ∈ u.watch.waiters ∧ u.handbacks = [] ∧ u.slots ≠ [] ∧
      Reaches u v ∧ ∃ after, v.watch.GoesOn 0 after ∧ after.hasReturned 0 = true := by
  let slot : Slot := ⟨none⟩
  let watch (count notices : Nat) (waiter : Waiter) : IdleWatch Unit :=
    ⟨⟨1, count, []⟩, [waiter], notices⟩
  let t : Turnover Unit := ⟨watch 0 1 (.parked false), [], [.unannounced]⟩
  let u : Turnover Unit := ⟨watch 1 0 (.parked false), [slot], []⟩
  let v : Turnover Unit := ⟨watch 0 0 (.parked true), [], []⟩
  let arrived (waiter : Waiter) : Turnover Unit := ⟨watch 1 0 waiter, [slot], []⟩
  have opened : Reaches (new 1) (arrived .starting) :=
    .tail (.single (.reserves [] [] rfl)) (.enlists _ _ _)
  have asks : Step (arrived .starting) (arrived (.asked false)) :=
    @Step.waits Unit _ _ 0 [slot] [] rfl
  have parks : Step (arrived (.asked false)) u := @Step.waits Unit _ _ 0 [slot] [] rfl
  have emptied : Reaches u t :=
    .tail (.tail (.single (.begins _ [] [] slot [])) (.unbinds _ _ [] [] slot))
      (.empties _ [] [] rfl)
  have told : Reaches t (arrived (.parked true)) :=
    .tail (.single (.reserves [] _ rfl)) (.announces _ _ [] [])
  have wakes : Step (arrived (.parked true)) (arrived .starting) :=
    @Step.waits Unit _ _ 0 [slot] [] rfl
  have toT : Reaches (new 1) t := ((opened.tail asks).tail parks).trans emptied
  have toU : Reaches t u := ((told.tail wakes).tail asks).tail parks
  have toV : Reaches u v := reaches_release (watch 1 0 (.parked false)) [] [] slot
  obtain ⟨reason, -, -⟩ := no_wakeup_is_lost toT
  obtain ⟨live, -, -⟩ := no_wakeup_is_lost (toT.trans toU)
  obtain ⟨-, -, returns⟩ := no_wakeup_is_lost ((toT.trans toU).trans toV)
  have parked : Waiter.parked false ∈ [Waiter.parked false] := List.mem_cons_self
  exact ⟨t, u, v, toT, parked, rfl, (reason parked).1.resolve_left (Nat.lt_irrefl 0), toU, parked,
    rfl, (live parked).2 rfl, toV, returns rfl rfl List.not_mem_nil⟩

end Turnover

end SubscriptionGateway
