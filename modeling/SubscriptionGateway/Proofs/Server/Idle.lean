import SubscriptionGateway.Server.Idle

/-! Those who wait for a tracker to be idle. Whoever waits for a notification and has none waits for
a reason: a connection is live, or a release has yet to notify. -/
namespace SubscriptionGateway

namespace Waiter

def IsParked (w : Waiter) : Prop := ∃ notified, w = .parked notified

theorem notify_ne_parked (w : Waiter) : w.notify ≠ .parked false := by
  cases w <;> simp [notify]

theorem IsParked.notify {w : Waiter} (parked : w.IsParked) : w.notify.IsParked := by
  obtain ⟨notified, rfl⟩ := parked
  exact ⟨true, rfl⟩

/-- To come to wait without a notification, a waiter must have seen a live connection. -/
theorem pos_of_step?_eq_parked {w : Waiter} {count : Nat} {notified : Bool}
    (h : w.step? count = some (.parked notified)) : 0 < count := by
  unfold step? at h
  split at h
  · cases h
  · split at h
    · cases h
    · next live => exact Nat.pos_of_ne_zero live
  all_goals cases h

/-- A waiter who cannot go on is over, or waits for a notification. -/
theorem eq_of_step?_eq_none {w : Waiter} {count : Nat} (h : w.step? count = none) :
    w = .returned ∨ w = .parked false := by
  unfold step? at h
  split at h <;> simp_all
  split at h <;> cases h

/-- How many steps are left at most to a waiter whom nobody notifies any more. -/
def turnsLeft : Waiter → Nat
  | .asked true => 6
  | .parked true => 5
  | .starting => 4
  | .asked false => 3
  | .parked false => 2
  | .returned => 1

theorem turnsLeft_lt {w next : Waiter} {count : Nat} (h : w.step? count = some next) :
    next.turnsLeft < w.turnsLeft := by
  unfold step? at h
  split at h
  · cases h
    decide
  · next notified =>
    split at h
    · cases h
      cases notified <;> decide
    · cases h
      cases notified <;> decide
  · cases h
    decide
  all_goals cases h

end Waiter

namespace IdleWatch

variable {ρ : Type} {w after : IdleWatch ρ}

def Awake (w : IdleWatch ρ) : Prop :=
  .parked false ∈ w.waiters → 0 < w.count ∨ 0 < w.notices

theorem awake_new (t : Tracker ρ) : (new t).Awake := by simp [Awake, new]

theorem Awake.lower (awake : w.Awake) (slot : Slot) : (w.lower slot).Awake := by
  intro parked
  have before := awake parked
  show 0 < w.count - 1 ∨ 0 < if w.count = 1 then w.notices + 1 else w.notices
  split <;> omega

theorem announce_of_pos (pending : 0 < w.notices) :
    w.announce = { w with waiters := w.waiters.map Waiter.notify, notices := w.notices - 1 } := by
  simp [announce, Nat.ne_of_gt pending]

theorem Awake.announce (awake : w.Awake) : w.announce.Awake := by
  by_cases pending : 0 < w.notices
  · rw [announce_of_pos pending]
    intro parked
    obtain ⟨waiter, -, notified⟩ := List.mem_map.mp parked
    exact absurd notified waiter.notify_ne_parked
  · have same : w.announce = w := by simp [IdleWatch.announce, Nat.eq_zero_of_not_pos pending]
    rwa [same]

theorem Awake.release (awake : w.Awake) (slot : Slot) : (w.release slot).Awake := by
  unfold IdleWatch.release
  split
  · exact (awake.lower slot).announce
  · exact awake.lower slot

theorem Awake.enlist (awake : w.Awake) : w.enlist.Awake := by
  intro parked
  exact awake (by simpa [IdleWatch.enlist] using parked)

/-- More connections wake nobody up, but give a reason to wait. -/
theorem Awake.tracker (awake : w.Awake) {tracker : Tracker ρ} (more : w.count ≤ tracker.count) :
    ({ w with tracker } : IdleWatch ρ).Awake := fun parked =>
  (awake parked).imp_left fun live => Nat.lt_of_lt_of_le live more

theorem stepWaiter?_eq_some {position : Nat} (h : w.stepWaiter? position = some after) :
    ∃ waiter next, w.waiters[position]? = some waiter ∧ waiter.step? w.count = some next ∧
      after = { w with waiters := w.waiters.set position next } := by
  obtain ⟨next, stepped, rfl⟩ := Option.map_eq_some_iff.mp h
  obtain ⟨waiter, found, moved⟩ := Option.bind_eq_some_iff.mp stepped
  exact ⟨waiter, next, found, moved, rfl⟩

theorem Awake.stepWaiter? (awake : w.Awake) {position : Nat}
    (h : w.stepWaiter? position = some after) : after.Awake := by
  obtain ⟨waiter, next, -, moved, rfl⟩ := stepWaiter?_eq_some h
  intro parked
  rcases List.mem_or_eq_of_mem_set parked with old | rfl
  · exact awake old
  · exact .inl (Waiter.pos_of_step?_eq_parked moved)

theorem tracker_release (w : IdleWatch ρ) (slot : Slot) :
    (w.release slot).tracker = w.tracker.release slot := by
  by_cases last : w.count = 1
  · simp [release, lower, announce, last]
  · simp [release, lower, last]

/-- A release without an interruption leaves no notice behind. -/
theorem notices_release (w : IdleWatch ρ) (slot : Slot) :
    (w.release slot).notices = w.notices := by
  by_cases last : w.count = 1
  · simp [release, lower, announce, last]
  · simp [release, lower, last]

/-- Whoever waits for a notification goes on to wait for it, or has got it. -/
theorem isParked_release {slot : Slot} {position : Nat} {waiter : Waiter}
    (found : w.waiters[position]? = some waiter) (parked : waiter.IsParked) :
    ∃ later, (w.release slot).waiters[position]? = some later ∧ later.IsParked := by
  by_cases last : w.count = 1
  · refine ⟨waiter.notify, ?_, parked.notify⟩
    simp [release, lower, announce, last, found]
  · exact ⟨waiter, by simpa [release, lower, last] using found, parked⟩

end IdleWatch

end SubscriptionGateway
