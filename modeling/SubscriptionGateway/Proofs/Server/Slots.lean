import Mathlib.Algebra.BigOperators.Group.List.Basic
import Mathlib.Algebra.Ring.Nat
import Mathlib.Data.List.Nodup
import SubscriptionGateway.Server.Tracker

/-! The slots of a server while any number of upgrades are handled at once. A handler takes a slot,
binds it and gives it back in steps of its own, and between any two of them the others take theirs;
to give a slot back is to forget its registry first and to lower the count after that. -/
namespace SubscriptionGateway

variable {ρ : Type}

namespace Tracker

/-- Forgets the registry of a slot that is given back, while the slot still counts. -/
def unbind (t : Tracker ρ) (slot : Slot) : Tracker ρ :=
  match slot.connectionId with
  | some id => t.forget id
  | none => t

def lower (t : Tracker ρ) : Tracker ρ := { t with count := t.count - 1 }

theorem release_eq (t : Tracker ρ) (slot : Slot) : t.release slot = (t.unbind slot).lower := by
  unfold release unbind lower
  cases slot.connectionId <;> rfl

theorem count_unbind (t : Tracker ρ) (slot : Slot) : (t.unbind slot).count = t.count := by
  unfold unbind
  split <;> rfl

theorem limit_unbind (t : Tracker ρ) (slot : Slot) : (t.unbind slot).limit = t.limit := by
  unfold unbind
  split <;> rfl

theorem eq_of_reserve? {t after : Tracker ρ} {slot : Slot}
    (h : t.reserve? = some (slot, after)) :
    t.count < t.limit ∧ slot = ⟨none⟩ ∧ after = { t with count := t.count + 1 } := by
  unfold reserve? at h
  split at h
  · next free =>
    cases h
    exact ⟨free, rfl, rfl⟩
  · cases h

theorem liveOperations_eq (t : Tracker ρ) (size : ρ → Nat) :
    t.liveOperations size = (t.registries.map fun entry => size entry.2).sum := by
  unfold liveOperations
  induction t.registries with
  | nil => rfl
  | cons entry rest ih => rw [List.foldr_cons, ih, List.map_cons, List.sum_cons]

end Tracker

inductive SlotChange where
  | taken
  | returned
deriving DecidableEq

inductive Handler (ρ : Type) where
  | arrived
  /-- The server was not shutting down when the handler looked. -/
  | admitted
  | reserved (slot : Slot)
  | serving (slot : Slot) (id : String) (registry : ρ)
  /-- The slot is being given back, with its registry forgotten already. -/
  | leaving (served : Bool)
  /-- Answered without a slot, since the server shuts down or since all slots are out. -/
  | turnedAway (shuttingDown : Bool)
  /-- The slot has been given back, after the connection has ended or since there was none: the
  request was rejected, or its client was gone too early. -/
  | gone (served : Bool)

namespace Handler

def holdsSlot : Handler ρ → Bool
  | .reserved _ | .serving _ _ _ | .leaving _ => true
  | .arrived | .admitted | .turnedAway _ | .gone _ => false

def isGone : Handler ρ → Bool
  | .gone _ => true
  | _ => false

def hadSlot (h : Handler ρ) : Bool := h.holdsSlot || h.isGone

def isSettled : Handler ρ → Bool
  | .serving _ _ _ | .turnedAway _ | .gone _ => true
  | .arrived | .admitted | .reserved _ | .leaving _ => false

def entry? : Handler ρ → Option (String × ρ)
  | .serving _ id registry => some (id, registry)
  | _ => none

def Bound : Handler ρ → Prop
  | .reserved slot => slot.connectionId = none
  | .serving slot id _ => slot.connectionId = some id
  | _ => True

inductive Step (shutdown : Bool) :
    Tracker ρ → Handler ρ → Option SlotChange → Tracker ρ → Handler ρ → Prop where
  | turnsAway (t : Tracker ρ) (down : shutdown = true) :
      Step shutdown t .arrived none t (.turnedAway true)
  | admits (t : Tracker ρ) (up : shutdown = false) : Step shutdown t .arrived none t .admitted
  | refuses {t : Tracker ρ} (full : t.reserve? = none) :
      Step shutdown t .admitted none t (.turnedAway false)
  | reserves {t after : Tracker ρ} {slot : Slot} (taken : t.reserve? = some (slot, after)) :
      Step shutdown t .admitted (some .taken) after (.reserved slot)
  | binds (t : Tracker ρ) (slot : Slot) (id : String) (registry : ρ) :
      Step shutdown t (.reserved slot) none (t.bind id registry).2
        (.serving (t.bind id registry).1 id registry)
  | rejects (t : Tracker ρ) (slot : Slot) :
      Step shutdown t (.reserved slot) none (t.unbind slot) (.leaving false)
  | ends (t : Tracker ρ) (slot : Slot) (id : String) (registry : ρ) :
      Step shutdown t (.serving slot id registry) none (t.unbind slot) (.leaving true)
  | gives (t : Tracker ρ) (served : Bool) :
      Step shutdown t (.leaving served) (some .returned) t.lower (.gone served)

namespace Step

variable {shutdown : Bool} {t t' : Tracker ρ} {h h' : Handler ρ} {change : Option SlotChange}

theorem limit_eq (step : h.Step shutdown t change t' h') : t'.limit = t.limit := by
  cases step with
  | reserves taken => exact (Tracker.count_reserve? taken).2.2
  | rejects slot | ends slot => exact t.limit_unbind slot
  | _ => rfl

/-- The count goes with the slots: it rises when one is taken, of which there is one left then, and
falls when one is given back. -/
theorem count_cases (step : h.Step shutdown t change t' h') :
    (change = none ∧ t'.count = t.count ∧ h'.holdsSlot = h.holdsSlot ∧ h'.isGone = h.isGone) ∨
    (change = some .taken ∧ t.count < t.limit ∧ t'.count = t.count + 1 ∧
      h.holdsSlot = false ∧ h'.holdsSlot = true ∧ h.isGone = false ∧ h'.isGone = false) ∨
    (change = some .returned ∧ t'.count = t.count - 1 ∧
      h.holdsSlot = true ∧ h'.holdsSlot = false ∧ h.isGone = false ∧ h'.isGone = true) := by
  cases step with
  | reserves taken =>
    obtain ⟨free, -, rfl⟩ := Tracker.eq_of_reserve? taken
    exact .inr (.inl ⟨rfl, free, rfl, rfl, rfl, rfl, rfl⟩)
  | gives => exact .inr (.inr ⟨rfl, rfl, rfl, rfl, rfl, rfl⟩)
  | rejects slot | ends slot => exact .inl ⟨rfl, t.count_unbind slot, rfl, rfl⟩
  | _ => exact .inl ⟨rfl, rfl, rfl, rfl⟩

theorem bound (step : h.Step shutdown t change t' h') : h'.Bound := by
  cases step with
  | reserves taken =>
    obtain ⟨-, rfl, -⟩ := Tracker.eq_of_reserve? taken
    rfl
  | binds => rfl
  | _ => trivial

/-- A registry becomes known when a slot is bound, and is forgotten when that slot is given back. -/
theorem registries_cases (step : h.Step shutdown t change t' h') (bound : h.Bound) :
    (h'.entry? = h.entry? ∧ t'.registries = t.registries) ∨
    (∃ entry, h.entry? = none ∧ h'.entry? = some entry ∧
      t'.registries = entry :: (t.forget entry.1).registries) ∨
    ∃ entry, h.entry? = some entry ∧ h'.entry? = none ∧
      t'.registries = (t.forget entry.1).registries := by
  cases step with
  | reserves taken =>
    obtain ⟨-, -, rfl⟩ := Tracker.eq_of_reserve? taken
    exact .inl ⟨rfl, rfl⟩
  | binds slot id registry => exact .inr (.inl ⟨(id, registry), rfl, rfl, rfl⟩)
  | rejects slot =>
    have unbound : slot.connectionId = none := bound
    exact .inl ⟨rfl, by rw [Tracker.unbind, unbound]⟩
  | ends slot id registry =>
    have named : slot.connectionId = some id := bound
    exact .inr (.inr ⟨(id, registry), rfl, rfl, by rw [Tracker.unbind, named]⟩)
  | _ => exact .inl ⟨rfl, rfl⟩

end Step

end Handler

structure SlotEvent where
  position : Nat
  change : SlotChange
deriving DecidableEq

structure Upgrades (ρ : Type) where
  tracker : Tracker ρ
  shutdown : Bool
  handlers : List (Handler ρ)

namespace Upgrades

def new (limit : Nat) : Upgrades ρ := ⟨.new limit, false, []⟩

/-- One step: a request arrives, the server begins to shut down, or some handler goes on. A slot
that is bound then is bound to an id that no other slot is bound to. -/
inductive Step : Upgrades ρ → List SlotEvent → Upgrades ρ → Prop where
  | arrives (u : Upgrades ρ) : Step u [] { u with handlers := u.handlers ++ [.arrived] }
  | shutsDown (u : Upgrades ρ) : Step u [] { u with shutdown := true }
  | moves {t t' : Tracker ρ} {shutdown : Bool} (before after : List (Handler ρ))
      {h h' : Handler ρ} {change : Option SlotChange} (step : h.Step shutdown t change t' h')
      (unshared : ∀ entry ∈ h'.entry?, ∀ other ∈ (before ++ after).filterMap Handler.entry?,
        other.1 ≠ entry.1) :
      Step ⟨t, shutdown, before ++ h :: after⟩ (change.map (⟨before.length, ·⟩)).toList
        ⟨t', shutdown, before ++ h' :: after⟩

inductive Reaches : Upgrades ρ → List SlotEvent → Upgrades ρ → Prop where
  | refl (u : Upgrades ρ) : Reaches u [] u
  | step {u middle last : Upgrades ρ} {first rest : List SlotEvent}
      (head : Step u first middle) (tail : Reaches middle rest last) :
      Reaches u (first ++ rest) last

theorem Reaches.trans {u middle last : Upgrades ρ} {first rest : List SlotEvent}
    (h : Reaches u first middle) (t : Reaches middle rest last) :
    Reaches u (first ++ rest) last := by
  induction h with
  | refl => exact t
  | step head _ ih => simpa only [List.append_assoc] using Reaches.step head (ih t)

/-- The handler that came last goes on. -/
theorem step_last (shutdown : Bool) (handlers : List (Handler ρ)) {t t' : Tracker ρ}
    {h h' : Handler ρ} {change : Option SlotChange} (step : h.Step shutdown t change t' h')
    (unshared : ∀ entry ∈ h'.entry?, ∀ other ∈ handlers.filterMap Handler.entry?,
      other.1 ≠ entry.1) :
    Step ⟨t, shutdown, handlers ++ [h]⟩ (change.map (⟨handlers.length, ·⟩)).toList
      ⟨t', shutdown, handlers ++ [h']⟩ :=
  .moves handlers [] step (by simpa using unshared)

theorem getElem?_moved {α : Type} {before later : List α} (h h' : α) (i : Nat) :
    (before ++ h' :: later)[i]? =
      if i = before.length then some h' else (before ++ h :: later)[i]? := by
  rcases Nat.lt_trichotomy i before.length with lt | rfl | gt
  · rw [if_neg (Nat.ne_of_lt lt), List.getElem?_append_left lt, List.getElem?_append_left lt]
  · simp
  · obtain ⟨more, rfl⟩ := Nat.exists_eq_add_of_lt gt
    rw [if_neg (by omega), Nat.add_assoc, List.getElem?_append_right (Nat.le_add_right _ _),
      List.getElem?_append_right (Nat.le_add_right _ _), Nat.add_sub_cancel_left]
    rfl

structure Accounted (limit : Nat) (log : List SlotEvent) (u : Upgrades ρ) : Prop where
  limited : u.tracker.limit = limit
  counted : u.tracker.count = u.handlers.countP Handler.holdsSlot
  bounded : u.tracker.count ≤ limit
  balanced : u.tracker.count + log.countP (·.change = .returned) = log.countP (·.change = .taken)
  known : u.tracker.registries.Perm (u.handlers.filterMap Handler.entry?)
  distinct : (u.tracker.registries.map Prod.fst).Nodup
  bound : ∀ h ∈ u.handlers, h.Bound
  taken : ∀ i, log.count ⟨i, .taken⟩ = if u.handlers[i]?.any Handler.hadSlot then 1 else 0
  returned : ∀ i, log.count ⟨i, .returned⟩ = if u.handlers[i]?.any Handler.isGone then 1 else 0

theorem accounted_new (limit : Nat) : Accounted limit [] (new limit : Upgrades ρ) := by
  refine ⟨rfl, rfl, Nat.zero_le _, rfl, .nil, .nil, ?_, fun _ => rfl, fun _ => rfl⟩
  simp [new]

variable {limit : Nat} {log events : List SlotEvent} {u after : Upgrades ρ}

/-- Nothing is known under an id that no slot is bound to. -/
theorem forget_of_unknown {t : Tracker ρ} {id : String}
    (unknown : ∀ entry ∈ t.registries, entry.1 ≠ id) : (t.forget id).registries = t.registries :=
  List.filter_eq_self.mpr fun entry known => by simpa using unknown entry known

theorem registries_moved {t t' : Tracker ρ} {shutdown : Bool} {before later : List (Handler ρ)}
    {h h' : Handler ρ} {change : Option SlotChange} (step : h.Step shutdown t change t' h')
    (bound : h.Bound)
    (unshared : ∀ entry ∈ h'.entry?, ∀ other ∈ (before ++ later).filterMap Handler.entry?,
      other.1 ≠ entry.1)
    (known : t.registries.Perm ((before ++ h :: later).filterMap Handler.entry?))
    (distinct : (t.registries.map Prod.fst).Nodup) :
    t'.registries.Perm ((before ++ h' :: later).filterMap Handler.entry?) ∧
      (t'.registries.map Prod.fst).Nodup := by
  rw [List.filterMap_append] at unshared known ⊢
  rcases step.registries_cases bound with
    ⟨same, kept⟩ | ⟨entry, none, some, added⟩ | ⟨entry, some, none, removed⟩
  · rw [List.filterMap_cons, same, ← List.filterMap_cons, kept]
    exact ⟨known, distinct⟩
  · simp only [List.filterMap_cons, none, some] at known unshared ⊢
    have fresh : ∀ other ∈ t.registries, other.1 ≠ entry.1 := fun other member =>
      unshared entry rfl other (known.mem_iff.mp member)
    rw [added, forget_of_unknown fresh]
    refine ⟨(known.cons entry).trans List.perm_middle.symm, List.nodup_cons.mpr ⟨?_, distinct⟩⟩
    simpa using fun registry member => fresh (entry.1, registry) member rfl
  · simp only [List.filterMap_cons, none, some] at known ⊢
    have alone : ∀ other ∈ before.filterMap Handler.entry? ++ later.filterMap Handler.entry?,
        other.1 ≠ entry.1 := by
      have nodup := (known.map Prod.fst).nodup_iff.mp distinct
      rw [List.map_append, List.map_cons, List.nodup_middle, ← List.map_append] at nodup
      exact fun other member same =>
        (List.nodup_cons.mp nodup).1 (same ▸ List.mem_map_of_mem member)
    rw [removed]
    refine ⟨?_, ?_⟩
    · have rest := (known.trans List.perm_middle).filter fun other => other.1 != entry.1
      have others := List.filter_eq_self.mpr fun other member => bne_iff_ne.mpr (alone other member)
      rw [List.filter_cons_of_neg (by simp), others] at rest
      exact rest
    · exact (List.filter_sublist.map Prod.fst).nodup distinct

theorem Accounted.arrives (a : Accounted limit log u) :
    Accounted limit log { u with handlers := u.handlers ++ [.arrived] } := by
  have unseen (q : Handler ρ → Bool) (not : q .arrived = false) (i : Nat) :
      (u.handlers ++ [.arrived])[i]?.any q = u.handlers[i]?.any q := by
    rw [List.getElem?_append]
    split
    · rfl
    · next beyond =>
      rw [List.getElem?_eq_none (Nat.not_lt.mp beyond)]
      cases i - u.handlers.length <;> simp [not]
  refine { a with
    counted := by simpa [Handler.holdsSlot] using a.counted
    known := by simpa [List.filterMap_cons, Handler.entry?] using a.known
    bound := ?_
    taken := fun i => by rw [unseen _ rfl]; exact a.taken i
    returned := fun i => by rw [unseen _ rfl]; exact a.returned i }
  intro h member
  rcases List.mem_append.mp member with old | new
  · exact a.bound h old
  · cases List.mem_singleton.mp new
    trivial

variable {t t' : Tracker ρ} {shutdown : Bool} {before later : List (Handler ρ)} {h h' : Handler ρ}
  {change : Option SlotChange}

/-- A change that a handler makes once, and its mark on the handler. -/
theorem count_moved {q : Handler ρ → Bool} {c : SlotChange}
    (known : ∀ i, log.count ⟨i, c⟩ = if (before ++ h :: later)[i]?.any q then 1 else 0)
    (marks : q h' = (q h || change == some c)) (once : change = some c → q h = false) (i : Nat) :
    (log ++ (change.map (SlotEvent.mk before.length)).toList).count ⟨i, c⟩ =
      if (before ++ h' :: later)[i]?.any q then 1 else 0 := by
  rw [List.count_append, known, getElem?_moved h h']
  by_cases here : i = before.length
  · subst here
    by_cases made : change = some c
    · simp [made, marks, once made]
    · cases change with
      | none => simp [marks]
      | some other =>
        have differs : other ≠ c := fun same => made (same ▸ rfl)
        simp [marks, differs]
  · cases change with
    | none => simp [here]
    | some other => simp [here, Ne.symm here]

theorem Accounted.moves (a : Accounted limit log ⟨t, shutdown, before ++ h :: later⟩)
    (step : h.Step shutdown t change t' h')
    (unshared : ∀ entry ∈ h'.entry?, ∀ other ∈ (before ++ later).filterMap Handler.entry?,
      other.1 ≠ entry.1) :
    Accounted limit (log ++ (change.map (SlotEvent.mk before.length)).toList)
      ⟨t', shutdown, before ++ h' :: later⟩ := by
  have registries := registries_moved step (a.bound h (by simp)) unshared a.known a.distinct
  have counted : t.count = (before ++ h :: later).countP Handler.holdsSlot := a.counted
  have bounded : t.count ≤ limit := a.bounded
  have limited : t.limit = limit := a.limited
  have balanced : t.count + _ = _ := a.balanced
  simp only [List.countP_append, List.countP_cons] at counted
  have counts := step.count_cases
  refine ⟨step.limit_eq.trans a.limited, ?_, ?_, ?_, registries.1, registries.2, ?_,
    count_moved a.taken ?_ ?_, count_moved a.returned ?_ ?_⟩
  · simp only [List.countP_append, List.countP_cons]
    rcases counts with ⟨-, same, held, -⟩ | ⟨-, -, more, idle, held, -⟩ | ⟨-, less, held, idle, -⟩
    · rw [same, held, counted]
    · simp only [more, idle, held, counted, if_true, Bool.false_eq_true, if_false]
      omega
    · simp only [less, idle, held, counted, if_true, Bool.false_eq_true, if_false]
      omega
  · show t'.count ≤ limit
    rcases counts with ⟨-, same, -⟩ | ⟨-, free, more, -⟩ | ⟨-, less, -⟩ <;> omega
  · rw [List.countP_append, List.countP_append]
    show t'.count + _ = _
    rcases counts with ⟨rfl, same, -⟩ | ⟨rfl, -, more, -⟩ | ⟨rfl, less, held, -⟩
    · simpa [same] using balanced
    · simp [more]
      omega
    · simp [less, held] at counted ⊢
      omega
  · intro other member
    rcases List.mem_append.mp member with old | new
    · exact a.bound other (by simp [old])
    · rcases List.mem_cons.mp new with rfl | old
      · exact step.bound
      · exact a.bound other (by simp [old])
  · rcases counts with ⟨rfl, -, held, gone⟩ | ⟨rfl, -, -, idle, held, gone, stays⟩ |
      ⟨rfl, -, held, idle, gone, stays⟩ <;> simp [Handler.hadSlot, *]
  · rcases counts with ⟨rfl, -⟩ | ⟨rfl, -, -, idle, -, gone, -⟩ | ⟨rfl, -⟩ <;>
      simp [Handler.hadSlot, *]
  · rcases counts with ⟨rfl, -, -, gone⟩ | ⟨rfl, -, -, -, -, gone, stays⟩ |
      ⟨rfl, -, -, -, gone, stays⟩ <;> simp [*]
  · rcases counts with ⟨rfl, -⟩ | ⟨rfl, -⟩ | ⟨rfl, -, -, -, gone, -⟩ <;> simp [*]

theorem Accounted.step (a : Accounted limit log u) (step : Step u events after) :
    Accounted limit (log ++ events) after := by
  cases step with
  | arrives => simpa using a.arrives
  | shutsDown => simpa using ({ a with } : Accounted limit log { u with shutdown := true })
  | moves before after step unshared => exact a.moves step unshared

theorem accounted_of_reaches (run : Reaches (new limit) log u) : Accounted limit log u := by
  have onwards {past : List SlotEvent} {first last : Upgrades ρ} {later : List SlotEvent}
      (run : Reaches first later last) (a : Accounted limit past first) :
      Accounted limit (past ++ later) last := by
    induction run generalizing past with
    | refl => simpa using a
    | step head _ ih =>
      rw [← List.append_assoc]
      exact ih (a.step head)
  exact onwards run (accounted_new limit)

/-- What the handlers and everybody else may rely on. -/
structure InOrder (limit : Nat) (log : List SlotEvent) (u : Upgrades ρ) : Prop where
  /-- The count is the number of slots that are out. -/
  count_eq : u.tracker.count = u.handlers.countP Handler.holdsSlot
  count_le : u.tracker.count ≤ limit
  /-- Whoever gives a slot back finds one to count down. -/
  lowered : ∀ i after, Step u [⟨i, .returned⟩] after → u.tracker.count = after.tracker.count + 1
  reserves_iff : u.tracker.reserve?.isSome = true ↔ u.tracker.count < limit
  /-- The registries that are known are those of the slots that are bound. -/
  registries : u.tracker.registries.Perm (u.handlers.filterMap Handler.entry?)
  liveOperations_eq : ∀ size, u.tracker.liveOperations size =
    ((u.handlers.filterMap Handler.entry?).map fun entry => size entry.2).sum
  /-- A handler takes a slot at most once, and has given it back, once, as soon as it is done. -/
  uses : ∀ i h, u.handlers[i]? = some h →
    log.count ⟨i, .taken⟩ = (if h.hadSlot then 1 else 0) ∧
      log.count ⟨i, .returned⟩ = if h.isGone then 1 else 0

theorem Accounted.inOrder (a : Accounted limit log u) : InOrder limit log u where
  count_eq := a.counted
  count_le := a.bounded
  lowered i after step := by
    have before := a.balanced
    have behind := (a.step step).balanced
    simp only [List.countP_append, List.countP_singleton, decide_true, if_true, reduceCtorEq,
      decide_false, Bool.false_eq_true, if_false] at behind
    omega
  reserves_iff := by rw [Tracker.reserve?_isSome_iff, a.limited]
  registries := a.known
  liveOperations_eq size := by
    rw [Tracker.liveOperations_eq]
    exact (a.known.map _).sum_eq
  uses i h found := by
    have taken := a.taken i
    have returned := a.returned i
    rw [found] at taken returned
    exact ⟨taken, returned⟩

end Upgrades

end SubscriptionGateway
