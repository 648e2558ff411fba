/-! The live connections of a server. Each holds a slot, of which there are only so many; a slot may
be bound to the registry of its connection, so that the live operations of all connections can be
counted. -/
namespace SubscriptionGateway

/-- One of the places that a server has for connections. -/
structure Slot where
  /-- The id under which the registry of the connection is known. -/
  connectionId : Option String
deriving DecidableEq, Repr

/-- A server's count of its connections; registries are of type `ρ`. -/
structure Tracker (ρ : Type) where
  limit : Nat
  /-- Slots handed out and not yet given back. -/
  count : Nat
  /-- The registries that are known, each under an id of its own. -/
  registries : List (String × ρ)

namespace Tracker

variable {ρ : Type}

def new (limit : Nat) : Tracker ρ := ⟨limit, 0, []⟩

/-- A slot, unless all are taken. -/
def reserve? (t : Tracker ρ) : Option (Slot × Tracker ρ) :=
  if t.count < t.limit then some (⟨none⟩, { t with count := t.count + 1 }) else none

def forget (t : Tracker ρ) (id : String) : Tracker ρ :=
  { t with registries := t.registries.filter fun entry => entry.1 != id }

/-- Makes a registry known under an id, for a slot that has been handed out. -/
def bind (t : Tracker ρ) (id : String) (registry : ρ) : Slot × Tracker ρ :=
  (⟨some id⟩, { t with registries := (id, registry) :: (t.forget id).registries })

/-- Takes back a slot, with the registry that is known under its id. -/
def release (t : Tracker ρ) (slot : Slot) : Tracker ρ :=
  let forgotten := match slot.connectionId with
    | some id => t.forget id
    | none => t
  { forgotten with count := t.count - 1 }

/-- The live operations of all connections whose registries are known. -/
def liveOperations (t : Tracker ρ) (size : ρ → Nat) : Nat :=
  t.registries.foldr (fun entry count => size entry.2 + count) 0

theorem reserve?_isSome_iff (t : Tracker ρ) : t.reserve?.isSome = true ↔ t.count < t.limit := by
  unfold reserve?
  split <;> simp_all

theorem count_reserve? {t after : Tracker ρ} {slot : Slot}
    (h : t.reserve? = some (slot, after)) :
    after.count = t.count + 1 ∧ after.count ≤ after.limit ∧ after.limit = t.limit := by
  unfold reserve? at h
  split at h
  · cases h
    exact ⟨rfl, by simpa, rfl⟩
  · cases h

theorem count_bind (t : Tracker ρ) (id : String) (registry : ρ) :
    (t.bind id registry).2.count = t.count := rfl

theorem count_release (t : Tracker ρ) (slot : Slot) :
    (t.release slot).count = t.count - 1 := rfl

theorem release_reserve? {t after : Tracker ρ} {slot : Slot}
    (h : t.reserve? = some (slot, after)) : after.release slot = t := by
  unfold reserve? at h
  split at h
  · cases h
    rfl
  · cases h

end Tracker

end SubscriptionGateway
