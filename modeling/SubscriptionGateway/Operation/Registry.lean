/-! The live operations of one connection, by the id the client chose. Every registration has a
sequence number of its own, so that a late producer cannot touch a newer operation of the same id;
the number also names the cancellation token of the registration. -/
namespace SubscriptionGateway

inductive RegistrationError where
  /-- The id belongs to a live operation. -/
  | alreadyExists (id : String)
  /-- The connection is being torn down. -/
  | closed
deriving DecidableEq, Repr

def RegistrationError.message : RegistrationError → String
  | .alreadyExists id => "operation " ++ id ++ " already exists"
  | .closed => "registry is closed"

structure Registry where
  /-- Live ids with the sequence number of their registration, the latest first. -/
  entries : List (String × Nat)
  lastSeq : Nat
  closed : Bool
  /-- Registrations whose token is cancelled. -/
  cancelled : List Nat
deriving DecidableEq, Repr

namespace Registry

def empty : Registry := ⟨[], 0, false, []⟩

def seq? (r : Registry) (id : String) : Option Nat := List.lookup id r.entries

def contains (r : Registry) (id : String) : Bool := (r.seq? id).isSome

def isLive (r : Registry) (id : String) (seq : Nat) : Bool := r.seq? id == some seq

def isCancelled (r : Registry) (seq : Nat) : Bool := r.cancelled.contains seq

def size (r : Registry) : Nat := r.entries.length

/-- Claims an id that is free. -/
def register (r : Registry) (id : String) : Except RegistrationError (Nat × Registry) :=
  if r.closed then .error .closed
  else if r.contains id then .error (.alreadyExists id)
  else
    let seq := r.lastSeq + 1
    .ok (seq, { r with entries := (id, seq) :: r.entries, lastSeq := seq })

def drop (r : Registry) (id : String) : Registry :=
  { r with entries := r.entries.filter fun entry => entry.1 != id }

/-- Takes an id out, without cancelling its registration. -/
def remove (r : Registry) (id : String) : Option (Nat × Registry) :=
  (r.seq? id).map fun seq => (seq, r.drop id)

/-- Cancelling twice is the same as cancelling once. -/
def cancel (r : Registry) (seq : Nat) : Registry :=
  if r.isCancelled seq then r else { r with cancelled := seq :: r.cancelled }

/-- Runs an action only while the registration is live. -/
def emit {α : Type} (r : Registry) (id : String) (seq : Nat) (action : Unit → α) : Option α :=
  if r.isLive id seq then some (action ()) else none

/-- Takes the registration out and runs an action in the same step, if the registration is live. -/
def finish {α : Type} (r : Registry) (id : String) (seq : Nat) (action : Unit → α) :
    Option (α × Registry) :=
  if r.isLive id seq then some (action (), r.drop id) else none

/-- Closes the registry and cancels all that is live. -/
def close (r : Registry) : Registry :=
  let cancelled := r.entries.foldl (fun r entry => r.cancel entry.2) r
  { cancelled with entries := [], closed := true }

theorem seq?_register_self {r after : Registry} {id : String} {seq : Nat}
    (h : r.register id = .ok (seq, after)) : after.seq? id = some seq := by
  unfold register at h
  split at h
  · cases h
  · split at h
    · cases h
    · cases h
      simp [seq?]

theorem lookup_filter_ne (entries : List (String × Nat)) {id other : String} (ne : other ≠ id) :
    List.lookup other (entries.filter fun entry => entry.1 != id) = List.lookup other entries := by
  induction entries with
  | nil => rfl
  | cons entry rest ih =>
    obtain ⟨name, seq⟩ := entry
    by_cases same : name = id
    · subst same
      have miss : (other == name) = false := by simpa using ne
      simp [List.lookup_cons, miss, ih]
    · simp [same, List.lookup_cons, ih]

theorem lookup_filter_self (entries : List (String × Nat)) (id : String) :
    List.lookup id (entries.filter fun entry => entry.1 != id) = none := by
  induction entries with
  | nil => rfl
  | cons entry rest ih =>
    obtain ⟨name, seq⟩ := entry
    by_cases same : name = id
    · simp [same, ih]
    · have miss : (id == name) = false := by simpa using Ne.symm same
      simp [same, List.lookup_cons, miss, ih]

theorem seq?_drop_self (r : Registry) (id : String) : (r.drop id).seq? id = none :=
  lookup_filter_self r.entries id

theorem seq?_drop_of_ne (r : Registry) {id other : String} (ne : other ≠ id) :
    (r.drop id).seq? other = r.seq? other :=
  lookup_filter_ne r.entries ne

theorem entries_cancel (r : Registry) (seq : Nat) : (r.cancel seq).entries = r.entries := by
  unfold cancel
  split <;> rfl

theorem isCancelled_cancel (r : Registry) (seq other : Nat) :
    (r.cancel seq).isCancelled other = (other == seq || r.isCancelled other) := by
  unfold cancel
  split
  · next h =>
    by_cases same : other = seq
    · subst same
      simp [h]
    · simp [same]
  · simp [isCancelled, Bool.beq_eq_decide_eq]

theorem closed_close (r : Registry) : r.close.closed = true := rfl

end Registry

end SubscriptionGateway
