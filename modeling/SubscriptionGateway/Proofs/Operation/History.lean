import Mathlib.Data.List.Nodup
import Mathlib.Data.List.Perm.Basic
import SubscriptionGateway.Proofs.Operation.Registry

/-! What the calls on a registry have made of it. A log of calls with their outcomes tells what was
registered, what was taken out and by which call, and so what is live; the registry holds exactly
that after each call, and the next call is answered from the log. -/
namespace SubscriptionGateway

namespace Registry

/-- The first step of closing: everything is taken out, and no token is cancelled yet. -/
def drain (r : Registry) : Registry := { r with entries := [], closed := true }

theorem drain_cancel (r : Registry) (seq : Nat) : (r.cancel seq).drain = r.drain.cancel seq := by
  unfold cancel
  split <;> simp_all [drain, isCancelled]

/-- To close the registry is to drain it and then to cancel what was live. -/
theorem close_eq (r : Registry) :
    r.close = r.entries.foldl (fun r entry => r.cancel entry.2) r.drain := by
  have drained (entries : List (String × Nat)) (r : Registry) :
      (entries.foldl (fun r entry => r.cancel entry.2) r).drain =
        entries.foldl (fun r entry => r.cancel entry.2) r.drain := by
    induction entries generalizing r with
    | nil => rfl
    | cons entry rest ih => simp only [List.foldl_cons, ih, drain_cancel]
  exact drained r.entries r

@[simp] theorem seq?_drain (r : Registry) (id : String) : r.drain.seq? id = none := rfl

@[simp] theorem isCancelled_drain (r : Registry) (seq : Nat) :
    r.drain.isCancelled seq = r.isCancelled seq := rfl

theorem sound_drain (r : Registry) : r.drain.Sound := ⟨List.nodup_nil, fun _ => rfl⟩

/-- The entry of a live id is the one that dropping the id takes out. -/
theorem Sound.perm_drop {r : Registry} (sound : r.Sound) {id : String} {seq : Nat}
    (live : r.seq? id = some seq) : r.entries.Perm ((id, seq) :: (r.drop id).entries) := by
  obtain ⟨before, after, split⟩ := List.append_of_mem (mem_entries_of_seq? live)
  have distinct := sound.distinct
  rw [split, List.map_append, List.map_cons, List.nodup_middle, ← List.map_append] at distinct
  have others : ∀ entry ∈ before ++ after, (entry.1 != id) = true := by
    intro entry member
    have unlike := ne_of_mem_of_not_mem (List.mem_map_of_mem member) (List.nodup_cons.mp distinct).1
    exact bne_iff_ne.mpr unlike
  have kept : (r.drop id).entries = before ++ after := by
    rw [Registry.drop, split, List.filter_append, List.filter_cons_of_neg (by simp),
      ← List.filter_append]
    exact List.filter_eq_self.mpr others
  rw [kept, split]
  exact List.perm_middle

end Registry

/-- What a step of a caller tells: the call with its outcome. -/
inductive RegistryEvent (α : Type) where
  | register (id : String) (outcome : Except RegistrationError Nat)
  | remove (id : String) (outcome : Option Nat)
  | emit (id : String) (seq : Nat) (outcome : Option α)
  | finish (id : String) (seq : Nat) (outcome : Option α)
  /-- A closing takes out all that is live. -/
  | drain (taken : List (String × Nat))
  /-- A token is cancelled through a handle of a registration that was taken out. -/
  | cancel (seq : Nat)
  /-- A closing is over and returns the number of the registrations that it has taken out. -/
  | closed (taken : List (String × Nat))

namespace RegistryEvent

variable {α : Type}

def registration? : RegistryEvent α → Option (String × Nat)
  | .register id (.ok seq) => some (id, seq)
  | _ => none

def removed? : RegistryEvent α → Option (String × Nat)
  | .remove id (some seq) => some (id, seq)
  | _ => none

def finished? : RegistryEvent α → Option (String × Nat)
  | .finish id seq (some _) => some (id, seq)
  | _ => none

def drained : RegistryEvent α → List (String × Nat)
  | .drain taken => taken
  | _ => []

def count? : RegistryEvent α → Option Nat
  | .closed taken => some taken.length
  | _ => none

def taken (e : RegistryEvent α) : List (String × Nat) :=
  e.removed?.toList ++ e.finished?.toList ++ e.drained

/-- Whether a call takes a registration out, should it be live. -/
@[simp] def Takes (id : String) (seq : Nat) : RegistryEvent α → Prop
  | .remove name _ => name = id
  | .finish name number _ => name = id ∧ number = seq
  | .drain _ => True
  | _ => False

def Plain : RegistryEvent α → Prop
  | .register _ (.ok _) | .drain _ | .cancel _ => False
  | _ => True

def IsRefused : RegistryEvent α → Prop
  | .register _ (.error _) | .remove _ none | .emit _ _ none | .finish _ _ none => True
  | _ => False

@[simp] theorem registration?_register (id : String) (seq : Nat) :
    (.register id (.ok seq) : RegistryEvent α).registration? = some (id, seq) := rfl

@[simp] theorem registration?_cancel (seq : Nat) :
    (.cancel seq : RegistryEvent α).registration? = none := rfl

@[simp] theorem registration?_drain (taken : List (String × Nat)) :
    (.drain taken : RegistryEvent α).registration? = none := rfl

@[simp] theorem taken_register (id : String) (outcome : Except RegistrationError Nat) :
    (.register id outcome : RegistryEvent α).taken = [] := rfl

@[simp] theorem taken_cancel (seq : Nat) : (.cancel seq : RegistryEvent α).taken = [] := rfl

@[simp] theorem taken_drain (taken : List (String × Nat)) :
    (.drain taken : RegistryEvent α).taken = taken := rfl

variable {e : RegistryEvent α}

theorem Plain.registration? (plain : e.Plain) : e.registration? = none := by
  cases e with
  | register id outcome =>
    cases outcome with
    | ok seq => exact plain.elim
    | error => rfl
  | _ => rfl

theorem Plain.ne_register (plain : e.Plain) {id : String} {seq : Nat} :
    e ≠ .register id (.ok seq) := by
  rintro rfl
  exact plain

theorem Plain.ne_drain (plain : e.Plain) {taken : List (String × Nat)} : .drain taken ≠ e := by
  rintro rfl
  exact plain

theorem Plain.ne_cancel (plain : e.Plain) {seq : Nat} : .cancel seq ≠ e := by
  rintro rfl
  exact plain

theorem drained_eq_nil (undrained : ∀ taken, .drain taken ≠ e) : e.drained = [] := by
  cases e with
  | drain taken => exact absurd rfl (undrained taken)
  | _ => rfl

theorem count?_eq_none (unreturned : ∀ taken, .closed taken ≠ e) : e.count? = none := by
  cases e with
  | closed taken => exact absurd rfl (unreturned taken)
  | _ => rfl

end RegistryEvent

namespace Registry

section History

variable {α : Type} (log : List (RegistryEvent α))

def registered : List (String × Nat) := log.filterMap RegistryEvent.registration?

def removed : List (String × Nat) := log.filterMap RegistryEvent.removed?

def finished : List (String × Nat) := log.filterMap RegistryEvent.finished?

def drainedOut : List (String × Nat) := log.flatMap RegistryEvent.drained

def returnedCounts : List Nat := log.filterMap RegistryEvent.count?

def takenOut : List (String × Nat) := log.flatMap RegistryEvent.taken

/-- A registration has succeeded, and no call since then takes it out. -/
def LiveAfter (id : String) (seq : Nat) : Prop :=
  ∃ before later, log = before ++ .register id (.ok seq) :: later ∧
    ∀ e ∈ later, ¬ e.Takes id seq

def ClosedAfter : Prop := ∃ taken, .drain taken ∈ log

end History

section Lists

variable {α : Type} (log : List (RegistryEvent α)) (e : RegistryEvent α)

theorem registered_snoc : registered (log ++ [e]) = registered log ++ e.registration?.toList := by
  cases h : e.registration? <;> simp [registered, h]

theorem drainedOut_snoc : drainedOut (log ++ [e]) = drainedOut log ++ e.drained := by
  simp [drainedOut]

theorem returnedCounts_snoc :
    returnedCounts (log ++ [e]) = returnedCounts log ++ e.count?.toList := by
  cases h : e.count? <;> simp [returnedCounts, h]

theorem closedAfter_snoc :
    ClosedAfter (log ++ [e]) ↔ ClosedAfter log ∨ ∃ taken, .drain taken = e := by
  simp [ClosedAfter, exists_or]

theorem takenOut_snoc : takenOut (log ++ [e]) = takenOut log ++ e.taken := by simp [takenOut]

/-- Whatever is taken out was removed, has finished, or was taken by a closing. -/
theorem length_takenOut :
    (takenOut log).length =
      (removed log).length + (finished log).length + (drainedOut log).length := by
  induction log with
  | nil => rfl
  | cons e rest ih =>
    have step : (takenOut (e :: rest)).length = e.taken.length + (takenOut rest).length := by
      simp [takenOut]
    rw [step, ih, RegistryEvent.taken]
    cases removes : e.removed? <;> cases finishes : e.finished? <;>
      simp [removed, finished, drainedOut, removes, finishes] <;> omega

theorem finished_sublist : (finished log).Sublist (takenOut log) := by
  induction log with
  | nil => exact .refl []
  | cons e rest ih =>
    have own : e.finished?.toList.Sublist e.taken := by
      rw [RegistryEvent.taken, List.append_assoc]
      exact (List.sublist_append_left _ _).trans (List.sublist_append_right _ _)
    have split : finished (e :: rest) = e.finished?.toList ++ finished rest := by
      cases h : e.finished? <;> simp [finished, h]
    rw [split]
    exact own.append ih

/-- The latest call can end what was live before, or begin it. -/
theorem liveAfter_snoc {id : String} {seq : Nat} :
    LiveAfter (log ++ [e]) id seq ↔
      LiveAfter log id seq ∧ ¬ e.Takes id seq ∨ e = .register id (.ok seq) := by
  constructor
  · rintro ⟨before, later, split, quiet⟩
    rcases List.eq_nil_or_concat later with rfl | ⟨earlier, last, rfl⟩
    · exact .inr (List.singleton_inj.mp (List.append_inj' split rfl).2)
    · rw [List.concat_eq_append, ← List.cons_append, ← List.append_assoc] at split
      obtain ⟨same, lasts⟩ := List.append_inj' split rfl
      rw [List.concat_eq_append, List.forall_mem_append, List.forall_mem_singleton] at quiet
      exact .inl ⟨⟨before, earlier, same, quiet.1⟩, List.singleton_inj.mp lasts ▸ quiet.2⟩
  · rintro (⟨⟨before, later, rfl, quiet⟩, spared⟩ | rfl)
    · exact ⟨before, later ++ [e], by simp,
        List.forall_mem_append.mpr ⟨quiet, List.forall_mem_singleton.mpr spared⟩⟩
    · exact ⟨log, [], rfl, by simp⟩

end Lists

variable {α : Type} {log : List (RegistryEvent α)} {e : RegistryEvent α}

inductive Effect (r : Registry) : RegistryEvent α → Registry → Prop where
  | keeps {e : RegistryEvent α} (plain : e.Plain) (nothing : e.taken = [])
      (spares : ∀ id seq, r.seq? id = some seq → ¬ e.Takes id seq) : Effect r e r
  | registers {id : String} {seq : Nat} {after : Registry}
      (made : r.register id = .ok (seq, after)) : Effect r (.register id (.ok seq)) after
  | drops {e : RegistryEvent α} {id : String} {seq : Nat} (live : r.seq? id = some seq)
      (plain : e.Plain) (taken : e.taken = [(id, seq)])
      (takes : ∀ name number, r.seq? name = some number → (e.Takes name number ↔ name = id)) :
      Effect r e (r.drop id)
  | cancels (seq : Nat) : Effect r (.cancel seq) (r.cancel seq)
  | drains : Effect r (.drain r.entries) r.drain

/-- A token that is cancelled stays so. -/
theorem Effect.isCancelled {r after : Registry} (effect : Effect r e after) {seq : Nat}
    (cancelled : r.isCancelled seq = true) : after.isCancelled seq = true := by
  cases effect with
  | keeps | drops | drains => exact cancelled
  | registers made =>
    obtain ⟨-, -, -, rfl⟩ := register_eq_ok made
    exact cancelled
  | cancels other => simp [isCancelled_cancel, cancelled]

/-- The registry is what the calls so far have made of it. -/
structure Recorded (log : List (RegistryEvent α)) (r : Registry) : Prop where
  sound : r.Sound
  numbered : (registered log).map Prod.snd = List.range' 1 r.lastSeq
  live : ∀ id seq, r.seq? id = some seq ↔ LiveAfter log id seq
  closed : r.closed = true ↔ ClosedAfter log
  partition : (registered log).Perm (r.entries ++ takenOut log)
  cancelled : ∀ seq, r.isCancelled seq = true ↔ .cancel seq ∈ log

theorem recorded_empty : Recorded ([] : List (RegistryEvent α)) .empty where
  sound := ⟨List.nodup_nil, fun _ => rfl⟩
  numbered := rfl
  live id seq := by simp [Registry.empty, Registry.seq?, LiveAfter]
  closed := by simp [Registry.empty, ClosedAfter]
  partition := .nil
  cancelled seq := by simp [Registry.empty, Registry.isCancelled]

namespace Recorded

variable {r after : Registry}

theorem keeps (recorded : Recorded log r) (plain : e.Plain) (nothing : e.taken = [])
    (spares : ∀ id seq, r.seq? id = some seq → ¬ e.Takes id seq) : Recorded (log ++ [e]) r where
  sound := recorded.sound
  numbered := by simpa [registered_snoc, plain.registration?] using recorded.numbered
  live id seq := by
    rw [liveAfter_snoc, ← recorded.live, or_iff_left plain.ne_register]
    exact ⟨fun held => ⟨held, spares id seq held⟩, And.left⟩
  closed := by simpa [closedAfter_snoc, plain.ne_drain] using recorded.closed
  partition := by
    simpa [registered_snoc, plain.registration?, takenOut_snoc, nothing] using recorded.partition
  cancelled seq := by simpa [plain.ne_cancel] using recorded.cancelled seq

/-- The number of a registration is the number of registrations so far. -/
theorem length_registered (recorded : Recorded log r) : (registered log).length = r.lastSeq := by
  simpa using congrArg List.length recorded.numbered

theorem registers (recorded : Recorded log r) {id : String} {seq : Nat}
    (made : r.register id = .ok (seq, after)) :
    Recorded (log ++ [.register id (.ok seq)]) after := by
  obtain ⟨opened, free, rfl, rfl⟩ := Registry.register_eq_ok made
  constructor
  case sound => exact recorded.sound.register made
  case numbered =>
    rw [registered_snoc, List.map_append, recorded.numbered, List.range'_concat]
    simp [Nat.add_comm]
  case live =>
    intro name number
    rw [liveAfter_snoc, ← recorded.live, RegistryEvent.register.injEq]
    by_cases same : name = id
    · subst same
      simp [Registry.seq?_register_self made, free, eq_comm]
    · simp [Registry.seq?_register_of_ne made same, Ne.symm same]
  case closed => simpa [closedAfter_snoc] using recorded.closed
  case partition =>
    simpa [registered_snoc, takenOut_snoc] using
      List.perm_append_singleton _ _ |>.trans (recorded.partition.cons _)
  case cancelled =>
    intro number
    simpa [Registry.isCancelled] using recorded.cancelled number

theorem drops (recorded : Recorded log r) {id : String} {seq : Nat} (live : r.seq? id = some seq)
    (plain : e.Plain) (taken : e.taken = [(id, seq)])
    (takes : ∀ name number, r.seq? name = some number → (e.Takes name number ↔ name = id)) :
    Recorded (log ++ [e]) (r.drop id) where
  sound := recorded.sound.drop id
  numbered := by simpa [registered_snoc, plain.registration?] using recorded.numbered
  live name number := by
    rw [liveAfter_snoc, ← recorded.live, or_iff_left plain.ne_register,
      Registry.seq?_drop_eq_some, and_comm]
    exact and_congr_right fun held => not_congr (takes name number held).symm
  closed := by simpa [closedAfter_snoc, plain.ne_drain] using recorded.closed
  partition := by
    simp only [registered_snoc, plain.registration?, takenOut_snoc, taken, Option.toList_none,
      List.append_nil]
    refine recorded.partition.trans (((recorded.sound.perm_drop live).append_right _).trans ?_)
    rw [← List.append_assoc]
    exact (List.perm_append_singleton _ _).symm
  cancelled number := by simpa [plain.ne_cancel] using recorded.cancelled number

theorem cancels (recorded : Recorded log r) (seq : Nat) :
    Recorded (log ++ [.cancel seq]) (r.cancel seq) where
  sound := recorded.sound.cancel seq
  numbered := by simpa [registered_snoc] using recorded.numbered
  live id number := by simpa [liveAfter_snoc] using recorded.live id number
  closed := by simpa [closedAfter_snoc] using recorded.closed
  partition := by
    simpa [registered_snoc, takenOut_snoc, Registry.entries_cancel] using recorded.partition
  cancelled number := by
    rw [Registry.isCancelled_cancel, Bool.or_eq_true, beq_iff_eq, recorded.cancelled]
    simp [or_comm]

theorem drains (recorded : Recorded log r) : Recorded (log ++ [.drain r.entries]) r.drain where
  sound := r.sound_drain
  numbered := by simpa [registered_snoc, Registry.drain] using recorded.numbered
  live id number := by simp [liveAfter_snoc]
  closed := by simp [closedAfter_snoc, Registry.drain]
  partition := by
    simpa [registered_snoc, takenOut_snoc, Registry.drain] using
      recorded.partition.trans List.perm_append_comm
  cancelled number := by simpa using recorded.cancelled number

theorem step (recorded : Recorded log r) (effect : Effect r e after) :
    Recorded (log ++ [e]) after := by
  cases effect with
  | keeps plain nothing spares => exact recorded.keeps plain nothing spares
  | registers made => exact recorded.registers made
  | drops live plain taken takes => exact recorded.drops live plain taken takes
  | cancels seq => exact recorded.cancels seq
  | drains => exact recorded.drains

theorem numbers_increase (recorded : Recorded log r) :
    ((registered log).map Prod.snd).Pairwise (· < ·) := by
  rw [recorded.numbered]
  exact List.pairwise_lt_range'

theorem le_of_registered (recorded : Recorded log r) {id : String} {seq : Nat}
    (member : (id, seq) ∈ registered log) : 0 < seq ∧ seq ≤ (registered log).length := by
  have known : seq ∈ (registered log).map Prod.snd := List.mem_map_of_mem member
  rw [recorded.numbered, List.mem_range'_1] at known
  have := recorded.length_registered
  omega

/-- No number is both live and taken out, and none is taken out twice. -/
theorem nodup_numbers (recorded : Recorded log r) :
    ((r.entries ++ takenOut log).map Prod.snd).Nodup :=
  (recorded.partition.map Prod.snd).nodup_iff.mp
    (recorded.numbers_increase.imp fun less => Nat.ne_of_lt less)

theorem nodup_takenOut (recorded : Recorded log r) : (takenOut log).Nodup :=
  (List.nodup_append.mp recorded.nodup_numbers.of_map).2.1

theorem not_mem_takenOut (recorded : Recorded log r) {id other : String} {seq : Nat}
    (live : LiveAfter log id seq) : (other, seq) ∉ takenOut log := by
  intro gone
  have held := Registry.mem_entries_of_seq? ((recorded.live id seq).mpr live)
  have apart := recorded.nodup_numbers
  rw [List.map_append, List.nodup_append] at apart
  exact apart.2.2 seq (List.mem_map_of_mem held) seq (List.mem_map_of_mem gone) rfl

theorem isLive_iff (recorded : Recorded log r) {id : String} {seq : Nat} :
    r.isLive id seq = true ↔ LiveAfter log id seq :=
  Registry.isLive_iff.trans (recorded.live id seq)

theorem contains_iff (recorded : Recorded log r) {id : String} :
    r.contains id = true ↔ ∃ seq, LiveAfter log id seq :=
  Registry.contains_iff.trans (exists_congr (recorded.live id))

theorem register_eq_closed_iff (recorded : Recorded log r) (id : String) :
    r.register id = .error .closed ↔ ClosedAfter log := by
  rw [← recorded.closed]
  exact ⟨Registry.register_eq_closed, fun closed => by simp [Registry.register, closed]⟩

theorem register_eq_alreadyExists_iff (recorded : Recorded log r) (id other : String) :
    r.register id = .error (.alreadyExists other) ↔
      other = id ∧ ¬ ClosedAfter log ∧ ∃ seq, LiveAfter log id seq := by
  rw [← recorded.closed, ← recorded.contains_iff, Bool.not_eq_true]
  refine ⟨Registry.register_eq_alreadyExists, ?_⟩
  rintro ⟨rfl, opened, taken⟩
  simp [Registry.register, opened, taken]

theorem register_of_free (recorded : Recorded log r) {id : String} (opened : ¬ ClosedAfter log)
    (free : ∀ seq, ¬ LiveAfter log id seq) :
    ∃ after, r.register id = .ok ((registered log).length + 1, after) := by
  have absent : ¬ r.contains id = true := by simpa [recorded.contains_iff] using free
  rw [← recorded.closed] at opened
  simp [Registry.register, opened, absent, recorded.length_registered]

theorem remove_eq_some_iff (recorded : Recorded log r) (id : String) (seq : Nat) :
    r.remove id = some (seq, r.drop id) ↔ LiveAfter log id seq := by
  rw [← recorded.live]
  simp [Registry.remove]

end Recorded

end Registry

end SubscriptionGateway
