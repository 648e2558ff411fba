import Mathlib.Algebra.BigOperators.Group.List.Basic
import Mathlib.Algebra.Ring.Nat
import SubscriptionGateway.Proofs.Operation.History

/-! The registry in the hands of any number of callers. Each call is one step, but for closing the
registry: that empties it in one step and then cancels what it has taken, one token after the other,
while the others go on with their calls. -/
namespace SubscriptionGateway

open Registry

structure Clearance where
  taken : List (String × Nat)
  /-- Those whose tokens are still to be cancelled. -/
  left : List (String × Nat)

structure SharedRegistry where
  registry : Registry
  /-- The handles that removals have returned. -/
  handles : List Nat
  clearances : List Clearance

namespace SharedRegistry

variable {α : Type}

def new : SharedRegistry := ⟨.empty, [], []⟩

inductive Step : SharedRegistry → RegistryEvent α → SharedRegistry → Prop where
  | registers {s : SharedRegistry} {id : String} {seq : Nat} {after : Registry}
      (made : s.registry.register id = .ok (seq, after)) :
      Step s (.register id (.ok seq)) { s with registry := after }
  | isRejected {s : SharedRegistry} {id : String} {why : RegistrationError}
      (rejected : s.registry.register id = .error why) : Step s (.register id (.error why)) s
  | removes {s : SharedRegistry} {id : String} {seq : Nat} {after : Registry}
      (taken : s.registry.remove id = some (seq, after)) :
      Step s (.remove id (some seq)) { s with registry := after, handles := s.handles ++ [seq] }
  | misses {s : SharedRegistry} {id : String} (absent : s.registry.remove id = none) :
      Step s (.remove id none) s
  | emits (s : SharedRegistry) (id : String) (seq : Nat) (action : Unit → α) :
      Step s (.emit id seq (s.registry.emit id seq action)) s
  | finishes {s : SharedRegistry} {id : String} {seq : Nat} {action : Unit → α} {result : α}
      {after : Registry} (taken : s.registry.finish id seq action = some (result, after)) :
      Step s (.finish id seq (some result)) { s with registry := after }
  | isStale {s : SharedRegistry} {id : String} {seq : Nat} {action : Unit → α}
      (stale : s.registry.finish id seq action = none) : Step s (.finish id seq none) s
  /-- The token of a removed registration is cancelled, perhaps not for the first time. -/
  | cancels {s : SharedRegistry} {seq : Nat} (held : seq ∈ s.handles) :
      Step s (.cancel seq) { s with registry := s.registry.cancel seq }
  | drains (s : SharedRegistry) :
      Step s (.drain s.registry.entries)
        { s with
          registry := s.registry.drain
          clearances := s.clearances ++ [⟨s.registry.entries, s.registry.entries⟩] }
  | clears (registry : Registry) (handles : List Nat) (before later : List Clearance)
      (taken rest : List (String × Nat)) (entry : String × Nat) :
      Step ⟨registry, handles, before ++ ⟨taken, entry :: rest⟩ :: later⟩ (.cancel entry.2)
        ⟨registry.cancel entry.2, handles, before ++ ⟨taken, rest⟩ :: later⟩
  | returns (registry : Registry) (handles : List Nat) (before later : List Clearance)
      (taken : List (String × Nat)) :
      Step ⟨registry, handles, before ++ ⟨taken, []⟩ :: later⟩ (.closed taken)
        ⟨registry, handles, before ++ later⟩

inductive Reaches : SharedRegistry → List (RegistryEvent α) → SharedRegistry → Prop where
  | refl (s : SharedRegistry) : Reaches s [] s
  | snoc {s middle last : SharedRegistry} {log : List (RegistryEvent α)} {e : RegistryEvent α}
      (run : Reaches s log middle) (step : Step middle e last) : Reaches s (log ++ [e]) last

variable {s after : SharedRegistry} {log : List (RegistryEvent α)} {e : RegistryEvent α}

theorem Step.effect (step : Step s e after) : Effect s.registry e after.registry := by
  cases step with
  | registers made => exact .registers made
  | isRejected | emits => exact .keeps trivial rfl fun _ _ _ => id
  | removes taken =>
    obtain ⟨number, live, made⟩ := Option.map_eq_some_iff.mp taken
    cases made
    exact .drops live trivial rfl fun name number held => by simp [eq_comm]
  | @misses _ id absent =>
    have dead : s.registry.seq? id = none := by simpa [Registry.remove] using absent
    refine .keeps trivial rfl fun name number held takes => ?_
    obtain rfl : id = name := takes
    simp [dead] at held
  | @finishes _ id seq _ _ _ taken =>
    unfold Registry.finish at taken
    split at taken
    · next live =>
      cases taken
      have held := Registry.isLive_iff.mp live
      refine .drops held trivial rfl fun name number known => ⟨fun takes => takes.1.symm, ?_⟩
      rintro rfl
      exact ⟨rfl, Option.some.inj (held.symm.trans known)⟩
    · cases taken
  | @isStale _ id seq _ stale =>
    have dead : s.registry.seq? id ≠ some seq := by
      intro live
      simp [Registry.finish, Registry.isLive_iff.mpr live] at stale
    refine .keeps trivial rfl fun name number held takes => dead ?_
    obtain ⟨rfl, rfl⟩ := takes
    exact held
  | cancels | clears => exact .cancels _
  | drains => exact .drains
  | returns => exact .keeps trivial rfl fun _ _ _ => id

theorem Step.eq_of_isRefused (step : Step s e after) (isRefused : e.IsRefused) : after = s := by
  cases step with
  | isRejected | misses | emits | isStale => rfl
  | registers | removes | finishes | cancels | drains | clears | returns => exact isRefused.elim

/-- What the callers hold was taken out of the registry, and each closing leaves a token uncancelled
only as long as it is under way. -/
structure Kept (log : List (RegistryEvent α)) (s : SharedRegistry) : Prop where
  handles : ∀ seq ∈ s.handles, ∃ id, (id, seq) ∈ takenOut log
  known : ∀ c ∈ s.clearances, c.taken ⊆ takenOut log
  left : ∀ c ∈ s.clearances, c.left ⊆ c.taken
  clearing : ∀ c ∈ s.clearances, ∀ entry ∈ c.taken,
    entry ∈ c.left ∨ s.registry.isCancelled entry.2 = true
  cancelled : ∀ seq, .cancel seq ∈ log → ∃ id, (id, seq) ∈ takenOut log
  drained : ∀ taken, .drain taken ∈ log → ∀ entry ∈ taken,
    s.registry.isCancelled entry.2 = true ∨ ∃ c ∈ s.clearances, entry ∈ c.left
  returned : ∀ taken, .closed taken ∈ log → ∀ entry ∈ taken,
    s.registry.isCancelled entry.2 = true
  counted : (drainedOut log).length =
    (returnedCounts log).sum + (s.clearances.map fun c => c.taken.length).sum

theorem forall_mem_replaced {β : Type} {before later : List β} {old new : β} {p q : β → Prop}
    (known : ∀ b ∈ before ++ old :: later, p b) (keeps : ∀ b, p b → q b) (here : p old → q new) :
    ∀ b ∈ before ++ new :: later, q b := by
  simp only [List.forall_mem_append, List.forall_mem_cons] at known ⊢
  exact ⟨fun b member => keeps b (known.1 b member), here known.2.1,
    fun b member => keeps b (known.2.2 b member)⟩

theorem kept_new : Kept ([] : List (RegistryEvent α)) new := by
  constructor <;> simp [new, drainedOut, returnedCounts]

namespace Kept

theorem older {entry : String × Nat} (old : entry ∈ takenOut log) :
    entry ∈ takenOut (log ++ [e]) := by
  rw [takenOut_snoc]
  exact List.mem_append_left _ old

/-- A step that leaves the closings alone. -/
theorem goesOn (kept : Kept log s) (clearances : after.clearances = s.clearances)
    (still : ∀ seq, s.registry.isCancelled seq = true → after.registry.isCancelled seq = true)
    (handles : ∀ seq ∈ after.handles, seq ∈ s.handles ∨ ∃ id, (id, seq) ∈ e.taken)
    (told : ∀ seq, .cancel seq = e → ∃ id, (id, seq) ∈ takenOut log)
    (undrained : ∀ taken, .drain taken ≠ e) (unreturned : ∀ taken, .closed taken ≠ e) :
    Kept (log ++ [e]) after := by
  constructor
  case handles =>
    intro seq held
    rcases handles seq held with old | ⟨id, new⟩
    · exact (kept.handles seq old).imp fun id => older
    · exact ⟨id, by rw [takenOut_snoc]; exact List.mem_append_right _ new⟩
  case known =>
    rw [clearances]
    exact fun c member entry held => older (kept.known c member held)
  case left => rw [clearances]; exact kept.left
  case clearing =>
    rw [clearances]
    exact fun c member entry held => (kept.clearing c member entry held).imp_right (still _)
  case cancelled =>
    intro seq member
    rcases List.mem_append.mp member with old | new
    · exact (kept.cancelled seq old).imp fun id => older
    · exact (told seq (List.mem_singleton.mp new)).imp fun id => older
  case drained =>
    rw [clearances]
    intro taken member entry held
    have old : .drain taken ∈ log := by simpa [undrained] using member
    exact (kept.drained taken old entry held).imp_left (still _)
  case returned =>
    intro taken member entry held
    have old : .closed taken ∈ log := by simpa [unreturned] using member
    exact still _ (kept.returned taken old entry held)
  case counted =>
    rw [drainedOut_snoc, returnedCounts_snoc, RegistryEvent.drained_eq_nil undrained,
      RegistryEvent.count?_eq_none unreturned, clearances]
    simpa using kept.counted

theorem drain (kept : Kept log s) :
    Kept (log ++ [(.drain s.registry.entries : RegistryEvent α)])
      { s with
        registry := s.registry.drain
        clearances := s.clearances ++ [⟨s.registry.entries, s.registry.entries⟩] } := by
  have now {entry : String × Nat} (held : entry ∈ s.registry.entries) :
      entry ∈ takenOut (log ++ [(.drain s.registry.entries : RegistryEvent α)]) := by
    rw [takenOut_snoc]
    exact List.mem_append_right _ held
  constructor
  case handles => exact fun seq held => (kept.handles seq held).imp fun id => older
  case known =>
    refine List.forall_mem_append.mpr ⟨fun c member entry held => ?_, ?_⟩
    · exact older (kept.known c member held)
    · exact List.forall_mem_singleton.mpr fun entry => now
  case left =>
    exact List.forall_mem_append.mpr ⟨kept.left, List.forall_mem_singleton.mpr fun entry => id⟩
  case clearing =>
    exact List.forall_mem_append.mpr
      ⟨kept.clearing, List.forall_mem_singleton.mpr fun entry => .inl⟩
  case cancelled =>
    intro seq member
    exact (kept.cancelled seq (by simpa using member)).imp fun id => older
  case drained =>
    intro taken member entry held
    rcases List.mem_append.mp member with old | new
    · refine (kept.drained taken old entry held).imp_right ?_
      exact fun ⟨c, member, left⟩ => ⟨c, List.mem_append_left _ member, left⟩
    · obtain rfl : taken = s.registry.entries := by simpa using new
      exact .inr ⟨_, List.mem_append_right _ (List.mem_singleton_self _), held⟩
  case returned => exact fun taken member => kept.returned taken (by simpa using member)
  case counted =>
    rw [drainedOut_snoc, returnedCounts_snoc]
    simp [RegistryEvent.drained, RegistryEvent.count?, kept.counted, Nat.add_assoc]

section Clearances

variable {registry : Registry} {handles : List Nat} {before later : List Clearance}
  {taken rest : List (String × Nat)} {entry : String × Nat}

/-- A closing is done with an entry whose token is cancelled. -/
theorem advance (kept : Kept log ⟨registry, handles, before ++ ⟨taken, entry :: rest⟩ :: later⟩)
    (done : registry.isCancelled entry.2 = true) :
    Kept log ⟨registry, handles, before ++ ⟨taken, rest⟩ :: later⟩ := by
  constructor
  case handles => exact kept.handles
  case known => exact forall_mem_replaced kept.known (fun _ => id) id
  case left => exact forall_mem_replaced kept.left (fun _ => id) List.subset_of_cons_subset
  case clearing =>
    refine forall_mem_replaced kept.clearing (fun _ => id) fun clearing other held => ?_
    rcases clearing other held with waits | cancelled
    · rcases List.mem_cons.mp waits with rfl | waits
      · exact .inr done
      · exact .inl waits
    · exact .inr cancelled
  case cancelled => exact kept.cancelled
  case drained =>
    intro drained member other held
    refine (kept.drained drained member other held).elim .inl ?_
    rintro ⟨c, known, waits⟩
    rcases List.mem_append.mp known with first | own
    · exact .inr ⟨c, List.mem_append_left _ first, waits⟩
    · rcases List.mem_cons.mp own with rfl | last
      · rcases List.mem_cons.mp waits with rfl | waits
        · exact .inl done
        · exact .inr ⟨_, List.mem_append_right _ (List.mem_cons_self ..), waits⟩
      · exact .inr ⟨c, List.mem_append_right _ (List.mem_cons_of_mem _ last), waits⟩
  case returned => exact kept.returned
  case counted => simpa using kept.counted

theorem clear (kept : Kept log ⟨registry, handles, before ++ ⟨taken, entry :: rest⟩ :: later⟩) :
    Kept (log ++ [(.cancel entry.2 : RegistryEvent α)])
      ⟨registry.cancel entry.2, handles, before ++ ⟨taken, rest⟩ :: later⟩ := by
  have own : (⟨taken, entry :: rest⟩ : Clearance) ∈ before ++ ⟨taken, entry :: rest⟩ :: later :=
    List.mem_append_right _ (List.mem_cons_self ..)
  have known : entry ∈ takenOut log := kept.known _ own (kept.left _ own (List.mem_cons_self ..))
  refine advance (goesOn kept rfl ?_ (fun _ => .inl) ?_ (by simp) (by simp)) ?_
  · exact fun seq old => by simp [Registry.isCancelled_cancel, old]
  · rintro seq same
    obtain rfl := RegistryEvent.cancel.inj same
    exact ⟨entry.1, known⟩
  · simp [Registry.isCancelled_cancel]

/-- A closing that has cancelled all its tokens returns. -/
theorem done (kept : Kept log ⟨registry, handles, before ++ ⟨taken, []⟩ :: later⟩) :
    Kept (log ++ [(.closed taken : RegistryEvent α)]) ⟨registry, handles, before ++ later⟩ := by
  have others {c : Clearance} (member : c ∈ before ++ later) :
      c ∈ before ++ ⟨taken, []⟩ :: later :=
    (List.Sublist.append_left (List.sublist_cons_self ..) _).subset member
  constructor
  case handles => exact fun seq held => (kept.handles seq held).imp fun id => older
  case known => exact fun c member _ held => older (kept.known c (others member) held)
  case left => exact fun c member => kept.left c (others member)
  case clearing => exact fun c member => kept.clearing c (others member)
  case cancelled =>
    intro seq member
    exact (kept.cancelled seq (by simpa using member)).imp fun id => older
  case drained =>
    intro drained member other held
    refine (kept.drained drained (by simpa using member) other held).imp_right ?_
    rintro ⟨c, known, waits⟩
    rcases List.mem_append.mp known with first | own
    · exact ⟨c, List.mem_append_left _ first, waits⟩
    · rcases List.mem_cons.mp own with rfl | last
      · cases waits
      · exact ⟨c, List.mem_append_right _ last, waits⟩
  case returned =>
    intro returned member other held
    rcases List.mem_append.mp member with old | new
    · exact kept.returned returned old other held
    · obtain rfl : returned = taken := by simpa using new
      have own : (⟨returned, []⟩ : Clearance) ∈ before ++ ⟨returned, []⟩ :: later :=
        List.mem_append_right _ (List.mem_cons_self ..)
      exact (kept.clearing _ own other held).resolve_left List.not_mem_nil
  case counted =>
    have counted := kept.counted
    simp only [List.map_append, List.map_cons, List.sum_append, List.sum_cons] at counted
    rw [drainedOut_snoc, returnedCounts_snoc]
    simp only [RegistryEvent.drained, RegistryEvent.count?, List.append_nil, Option.toList_some,
      List.sum_append, List.sum_singleton, List.map_append]
    omega

end Clearances

theorem step (kept : Kept log s) (step : Step s e after) : Kept (log ++ [e]) after := by
  have still (seq : Nat) :
      s.registry.isCancelled seq = true → after.registry.isCancelled seq = true :=
    step.effect.isCancelled
  cases step with
  | registers | isRejected | misses | emits | finishes | isStale =>
    exact kept.goesOn rfl still (fun _ => .inl) (by simp) (by simp) (by simp)
  | removes taken =>
    refine kept.goesOn rfl still (fun number held => ?_) (by simp) (by simp) (by simp)
    rcases List.mem_append.mp held with old | new
    · exact .inl old
    · obtain rfl := List.mem_singleton.mp new
      exact .inr ⟨_, List.mem_singleton_self _⟩
  | cancels held =>
    refine kept.goesOn rfl still (fun _ => .inl) ?_ (by simp) (by simp)
    rintro seq same
    obtain rfl := RegistryEvent.cancel.inj same
    exact kept.handles seq held
  | drains => exact kept.drain
  | clears => exact kept.clear
  | returns => exact kept.done

end Kept

namespace Reaches

variable {first middle : SharedRegistry} {more : List (RegistryEvent α)}

theorem recorded (run : Reaches first log s)
    (start : Recorded ([] : List (RegistryEvent α)) first.registry) : Recorded log s.registry := by
  induction run with
  | refl => exact start
  | snoc _ step ih => exact ih.step step.effect

theorem kept (run : Reaches first log s) (start : Kept ([] : List (RegistryEvent α)) first) :
    Kept log s := by
  induction run with
  | refl => exact start
  | snoc _ step ih => exact ih.step step

theorem trans (run : Reaches first log middle) (rest : Reaches middle more s) :
    Reaches first (log ++ more) s := by
  induction rest with
  | refl => simpa using run
  | snoc _ step ih => simpa [List.append_assoc] using ih.snoc step

end Reaches

def underWay (s : SharedRegistry) : Nat := (s.clearances.map fun c => c.taken.length).sum

theorem reaches_cleared (registry : Registry) (handles : List Nat) (clearances : List Clearance)
    (taken left : List (String × Nat)) :
    Reaches ⟨registry, handles, clearances ++ [⟨taken, left⟩]⟩
      (left.map fun entry => (.cancel entry.2 : RegistryEvent α))
      ⟨left.foldl (fun r entry => r.cancel entry.2) registry, handles,
        clearances ++ [⟨taken, []⟩]⟩ := by
  induction left generalizing registry with
  | nil => exact .refl _
  | cons entry rest ih =>
    have first := (Reaches.refl _).snoc
      (.clears (α := α) registry handles clearances [] taken rest entry)
    exact first.trans (ih (registry.cancel entry.2))

/-- A closing that nobody interrupts does what `Registry.close` does. -/
theorem reaches_close (s : SharedRegistry) :
    Reaches s
      ((.drain s.registry.entries :: s.registry.entries.map fun entry => .cancel entry.2) ++
        [(.closed s.registry.entries : RegistryEvent α)])
      { s with registry := s.registry.close } := by
  have drained := (Reaches.refl s).snoc (.drains (α := α) s)
  have cleared := drained.trans (reaches_cleared s.registry.drain s.handles s.clearances
    s.registry.entries s.registry.entries)
  refine cleared.snoc ?_
  simpa [Registry.close_eq] using
    Step.returns (α := α) _ s.handles s.clearances [] s.registry.entries

/-- Whatever was called, in whatever order, and however many closings are under way, the registry is
told by the calls. The numbers handed out are those from one on, each greater than the one before.
A registration is live as long as no call has taken it out, and then its token is not cancelled.
An id is refused while it is live in an open registry, everything is refused after a closing, and
nothing is live from then on; anything else is registered under the next number. To emit and to
finish runs the action if and only if the registration is live, no registration is finished or taken
out twice, and a call that is refused changes nothing. All that was registered is live, removed,
finished or taken by a closing, and closings return how many they have taken. The cancelled tokens
are those that were cancelled through a handle or by a closing; they are tokens of registrations
taken out, and a closing has cancelled all of its own when it returns. -/
theorem registry_follows_calls (run : Reaches new log s) :
    ((registered log).map Prod.snd).Pairwise (· < ·) ∧
    (∀ id seq, (id, seq) ∈ registered log → 0 < seq ∧ seq ≤ (registered log).length) ∧
    (∀ id seq, s.registry.isLive id seq = true ↔ LiveAfter log id seq) ∧
    (∀ id seq, LiveAfter log id seq → s.registry.isCancelled seq = false) ∧
    (∀ id, (s.registry.register id = .error .closed ↔ ClosedAfter log) ∧
      (∀ other, s.registry.register id = .error (.alreadyExists other) ↔
        other = id ∧ ¬ ClosedAfter log ∧ ∃ seq, LiveAfter log id seq) ∧
      (¬ ClosedAfter log → (∀ seq, ¬ LiveAfter log id seq) →
        ∃ registry, s.registry.register id = .ok ((registered log).length + 1, registry))) ∧
    (∀ id seq, s.registry.remove id = some (seq, s.registry.drop id) ↔ LiveAfter log id seq) ∧
    (ClosedAfter log → s.registry.closed = true ∧ s.registry.entries = []) ∧
    (∀ id seq (action : Unit → α),
      (LiveAfter log id seq → s.registry.emit id seq action = some (action ()) ∧
        s.registry.finish id seq action = some (action (), s.registry.drop id)) ∧
      (¬ LiveAfter log id seq → s.registry.emit id seq action = none ∧
        s.registry.finish id seq action = none)) ∧
    (finished log).Nodup ∧ (takenOut log).Nodup ∧
    (∀ (e : RegistryEvent α) after, Step s e after → e.IsRefused → after = s) ∧
    (registered log).Perm (s.registry.entries ++ takenOut log) ∧
    (registered log).length = s.registry.size + (removed log).length + (finished log).length +
      (returnedCounts log).sum + s.underWay ∧
    (∀ seq, s.registry.isCancelled seq = true ↔ .cancel seq ∈ log) ∧
    (∀ seq, .cancel seq ∈ log → ∃ id, (id, seq) ∈ takenOut log) ∧
    (∀ taken, .closed taken ∈ log → ∀ entry ∈ taken, s.registry.isCancelled entry.2 = true) ∧
    ∀ taken, .drain taken ∈ log → ∀ entry ∈ taken,
      s.registry.isCancelled entry.2 = true ∨ ∃ c ∈ s.clearances, entry ∈ c.left := by
  have recorded := run.recorded recorded_empty
  have kept := run.kept kept_new
  refine ⟨recorded.numbers_increase, fun id seq => recorded.le_of_registered,
    fun id seq => recorded.isLive_iff, ?_, fun id => ⟨recorded.register_eq_closed_iff id,
      recorded.register_eq_alreadyExists_iff id, recorded.register_of_free⟩,
    recorded.remove_eq_some_iff, ?_, ?_,
    recorded.nodup_takenOut.sublist (finished_sublist log), recorded.nodup_takenOut,
    fun e after => Step.eq_of_isRefused, recorded.partition, ?_, recorded.cancelled,
    kept.cancelled, kept.returned, kept.drained⟩
  · intro id seq live
    refine Bool.eq_false_iff.mpr fun cancelled => ?_
    obtain ⟨other, gone⟩ := kept.cancelled seq ((recorded.cancelled seq).mp cancelled)
    exact recorded.not_mem_takenOut live gone
  · intro closed
    have shut := recorded.closed.mpr closed
    exact ⟨shut, recorded.sound.emptied shut⟩
  · intro id seq action
    simp only [← recorded.isLive_iff, Registry.emit, Registry.finish]
    exact ⟨fun live => by simp [live], fun dead => by simp [dead]⟩
  · have parts := recorded.partition.length_eq
    rw [List.length_append, length_takenOut, kept.counted] at parts
    rw [parts, Registry.size, underWay]
    omega

/-- An id is used again, its first producer comes too late, and a closing is interrupted before it
has cancelled the second registration. -/
theorem registry_of_race :
    let log : List (RegistryEvent Unit) :=
      [.register "a" (.ok 1), .remove "a" (some 1), .register "a" (.ok 2), .finish "a" 1 none,
        .register "b" (.ok 3), .drain [("b", 3), ("a", 2)], .emit "a" 2 none, .cancel 3,
        .register "a" (.error .closed)]
    let s : SharedRegistry := ⟨⟨[], 3, true, [3]⟩, [1], [⟨[("b", 3), ("a", 2)], [("a", 2)]⟩]⟩
    Reaches new log s ∧ (registered log).length = 0 + 1 + 0 + 0 + s.underWay ∧
      ∃ id, (id, 3) ∈ takenOut log := by
  intro log s
  have run : Reaches new log s := by
    let used : SharedRegistry := ⟨⟨[("a", 1)], 1, false, []⟩, [], []⟩
    let freed : SharedRegistry := ⟨⟨[], 1, false, []⟩, [1], []⟩
    let reused : SharedRegistry := ⟨⟨[("a", 2)], 2, false, []⟩, [1], []⟩
    let full : SharedRegistry := ⟨⟨[("b", 3), ("a", 2)], 3, false, []⟩, [1], []⟩
    let drained : SharedRegistry :=
      ⟨⟨[], 3, true, []⟩, [1], [⟨[("b", 3), ("a", 2)], [("b", 3), ("a", 2)]⟩]⟩
    have first : Step (α := Unit) new (.register "a" (.ok 1)) used := .registers rfl
    have removal : Step (α := Unit) used (.remove "a" (some 1)) freed := .removes rfl
    have second : Step (α := Unit) freed (.register "a" (.ok 2)) reused := .registers rfl
    have late : Step (α := Unit) reused (.finish "a" 1 none) reused :=
      @Step.isStale Unit reused "a" 1 id rfl
    have third : Step (α := Unit) reused (.register "b" (.ok 3)) full := .registers rfl
    have drain : Step (α := Unit) full (.drain [("b", 3), ("a", 2)]) drained := .drains full
    have silent : Step drained (.emit "a" 2 none) drained := .emits drained "a" 2 fun _ => ()
    have clear : Step (α := Unit) drained (.cancel 3) s :=
      .clears ⟨[], 3, true, []⟩ [1] [] [] _ _ ("b", 3)
    have closed : Step (α := Unit) s (.register "a" (.error .closed)) s := .isRejected rfl
    exact Reaches.refl new |>.snoc first |>.snoc removal |>.snoc second |>.snoc late |>.snoc third
      |>.snoc drain |>.snoc silent |>.snoc clear |>.snoc closed
  have ⟨_, _, _, _, _, _, _, _, _, _, _, _, balance, _, cancelled, _⟩ := registry_follows_calls run
  exact ⟨run, balance, cancelled 3 (by simp [log])⟩

end SharedRegistry

end SubscriptionGateway
