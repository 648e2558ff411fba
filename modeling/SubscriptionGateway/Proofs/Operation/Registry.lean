import SubscriptionGateway.Operation.Registry

/-! The registry as a map from ids to registrations, with one lemma for each operation and each
view: `seq?` for what is live, `lastSeq` for what was handed out, `isCancelled` for the tokens. -/
namespace SubscriptionGateway.Registry

/-- No id is live twice, and none after the registry is closed. -/
structure Sound (r : Registry) : Prop where
  distinct : (r.entries.map Prod.fst).Nodup
  emptied : r.closed = true → r.entries = []

theorem mem_entries_of_seq? {r : Registry} {id : String} {seq : Nat} (h : r.seq? id = some seq) :
    (id, seq) ∈ r.entries := by
  obtain ⟨before, after, split, _⟩ := List.lookup_eq_some_iff.mp h
  simp [split]

theorem mem_entries_iff {r : Registry} (sound : r.Sound) {id : String} {seq : Nat} :
    (id, seq) ∈ r.entries ↔ r.seq? id = some seq := by
  refine ⟨fun h => ?_, mem_entries_of_seq?⟩
  obtain ⟨before, after, split⟩ := List.append_of_mem h
  refine List.lookup_eq_some_iff.mpr ⟨before, after, split, fun entry member => ?_⟩
  have distinct := sound.distinct
  rw [split, List.map_append, List.nodup_append] at distinct
  have ne := distinct.2.2 entry.1 (List.mem_map_of_mem member) id (by simp)
  simpa using Ne.symm ne

theorem entries_nil_iff {r : Registry} : r.entries = [] ↔ ∀ id, r.seq? id = none := by
  refine ⟨fun h id => by simp [seq?, h], fun h => ?_⟩
  cases entries : r.entries with
  | nil => rfl
  | cons entry rest => simpa [seq?, entries] using h entry.1

theorem contains_iff {r : Registry} {id : String} :
    r.contains id = true ↔ ∃ seq, r.seq? id = some seq := by
  simp [contains, Option.isSome_iff_exists]

theorem isLive_iff {r : Registry} {id : String} {seq : Nat} :
    r.isLive id seq = true ↔ r.seq? id = some seq := by
  simp [isLive]

/-- What a successful registration finds and leaves. -/
theorem register_eq_ok {r after : Registry} {id : String} {seq : Nat}
    (h : r.register id = .ok (seq, after)) :
    r.closed = false ∧ r.seq? id = none ∧ seq = r.lastSeq + 1 ∧
      after = { r with entries := (id, seq) :: r.entries, lastSeq := seq } := by
  unfold register at h
  split at h
  · cases h
  · next opened =>
    split at h
    · cases h
    · next free =>
      cases h
      exact ⟨by simpa using opened, by simpa [contains] using free, rfl, rfl⟩

theorem register_eq_alreadyExists {r : Registry} {id other : String}
    (h : r.register id = .error (.alreadyExists other)) :
    other = id ∧ r.closed = false ∧ r.contains id = true := by
  unfold register at h
  split at h
  · cases h
  · next opened =>
    split at h
    · next taken => cases h; exact ⟨rfl, by simpa using opened, taken⟩
    · cases h

theorem register_eq_closed {r : Registry} {id : String} (h : r.register id = .error .closed) :
    r.closed = true := by
  unfold register at h
  split at h
  · assumption
  · split at h <;> cases h

theorem seq?_register_of_ne {r after : Registry} {id other : String} {seq : Nat}
    (h : r.register id = .ok (seq, after)) (ne : other ≠ id) : after.seq? other = r.seq? other := by
  obtain ⟨-, -, -, rfl⟩ := register_eq_ok h
  have miss : (other == id) = false := by simpa using ne
  simp [seq?, List.lookup_cons, miss]

theorem Sound.register {r after : Registry} {id : String} {seq : Nat} (sound : r.Sound)
    (h : r.register id = .ok (seq, after)) : after.Sound := by
  obtain ⟨opened, free, -, rfl⟩ := register_eq_ok h
  refine ⟨List.nodup_cons.mpr ⟨fun taken => ?_, sound.distinct⟩, by simp [opened]⟩
  obtain ⟨⟨name, number⟩, member, rfl⟩ := List.mem_map.mp taken
  rw [(mem_entries_iff sound).mp member] at free
  cases free

@[simp] theorem lastSeq_drop (r : Registry) (id : String) : (r.drop id).lastSeq = r.lastSeq := rfl

@[simp] theorem closed_drop (r : Registry) (id : String) : (r.drop id).closed = r.closed := rfl

@[simp] theorem isCancelled_drop (r : Registry) (id : String) (seq : Nat) :
    (r.drop id).isCancelled seq = r.isCancelled seq := rfl

theorem Sound.drop {r : Registry} (sound : r.Sound) (id : String) : (r.drop id).Sound where
  distinct := sound.distinct.sublist (List.Sublist.map Prod.fst List.filter_sublist)
  emptied closed := by simp [Registry.drop, sound.emptied closed]

/-- Dropping one id takes nothing from the others. -/
theorem seq?_drop_eq_some {r : Registry} {id other : String} {seq : Nat} :
    (r.drop id).seq? other = some seq ↔ other ≠ id ∧ r.seq? other = some seq := by
  by_cases same : other = id
  · subst same
    simp [seq?_drop_self]
  · simp [same, seq?_drop_of_ne]

@[simp] theorem seq?_cancel (r : Registry) (seq : Nat) (id : String) :
    (r.cancel seq).seq? id = r.seq? id := by
  simp [seq?, entries_cancel]

@[simp] theorem lastSeq_cancel (r : Registry) (seq : Nat) : (r.cancel seq).lastSeq = r.lastSeq := by
  unfold cancel
  split <;> rfl

@[simp] theorem closed_cancel (r : Registry) (seq : Nat) : (r.cancel seq).closed = r.closed := by
  unfold cancel
  split <;> rfl

theorem Sound.cancel {r : Registry} (sound : r.Sound) (seq : Nat) : (r.cancel seq).Sound where
  distinct := by simpa [entries_cancel] using sound.distinct
  emptied closed := by
    rw [entries_cancel]
    exact sound.emptied (by simpa using closed)

@[simp] theorem seq?_close (r : Registry) (id : String) : r.close.seq? id = none := rfl

theorem lastSeq_foldl_cancel (entries : List (String × Nat)) (r : Registry) :
    (entries.foldl (fun r entry => r.cancel entry.2) r).lastSeq = r.lastSeq := by
  induction entries generalizing r with
  | nil => rfl
  | cons entry rest ih => simp [ih]

@[simp] theorem lastSeq_close (r : Registry) : r.close.lastSeq = r.lastSeq :=
  lastSeq_foldl_cancel r.entries r

theorem isCancelled_foldl_cancel (entries : List (String × Nat)) (r : Registry) (seq : Nat) :
    (entries.foldl (fun r entry => r.cancel entry.2) r).isCancelled seq = true ↔
      r.isCancelled seq = true ∨ ∃ id, (id, seq) ∈ entries := by
  induction entries generalizing r with
  | nil => simp
  | cons entry rest ih =>
    obtain ⟨name, number⟩ := entry
    simp only [List.foldl_cons, ih, isCancelled_cancel, Bool.or_eq_true, beq_iff_eq,
      List.mem_cons, Prod.mk.injEq]
    grind

theorem isCancelled_close {r : Registry} {seq : Nat} :
    r.close.isCancelled seq = true ↔ r.isCancelled seq = true ∨ ∃ id, (id, seq) ∈ r.entries :=
  isCancelled_foldl_cancel r.entries r seq

theorem sound_close (r : Registry) : r.close.Sound := ⟨List.nodup_nil, fun _ => rfl⟩

end SubscriptionGateway.Registry
