import SubscriptionGateway.Proofs.Session.Rest

/-! Which ids are taken while a connection is at rest: those of the operations that run, and those
that are stranded. An id is stranded when the queue has refused a result of its operation because
the writer was gone: the producer is over, but its entry stays until the client completes the id or
the connection closes, and until then no other operation can have the id. -/
namespace SubscriptionGateway.Session

variable {past events : List Event} {s : Session} {id : String} {seq : Nat}

/-- The writer was gone when a result of the registration was due, and nobody has freed the id since
then. -/
def Stranded (past : List Event) (s : Session) (id : String) (seq : Nat) : Prop :=
  s.registry.closed = false ∧ ∃ before value later,
    past = before ++ .refused (.operation seq) (.next id value) .closed :: later ∧
      ¬ Completed id later

theorem Known.not_completed (known : Known past s) (live : s.registry.seq? id = some seq)
    {before later : List Event} {e : Event} (split : past = before ++ e :: later)
    (mine : e.producer? = some seq) : ¬ Completed id later := by
  rintro ⟨frame, arrived, decoded⟩
  have made := mem_registrations.mp (known.tenured.enlisted id seq live)
  obtain ⟨first, rest, registered⟩ := List.append_of_mem made
  obtain ⟨untouched, -, finished⟩ := known.hushed _ _ _ _ registered
  refine (finished ⟨.arrived (some (.ok frame)), ?_, decoded⟩).2 live
  rcases append_eq_append_cons (split.symm.trans registered) with
    ⟨middle, -, rfl⟩ | ⟨middle, rfl, tail⟩
  · exact List.mem_append_right _ (List.mem_cons_of_mem _ arrived)
  · -- The operation would have done something before its registration.
    rcases List.cons_eq_append_iff.mp tail with ⟨rfl, same⟩ | ⟨inner, rfl, -⟩
    · cases same
      cases mine
    · exact absurd mine (untouched e (by simp))

/-- At rest an entry without a producer is a stranded one. -/
theorem Known.stranded_iff (known : Known past s) (idle : s.Idle) :
    Stranded past s id seq ↔
      s.registry.seq? id = some seq ∧ ∀ p ∈ s.producers, p.seq ≠ seq := by
  constructor
  · rintro ⟨opened, before, value, later, split, uncompleted⟩
    obtain ⟨apart, live | completed | closed⟩ := known.tenured.cut _ _ _ id seq split rfl
    · exact ⟨live, apart⟩
    · exact absurd completed uncompleted
    · simp [opened] at closed
  · rintro ⟨live, apart⟩
    have opened : s.registry.closed = false := by
      refine Bool.eq_false_iff.mpr fun closed => ?_
      simp [Registry.entries_nil_iff.mp (known.orderly.sound.emptied closed)] at live
    obtain ⟨p, member, -, same⟩ | ⟨e, member, cut⟩ := known.tenured.held id seq live
    · exact absurd same (apart p member)
    · obtain ⟨value, why, rfl⟩ := Event.cut?_eq_some.mp cut
      obtain ⟨before, later, split⟩ := List.append_of_mem member
      have uncompleted := known.not_completed live split rfl
      cases why with
      | closed => exact ⟨opened, before, value, later, split, uncompleted⟩
      | overflow =>
        have closed := known.orderly.tornDown (known.phase_closed_of_overflow idle member)
        simp [closed] at opened

theorem Known.mem_entries_iff (known : Known past s) (idle : s.Idle) :
    (id, seq) ∈ s.registry.entries ↔
      (∃ p ∈ s.producers, p.id = id ∧ p.seq = seq) ∨ Stranded past s id seq := by
  rw [Registry.mem_entries_iff known.orderly.sound, known.stranded_iff idle]
  constructor
  · intro live
    by_cases runs : ∃ p ∈ s.producers, p.seq = seq
    · obtain ⟨p, member, rfl⟩ := runs
      have named := known.enrolled.named p member
      exact .inl ⟨p, member,
        known.enrolled.unique named (known.tenured.enlisted id p.seq live), rfl⟩
    · exact .inr ⟨live, fun p member same => runs ⟨p, member, same⟩⟩
  · rintro (⟨p, member, rfl, rfl⟩ | ⟨live, -⟩)
    · exact live_at_rest idle known.enrolled known.tenured member
    · exact live

def heldBy (producers : List Producer) : List (String × Nat) :=
  producers.map fun p => (p.id, p.seq)

theorem mem_heldBy {producers : List Producer} :
    (id, seq) ∈ heldBy producers ↔ ∃ p ∈ producers, p.id = id ∧ p.seq = seq := by
  simp [heldBy]

/-- At rest the registry holds one entry for each active operation, and the stranded ones. -/
theorem Known.size_eq (known : Known past s) (idle : s.Idle) :
    (s.registry.size : Int) = Metrics.operationsActive past +
      s.registry.entries.countP fun r => decide (r ∉ heldBy s.producers) := by
  have apart {γ : Type} {f : String × Nat → γ} {l : List (String × Nat)}
      (distinct : (l.map f).Nodup) : l.Nodup :=
    List.Pairwise.of_map f (fun _ _ different same => different (congrArg f same)) distinct
  have running : (s.registry.entries.filter fun r => decide (r ∈ heldBy s.producers)).Perm
      (heldBy s.producers) := by
    refine (List.perm_ext_iff_of_nodup ?_ ?_).mpr fun ⟨id, seq⟩ => ?_
    · exact (apart known.orderly.sound.distinct).sublist List.filter_sublist
    · have numbers : (heldBy s.producers).map Prod.snd = s.producers.map Producer.seq := by
        simp [heldBy]
      exact apart (numbers ▸ known.enrolled.distinct)
    · simp only [List.mem_filter, decide_eq_true_eq, known.mem_entries_iff idle, mem_heldBy]
      exact ⟨And.right, fun runs => ⟨.inl runs, runs⟩⟩
  have gauge : Metrics.operationsActive past = s.producers.length := by
    rw [known.counted]
    exact active_of_started fun p member => (producer_at_rest idle known.enrolled member).1
  have count := running.length_eq
  rw [← List.countP_eq_length_filter, heldBy, List.length_map] at count
  have whole := List.length_eq_countP_add_countP
    (fun r => decide (r ∈ heldBy s.producers)) (l := s.registry.entries)
  rw [gauge, Registry.size, whole, ← count]
  simp [heldBy]

theorem closes_subscriberExists_iff (orderly : s.Orderly) (ready : s.phase = .initialized)
    (payload : SubscribePayload) :
    (s.takeMessage (.subscribe id payload)).2 = [.closing (.subscriberExists id)] ↔
      ∃ seq, (id, seq) ∈ s.registry.entries := by
  simp only [Registry.mem_entries_iff orderly.sound, takeMessage, ready, subscribe]
  split
  · next other taken =>
    obtain ⟨rfl, -, live⟩ := Registry.register_eq_alreadyExists taken
    exact iff_of_true rfl (Registry.contains_iff.mp live)
  · next refused =>
    have emptied := orderly.sound.emptied (Registry.register_eq_closed refused)
    exact iff_of_false (by simp) (by simp [Registry.entries_nil_iff.mp emptied])
  · next seq registry free =>
    have unused := (Registry.register_eq_ok free).2.1
    refine iff_of_false ?_ (by simp [unused])
    split <;> simp [close]

/-- At every point of every run at which all tasks wait: the registry holds exactly the operations
whose producers run and those that are stranded, which have no producer; the number of entries is
that of the active operations exactly if nothing is stranded; and a `subscribe` is turned away for
its id exactly if an operation runs under it or is stranded under it. -/
theorem ids_at_rest {config : SessionConfig} {connectionId : String} {engine : Engine}
    {interceptors : InterceptorChain} {half : WriteHalf} {now : Nat} {shutdown : Bool}
    (run : Reaches (.new config connectionId engine interceptors half now shutdown) events s)
    (idle : s.Idle) :
    (∀ id seq, (id, seq) ∈ s.registry.entries ↔
      (∃ p ∈ s.producers, p.id = id ∧ p.seq = seq) ∨ Stranded events s id seq) ∧
    (∀ id seq, Stranded events s id seq → ∀ p ∈ s.producers, p.seq ≠ seq) ∧
    ((s.registry.size : Int) = Metrics.operationsActive events ↔
      ∀ id seq, ¬ Stranded events s id seq) ∧
    (s.phase = .initialized → ∀ id payload,
      (s.takeMessage (.subscribe id payload)).2 = [.closing (.subscriberExists id)] ↔
        (∃ p ∈ s.producers, p.id = id) ∨ ∃ seq, Stranded events s id seq) := by
  have known := known_of_reaches run
  have stranded : ∀ {id seq}, Stranded events s id seq → ∀ p ∈ s.producers, p.seq ≠ seq :=
    fun h => ((known.stranded_iff idle).mp h).2
  refine ⟨fun _ _ => known.mem_entries_iff idle, fun _ _ => stranded, ?_, ?_⟩
  · have none : s.registry.entries.countP (fun r => decide (r ∉ heldBy s.producers)) = 0 ↔
        ∀ id seq, ¬ Stranded events s id seq := by
      simp only [List.countP_eq_zero, decide_eq_true_eq, Decidable.not_not]
      constructor
      · intro held id seq h
        obtain ⟨p, member, -, same⟩ := mem_heldBy.mp
          (held (id, seq) ((known.mem_entries_iff idle).mpr (.inr h)))
        exact stranded h p member same
      · rintro nothing ⟨id, seq⟩ member
        have runs := (known.mem_entries_iff idle).mp member
        exact mem_heldBy.mpr (runs.resolve_right (nothing id seq))
    rw [known.size_eq idle, ← none]
    omega
  · intro ready id payload
    rw [closes_subscriberExists_iff known.orderly ready payload]
    simp only [known.mem_entries_iff idle, exists_or]
    refine or_congr_left ⟨?_, ?_⟩
    · rintro ⟨seq, p, member, named, -⟩
      exact ⟨p, member, named⟩
    · rintro ⟨p, member, named⟩
      exact ⟨p.seq, p, member, named, rfl⟩

/-- The writer fails at the acknowledgement, and the queue refuses the result of an operation. -/
def unheard : List Move :=
  greeting ++ hearing (subscribing "1") ++ producing 1 4

/-- What is left of an operation whose result was refused: everything waits, nothing runs, the gauge
is at zero, and its id turns a `subscribe` away. -/
theorem id_of_ended_operation_is_taken :
    ∃ events last, Reaches mute events last ∧ last.Idle ∧ last.registry.entries = [("1", 1)] ∧
      last.producers = [] ∧ fatesOf 1 events = [.refused] ∧ last.registry.size = 1 ∧
      Metrics.operationsActive events = 0 ∧
      (last.takeMessage (subscribing "1")).2 = [.closing (.subscriberExists "1")] := by
  obtain ⟨events, last, run, seen⟩ := exists_reaches_of_play mute unheard
    (fun events last => last.isIdle && decide (last.registry.entries = [("1", 1)]) &&
      last.producers.isEmpty && decide (fatesOf 1 events = [.refused]) &&
      decide (last.registry.size = 1) && decide (Metrics.operationsActive events = 0) &&
      decide (last.phase = .initialized)) (by decide +kernel)
  simp only [Bool.and_eq_true, decide_eq_true_eq, List.isEmpty_iff] at seen
  obtain ⟨⟨⟨⟨⟨⟨idle, entries⟩, nothing⟩, fates⟩, size⟩, gauge⟩, ready⟩ := seen
  have taken : ∃ seq, ("1", seq) ∈ last.registry.entries := ⟨1, by simp [entries]⟩
  have orderly := (known_of_reaches run).orderly
  exact ⟨events, last, run, idle_iff.mpr idle, entries, nothing, fates, size, gauge,
    (closes_subscriberExists_iff orderly ready _).mpr taken⟩

/-- The theorem at that run: the id is stranded, so that the registry is larger than the gauge. -/
theorem ids_at_rest_of_unheard :
    ∃ events last, Reaches mute events last ∧ last.Idle ∧ Stranded events last "1" 1 ∧
      (last.registry.size : Int) ≠ Metrics.operationsActive events := by
  obtain ⟨events, last, run, seen⟩ := exists_reaches_of_play mute unheard
    (fun _ last => last.isIdle && decide (("1", 1) ∈ last.registry.entries) &&
      last.producers.isEmpty) (by decide +kernel)
  simp only [Bool.and_eq_true, decide_eq_true_eq, List.isEmpty_iff] at seen
  obtain ⟨⟨idle, held⟩, nothing⟩ := seen
  obtain ⟨entries, -, sizes, -⟩ := ids_at_rest run (idle_iff.mpr idle)
  have stranded : Stranded events last "1" 1 :=
    ((entries "1" 1).mp held).resolve_left (by simp [nothing])
  exact ⟨events, last, run, idle_iff.mpr idle, stranded, fun same => sizes.mp same "1" 1 stranded⟩

end SubscriptionGateway.Session
