import SubscriptionGateway.Proofs.Session.Ledger

/-! The registrations of a connection, over a whole run: each has a number of its own and a producer
that follows the answer of the engine until it ends. -/
namespace SubscriptionGateway.Session

theorem untouched_of_common {events : List Event} (common : ∀ e ∈ events, e.Common) (seq : Nat) :
    Untouched seq events := by
  intro e member
  simp [(common e member).1]

/-- The registrations of the past, the producers that still run for them, and what each of them has
done so far. -/
structure Enrolled (past : List Event) (s : Session) : Prop where
  distinct : (s.producers.map Producer.seq).Nodup
  named : ∀ p ∈ s.producers, (p.id, p.seq) ∈ registrations past
  rising : (registrations past).Pairwise fun first second => first.2 < second.2
  numbered : ∀ r ∈ registrations past, r.2 ≤ s.registry.lastSeq
  caused : ∀ e ∈ past, ∀ seq, e.producer? = some seq → ∃ id, (id, seq) ∈ registrations past
  follows : ∀ p ∈ s.producers, p.Follows past
  settled : ∀ r ∈ registrations past, (∃ p ∈ s.producers, (p.id, p.seq) = r) ∨
    FollowsAnswer r.1 r.2 past ∧ ∃ how, fatesOf r.2 past = [how]

namespace Enrolled

variable {past events : List Event} {s after : Session}

theorem unique (enrolled : Enrolled past s) {id other : String} {seq : Nat}
    (first : (id, seq) ∈ registrations past) (second : (other, seq) ∈ registrations past) :
    id = other := by
  obtain ⟨before, after, split⟩ := List.append_of_mem first
  have rising := enrolled.rising
  rw [split] at rising second
  rw [List.pairwise_append, List.pairwise_cons] at rising
  rcases List.mem_append.mp second with earlier | later
  · have := rising.2.2 _ earlier (id, seq) (by simp)
    simp at this
  · rcases List.mem_cons.mp later with same | later
    · exact (congrArg Prod.fst same).symm
    · have := rising.2.1.1 _ later
      simp at this

theorem followsAnswer (enrolled : Enrolled past s) {id : String} {seq : Nat}
    (made : (id, seq) ∈ registrations past) : FollowsAnswer id seq past := by
  rcases enrolled.settled _ made with ⟨p, running, same⟩ | ⟨follows, -⟩
  · cases same
    exact (enrolled.follows p running).followsAnswer
  · exact follows

/-- Nothing has happened yet to a number that is still to be given. -/
theorem untouched (enrolled : Enrolled past s) {seq : Nat} (h : s.registry.lastSeq < seq) :
    Untouched seq past := by
  intro e member same
  obtain ⟨id, known⟩ := enrolled.caused e member seq same
  have := enrolled.numbered _ known
  omega

theorem common (enrolled : Enrolled past s) (common : ∀ e ∈ events, e.Common)
    (producers : after.producers = s.producers)
    (lastSeq : after.registry.lastSeq = s.registry.lastSeq) :
    Enrolled (past ++ events) after := by
  have same : registrations (past ++ events) = registrations past := by
    simp [registrations_eq_nil fun e member => (common e member).2]
  refine ⟨?_, ?_, ?_, ?_, ?_, ?_, ?_⟩
  · rw [producers]; exact enrolled.distinct
  · rw [producers, same]; exact enrolled.named
  · rw [same]; exact enrolled.rising
  · rw [same, lastSeq]; exact enrolled.numbered
  · intro e member seq caused
    rw [same]
    rcases List.mem_append.mp member with old | new
    · exact enrolled.caused e old seq caused
    · rw [(common e new).1] at caused; cases caused
  · rw [producers]
    exact fun p member => (enrolled.follows p member).append (untouched_of_common common _)
  · rw [same, producers]
    intro r member
    refine (enrolled.settled r member).imp_right fun ⟨follows, how, ended⟩ => ?_
    have quiet := untouched_of_common common r.2
    exact ⟨follows.append quiet, how, by simp [ended, quiet.eq_nil.2.2]⟩

/-- A registration comes with a number and a producer of its own. -/
theorem enrols (enrolled : Enrolled past s) {frame : InboundFrame} {id : String}
    {payload : SubscribePayload} {context : Context} {seq : Nat}
    (free : s.registry.register id = .ok (seq, after.registry))
    (producers : after.producers = s.producers ++ [.new id seq (.ofSubscribe id payload) context]) :
    Enrolled (past ++ [.arrived (some (.ok frame)), .registered id seq]) after := by
  obtain ⟨-, -, rfl, registry⟩ := Registry.register_eq_ok free
  have added : registrations (past ++ [.arrived (some (.ok frame)), .registered id
      (s.registry.lastSeq + 1)]) = registrations past ++ [(id, s.registry.lastSeq + 1)] := by
    rw [registrations_append]
    rfl
  have apart (number : Nat) : Untouched number
      [.arrived (some (.ok frame)), .registered id (s.registry.lastSeq + 1)] := by
    simp [Untouched, Event.producer?]
  have fresh : Untouched (s.registry.lastSeq + 1) past := enrolled.untouched (by omega)
  have earlier : ∀ r ∈ registrations past, r.2 < s.registry.lastSeq + 1 := fun r member =>
    Nat.lt_succ_of_le (enrolled.numbered r member)
  refine ⟨?_, ?_, ?_, ?_, ?_, ?_, ?_⟩
  · rw [producers, List.map_append, List.nodup_append]
    refine ⟨enrolled.distinct, by simp, ?_⟩
    intro number known other new same
    obtain ⟨p, member, rfl⟩ := List.mem_map.mp known
    have bound := earlier _ (enrolled.named p member)
    simp only [List.map_cons, List.map_nil, List.mem_singleton] at new
    subst new
    exact absurd same (Nat.ne_of_lt bound)
  · rw [producers, added]
    intro p member
    rcases List.mem_append.mp member with old | new
    · exact List.mem_append_left _ (enrolled.named p old)
    · cases List.mem_singleton.mp new
      exact List.mem_append_right _ (List.mem_singleton_self _)
  · rw [added, List.pairwise_append]
    refine ⟨enrolled.rising, List.pairwise_singleton _ _, fun r member new last => ?_⟩
    cases List.mem_singleton.mp last
    exact earlier r member
  · rw [added, registry]
    intro r member
    rcases List.mem_append.mp member with old | new
    · exact Nat.le_of_lt (earlier r old)
    · cases List.mem_singleton.mp new
      exact Nat.le_refl _
  · rw [added]
    intro e member number caused
    rcases List.mem_append.mp member with old | new
    · obtain ⟨name, known⟩ := enrolled.caused e old number caused
      exact ⟨name, List.mem_append_left _ known⟩
    · exact absurd caused (apart number e new)
  · rw [producers]
    intro p member
    rcases List.mem_append.mp member with old | new
    · exact (enrolled.follows p old).append (apart _)
    · cases List.mem_singleton.mp new
      obtain ⟨sent, calls, fates⟩ := fresh.eq_nil
      refine Producer.Follows.append ?_ (apart _)
      exact ⟨fates, .inl ⟨calls, sent, _, _, rfl⟩⟩
  · rw [added, producers]
    intro r member
    rcases List.mem_append.mp member with old | new
    · rcases enrolled.settled r old with ⟨p, running, same⟩ | ⟨follows, how, ended⟩
      · exact .inl ⟨p, List.mem_append_left _ running, same⟩
      · exact .inr ⟨follows.append (apart _), how, by simp [ended, (apart r.2).eq_nil.2.2]⟩
    · cases List.mem_singleton.mp new
      exact .inl ⟨_, List.mem_append_right _ (List.mem_singleton_self _), rfl⟩

section Turn

variable {p : Producer} {taken : ProducerTurn}

/-- After a turn the producer still follows its answer, or has ended and is gone. -/
theorem replaced (enrolled : Enrolled past s) (member : p ∈ s.producers)
    (turned : p.Turns s.engine s.now s.registry s.queue taken) :
    (∀ q ∈ Relay.replace s.producers p.seq taken.state, q ∈ s.producers ∧ q.seq ≠ p.seq ∨
      (q.id, q.seq) = (p.id, p.seq) ∧ q.Follows (past ++ taken.events)) ∧
    ((∃ q ∈ Relay.replace s.producers p.seq taken.state, (q.id, q.seq) = (p.id, p.seq)) ∨
      FollowsAnswer p.id p.seq (past ++ taken.events) ∧
        ∃ how, fatesOf p.seq (past ++ taken.events) = [how]) := by
  cases state : taken.state with
  | running q =>
    obtain ⟨id, seq, follows⟩ := turned.follows (enrolled.follows p member) state
    refine ⟨fun other known => ?_, .inl ⟨q, ?_, by rw [id, seq]⟩⟩
    · rcases (Relay.mem_replace_running member).mp known with rfl | same
      · exact .inr ⟨by rw [id, seq], follows⟩
      · exact .inl same
    · exact (Relay.mem_replace_running member).mpr (.inl rfl)
  | ended how =>
    obtain ⟨follows, ended⟩ := turned.followsAnswer (enrolled.follows p member) state
    exact ⟨fun other known => .inl (Relay.mem_replace_ended.mp known), .inr ⟨follows, how, ended⟩⟩

theorem produces (enrolled : Enrolled past s)
    (found : s.producers.find? (fun other => other.seq == p.seq) = some p)
    (turned : p.Turns s.engine s.now s.registry s.queue taken)
    (registry : after.registry = taken.registry)
    (producers : after.producers = Relay.replace s.producers p.seq taken.state) :
    Enrolled (past ++ taken.events) after := by
  have member := List.mem_of_find?_eq_some found
  obtain ⟨kept, mine⟩ := enrolled.replaced member turned
  have same : registrations (past ++ taken.events) = registrations past := by
    simp [registrations_eq_nil fun e member => (turned.causes e member).producer?.1]
  refine ⟨?_, ?_, ?_, ?_, ?_, ?_, ?_⟩
  · rw [producers]
    refine Relay.nodup_replace (fun q state => ?_) enrolled.distinct
    exact (turned.follows (enrolled.follows p member) state).2.1
  · rw [producers, same]
    intro q known
    rcases kept q known with ⟨old, -⟩ | ⟨named, -⟩
    · exact enrolled.named q old
    · exact named ▸ enrolled.named p member
  · rw [same]; exact enrolled.rising
  · rw [same, registry, turned.lastSeq_eq]; exact enrolled.numbered
  · rw [same]
    intro e known seq caused
    rcases List.mem_append.mp known with old | new
    · exact enrolled.caused e old seq caused
    · rw [(turned.causes e new).producer?.2 seq caused]
      exact ⟨p.id, enrolled.named p member⟩
  · rw [producers]
    intro q known
    rcases kept q known with ⟨old, ne⟩ | ⟨-, follows⟩
    · exact (enrolled.follows q old).append (turned.untouched ne)
    · exact follows
  · rw [same, producers]
    intro r known
    by_cases number : r.2 = p.seq
    · obtain rfl : r = (p.id, p.seq) :=
        Prod.ext (enrolled.unique (number ▸ known) (enrolled.named p member)) number
      exact mine
    · have apart := turned.untouched number
      rcases enrolled.settled r known with ⟨q, running, rfl⟩ | ⟨follows, how, ended⟩
      · exact .inl ⟨q, Relay.mem_replace_of_ne running number, rfl⟩
      · exact .inr ⟨follows.append apart, how, by simp [ended, apart.eq_nil.2.2]⟩

end Turn

theorem step (enrolled : Enrolled past s) (books : s.Books events after) :
    Enrolled (past ++ events) after := by
  cases books with
  | keeps registry producers harmless =>
    exact enrolled.common (fun e member => (harmless e member).1) producers (by rw [registry])
  | leaves registry producers =>
    exact enrolled.common (by simp) producers (by rw [registry])
  | shuts registry producers common =>
    exact enrolled.common common producers (by rw [registry, Registry.lastSeq_close])
  | frees decoded registry producers =>
    exact enrolled.common (by simp) producers (by rw [registry, Relay.lastSeq_cancelId])
  | enrols decoded known free producers => exact enrolled.enrols free producers
  | produces found turned registry producers =>
    exact enrolled.produces found turned registry producers

end Enrolled

theorem enrolled_new (config : SessionConfig) (connectionId : String) (engine : Engine)
    (interceptors : InterceptorChain) (half : WriteHalf) (now : Nat) (shutdown : Bool) :
    Enrolled [] (Session.new config connectionId engine interceptors half now shutdown) := by
  constructor <;> simp [Session.new, Relay.new]

/-- Whatever the steps keep, the registrations so far considered, holds of every run. -/
theorem Reaches.of_books {P : List Event → Session → Prop} {config : SessionConfig}
    {connectionId : String} {engine : Engine} {interceptors : InterceptorChain} {half : WriteHalf}
    {now : Nat} {shutdown : Bool} {events : List Event} {s : Session}
    (run : Reaches (.new config connectionId engine interceptors half now shutdown) events s)
    (start : P [] (.new config connectionId engine interceptors half now shutdown))
    (preserved : ∀ {past events : List Event} {s after : Session},
      Enrolled past s → P past s → s.Books events after → P (past ++ events) after) :
    P events s := by
  have orderly := orderly_new config connectionId engine interceptors half now shutdown
  have enrolled := enrolled_new config connectionId engine interceptors half now shutdown
  have both := run.history (P := fun past s => Enrolled past s ∧ P past s)
    (fun orderly ⟨enrolled, holds⟩ does =>
      have books := books_of_does orderly does
      ⟨enrolled.step books, preserved enrolled holds books⟩)
    orderly ⟨enrolled, start⟩
  exact both.2

end SubscriptionGateway.Session
