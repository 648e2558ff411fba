import SubscriptionGateway.Proofs.Operation.Ending
import SubscriptionGateway.Proofs.Session.Silence

/-! Who holds an entry of the registry: the producer that runs for it, or nobody, if the queue has
refused a `next` of its operation. -/
namespace SubscriptionGateway

namespace Session

def Completed (id : String) (events : List Event) : Prop :=
  ∃ frame, .arrived (some (.ok frame)) ∈ events ∧ frame.message? = some (.complete id)

theorem Completed.append_left {id : String} {first : List Event} (h : Completed id first)
    (second : List Event) : Completed id (first ++ second) := by
  obtain ⟨frame, member, decoded⟩ := h
  exact ⟨frame, List.mem_append_left _ member, decoded⟩

theorem Completed.append_right {id : String} {second : List Event} (h : Completed id second)
    (first : List Event) : Completed id (first ++ second) := by
  obtain ⟨frame, member, decoded⟩ := h
  exact ⟨frame, List.mem_append_right _ member, decoded⟩

/-- The entries of the registry, the tokens, and the producers that run. -/
structure Tenured (past : List Event) (s : Session) : Prop where
  enlisted : ∀ id seq, s.registry.seq? id = some seq → (id, seq) ∈ registrations past
  numbered : ∀ seq, s.registry.isCancelled seq = true → seq ≤ s.registry.lastSeq
  uncancelled : ∀ id seq, s.registry.seq? id = some seq → s.registry.isCancelled seq = false
  running : ∀ p ∈ s.producers,
    s.registry.seq? p.id = some p.seq ∨ s.registry.isCancelled p.seq = true
  held : ∀ id seq, s.registry.seq? id = some seq →
    (∃ p ∈ s.producers, p.id = id ∧ p.seq = seq) ∨ ∃ e ∈ past, e.cut? = some (id, seq)
  cut : ∀ before e later id seq, past = before ++ e :: later → e.cut? = some (id, seq) →
    (∀ p ∈ s.producers, p.seq ≠ seq) ∧
      (s.registry.seq? id = some seq ∨ Completed id later ∨ s.registry.closed = true)

namespace Tenured

variable {past events : List Event} {s after : Session}

/-- The account of the refused messages, before a step and in it. -/
theorem cut_step (tenured : Tenured past s) (enrolled : Enrolled past s)
    (books : s.Books events after)
    (gone : ∀ seq ≤ s.registry.lastSeq, (∀ p ∈ s.producers, p.seq ≠ seq) →
      ∀ p ∈ after.producers, p.seq ≠ seq)
    (live : ∀ id seq, (∀ p ∈ s.producers, p.seq ≠ seq) → s.registry.seq? id = some seq →
      after.registry.seq? id = some seq ∨ Completed id events ∨ after.registry.closed = true)
    (new : ∀ e ∈ events, ∀ id seq, e.cut? = some (id, seq) →
      (∀ p ∈ after.producers, p.seq ≠ seq) ∧ after.registry.seq? id = some seq)
    {before later : List Event} {e : Event} {id : String} {seq : Nat}
    (split : past ++ events = before ++ e :: later) (cut : e.cut? = some (id, seq)) :
    (∀ p ∈ after.producers, p.seq ≠ seq) ∧
      (after.registry.seq? id = some seq ∨ Completed id later ∨ after.registry.closed = true) := by
  rcases append_eq_append_cons split with ⟨middle, old, rfl⟩ | ⟨middle, -, latest⟩
  · obtain ⟨apart, state⟩ := tenured.cut _ _ _ _ _ old cut
    have made : seq ≤ s.registry.lastSeq := by
      have member : e ∈ past := by simp [old]
      obtain ⟨value, why, rfl⟩ := Event.cut?_eq_some.mp cut
      obtain ⟨name, known⟩ := enrolled.caused _ member seq rfl
      exact enrolled.numbered _ known
    refine ⟨gone seq made apart, ?_⟩
    rcases state with held | completed | closed
    · rcases live id seq apart held with still | completed | closed
      · exact .inl still
      · exact .inr (.inl (completed.append_right middle))
      · exact .inr (.inr closed)
    · exact .inr (.inl (completed.append_left events))
    · exact .inr (.inr (books.closed closed))
  · obtain ⟨apart, held⟩ := new e (by simp [latest]) id seq cut
    exact ⟨apart, .inl held⟩

theorem earlier_cut {id : String} {seq : Nat} (h : ∃ e ∈ past, e.cut? = some (id, seq)) :
    ∃ e ∈ past ++ events, e.cut? = some (id, seq) := by
  obtain ⟨e, known, cut⟩ := h
  exact ⟨e, List.mem_append_left _ known, cut⟩

theorem new_of_uncut {P : String → Nat → Prop} (uncut : ∀ e ∈ events, e.cut? = none) :
    ∀ e ∈ events, ∀ id seq, e.cut? = some (id, seq) → P id seq := by
  intro e member id seq cut
  rw [uncut e member] at cut
  cases cut

theorem uncut_of_common (common : ∀ e ∈ events, e.Common) : ∀ e ∈ events, e.cut? = none := by
  intro e member
  refine Option.eq_none_iff_forall_ne_some.mpr fun ⟨id, seq⟩ cut => ?_
  obtain ⟨value, why, rfl⟩ := Event.cut?_eq_some.mp cut
  exact absurd (common _ member).1 (by simp [Event.producer?])

theorem registrations_of_common (common : ∀ e ∈ events, e.Common) (past : List Event) :
    registrations (past ++ events) = registrations past := by
  simp [registrations_eq_nil fun e member => (common e member).2]

theorem keeps (tenured : Tenured past s) (enrolled : Enrolled past s)
    (books : s.Books events after) (registry : after.registry = s.registry)
    (producers : after.producers = s.producers) (common : ∀ e ∈ events, e.Common) :
    Tenured (past ++ events) after := by
  refine ⟨?_, ?_, ?_, ?_, ?_, fun before e later id seq split cut => ?_⟩
  · rw [registry, registrations_of_common common]; exact tenured.enlisted
  · rw [registry]; exact tenured.numbered
  · rw [registry]; exact tenured.uncancelled
  · rw [registry, producers]; exact tenured.running
  · rw [registry, producers]
    intro id seq live
    exact (tenured.held id seq live).imp_right earlier_cut
  · refine tenured.cut_step enrolled books ?_ ?_ (new_of_uncut (uncut_of_common common)) split cut
    · rw [producers]; exact fun _ _ apart => apart
    · rw [registry]; exact fun id seq _ live => .inl live

theorem shuts (tenured : Tenured past s) (enrolled : Enrolled past s) (sound : s.registry.Sound)
    (books : s.Books events after) (registry : after.registry = s.registry.close)
    (producers : after.producers = s.producers) (common : ∀ e ∈ events, e.Common) :
    Tenured (past ++ events) after := by
  refine ⟨?_, ?_, ?_, ?_, ?_, fun before e later id seq split cut => ?_⟩
  · simp [registry]
  · rw [registry]
    intro seq cancelled
    rw [Registry.lastSeq_close]
    rcases Registry.isCancelled_close.mp cancelled with old | ⟨id, live⟩
    · exact tenured.numbered seq old
    · have known := tenured.enlisted id seq ((Registry.mem_entries_iff sound).mp live)
      exact enrolled.numbered _ known
  · simp [registry]
  · rw [registry, producers]
    intro p member
    refine .inr (Registry.isCancelled_close.mpr ?_)
    rcases tenured.running p member with live | cancelled
    · exact .inr ⟨p.id, Registry.mem_entries_of_seq? live⟩
    · exact .inl cancelled
  · simp [registry]
  · refine tenured.cut_step enrolled books ?_ ?_ (new_of_uncut (uncut_of_common common)) split cut
    · rw [producers]; exact fun _ _ apart => apart
    · rw [registry]; exact fun id seq _ live => .inr (.inr rfl)

theorem frees (tenured : Tenured past s) (enrolled : Enrolled past s) {frame : InboundFrame}
    {id : String} (decoded : frame.message? = some (.complete id))
    (books : s.Books [.arrived (some (.ok frame))] after)
    (registry : after.registry = (s.toRelay.cancelId id).registry)
    (producers : after.producers = s.producers) :
    Tenured (past ++ [.arrived (some (.ok frame))]) after := by
  have common : ∀ e ∈ [Event.arrived (some (.ok frame))], e.Common := by simp
  refine ⟨?_, ?_, ?_, ?_, ?_, fun before e later name seq split cut => ?_⟩
  · rw [registry, registrations_of_common common]
    exact fun name seq live => tenured.enlisted name seq (Relay.seq?_cancelId.mp live).2
  · rw [registry, Relay.lastSeq_cancelId]
    intro seq cancelled
    rcases Relay.isCancelled_cancelId.mp cancelled with old | live
    · exact tenured.numbered seq old
    · exact enrolled.numbered _ (tenured.enlisted id seq live)
  · rw [registry]
    intro name seq live
    obtain ⟨other, live⟩ := Relay.seq?_cancelId.mp live
    refine Bool.eq_false_iff.mpr fun cancelled => ?_
    rcases Relay.isCancelled_cancelId.mp cancelled with old | mine
    · simp [tenured.uncancelled name seq live] at old
    · exact other (enrolled.unique (tenured.enlisted name seq live) (tenured.enlisted id seq mine))
  · rw [registry, producers]
    intro p member
    rcases tenured.running p member with live | cancelled
    · by_cases same : p.id = id
      · exact .inr (Relay.isCancelled_cancelId.mpr (.inr (same ▸ live)))
      · exact .inl (Relay.seq?_cancelId.mpr ⟨same, live⟩)
    · exact .inr (Relay.isCancelled_cancelId.mpr (.inl cancelled))
  · rw [registry, producers]
    intro name seq live
    exact (tenured.held name seq (Relay.seq?_cancelId.mp live).2).imp_right earlier_cut
  · refine tenured.cut_step enrolled books ?_ ?_ (new_of_uncut (uncut_of_common common)) split cut
    · rw [producers]; exact fun _ _ apart => apart
    · rw [registry]
      intro name seq _ live
      by_cases same : name = id
      · exact .inr (.inl ⟨frame, by simp, same ▸ decoded⟩)
      · exact .inl (Relay.seq?_cancelId.mpr ⟨same, live⟩)

theorem enrols (tenured : Tenured past s) (enrolled : Enrolled past s) {frame : InboundFrame}
    {id : String} {payload : SubscribePayload} {context : Context} {seq : Nat}
    (free : s.registry.register id = .ok (seq, after.registry))
    (books : s.Books [.arrived (some (.ok frame)), .registered id seq] after)
    (producers : after.producers =
      s.producers ++ [.new id seq (.ofSubscribe id payload) context]) :
    Tenured (past ++ [.arrived (some (.ok frame)), .registered id seq]) after := by
  have added : registrations (past ++ [.arrived (some (.ok frame)), .registered id seq]) =
      registrations past ++ [(id, seq)] := by
    rw [registrations_append]
    rfl
  have mine := Registry.seq?_register_self free
  have others : ∀ {name}, name ≠ id → after.registry.seq? name = s.registry.seq? name :=
    fun ne => Registry.seq?_register_of_ne free ne
  obtain ⟨-, unused, new, registry⟩ := Registry.register_eq_ok free
  have tokens : ∀ number,
      after.registry.isCancelled number = s.registry.isCancelled number := by
    intro number; rw [registry]; rfl
  have lastSeq : after.registry.lastSeq = seq := by rw [registry]
  refine ⟨?_, ?_, ?_, ?_, ?_, fun before e later name number split cut => ?_⟩
  · rw [added]
    intro name number live
    by_cases same : name = id
    · rw [same, mine] at live
      cases live
      exact List.mem_append_right _ (by simp [same])
    · exact List.mem_append_left _ (tenured.enlisted name number (others same ▸ live))
  · intro number cancelled
    rw [lastSeq, new]
    exact Nat.le_succ_of_le (tenured.numbered number (tokens number ▸ cancelled))
  · intro name number live
    rw [tokens]
    by_cases same : name = id
    · rw [same, mine] at live
      cases live
      refine Bool.eq_false_iff.mpr fun cancelled => ?_
      have bound := tenured.numbered _ cancelled
      omega
    · exact tenured.uncancelled name number (others same ▸ live)
  · rw [producers]
    intro p member
    rcases List.mem_append.mp member with old | latest
    · rw [tokens]
      refine (tenured.running p old).imp_left fun live => ?_
      rw [others (fun same => by simp [same, unused] at live)]
      exact live
    · cases List.mem_singleton.mp latest
      exact .inl mine
  · rw [producers]
    intro name number live
    by_cases same : name = id
    · rw [same, mine] at live
      cases live
      exact .inl ⟨_, List.mem_append_right _ (List.mem_singleton_self _), same.symm, rfl⟩
    · rcases tenured.held name number (others same ▸ live) with ⟨p, member, held⟩ | cut
      · exact .inl ⟨p, List.mem_append_left _ member, held⟩
      · exact .inr (earlier_cut cut)
  · refine tenured.cut_step enrolled books ?_ ?_ (new_of_uncut (by simp [Event.cut?])) split cut
    · rw [producers]
      intro number made apart p member
      rcases List.mem_append.mp member with old | latest
      · exact apart p old
      · cases List.mem_singleton.mp latest
        simp only [Producer.new, ne_eq]
        omega
    · intro name number _ live
      rw [others (fun same => by simp [same, unused] at live)]
      exact .inl live

section Turn

variable {p : Producer} {taken : ProducerTurn}

/-- Only the producer that took the turn can have lost its place. -/
theorem held_of_turn (tenured : Tenured past s) (enrolled : Enrolled past s)
    (state : ProducerState) (member : p ∈ s.producers) {id : String} {seq : Nat}
    (live : s.registry.seq? id = some seq) :
    id = p.id ∧ seq = p.seq ∨
      (∃ q ∈ Relay.replace s.producers p.seq state, q.id = id ∧ q.seq = seq) ∨
        ∃ e ∈ past, e.cut? = some (id, seq) := by
  rcases tenured.held id seq live with ⟨q, known, rfl, rfl⟩ | cut
  · by_cases same : q.seq = p.seq
    · have named := enrolled.named q known
      rw [same] at named
      exact .inl ⟨enrolled.unique named (enrolled.named p member), same⟩
    · exact .inr (.inl ⟨q, Relay.mem_replace_of_ne known same, rfl, rfl⟩)
  · exact .inr (.inr cut)

theorem goesOn (tenured : Tenured past s) (enrolled : Enrolled past s)
    (books : s.Books events after) (member : p ∈ s.producers)
    (quiet : registrations (past ++ events) = registrations past) {q : Producer}
    (id : q.id = p.id) (seq : q.seq = p.seq) (registry : after.registry = s.registry)
    (producers : after.producers = Relay.replace s.producers p.seq (.running q))
    (uncut : ∀ e ∈ events, e.cut? = none) : Tenured (past ++ events) after := by
  refine ⟨?_, ?_, ?_, ?_, ?_, fun before e later name number split cut => ?_⟩
  · rw [registry, quiet]; exact tenured.enlisted
  · rw [registry]; exact tenured.numbered
  · rw [registry]; exact tenured.uncancelled
  · rw [registry, producers]
    intro r known
    rcases (Relay.mem_replace_running member).mp known with rfl | ⟨old, -⟩
    · rw [id, seq]; exact tenured.running p member
    · exact tenured.running r old
  · rw [registry, producers]
    intro name number live
    rcases tenured.held_of_turn enrolled (.running q) member live with ⟨rfl, rfl⟩ | still | cut
    · exact .inl ⟨q, (Relay.mem_replace_running member).mpr (.inl rfl), id, seq⟩
    · exact .inl still
    · exact .inr (earlier_cut cut)
  · refine tenured.cut_step enrolled books ?_ ?_ (new_of_uncut uncut) split cut
    · rw [producers]
      intro number _ apart r known
      rcases (Relay.mem_replace_running member).mp known with rfl | ⟨old, -⟩
      · rw [seq]; exact apart p member
      · exact apart r old
    · rw [registry]; exact fun _ _ _ live => .inl live

/-- A producer that ends without touching the registry leaves an entry only if it is cut off. -/
theorem ends (tenured : Tenured past s) (enrolled : Enrolled past s)
    (books : s.Books events after) (member : p ∈ s.producers)
    (quiet : registrations (past ++ events) = registrations past) {how : OperationFate}
    (registry : after.registry = s.registry)
    (producers : after.producers = Relay.replace s.producers p.seq (.ended how))
    (left : s.registry.seq? p.id = some p.seq → ∃ e ∈ events, e.cut? = some (p.id, p.seq))
    (mine : ∀ e ∈ events, ∀ id seq, e.cut? = some (id, seq) →
      id = p.id ∧ seq = p.seq ∧ s.registry.seq? p.id = some p.seq) :
    Tenured (past ++ events) after := by
  refine ⟨?_, ?_, ?_, ?_, ?_, fun before e later name number split cut => ?_⟩
  · rw [registry, quiet]; exact tenured.enlisted
  · rw [registry]; exact tenured.numbered
  · rw [registry]; exact tenured.uncancelled
  · rw [registry, producers]
    exact fun r known => tenured.running r (Relay.mem_replace_ended.mp known).1
  · rw [registry, producers]
    intro name number live
    rcases tenured.held_of_turn enrolled (.ended how) member live with ⟨rfl, rfl⟩ | still | cut
    · obtain ⟨e, new, cut⟩ := left live
      exact .inr ⟨e, List.mem_append_right _ new, cut⟩
    · exact .inl still
    · exact .inr (earlier_cut cut)
  · refine tenured.cut_step enrolled books ?_ ?_ ?_ split cut
    · rw [producers]
      exact fun number _ apart r known => apart r (Relay.mem_replace_ended.mp known).1
    · rw [registry]; exact fun _ _ _ live => .inl live
    · intro e new name number cut
      obtain ⟨rfl, rfl, live⟩ := mine e new name number cut
      refine ⟨?_, by rw [registry]; exact live⟩
      rw [producers]
      exact fun r known => (Relay.mem_replace_ended.mp known).2

theorem isFreed (tenured : Tenured past s) (enrolled : Enrolled past s)
    (books : s.Books events after) (member : p ∈ s.producers)
    (quiet : registrations (past ++ events) = registrations past) {how : OperationFate}
    (live : s.registry.seq? p.id = some p.seq) (registry : after.registry = s.registry.drop p.id)
    (producers : after.producers = Relay.replace s.producers p.seq (.ended how))
    (uncut : ∀ e ∈ events, e.cut? = none) : Tenured (past ++ events) after := by
  have kept : ∀ {id seq}, seq ≠ p.seq → s.registry.seq? id = some seq →
      after.registry.seq? id = some seq := by
    intro id seq other held
    rw [registry, Registry.seq?_drop_eq_some]
    refine ⟨?_, held⟩
    rintro rfl
    exact other (Option.some.inj (held.symm.trans live))
  refine ⟨?_, ?_, ?_, ?_, ?_, fun before e later name number split cut => ?_⟩
  · rw [registry, quiet]
    exact fun id seq held => tenured.enlisted id seq (Registry.seq?_drop_eq_some.mp held).2
  · rw [registry]; exact tenured.numbered
  · rw [registry]
    exact fun id seq held => tenured.uncancelled id seq (Registry.seq?_drop_eq_some.mp held).2
  · rw [producers]
    intro r known
    obtain ⟨old, other⟩ := Relay.mem_replace_ended.mp known
    refine (tenured.running r old).imp (kept other) fun cancelled => ?_
    rw [registry]
    exact cancelled
  · rw [registry, producers]
    intro name number held
    obtain ⟨other, held⟩ := Registry.seq?_drop_eq_some.mp held
    rcases tenured.held_of_turn enrolled (.ended how) member held with ⟨rfl, -⟩ | still | cut
    · exact absurd rfl other
    · exact .inl still
    · exact .inr (earlier_cut cut)
  · refine tenured.cut_step enrolled books ?_ ?_ (new_of_uncut uncut) split cut
    · rw [producers]
      exact fun number _ apart r known => apart r (Relay.mem_replace_ended.mp known).1
    · exact fun id seq apart held => .inl (kept (fun same => apart p member same.symm) held)

theorem produces (tenured : Tenured past s) (enrolled : Enrolled past s)
    (books : s.Books taken.events after)
    (found : s.producers.find? (fun other => other.seq == p.seq) = some p)
    (turned : p.Turns s.engine s.now s.registry s.queue taken)
    (registry : after.registry = taken.registry)
    (producers : after.producers = Relay.replace s.producers p.seq taken.state) :
    Tenured (past ++ taken.events) after := by
  have member := List.mem_of_find?_eq_some found
  have quiet : registrations (past ++ taken.events) = registrations past := by
    simp [registrations_eq_nil fun e member => (turned.causes e member).producer?.1]
  cases turned.fares with
  | goesOn running id seq same uncut =>
    exact tenured.goesOn enrolled books member quiet id seq (registry.trans same)
      (running ▸ producers) uncut
  | isGone ended same gone uncut =>
    refine tenured.ends enrolled books member quiet (registry.trans same) (ended ▸ producers)
      (fun live => ?_) (new_of_uncut uncut)
    rcases gone with cancelled | dead
    · simp [tenured.uncancelled _ _ live] at cancelled
    · exact absurd live dead
  | isCut ended same live cut mine =>
    refine tenured.ends enrolled books member quiet (registry.trans same) (ended ▸ producers)
      (fun _ => cut) fun e new id seq found => ?_
    have same := (mine e new (by simp [found])).symm.trans found
    simp only [Option.some.injEq, Prod.mk.injEq] at same
    exact ⟨same.1.symm, same.2.symm, live⟩
  | isFreed ended freed live uncut =>
    exact tenured.isFreed enrolled books member quiet live (registry.trans freed)
      (ended ▸ producers) uncut

end Turn

theorem step (tenured : Tenured past s) (enrolled : Enrolled past s) (orderly : s.Orderly)
    (books : s.Books events after) : Tenured (past ++ events) after := by
  have account := books
  cases account with
  | keeps registry producers harmless =>
    exact tenured.keeps enrolled books registry producers fun e member => (harmless e member).1
  | leaves registry producers closed =>
    exact tenured.keeps enrolled books registry producers (by simp)
  | shuts registry producers common =>
    exact tenured.shuts enrolled orderly.sound books registry producers common
  | frees decoded registry producers =>
    exact tenured.frees enrolled decoded books registry producers
  | enrols decoded known free producers => exact tenured.enrols enrolled free books producers
  | produces found turned registry producers =>
    exact tenured.produces enrolled books found turned registry producers

end Tenured

theorem tenured_new (config : SessionConfig) (connectionId : String) (engine : Engine)
    (interceptors : InterceptorChain) (half : WriteHalf) (now : Nat) (shutdown : Bool) :
    Tenured [] (Session.new config connectionId engine interceptors half now shutdown) := by
  constructor <;>
    simp [Session.new, Relay.new, Registry.empty, Registry.seq?, Registry.isCancelled]

end Session

end SubscriptionGateway
