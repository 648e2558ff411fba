import SubscriptionGateway.Proofs.Operation.Log

/-! What a turn of a producer means for its entry in the registry. A producer that ends takes its
entry with it, or finds it gone; only if the queue refuses a `next` does the entry stay behind. -/
namespace SubscriptionGateway

/-- The registration whose `next` is refused. -/
def Event.cut? : Event → Option (String × Nat)
  | .refused (.operation seq) (.next id _) _ => some (id, seq)
  | _ => none

theorem Event.cut?_eq_some {e : Event} {id : String} {seq : Nat} :
    e.cut? = some (id, seq) ↔ ∃ value why, e = .refused (.operation seq) (.next id value) why := by
  constructor
  · intro h
    unfold cut? at h
    split at h
    · cases h; exact ⟨_, _, rfl⟩
    · cases h
  · rintro ⟨value, why, rfl⟩
    rfl

namespace Producer

variable {p : Producer} {engine : Engine} {now : Nat} {registry : Registry} {queue : OutboundQueue}
  {taken : ProducerTurn}

inductive Fares (p : Producer) (registry : Registry) (taken : ProducerTurn) : Prop where
  | goesOn {after : Producer} (running : taken.state = .running after) (id : after.id = p.id)
      (seq : after.seq = p.seq) (same : taken.registry = registry)
      (uncut : ∀ e ∈ taken.events, e.cut? = none)
  | isGone {how : OperationFate} (ended : taken.state = .ended how)
      (same : taken.registry = registry)
      (gone : registry.isCancelled p.seq = true ∨ registry.seq? p.id ≠ some p.seq)
      (uncut : ∀ e ∈ taken.events, e.cut? = none)
  /-- The entry stays behind. -/
  | isCut {how : OperationFate} (ended : taken.state = .ended how)
      (same : taken.registry = registry)
      (live : registry.seq? p.id = some p.seq)
      (cut : ∃ e ∈ taken.events, e.cut? = some (p.id, p.seq))
      (mine : ∀ e ∈ taken.events, e.cut? ≠ none → e.cut? = some (p.id, p.seq))
  | isFreed {how : OperationFate} (ended : taken.state = .ended how)
      (freed : taken.registry = registry.drop p.id) (live : registry.seq? p.id = some p.seq)
      (uncut : ∀ e ∈ taken.events, e.cut? = none)

theorem cut?_finish {rest : Results} {how : OperationFate} {events : List Event} {e : Event}
    (member : e ∈ (p.finish rest how registry queue events).events) :
    e ∈ events ∨ e.cut? = none := by
  simp only [finish, List.mem_append, List.mem_singleton] at member
  rcases member with (old | rfl) | dropped
  · exact .inl old
  · exact .inr rfl
  · split at dropped
    · cases List.mem_singleton.mp dropped; exact .inr rfl
    · cases dropped

theorem Terminal.uncut {message : Message} {how : OperationFate} {rest : Results}
    (h : p.Terminal engine now message how rest) (why : Refusal) :
    (Event.refused (.operation p.seq) message why).cut? = none := by
  cases h <;> rfl

theorem Turns.fares (turned : p.Turns engine now registry queue taken) :
    p.Fares registry taken := by
  cases turned with
  | starts => exact .goesOn rfl rfl rfl rfl (by simp [start, Event.cut?])
  | calls => exact .goesOn rfl rfl rfl rfl (by simp [proceed, Event.cut?])
  | progresses => exact .goesOn rfl rfl rfl rfl (by simp [proceed])
  | stops started gone =>
    refine .isGone rfl rfl gone fun e member => ?_
    exact (cut?_finish member).resolve_left List.not_mem_nil
  | relays => exact .goesOn rfl rfl rfl rfl (by simp [Event.cut?])
  | isRefused started live polled refused =>
    obtain ⟨first, only⟩ := OutboundQueue.mem_of_refused refused
    refine .isCut rfl rfl live ⟨_, List.mem_append_left _ (List.mem_append_left _ first), rfl⟩
      fun e member cut => ?_
    rcases cut?_finish member with old | none
    · rcases only e old with rfl | rfl
      · rfl
      · exact absurd rfl cut
    · exact absurd none cut
  | terminates started live terminal =>
    refine .isFreed rfl rfl live fun e member => ?_
    rcases cut?_finish member with old | none
    · cases List.mem_singleton.mp old; rfl
    · exact none
  | terminalRefused started live terminal refused =>
    refine .isFreed rfl rfl live fun e member => ?_
    rcases cut?_finish member with old | none
    · rcases (OutboundQueue.mem_of_refused refused).2 e old with rfl | rfl
      · exact terminal.uncut _
      · rfl
    · exact none

end Producer

end SubscriptionGateway
