import SubscriptionGateway.Proofs.Session.ActiveCount
import SubscriptionGateway.Proofs.Session.Departure

/-! A connection at rest: what must be so when no task can take a turn. -/
namespace SubscriptionGateway.Session

variable {past : List Event} {s : Session}

theorem find?_of_mem {producers : List Producer} {p : Producer}
    (distinct : (producers.map Producer.seq).Nodup) (member : p ∈ producers) :
    producers.find? (fun other => other.seq == p.seq) = some p := by
  obtain ⟨before, after, rfl⟩ := List.append_of_mem member
  rw [List.map_append, List.map_cons, List.nodup_append] at distinct
  have apart : ∀ q ∈ before, (q.seq == p.seq) = false := fun q known => by
    simpa using distinct.2.2 q.seq (List.mem_map_of_mem known) p.seq List.mem_cons_self
  have missed : before.find? (fun other => other.seq == p.seq) = none := by
    simpa using apart
  simp [List.find?_append, missed]

theorem eq_of_seq_eq {producers : List Producer} {p q : Producer}
    (distinct : (producers.map Producer.seq).Nodup) (first : p ∈ producers) (second : q ∈ producers)
    (same : p.seq = q.seq) : p = q := by
  have found := find?_of_mem distinct first
  rw [same, find?_of_mem distinct second] at found
  exact (Option.some.inj found).symm

theorem producer_at_rest (idle : s.Idle) (enrolled : Enrolled past s) {p : Producer}
    (member : p ∈ s.producers) :
    p.started = true ∧ s.registry.isCancelled p.seq = false := by
  have waits := idle (.relay (.producer p.seq))
  have found := find?_of_mem enrolled.distinct member
  simp only [turn, Relay.turn, found, Option.map_eq_none_iff] at waits
  unfold Producer.turn at waits
  split at waits
  · next started =>
    refine ⟨started, Bool.eq_false_iff.mpr fun cancelled => ?_⟩
    simp [Producer.advance, cancelled] at waits
  · cases waits

theorem live_at_rest (idle : s.Idle) (enrolled : Enrolled past s) (tenured : Tenured past s)
    {p : Producer} (member : p ∈ s.producers) : s.registry.seq? p.id = some p.seq := by
  refine (tenured.running p member).resolve_right fun cancelled => ?_
  simp [(producer_at_rest idle enrolled member).2] at cancelled

theorem no_producers_at_rest (idle : s.Idle) (enrolled : Enrolled past s)
    (tenured : Tenured past s) (orderly : s.Orderly) (closed : s.registry.closed = true) :
    s.producers = [] := by
  refine List.eq_nil_iff_forall_not_mem.mpr fun p member => ?_
  have live := live_at_rest idle enrolled tenured member
  simp [Registry.entries_nil_iff.mp (orderly.sound.emptied closed)] at live

/-- At rest a running task has heard everything, and the signal is down. -/
theorem task_at_rest (idle : s.Idle) (running : s.stage = .running) :
    s.queue.overflowed = false ∧ s.inbound.items = [] ∧ s.inbound.connected = true := by
  have waits := idle .connection
  simp only [turn, connectionTurn, running] at waits
  split at waits
  · cases waits
  · next room =>
    have next : s.inbound.next = .pending := by
      split at waits
      · cases waits
      · cases waits
      · assumption
    refine ⟨by simpa using room, ?_⟩
    unfold Inbound.next at next
    split at next
    · cases next
    · next items =>
      split at next
      · next connected => exact ⟨items, connected⟩
      · cases next

structure Known (past : List Event) (s : Session) : Prop where
  orderly : s.Orderly
  enrolled : Enrolled past s
  hushed : Hushed past s
  tenured : Tenured past s
  departed : Departed past s
  counted : Metrics.operationsActive past = active s.producers

theorem Known.phase_closed_of_overflow (known : Known past s) (idle : s.Idle) {source : Source}
    {message : Message} (refused : .refused source message .overflow ∈ past) :
    s.phase = .closed := by
  have full := known.departed.overflowed.mpr ⟨source, message, refused⟩
  have finished : s.stage ≠ .running := fun running => by
    simp [(task_at_rest idle running).1] at full
  simpa [finished] using known.orderly.running

theorem known_of_reaches {config : SessionConfig} {connectionId : String} {engine : Engine}
    {interceptors : InterceptorChain} {half : WriteHalf} {now : Nat} {shutdown : Bool}
    (run : Reaches (.new config connectionId engine interceptors half now shutdown) past s) :
    Known past s := by
  have orderly := orderly_new config connectionId engine interceptors half now shutdown
  refine run.history (P := Known) (fun orderly known does => ?_) orderly
    ⟨orderly, enrolled_new .., hushed_nil _, tenured_new .., departed_new .., rfl⟩
  have books := books_of_does orderly does
  have enrolled := known.enrolled
  exact ⟨does.orderly orderly, enrolled.step books, known.hushed.step enrolled orderly books,
    known.tenured.step enrolled orderly books, known.departed.step orderly does,
    operationsActive_step enrolled.distinct books known.counted⟩

end SubscriptionGateway.Session
