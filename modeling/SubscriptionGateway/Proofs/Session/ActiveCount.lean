import SubscriptionGateway.Metrics
import SubscriptionGateway.Proofs.Operation.Ending
import SubscriptionGateway.Proofs.Session.Ledger

/-! The gauge of active operations counts the producers that have started and not ended. -/
namespace SubscriptionGateway

namespace Metrics

@[simp] theorem operationsActive_nil : operationsActive [] = 0 := rfl

@[simp] theorem operationsActive_append (first second : List Event) :
    operationsActive (first ++ second) = operationsActive first + operationsActive second := by
  simp only [operationsActive, List.countP_append, Int.natCast_add]
  omega

theorem operationsActive_of_uncounted {events : List Event}
    (uncounted : ∀ e ∈ events, isOperationStarted e = false ∧ isOperationEnded e = false) :
    operationsActive events = 0 := by
  have started : events.countP isOperationStarted = 0 :=
    List.countP_eq_zero.mpr fun e member => by simp [(uncounted e member).1]
  have ended : events.countP isOperationEnded = 0 :=
    List.countP_eq_zero.mpr fun e member => by simp [(uncounted e member).2]
  simp [operationsActive, started, ended]

theorem operationsActive_of_common {events : List Event} (common : ∀ e ∈ events, e.Common) :
    operationsActive events = 0 := by
  refine operationsActive_of_uncounted fun e member => ?_
  have none := (common e member).1
  cases e <;> simp_all [Event.producer?, isOperationStarted, isOperationEnded]

end Metrics

def Producer.weight (p : Producer) : Int := if p.started then 1 else 0

def ProducerState.weight : ProducerState → Int
  | .running p => p.weight
  | .ended _ => 0

def ProducerState.remaining : ProducerState → List Producer
  | .running p => [p]
  | .ended _ => []

namespace Producer

open Metrics

variable {p : Producer} {engine : Engine} {now : Nat} {registry : Registry} {queue : OutboundQueue}
  {taken : ProducerTurn}

theorem operationsActive_finish (rest : Results) (how : OperationFate) (events : List Event) :
    operationsActive (p.finish rest how registry queue events).events =
      operationsActive events - 1 := by
  simp only [finish, operationsActive_append]
  have ended : operationsActive [.operationEnded p.seq p.id how] = -1 := rfl
  have dropped : operationsActive (if rest.isUnfinished then [.abandoned p.id] else []) = 0 := by
    split <;> rfl
  omega

theorem operationsActive_refused {message : Message} {why : Refusal} {after : OutboundQueue}
    {events : List Event}
    (refused : queue.enqueue (.operation p.seq) message = (after, some why, events)) :
    operationsActive events = 0 := by
  refine operationsActive_of_uncounted fun e member => ?_
  rcases (OutboundQueue.mem_of_refused refused).2 e member with rfl | rfl <;> exact ⟨rfl, rfl⟩

theorem Turns.operationsActive_eq (turned : p.Turns engine now registry queue taken) :
    operationsActive taken.events = taken.state.weight - p.weight := by
  cases turned with
  | starts fresh => simp [start, ProducerState.weight, weight, fresh]; rfl
  | calls started => simp [proceed, ProducerState.weight, weight, started]; rfl
  | progresses started => simp [proceed, ProducerState.weight, weight, started]
  | relays started => simp [ProducerState.weight, weight, started]; rfl
  | stops started =>
    rw [operationsActive_finish]
    simp [finish, ProducerState.weight, weight, started]
  | terminates started =>
    rw [operationsActive_finish]
    simp [finish, ProducerState.weight, weight, started]; rfl
  | isRefused started live polled refused =>
    rw [operationsActive_finish, operationsActive_refused refused]
    simp [finish, ProducerState.weight, weight, started]
  | terminalRefused started live terminal refused =>
    rw [operationsActive_finish, operationsActive_refused refused]
    simp [finish, ProducerState.weight, weight, started]

end Producer

namespace Session

def active : List Producer → Int
  | [] => 0
  | p :: rest => p.weight + active rest

theorem active_append (first second : List Producer) :
    active (first ++ second) = active first + active second := by
  induction first with
  | nil => simp [active]
  | cons p rest ih => simp only [List.cons_append, active, ih]; omega

theorem active_of_started {producers : List Producer}
    (started : ∀ p ∈ producers, p.started = true) : active producers = producers.length := by
  induction producers with
  | nil => rfl
  | cons p rest ih =>
    have tail := ih fun q member => started q (List.mem_cons_of_mem p member)
    have head : p.weight = 1 := by simp [Producer.weight, started p List.mem_cons_self]
    simp only [active, head, tail, List.length_cons, Int.natCast_add]
    omega

theorem replace_of_absent {producers : List Producer} {seq : Nat} {state : ProducerState}
    (absent : ∀ p ∈ producers, p.seq ≠ seq) : Relay.replace producers seq state = producers := by
  cases state with
  | running after =>
    refine (List.map_congr_left fun p member => ?_).trans (List.map_id producers)
    simp [absent p member]
  | ended how => exact List.filter_eq_self.mpr fun p member => by simpa using absent p member

theorem replace_append (first second : List Producer) (seq : Nat) (state : ProducerState) :
    Relay.replace (first ++ second) seq state =
      Relay.replace first seq state ++ Relay.replace second seq state := by
  cases state with
  | running after => exact List.map_append
  | ended how => exact List.filter_append ..

/-- A turn changes one producer, and leaves those before it and those after it alone. -/
theorem exists_replace_eq {producers : List Producer} {p : Producer}
    (distinct : (producers.map Producer.seq).Nodup) (member : p ∈ producers) :
    ∃ before after, producers = before ++ p :: after ∧
      ∀ state, Relay.replace producers p.seq state = before ++ state.remaining ++ after := by
  obtain ⟨before, after, rfl⟩ := List.append_of_mem member
  rw [List.map_append, List.map_cons, List.nodup_append, List.nodup_cons] at distinct
  have first : ∀ q ∈ before, q.seq ≠ p.seq := fun q known =>
    distinct.2.2 q.seq (List.mem_map_of_mem known) p.seq List.mem_cons_self
  have second : ∀ q ∈ after, q.seq ≠ p.seq := fun q known same =>
    distinct.2.1.1 (same ▸ List.mem_map_of_mem known)
  refine ⟨before, after, rfl, fun state => ?_⟩
  have own : Relay.replace [p] p.seq state = state.remaining := by
    cases state <;> simp [Relay.replace, ProducerState.remaining]
  rw [← List.singleton_append, replace_append, replace_append, replace_of_absent first,
    replace_of_absent second, own, List.append_assoc]

theorem active_replace {producers : List Producer} {p : Producer} {state : ProducerState}
    (distinct : (producers.map Producer.seq).Nodup) (member : p ∈ producers) :
    active (Relay.replace producers p.seq state) =
      active producers + (state.weight - p.weight) := by
  obtain ⟨before, after, split, replaced⟩ := exists_replace_eq distinct member
  have own : active state.remaining = state.weight := by
    cases state <;> simp [ProducerState.remaining, active, ProducerState.weight]
  rw [replaced, split]
  simp only [active_append, active, own]
  omega

theorem operationsActive_step {past events : List Event} {s after : Session}
    (distinct : (s.producers.map Producer.seq).Nodup) (books : s.Books events after)
    (right : Metrics.operationsActive past = active s.producers) :
    Metrics.operationsActive (past ++ events) = active after.producers := by
  rw [Metrics.operationsActive_append, right]
  cases books with
  | keeps _ producers harmless =>
    rw [producers, Metrics.operationsActive_of_common fun e member => (harmless e member).1]
    omega
  | leaves _ producers | frees _ _ producers =>
    rw [producers]
    exact Int.add_zero _
  | shuts _ producers common =>
    rw [producers, Metrics.operationsActive_of_common common]
    omega
  | enrols _ _ _ producers =>
    rw [producers, active_append]
    rfl
  | produces found turned _ producers =>
    rw [producers, turned.operationsActive_eq,
      active_replace distinct (List.mem_of_find?_eq_some found)]

end Session

end SubscriptionGateway
