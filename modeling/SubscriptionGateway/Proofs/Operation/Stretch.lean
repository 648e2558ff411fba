import Mathlib.Data.List.ReduceOption
import SubscriptionGateway.Proofs.Execution.Normalisation
import SubscriptionGateway.Proofs.Operation.Turns
import SubscriptionGateway.Relay

/-! A producer that nobody interrupts. It takes one element after the other from its results, and
stops at the latest when the queue has no room for a message, when it has to wait, or when it has
used up its allowance. -/
namespace SubscriptionGateway

def Poll.item? : Poll → Option (Option Element)
  | .element value _ => some (some value)
  | .ended => some none
  | .waiting _ | .called _ | .progressed _ => none

namespace OutboundQueue

def room (q : OutboundQueue) : Nat := q.capacity - q.messages.length

def relaying (q : OutboundQueue) (id : String) (values : List ExecutionResult) : OutboundQueue :=
  { q with messages := q.messages ++ values.map fun value => (Message.next id value).encode }

theorem room_append {q : OutboundQueue} (room : q.isFull = false) (text : String) :
    ({ q with messages := q.messages ++ [text] } : OutboundQueue).room + 1 = q.room := by
  simp only [isFull, decide_eq_false_iff_not] at room
  simp only [OutboundQueue.room, List.length_append, List.length_singleton]
  omega

/-- A queue with a consumer refuses a message only for want of room. -/
theorem overflow_of_refused {q after : OutboundQueue} {source : Source} {message : Message}
    {why : Refusal} {events : List Event} (isOpen : q.isOpen = true)
    (refused : q.enqueue source message = (after, some why, events)) :
    q.room = 0 ∧ after = { q with overflowed := true } := by
  have offered := q.offers_enqueue source message
  rw [refused] at offered
  cases offered with
  | overflow _ full =>
    simp only [isFull, decide_eq_true_eq] at full
    exact ⟨Nat.sub_eq_zero_of_le full, rfl⟩
  | closed gone => simp [isOpen] at gone

end OutboundQueue

namespace Producer

def item? (p : Producer) (engine : Engine) (now : Nat) (registry : Registry) :
    Option (Option Element) :=
  if p.started && !registry.isCancelled p.seq then (p.results.poll engine now).item? else none

/-- How far a producer is from its next element, pauses that take some of its allowance aside. -/
def distance (p : Producer) : Nat :=
  (if p.started then 0 else 1) +
    match p.results with
    | .unasked _ _ => 4
    | .starting _ _ => 3
    | .streaming _ _ pause => if p.asking || pause.isNone then 2 else 1
    | .spent _ => 0

theorem distance_le (p : Producer) : p.distance ≤ 5 := by
  unfold distance
  split <;> split <;> first | omega | (split <;> omega)

inductive Takes (p : Producer) (registry : Registry) (queue : OutboundQueue) :
    List (Option Element) → ProducerTurn → Prop where
  | approaches {after : Producer} {events : List Event} (id : after.id = p.id)
      (nearer : after.distance < p.distance ∨
        after.distance = p.distance ∧ p.toll = some 1) :
      Takes p registry queue [] ⟨.running after, registry, queue, events⟩
  | relays {value : ExecutionResult} {after : Producer} {events : List Event} (id : after.id = p.id)
      (near : after.distance ≤ p.distance + 1) (room : queue.isFull = false) :
      Takes p registry queue [some (.ok value)]
        ⟨.running after, registry,
          { queue with messages := queue.messages ++ [(Message.next p.id value).encode] }, events⟩
  | isRefused {item : Option Element} {source : Source} {message : Message} {why : Refusal}
      {rest : Registry} {after : OutboundQueue} {made events : List Event}
      (refused : queue.enqueue source message = (after, some why, made)) :
      Takes p registry queue [item] ⟨.ended .refused, rest, after, events⟩
  | ends {items : List (Option Element)} {how : OperationFate} {rest : Registry}
      {after : OutboundQueue} {events : List Event} (short : items.length ≤ 1)
      (unrefused : how ≠ .refused) : Takes p registry queue items ⟨.ended how, rest, after, events⟩

variable {p : Producer} {engine : Engine} {now : Nat} {registry : Registry} {queue : OutboundQueue}
  {taken : ProducerTurn}

theorem item?_of_poll (started : p.started = true) (going : registry.isCancelled p.seq = false) :
    p.item? engine now registry = (p.results.poll engine now).item? := by
  simp [item?, started, going]

/-- Only a pause brings the results no nearer to the next element. -/
theorem distance_of_progressed {next : Results} (started : p.started = true)
    (polled : p.results.poll engine now = .progressed next) :
    ({ p with results := next, asking := false } : Producer).distance < p.distance ∨
      ({ p with results := next, asking := false } : Producer).distance = p.distance ∧
        p.toll = some 1 := by
  obtain ⟨id, seq, results, begun, asking⟩ := p
  obtain rfl : begun = true := started
  cases results with
  | unasked | spent => simp [Results.poll] at polled
  | starting pause answer =>
    simp only [Results.poll] at polled
    split at polled
    · cases polled
    · cases answer with
      | streaming steps => cases polled; simp [distance]
      | refused | panicked => cases polled
  | streaming steps position pause =>
    simp only [Results.poll] at polled
    split at polled
    · cases polled
    · cases step : steps position with
      | wait duration =>
        simp only [step] at polled
        cases polled
        cases asking <;> cases pause <;> simp [distance, toll, Results.hasPause]
      | finish =>
        simp only [step] at polled
        cases polled
        cases asking <;> cases pause <;> simp [distance]
      | result | failure | panic | stall => simp [step] at polled

theorem distance_of_element {value : ExecutionResult} {next : Results}
    (started : p.started = true)
    (polled : p.results.poll engine now = .element (.ok value) next) :
    ({ p with results := next, asking := true } : Producer).distance ≤ p.distance + 1 := by
  obtain ⟨id, seq, results, begun, asking⟩ := p
  obtain rfl : begun = true := started
  cases results with
  | unasked | spent => simp [Results.poll] at polled
  | starting pause answer =>
    simp only [Results.poll] at polled
    split at polled
    · cases polled
    · cases answer <;> cases polled
  | streaming steps position pause =>
    simp only [Results.poll] at polled
    split at polled
    · cases polled
    · split at polled <;> cases polled
      cases asking <;> cases pause <;> simp [distance]

theorem Turns.takes (turned : p.Turns engine now registry queue taken) :
    p.Takes registry queue (p.item? engine now registry).toList taken := by
  cases turned with
  | starts fresh =>
    have nothing : p.item? engine now registry = none := by simp [item?, fresh]
    rw [nothing]
    refine .approaches rfl (.inl ?_)
    simp [distance, fresh]
  | calls started unasked going =>
    rw [item?_of_poll started going, unasked]
    refine .approaches rfl (.inl ?_)
    simp [distance, unasked]
  | progresses started polled going =>
    rw [item?_of_poll started going, polled]
    exact .approaches rfl (distance_of_progressed started polled)
  | stops =>
    refine .ends ?_ (by simp)
    cases p.item? engine now registry <;> simp
  | relays started live polled isOpen room going =>
    rw [item?_of_poll started going, polled]
    exact .relays rfl (distance_of_element started polled) room
  | isRefused started live polled refused going =>
    rw [item?_of_poll started going, polled]
    exact .isRefused refused
  | terminates started live terminal isOpen room going =>
    refine .ends ?_ ?_
    · cases p.item? engine now registry <;> simp
    · cases terminal <;> simp
  | terminalRefused started live terminal refused going =>
    rw [item?_of_poll started going]
    cases terminal with
    | failed polled | completed polled => rw [polled]; exact .isRefused refused

/-- A turn reads on in the results, or leaves them alone. -/
theorem Turns.reads (turned : p.Turns engine now registry queue taken) :
    ∃ polls, (p.item? engine now registry).toList.reduceOption =
        Results.reading (List.replicate polls ⟨engine, now⟩) p.results ∧
      ∀ after, taken.state = .running after →
        after.results = Results.after (List.replicate polls ⟨engine, now⟩) p.results := by
  by_cases asks : p.started = true ∧ registry.isCancelled p.seq = false
  · refine ⟨1, ?_, fun after running => ?_⟩
    · rw [item?_of_poll asks.1 asks.2, List.replicate_one, Results.reading_cons, Results.visit]
      cases p.results.poll engine now <;> rfl
    · have follow : after.results = p.results.follow ⟨engine, now⟩ := by
        cases turned with
        | starts fresh => simp [asks.1] at fresh
        | calls _ unasked =>
          cases running
          simp [Results.follow, Results.visit, unasked, Results.poll]
        | progresses _ polled | relays _ _ polled =>
          cases running
          simp [Results.follow, Results.visit, polled]
        | stops | isRefused | terminates | terminalRefused => cases running
      simpa [Results.after] using follow
  · refine ⟨0, ?_, fun after running => ?_⟩
    · have nothing : p.item? engine now registry = none := by
        simpa [item?] using fun started going => absurd ⟨started, going⟩ asks
      simp [nothing, Results.reading, Results.polls]
    · cases turned with
      | starts => cases running; rfl
      | calls started _ going | progresses started _ going | relays started _ _ _ _ going =>
        exact absurd ⟨started, going⟩ asks
      | stops | isRefused | terminates | terminalRefused => cases running

end Producer

/-- A producer between two of its turns, with the registry and the queue, to which nobody else has
access meanwhile, and with what is left of its allowance. -/
structure Stint where
  state : ProducerState
  registry : Registry
  queue : OutboundQueue
  left : Nat

namespace Stint

/-- The next turn, with what it takes from the results; none when the producer has ended, has to
wait or is deferred. -/
def next? (s : Stint) (engine : Engine) (now : Nat) : Option (List (Option Element) × Stint) :=
  match s.state with
  | .ended _ => none
  | .running p =>
    if p.toll.isSome && s.left == 0 then none
    else
      (p.turn engine now s.registry s.queue).map fun taken =>
        ((p.item? engine now s.registry).toList,
          ⟨taken.state, taken.registry, taken.queue, s.left - p.toll.getD 0⟩)

inductive Stretch (engine : Engine) (now : Nat) (first : Stint) :
    Nat → List (Option Element) → Stint → Prop where
  | start : Stretch engine now first 0 [] first
  | snoc {count : Nat} {items more : List (Option Element)} {s after : Stint}
      (run : Stretch engine now first count items s)
      (taken : s.next? engine now = some (more, after)) :
      Stretch engine now first (count + 1) (items ++ more) after

variable {engine : Engine} {now count : Nat} {items more : List (Option Element)}
  {first s after : Stint} {p : Producer}

theorem turns_of_next? (h : s.next? engine now = some (more, after)) :
    ∃ p taken, s.state = .running p ∧ p.Turns engine now s.registry s.queue taken ∧
      more = (p.item? engine now s.registry).toList ∧ (p.toll.isSome = true → s.left ≠ 0) ∧
      after = ⟨taken.state, taken.registry, taken.queue, s.left - p.toll.getD 0⟩ := by
  unfold next? at h
  split at h
  · cases h
  · next p state =>
    split at h
    · cases h
    · next allowed =>
      obtain ⟨taken, turned, made⟩ := Option.map_eq_some_iff.mp h
      cases made
      exact ⟨p, taken, state, Producer.turns_of_turn turned, rfl, by simpa using allowed, rfl⟩

/-- The turns are those that the relay grants to the producer. -/
theorem relay_turn_of_next? {r : Relay} {left : Nat}
    (found : r.producers.find? (fun other => other.seq == p.seq) = some p)
    (h : next? ⟨.running p, r.registry, r.queue, left⟩ r.engine r.now = some (more, after)) :
    ∃ events, r.turn (.producer p.seq) = some ({ r with
      registry := after.registry, queue := after.queue
      producers := Relay.replace r.producers p.seq after.state }, events) := by
  unfold next? at h
  split at h
  · next ended => cases ended
  · next own state =>
    cases state
    split at h
    · cases h
    · obtain ⟨taken, turned, made⟩ := Option.map_eq_some_iff.mp h
      cases made
      exact ⟨taken.events, by simp [Relay.turn, found, turned]⟩

def turnsLeft (s : Stint) : Nat :=
  match s.state with
  | .ended _ => 0
  | .running p => s.left + 2 * s.queue.room + p.distance + 1

theorem turnsLeft_lt (h : s.next? engine now = some (more, after)) :
    after.turnsLeft < s.turnsLeft := by
  obtain ⟨p, taken, state, turned, -, allowed, rfl⟩ := turns_of_next? h
  have takes := turned.takes
  simp only [turnsLeft, state]
  generalize (p.item? engine now s.registry).toList = items at takes
  cases takes with
  | approaches _ nearer =>
    rcases nearer with nearer | ⟨same, toll⟩
    · simp only
      omega
    · have := allowed (by simp [toll])
      simp only [toll, Option.getD_some, same]
      omega
  | @relays value _ _ _ near room =>
    have := OutboundQueue.room_append room (Message.next p.id value).encode
    simp only
    omega
  | isRefused | ends => exact Nat.succ_pos _

theorem Stretch.count_le (run : Stretch engine now first count items s) :
    count + s.turnsLeft ≤ first.turnsLeft := by
  induction run with
  | start => simp
  | snoc _ taken ih =>
    have := turnsLeft_lt taken
    omega

/-- It comes to an end, or to a halt. -/
theorem Stretch.exists_last {count : Nat} {items : List (Option Element)} {s : Stint}
    (run : Stretch engine now first count items s) :
    ∃ count items last, Stretch engine now first count items last ∧
      last.next? engine now = none := by
  cases h : s.next? engine now with
  | none => exact ⟨count, items, s, run, h⟩
  | some taken =>
    obtain ⟨more, after⟩ := taken
    have := turnsLeft_lt h
    exact (run.snoc h).exists_last
termination_by s.turnsLeft

/-- What was taken from the results, and what has become of it: of so many results, each in its
turn, there is a message in the queue. -/
inductive Course (p : Producer) (queue : OutboundQueue) (items : List (Option Element))
    (s : Stint) : Prop where
  | goesOn (now : Producer) (values : List ExecutionResult) (state : s.state = .running now)
      (id : now.id = p.id) (taken : items = values.map fun value => some (.ok value))
      (relayed : s.queue = queue.relaying p.id values)
      (room : values.length + s.queue.room = queue.room)
  | isOver (values : List ExecutionResult) (last : List (Option Element)) (how : OperationFate)
      (state : s.state = .ended how)
      (taken : items = (values.map fun value => some (.ok value)) ++ last)
      (fits : values.length ≤ queue.room) (short : last.length ≤ 1)
      (overrun : how = .refused → queue.isOpen = true →
        values.length = queue.room ∧ last.length = 1 ∧
          s.queue = { queue.relaying p.id values with overflowed := true })

theorem Course.step {queue : OutboundQueue} (course : Course p queue items s)
    (h : s.next? engine now = some (more, after)) : Course p queue (items ++ more) after := by
  obtain ⟨own, taken, state, turned, rfl, -, rfl⟩ := turns_of_next? h
  have takes := turned.takes
  cases course with
  | isOver _ _ _ ended => simp [state] at ended
  | goesOn other values known id read relayed room =>
    obtain rfl : own = other := by simpa [state] using known
    generalize (own.item? engine now s.registry).toList = more at takes
    cases takes with
    | approaches same =>
      exact .goesOn _ values rfl (same.trans id) (by simpa using read) relayed room
    | @relays value _ _ same _ free =>
      have less := OutboundQueue.room_append free (Message.next own.id value).encode
      refine .goesOn _ (values ++ [value]) rfl (same.trans id) ?_ ?_ ?_
      · simp [read]
      · simp [relayed, id, OutboundQueue.relaying]
      · simp only [List.length_append, List.length_singleton]
        omega
    | @isRefused item _ _ _ _ _ _ _ refused =>
      refine .isOver values [item] .refused rfl (by rw [read]) (by omega) (Nat.le_refl 1) ?_
      intro _ isOpen
      have opened : s.queue.isOpen = true := by rw [relayed]; exact isOpen
      obtain ⟨full, refusal⟩ := OutboundQueue.overflow_of_refused opened refused
      refine ⟨by omega, rfl, ?_⟩
      simp [refusal, relayed]
    | ends short unrefused =>
      exact .isOver values _ _ rfl (by rw [read]) (by omega) short fun refused =>
        absurd refused unrefused

section Runs

variable {registry : Registry} {queue : OutboundQueue} {left : Nat}

theorem Stretch.course
    (run : Stretch engine now ⟨.running p, registry, queue, left⟩ count items s) :
    Course p queue items s := by
  induction run with
  | start => exact .goesOn p [] rfl rfl rfl (by simp [OutboundQueue.relaying]) (by simp)
  | snoc _ taken ih => exact ih.step taken

theorem Stretch.reads
    (run : Stretch engine now ⟨.running p, registry, queue, left⟩ count items s) :
    ∃ polls, items.reduceOption =
        Results.reading (List.replicate polls ⟨engine, now⟩) p.results ∧
      ∀ after, s.state = .running after →
        after.results = Results.after (List.replicate polls ⟨engine, now⟩) p.results := by
  induction run with
  | start =>
    refine ⟨0, rfl, fun after running => ?_⟩
    cases running
    rfl
  | snoc _ taken ih =>
    obtain ⟨polls, read, onwards⟩ := ih
    obtain ⟨own, next, state, turned, rfl, -, rfl⟩ := turns_of_next? taken
    obtain ⟨more, reads, follows⟩ := turned.reads
    rw [onwards own state] at reads follows
    refine ⟨polls + more, ?_, fun after running => ?_⟩
    · rw [List.reduceOption_append, read, reads, List.replicate_add, Results.reading_append]
    · rw [follows after running, List.replicate_add, Results.after_append]

end Runs

/-- A producer that nobody interrupts, whatever its results, the registry and the queue are. From
the results it takes at most one element more than the queue has room for, the end counted as one,
and they come in their order; it takes only so many turns, so that it comes to its end, or has to
wait, or is deferred. If a queue that has a consumer refuses it a message, then it has relayed as
many results as there was room for, each in its turn, and the signal is raised. -/
theorem stretch_is_bounded (engine : Engine) (now : Nat) (p : Producer) (registry : Registry)
    (queue : OutboundQueue) (left : Nat) :
    let first : Stint := ⟨.running p, registry, queue, left⟩
    (∀ {count items s}, Stretch engine now first count items s →
      items.length ≤ queue.room + 1 ∧ count ≤ left + 2 * queue.room + 6 ∧
      (∃ polls, items.reduceOption =
        Results.reading (List.replicate polls ⟨engine, now⟩) p.results) ∧
      (s.state = .ended .refused → queue.isOpen = true →
        ∃ (values : List ExecutionResult) (last : Option Element),
          items = (values.map fun value => some (.ok value)) ++ [last] ∧
            values.length = queue.room ∧
            s.queue = { queue.relaying p.id values with overflowed := true })) ∧
    ∃ count items last, Stretch engine now first count items last ∧
      last.next? engine now = none := by
  intro first
  refine ⟨fun run => ⟨?_, ?_, ?_, fun refused isOpen => ?_⟩, Stretch.start.exists_last⟩
  · cases run.course with
    | goesOn _ values _ _ taken _ room => simp only [taken, List.length_map]; omega
    | isOver values last _ _ taken fits short =>
      simp only [taken, List.length_append, List.length_map]
      omega
  · have most := run.count_le
    have near := p.distance_le
    have budget : first.turnsLeft = left + 2 * queue.room + p.distance + 1 := rfl
    omega
  · obtain ⟨polls, read, -⟩ := run.reads
    exact ⟨polls, read⟩
  · cases run.course with
    | goesOn _ _ state => simp [state] at refused
    | isOver values last how state taken _ _ overrun =>
      obtain rfl : how = .refused := by simpa [state] using refused
      obtain ⟨full, one, overflowed⟩ := overrun rfl isOpen
      obtain ⟨item, rfl⟩ := List.length_eq_one_iff.mp one
      exact ⟨values, item, taken, full, overflowed⟩

/-- A stream that never pauses and never ends, on a queue of three that holds one message. -/
theorem stretch_of_endless_stream :
    let value : ExecutionResult := .ofData .null
    let p : Producer := { Producer.ofSteps "1" 1 fun _ => .result value with started := true }
    let queue : OutboundQueue := ⟨3, ["{}"], false, true, true⟩
    let engine : Engine := fun _ _ => ⟨0, .streaming fun _ => .stall⟩
    let first : Stint := ⟨.running p, ⟨[("1", 1)], 1, false, []⟩, queue, 128⟩
    ∃ items s, Stretch engine 0 first 3 items s ∧ s.state = .ended .refused ∧
      items.length ≤ 2 + 1 ∧ ∃ (values : List ExecutionResult) (last : Option Element),
        items = (values.map fun value => some (.ok value)) ++ [last] ∧ values.length = 2 := by
  intro value p queue engine first
  have fresh : Stretch engine 0 first 0 [] first := .start
  have run := fresh.snoc rfl |>.snoc rfl |>.snoc rfl
  have ⟨bounded, _⟩ := stretch_is_bounded engine 0 p first.registry queue 128
  obtain ⟨few, -, -, overrun⟩ := bounded run
  obtain ⟨values, last, items, full, -⟩ := overrun rfl rfl
  exact ⟨_, _, run, rfl, few, values, last, items, full⟩

end Stint

end SubscriptionGateway
