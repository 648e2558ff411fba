import SubscriptionGateway.Proofs.Execution.Elements

/-! What a reader gets who polls the results of an operation again and again, at any times. Whatever
the engine does, these are its results in their order and at most one failure, after which there is
nothing more and the engine is left alone. -/
namespace SubscriptionGateway

/-- One poll of some results: its time, and the engine as it is then. -/
structure Visit where
  engine : Engine
  now : Nat

namespace StreamStep

def element? : StreamStep → Option Element
  | .result value => some (.ok value)
  | .failure cause => some (.error cause)
  | .panic cause => some (.error (.internal (cause.text.getD "execution panicked")))
  | .wait _ | .stall | .finish => none

/-- Whether there is something behind the step for a reader to come to. -/
def goesOn : StreamStep → Bool
  | .result _ | .wait _ => true
  | _ => false

def isLast : StreamStep → Bool
  | .failure _ | .panic _ | .finish => true
  | _ => false

theorem isLast_of_goesOn {step : StreamStep} (h : step.goesOn = true) : step.isLast = false := by
  cases step <;> first | rfl | cases h

end StreamStep

def elementsOf (steps : Nat → StreamStep) (count : Nat) : List Element :=
  (List.range count).filterMap fun position => (steps position).element?

theorem elementsOf_succ (steps : Nat → StreamStep) (count : Nat) :
    elementsOf steps (count + 1) = elementsOf steps count ++ (steps count).element?.toList := by
  rw [elementsOf, List.range_succ, List.filterMap_append]
  cases h : (steps count).element? <;> simp [elementsOf, h]

theorem elementsOf_isPrefix_of_le (steps : Nat → StreamStep) {count more : Nat}
    (le : count ≤ more) :
    elementsOf steps count <+: elementsOf steps more := by
  have start : List.range count <+: List.range more := by
    rw [← Nat.min_eq_left le, ← List.take_range]
    exact List.take_prefix _ _
  exact start.filterMap _

/-- What can be read of an answer, and whether that is all of it: a refusal and a panic are one
failure; of a stream one reads the results up to its first failure, its first panic or its end, and
then that. -/
inductive Answer.Delivers : Answer → List Element → (whole : Bool) → Prop where
  | unread (a : Answer) : Delivers a [] false
  | refused (cause : ExecutionFailure) : Delivers (.refused cause) [.error cause] true
  | panicked (cause : Panic) :
      Delivers (.panicked cause)
        [.error (.internal (cause.text.getD "execution panicked"))] true
  | partly {steps : Nat → StreamStep} {count : Nat}
      (goesOn : ∀ position < count, (steps position).goesOn = true) :
      Delivers (.streaming steps) (elementsOf steps count) false
  | wholly {steps : Nat → StreamStep} {count : Nat}
      (goesOn : ∀ position < count, (steps position).goesOn = true)
      (last : (steps count).isLast = true) :
      Delivers (.streaming steps) (elementsOf steps (count + 1)) true

namespace Poll

def element? : Poll → Option Element
  | .element value _ => some value
  | _ => none

def isCall : Poll → Bool
  | .called _ => true
  | _ => false

/-- Whether a reader learns that there is nothing behind this. -/
def isOver : Poll → Bool
  | .element (.error _) _ | .ended => true
  | _ => false

end Poll

namespace Results

variable {a : Answer} {es : List Element} {past : List Nat} {r : Results}

def visit (r : Results) (v : Visit) : Poll := r.poll v.engine v.now

def follow (r : Results) (v : Visit) : Results :=
  match r.visit v with
  | .called next | .progressed next | .element _ next => next
  | .waiting _ | .ended => r

/-- The position of the engine's stream that a visit looks at, if it does. -/
def asks? (r : Results) (v : Visit) : Option Nat :=
  match r with
  | .streaming _ position pause => if isPausing v.now pause then none else some position
  | _ => none

def polls : List Visit → Results → List Poll
  | [], _ => []
  | v :: rest, r => r.visit v :: polls rest (r.follow v)

def asked : List Visit → Results → List Nat
  | [], _ => []
  | v :: rest, r => (r.asks? v).toList ++ asked rest (r.follow v)

def after : List Visit → Results → Results
  | [], r => r
  | v :: rest, r => after rest (r.follow v)

def reading (visits : List Visit) (r : Results) : List Element :=
  (polls visits r).filterMap Poll.element?

theorem polls_append (first second : List Visit) (r : Results) :
    polls (first ++ second) r = polls first r ++ polls second (after first r) := by
  induction first generalizing r with
  | nil => rfl
  | cons v rest ih => simp only [List.cons_append, polls, after, ih]

theorem reading_append (first second : List Visit) (r : Results) :
    reading (first ++ second) r = reading first r ++ reading second (after first r) := by
  simp only [reading, polls_append, List.filterMap_append]

theorem reading_cons (v : Visit) (rest : List Visit) (r : Results) :
    reading (v :: rest) r = (r.visit v).element?.toList ++ reading rest (r.follow v) := by
  cases h : (r.visit v).element? <;> simp [reading, polls, h]

/-- Where a reader stands who has read some elements of an answer and has looked at some positions
of its stream. -/
inductive Standing (a : Answer) : List Element → List Nat → Results → Prop where
  | starting (pause : Option Nat) : Standing a [] [] (.starting pause a)
  | streaming {steps : Nat → StreamStep} {count : Nat} {past : List Nat} (pause : Option Nat)
      (isStream : a = .streaming steps)
      (goesOn : ∀ position < count, (steps position).goesOn = true)
      (unfinished : ∀ position ∈ past, (steps position).isLast = false) :
      Standing a (elementsOf steps count) past (.streaming steps count pause)
  | spent {es : List Element} {past : List Nat} (unfinished : Bool)
      (whole : a.Delivers es true)
      (left : ∀ steps, a = .streaming steps →
        past.Pairwise fun earlier _ => (steps earlier).isLast = false) :
      Standing a es past (.spent unfinished)

theorem visit_of_streaming {steps : Nat → StreamStep} {position : Nat} {pause : Option Nat}
    {v : Visit} (paused : isPausing v.now pause = false) :
    (visit (.streaming steps position pause) v).element? = (steps position).element? := by
  simp only [visit, poll, paused, Bool.false_eq_true, if_false]
  cases steps position <;> rfl

namespace Standing

theorem step_starting (a : Answer) (pause : Option Nat) (v : Visit) :
    Standing a (visit (.starting pause a) v).element?.toList [] (follow (.starting pause a) v) := by
  cases paused : isPausing v.now pause with
  | true => simpa [follow, visit, poll, paused, Poll.element?] using Standing.starting pause
  | false =>
    cases a with
    | refused cause =>
      have whole := Answer.Delivers.refused cause
      simpa [follow, visit, poll, paused, Poll.element?] using Standing.spent false whole (by simp)
    | panicked cause =>
      have whole := Answer.Delivers.panicked cause
      simpa [follow, visit, poll, paused, Poll.element?, Panic.failure] using
        Standing.spent false whole (by simp)
    | streaming steps =>
      have start : Standing (.streaming steps) [] [] (.streaming steps 0 none) :=
        @Standing.streaming _ steps 0 [] none rfl (by simp) (by simp)
      simpa [follow, visit, poll, paused, Poll.element?] using start

theorem step_streaming {steps : Nat → StreamStep} {count : Nat} {pause : Option Nat} {v : Visit}
    (paused : isPausing v.now pause = false)
    (goesOn : ∀ position < count, (steps position).goesOn = true)
    (unfinished : ∀ position ∈ past, (steps position).isLast = false) :
    Standing (.streaming steps) (elementsOf steps count ++ (steps count).element?.toList)
      (past ++ [count]) (follow (.streaming steps count pause) v) := by
  have onwards (here : (steps count).goesOn = true) :
      ∀ position < count + 1, (steps position).goesOn = true := fun position lt => by
    rcases Nat.lt_succ_iff_lt_or_eq.mp lt with before | rfl
    · exact goesOn position before
    · exact here
  have asked (here : (steps count).isLast = false) :
      ∀ position ∈ past ++ [count], (steps position).isLast = false := by
    simpa [or_imp, forall_and] using ⟨unfinished, here⟩
  have whole (here : (steps count).isLast = true) (cut : Bool) :
      Standing (.streaming steps) (elementsOf steps (count + 1)) (past ++ [count])
        (.spent cut) := by
    refine .spent cut (.wholly goesOn here) fun other same => ?_
    cases same
    exact List.pairwise_append.mpr ⟨List.pairwise_of_forall_mem_list fun i known _ _ =>
      unfinished i known, List.pairwise_singleton _ _, fun i known _ _ => unfinished i known⟩
  rw [← elementsOf_succ]
  simp only [follow, visit, poll, paused, Bool.false_eq_true, if_false]
  cases here : steps count with
  | result value =>
    exact .streaming none rfl (onwards (by rw [here]; rfl)) (asked (by rw [here]; rfl))
  | wait duration =>
    exact .streaming _ rfl (onwards (by rw [here]; rfl)) (asked (by rw [here]; rfl))
  | stall =>
    rw [elementsOf_succ, here]
    simpa [StreamStep.element?] using
      Standing.streaming pause rfl goesOn (asked (by rw [here]; rfl))
  | failure cause => exact whole (by rw [here]; rfl) true
  | panic cause => exact whole (by rw [here]; rfl) false
  | finish => exact whole (by rw [here]; rfl) false

/-- What one visit does for a reader. -/
theorem step (h : Standing a es past r) (v : Visit) :
    Standing a (es ++ (r.visit v).element?.toList) (past ++ (r.asks? v).toList) (r.follow v) := by
  cases h with
  | starting pause => simpa [asks?] using step_starting a pause v
  | @streaming steps count past pause isStream goesOn unfinished =>
    cases paused : isPausing v.now pause with
    | true =>
      simpa [follow, visit, poll, paused, Poll.element?, asks?] using
        Standing.streaming pause isStream goesOn unfinished
    | false =>
      rw [visit_of_streaming paused]
      subst isStream
      simpa [asks?, paused] using step_streaming paused goesOn unfinished
  | spent unfinished whole left =>
    simpa [follow, visit, poll, Poll.element?, asks?] using Standing.spent unfinished whole left

/-- What any visits do for a reader. -/
theorem run (h : Standing a es past r) (visits : List Visit) :
    Standing a (es ++ reading visits r) (past ++ asked visits r) (after visits r) := by
  induction visits generalizing es past r with
  | nil => simpa [reading, polls, asked, after] using h
  | cons v rest ih =>
    rw [reading_cons, asked, ← List.append_assoc, ← List.append_assoc]
    exact ih (h.step v)

theorem delivers (h : Standing a es past r) : ∃ whole, a.Delivers es whole := by
  cases h with
  | starting => exact ⟨false, .unread a⟩
  | streaming pause isStream goesOn => exact ⟨false, isStream ▸ .partly goesOn⟩
  | spent _ whole => exact ⟨true, whole⟩

theorem of_streaming {steps : Nat → StreamStep} {count : Nat} {pause : Option Nat}
    (h : Standing a es past (.streaming steps count pause)) :
    es = elementsOf steps count ∧ ∀ position < count, (steps position).goesOn = true := by
  cases h with
  | streaming _ _ goesOn => exact ⟨rfl, goesOn⟩

theorem of_spent {cut : Bool} (h : Standing a es past (.spent cut)) : a.Delivers es true := by
  cases h with
  | spent _ whole => exact whole

/-- No position is looked at behind a last one. -/
theorem pairwise_asked (h : Standing a es past r) (steps : Nat → StreamStep)
    (isStream : a = .streaming steps) :
    past.Pairwise fun earlier _ => (steps earlier).isLast = false := by
  cases h with
  | starting => exact .nil
  | streaming pause same goesOn unfinished =>
    cases same.symm.trans isStream
    exact List.pairwise_of_forall_mem_list fun i known _ _ => unfinished i known
  | spent _ _ left => exact left steps isStream

end Standing

theorem eq_unasked_of_isCall {v : Visit} (h : (r.visit v).isCall = true) :
    ∃ request context, r = .unasked request context := by
  cases found : r.visit v with
  | called next =>
    obtain ⟨request, context, rfl, -⟩ := eq_unasked_of_called found
    exact ⟨request, context, rfl⟩
  | _ => simp [found, Poll.isCall] at h

theorem Standing.uncalled (h : Standing a es past r) (visits : List Visit) :
    ∀ p ∈ polls visits r, p.isCall = false := by
  induction visits generalizing es past r with
  | nil => simp [polls]
  | cons v rest ih =>
    refine List.forall_mem_cons.mpr ⟨?_, ih (h.step v)⟩
    refine Bool.eq_false_iff.mpr fun called => ?_
    obtain ⟨request, context, rfl⟩ := eq_unasked_of_isCall called
    cases h

theorem Standing.asked (h : Standing a es past r) : r.Asked := by
  cases h <;> trivial

/-- Once it has been called, the engine has no part in what is found. -/
theorem Standing.polls_congr (h : Standing a es past r) {visits others : List Visit}
    (times : others.map Visit.now = visits.map Visit.now) : polls others r = polls visits r := by
  induction visits generalizing es past r others with
  | nil => rw [List.map_eq_nil_iff.mp times]
  | cons v rest ih =>
    obtain ⟨other, others, rfl, now, times⟩ := List.map_eq_cons_iff.mp times
    have same : r.visit other = r.visit v := by
      have asked := h.asked
      cases r with
      | unasked => exact asked.elim
      | _ => simp only [visit, poll, now]
    have onwards : r.follow other = r.follow v := by rw [follow, follow, same]
    rw [polls, polls, same, onwards, ih (h.step v) times]

theorem follow_of_isOver {v : Visit} (h : (r.visit v).isOver = true) :
    ∃ cut, r.follow v = .spent cut := by
  unfold follow
  cases found : r.visit v with
  | element value next =>
    cases value with
    | ok value => simp [found, Poll.isOver] at h
    | error cause => exact spent_of_error found
  | ended => exact eq_spent_of_ended found
  | _ => simp [found, Poll.isOver] at h

theorem polls_spent (visits : List Visit) (cut : Bool) :
    ∀ p ∈ polls visits (.spent cut), p = .ended := by
  induction visits with
  | nil => simp [polls]
  | cons v rest ih => exact List.forall_mem_cons.mpr ⟨rfl, ih⟩

theorem polls_of_isOver {visits : List Visit} {before later : List Poll} {p : Poll}
    (split : polls visits r = before ++ p :: later) (finished : p.isOver = true) :
    ∀ q ∈ later, q = .ended := by
  induction visits generalizing r before with
  | nil => simp [polls] at split
  | cons v rest ih =>
    cases before with
    | nil =>
      obtain ⟨rfl, rfl⟩ := List.cons.inj split
      obtain ⟨cut, spent⟩ := follow_of_isOver finished
      rw [spent]
      exact polls_spent rest cut
    | cons first before => exact ih (List.cons.inj split).2

theorem after_spent (visits : List Visit) (cut : Bool) :
    after visits (.spent cut) = .spent cut := by
  induction visits with
  | nil => rfl
  | cons v rest ih => exact ih

theorem after_of_isOver {visits : List Visit} (finished : ∃ p ∈ polls visits r, p.isOver = true) :
    ∃ cut, after visits r = .spent cut := by
  induction visits generalizing r with
  | nil => simp [polls] at finished
  | cons v rest ih =>
    obtain ⟨p, known, finished⟩ := finished
    rcases List.mem_cons.mp known with rfl | known
    · obtain ⟨cut, spent⟩ := follow_of_isOver finished
      exact ⟨cut, by rw [after, spent, after_spent]⟩
    · exact ih ⟨p, known, finished⟩

def late (engine : Engine) (pause : Option Nat) : Visit := ⟨engine, pause.getD 0⟩

theorem isPausing_late (engine : Engine) (pause : Option Nat) :
    isPausing (late engine pause).now pause = false := by
  cases pause <;> simp [late, isPausing]

theorem exists_after {steps : Nat → StreamStep} (engine : Engine) {count more : Nat}
    (le : count ≤ more) (goesOn : ∀ position < more, (steps position).goesOn = true)
    (pause : Option Nat) : ∃ visits pause',
      after visits (.streaming steps count pause) = .streaming steps more pause' := by
  obtain ⟨left, rfl⟩ := Nat.exists_eq_add_of_le le
  clear le
  induction left generalizing count pause with
  | zero => exact ⟨[], pause, rfl⟩
  | succ left ih =>
    have moves : ∃ next,
        follow (.streaming steps count pause) (late engine pause) =
          .streaming steps (count + 1) next := by
      have here := goesOn count (by omega)
      simp only [follow, visit, poll, isPausing_late, Bool.false_eq_true, if_false]
      cases step : steps count with
      | result | wait => exact ⟨_, rfl⟩
      | _ => simp [step, StreamStep.goesOn] at here
    obtain ⟨next, moved⟩ := moves
    have same : count + 1 + left = count + (left + 1) := by omega
    obtain ⟨visits, last, reached⟩ := ih next (by rwa [same])
    refine ⟨late engine pause :: visits, last, ?_⟩
    rw [after, moved, reached, same]

theorem follow_of_isLast {steps : Nat → StreamStep} (engine : Engine) {count : Nat}
    (last : (steps count).isLast = true) (pause : Option Nat) :
    ∃ cut, follow (.streaming steps count pause) (late engine pause) = .spent cut := by
  simp only [follow, visit, poll, isPausing_late, Bool.false_eq_true, if_false]
  cases step : steps count with
  | failure | panic | finish => exact ⟨_, rfl⟩
  | _ => simp [step, StreamStep.isLast] at last

theorem follow_starting (engine : Engine) (pause : Option Nat) (a : Answer) :
    follow (.starting pause a) (late engine pause) =
      match a with
      | .streaming steps => .streaming steps 0 none
      | _ => .spent false := by
  simp only [follow, visit, poll, isPausing_late, Bool.false_eq_true, if_false]
  cases a <;> rfl

theorem after_append (first second : List Visit) (r : Results) :
    after (first ++ second) r = after second (after first r) := by
  induction first generalizing r with
  | nil => rfl
  | cons v rest ih => exact ih (r.follow v)

namespace Standing

/-- A reader comes as far in a stream as it goes on, unless it is over before. -/
theorem exists_streaming {steps : Nat → StreamStep} (h : Standing (.streaming steps) es past r)
    (engine : Engine) {least : Nat} (goesOn : ∀ position < least, (steps position).goesOn = true) :
    ∃ visits, (∃ cut, after visits r = .spent cut) ∨
      ∃ count pause, least ≤ count ∧ after visits r = .streaming steps count pause := by
  cases h with
  | starting pause =>
    obtain ⟨visits, last, reached⟩ := exists_after engine (Nat.zero_le least) goesOn none
    refine ⟨late engine pause :: visits, .inr ⟨least, last, Nat.le_refl _, ?_⟩⟩
    rw [after, follow_starting, reached]
  | @streaming _ count _ pause isStream =>
    cases isStream
    rcases Nat.le_total count least with before | beyond
    · obtain ⟨visits, last, reached⟩ := exists_after engine before goesOn pause
      exact ⟨visits, .inr ⟨least, last, Nat.le_refl _, reached⟩⟩
    · exact ⟨[], .inr ⟨count, pause, beyond, rfl⟩⟩
  | spent cut => exact ⟨[], .inl ⟨cut, rfl⟩⟩

/-- A reader who goes on asking comes to all that can be read, unless all of it has been read. -/
theorem exists_delivery (h : Standing a es past r) (engine : Engine) {wanted : List Element}
    {whole : Bool} (target : a.Delivers wanted whole) :
    ∃ visits, (∃ cut, after visits r = .spent cut) ∨
      whole = false ∧ wanted <+: es ++ reading visits r := by
  cases target with
  | unread => exact ⟨[], .inr ⟨rfl, List.nil_prefix⟩⟩
  | refused | panicked =>
    cases h with
    | starting pause => exact ⟨[late engine pause], .inl ⟨false, follow_starting engine pause _⟩⟩
    | streaming _ isStream => cases isStream
    | spent cut => exact ⟨[], .inl ⟨cut, rfl⟩⟩
  | @partly steps least goesOn =>
    obtain ⟨visits, finished | ⟨count, pause, le, reached⟩⟩ := h.exists_streaming engine goesOn
    · exact ⟨visits, .inl finished⟩
    · have standing := h.run visits
      rw [reached] at standing
      refine ⟨visits, .inr ⟨rfl, ?_⟩⟩
      rw [standing.of_streaming.1]
      exact elementsOf_isPrefix_of_le steps le
  | @wholly steps least goesOn last =>
    obtain ⟨visits, finished | ⟨count, pause, le, reached⟩⟩ := h.exists_streaming engine goesOn
    · exact ⟨visits, .inl finished⟩
    · have standing := h.run visits
      rw [reached] at standing
      -- The stream does not go on behind its last step.
      have same : least = count := by
        refine Nat.le_antisymm le (Nat.not_lt.mp fun lt => ?_)
        simp [StreamStep.isLast_of_goesOn (standing.of_streaming.2 least lt)] at last
      obtain ⟨cut, spent⟩ := follow_of_isLast engine (same ▸ last) pause
      refine ⟨visits ++ [late engine pause], .inl ⟨cut, ?_⟩⟩
      rw [after_append, reached, after, spent, after]

end Standing

end Results

/-- All that can be read of an answer is the start of the whole of it. -/
theorem Answer.Delivers.prefix_of_whole {a : Answer} {part full : List Element} {whole : Bool}
    (some : a.Delivers part whole) (all : a.Delivers full true) :
    part <+: full ∧ (whole = true → part = full) := by
  cases some with
  | unread => exact ⟨List.nil_prefix, by simp⟩
  | refused | panicked =>
    cases all
    exact ⟨List.prefix_rfl, fun _ => rfl⟩
  | @partly steps count goesOn =>
    cases all with
    | @wholly _ stop _ last =>
      have le : count ≤ stop := Nat.not_lt.mp fun lt => by
        simp [StreamStep.isLast_of_goesOn (goesOn stop lt)] at last
      exact ⟨elementsOf_isPrefix_of_le steps (Nat.le_succ_of_le le), by simp⟩
  | @wholly steps count goesOn last =>
    cases all with
    | @wholly _ stop goesOn' last' =>
      have same : count = stop := by
        refine Nat.le_antisymm (Nat.not_lt.mp fun lt => ?_) (Nat.not_lt.mp fun lt => ?_)
        · simp [StreamStep.isLast_of_goesOn (goesOn stop lt)] at last'
        · simp [StreamStep.isLast_of_goesOn (goesOn' count lt)] at last
      subst same
      exact ⟨List.prefix_rfl, fun _ => rfl⟩

/-- A reader who goes on asking comes to all that can be read, and to the end behind the whole. -/
theorem Results.Standing.exists_ending {a : Answer} {es : List Element} {past : List Nat}
    {r : Results} (h : Standing a es past r) (engine : Engine) {wanted : List Element}
    {whole : Bool} (target : a.Delivers wanted whole) :
    ∃ visits, wanted <+: es ++ reading visits r ∧
      (whole = true → es ++ reading visits r = wanted ∧ .ended ∈ polls visits r) := by
  obtain ⟨visits, ⟨cut, spent⟩ | ⟨rfl, read⟩⟩ := h.exists_delivery engine target
  · have standing := h.run visits
    rw [spent] at standing
    obtain ⟨start, same⟩ := target.prefix_of_whole standing.of_spent
    -- One more visit finds the end.
    let last := late engine none
    have read : reading (visits ++ [last]) r = reading visits r := by
      rw [reading_append, spent]
      exact List.append_nil _
    refine ⟨visits ++ [last], read ▸ start, fun full => ⟨read ▸ (same full).symm, ?_⟩⟩
    rw [polls_append, spent]
    exact List.mem_append_right _ (List.mem_singleton_self _)
  · exact ⟨visits, read, by simp⟩

theorem elementsOf_of_goesOn {steps : Nat → StreamStep} {count : Nat}
    (goesOn : ∀ position < count, (steps position).goesOn = true) :
    ∃ values : List ExecutionResult, elementsOf steps count = values.map .ok := by
  induction count with
  | zero => exact ⟨[], rfl⟩
  | succ count ih =>
    obtain ⟨values, read⟩ := ih fun position lt => goesOn position (Nat.lt_succ_of_lt lt)
    have here := goesOn count (Nat.lt_succ_self count)
    rw [elementsOf_succ, read]
    cases step : steps count with
    | result value => exact ⟨values ++ [value], by simp [StreamStep.element?]⟩
    | wait duration => exact ⟨values, by simp [StreamStep.element?]⟩
    | _ => simp [step, StreamStep.goesOn] at here

/-- What can be read is some results with at most one failure behind them. -/
theorem Answer.Delivers.shape {a : Answer} {es : List Element} {whole : Bool}
    (h : a.Delivers es whole) :
    ∃ (values : List ExecutionResult) (failure : Option ExecutionFailure),
      es = values.map .ok ++ (failure.map .error).toList := by
  cases h with
  | unread => exact ⟨[], none, rfl⟩
  | refused cause => exact ⟨[], some cause, rfl⟩
  | panicked cause => exact ⟨[], some (.internal (cause.text.getD "execution panicked")), rfl⟩
  | partly goesOn =>
    obtain ⟨values, read⟩ := elementsOf_of_goesOn goesOn
    exact ⟨values, none, by simpa using read⟩
  | @wholly steps count goesOn last =>
    obtain ⟨values, read⟩ := elementsOf_of_goesOn goesOn
    rw [elementsOf_succ, read]
    cases step : steps count with
    | failure cause => exact ⟨values, some cause, rfl⟩
    | panic cause =>
      exact ⟨values, some (.internal (cause.text.getD "execution panicked")), rfl⟩
    | finish => exact ⟨values, none, rfl⟩
    | _ => simp [step, StreamStep.isLast] at last

namespace Results

inductive Alike (steps other : Nat → StreamStep) : Results → Results → Prop where
  | starting (pause : Option Nat) :
      Alike steps other (.starting pause (.streaming steps)) (.starting pause (.streaming other))
  | streaming (position : Nat) (pause : Option Nat) :
      Alike steps other (.streaming steps position pause) (.streaming other position pause)
  | spent (cut : Bool) : Alike steps other (.spent cut) (.spent cut)

theorem Alike.step {steps other : Nat → StreamStep} {r r' : Results}
    (alike : Alike steps other r r') (v : Visit)
    (agree : ∀ position ∈ r.asks? v, other position = steps position) :
    (r'.visit v).element? = (r.visit v).element? ∧
      Alike steps other (r.follow v) (r'.follow v) := by
  cases alike with
  | starting pause =>
    cases paused : isPausing v.now pause with
    | true => simpa [visit, follow, poll, paused] using Alike.starting pause
    | false => simpa [visit, follow, poll, paused, Poll.element?] using Alike.streaming 0 none
  | streaming position pause =>
    cases paused : isPausing v.now pause with
    | true => simpa [visit, follow, poll, paused] using Alike.streaming position pause
    | false =>
      have same : other position = steps position := agree position (by simp [asks?, paused])
      simp only [visit, follow, poll, paused, same, Bool.false_eq_true, if_false]
      cases steps position with
      | result | wait | stall => exact ⟨rfl, .streaming _ _⟩
      | failure | panic | finish => exact ⟨rfl, .spent _⟩
  | spent cut => exact ⟨rfl, .spent cut⟩

/-- What a stream has at positions that nobody looks at makes no difference. -/
theorem Alike.reading_eq {steps other : Nat → StreamStep} {r r' : Results}
    (alike : Alike steps other r r') (visits : List Visit)
    (agree : ∀ position ∈ asked visits r, other position = steps position) :
    reading visits r' = reading visits r := by
  induction visits generalizing r r' with
  | nil => rfl
  | cons v rest ih =>
    rw [asked, List.forall_mem_append] at agree
    obtain ⟨same, next⟩ := alike.step v fun position here => agree.1 position (by simpa using here)
    rw [reading_cons, reading_cons, same, ih next agree.2]

/-- However often and whenever the results of a request are asked for, and whatever the engine does:
the first visit calls the engine and no other does, nor does it matter to the others what an engine
would answer then. What is read is what can be read of the answer, and all of it once the end is
found; a reader who goes on comes to everything that can be read, and to the end behind the whole.
It is some results with at most one failure behind them. After a failure or the end every visit
finds the end. The engine's stream is not looked at any more after its first failure, its first
panic or its end, and what it would do there makes no difference. -/
theorem results_are_normalised (request : Request) (context : Context) (first : Visit)
    (rest : List Visit) :
    let fresh := unasked request context
    let execution := first.engine request context
    let visits := first :: rest
    (∃ next, polls visits fresh = .called next :: polls rest next ∧
      (∀ p ∈ polls rest next, p.isCall = false) ∧
      ∀ others : List Visit, others.map Visit.now = rest.map Visit.now →
        polls others next = polls rest next) ∧
    (∃ whole, execution.answer.Delivers (reading visits fresh) whole ∧
      ((∃ p ∈ polls visits fresh, p.isOver = true) → whole = true)) ∧
    (∀ wanted whole, execution.answer.Delivers wanted whole → ∃ more,
      wanted <+: reading (visits ++ more) fresh ∧
        (whole = true → reading (visits ++ more) fresh = wanted ∧
          .ended ∈ polls (visits ++ more) fresh)) ∧
    (∃ (values : List ExecutionResult) (failure : Option ExecutionFailure),
      reading visits fresh = values.map .ok ++ (failure.map .error).toList) ∧
    (∀ before p later, polls visits fresh = before ++ p :: later → p.isOver = true →
      ∀ q ∈ later, q = .ended) ∧
    ∀ steps, execution.answer = .streaming steps →
      ((asked visits fresh).Pairwise fun earlier _ => (steps earlier).isLast = false) ∧
      ∀ other : Nat → StreamStep,
        (∀ position ∈ asked visits fresh, other position = steps position) →
        reading ({ first with engine := fun _ _ => ⟨execution.delay, .streaming other⟩ } :: rest)
          fresh = reading visits fresh := by
  intro fresh execution visits
  let next : Results := .starting (answerPause first.now execution.delay) execution.answer
  have called : polls visits fresh = .called next :: polls rest next := rfl
  have start : Standing execution.answer [] [] next := .starting _
  have standing := start.run rest
  rw [List.nil_append, List.nil_append] at standing
  refine ⟨⟨next, called, start.uncalled rest, fun _ times => start.polls_congr times⟩, ?_, ?_, ?_,
    ?_, ?_⟩
  · obtain ⟨whole, delivers⟩ := standing.delivers
    by_cases finished : ∃ p ∈ polls visits fresh, p.isOver = true
    · have later : ∃ p ∈ polls rest next, p.isOver = true := by
        simpa [called, Poll.isOver] using finished
      obtain ⟨cut, spent⟩ := after_of_isOver later
      exact ⟨true, (spent ▸ standing).of_spent, fun _ => rfl⟩
    · exact ⟨whole, delivers, fun found => absurd found finished⟩
  · intro wanted whole target
    obtain ⟨more, start, all⟩ := standing.exists_ending first.engine target
    have read : reading (visits ++ more) fresh =
        reading rest next ++ reading more (after rest next) := reading_append visits more fresh
    refine ⟨more, read ▸ start, fun full => ⟨read ▸ (all full).1, ?_⟩⟩
    rw [polls_append]
    exact List.mem_append_right _ (all full).2
  · obtain ⟨whole, delivers⟩ := standing.delivers
    exact delivers.shape
  · exact fun before p later split finished => polls_of_isOver split finished
  · intro steps isStream
    refine ⟨standing.pairwise_asked steps isStream, fun other agree => ?_⟩
    have alike : Alike steps other next (.starting (answerPause first.now execution.delay)
        (.streaming other)) := by
      simpa [next, isStream] using @Alike.starting steps other _
    exact alike.reading_eq rest agree

/-- A stream that goes on with another result and a panic after it has failed. -/
def unruly : Nat → StreamStep :=
  Execution.stepsOf [.result (.ofData (.bool true)), .failure (.internal "broken"),
    .result (.ofData (.bool false))] (.panic ⟨none⟩)

/-- A reader of the unruly stream gets the first result and the failure, and then finds the end.
What the stream has behind the failure makes no difference. -/
theorem reading_of_unruly :
    let first : Visit := ⟨fun _ _ => ⟨0, .streaming unruly⟩, 0⟩
    let rest := List.replicate 5 first
    let fresh := unasked ⟨"1", "", none, [], []⟩ (.new "unruly" none)
    let expected : List Element := [.ok (.ofData (.bool true)), .error (.internal "broken")]
    (∃ more, reading (first :: rest ++ more) fresh = expected ∧
      .ended ∈ polls (first :: rest ++ more) fresh) ∧
    (∀ q ∈ (polls (first :: rest) fresh).drop 4, q = .ended) ∧
    ∀ other : Nat → StreamStep, other 0 = unruly 0 → other 1 = unruly 1 →
      reading (⟨fun _ _ => ⟨0, .streaming other⟩, 0⟩ :: rest) fresh = expected := by
  intro first rest fresh expected
  obtain ⟨-, -, complete, -, finished, left⟩ :=
    results_are_normalised ⟨"1", "", none, [], []⟩ (.new "unruly" none) first rest
  have whole : Answer.Delivers (.streaming unruly) expected true :=
    @Answer.Delivers.wholly unruly 1 (by decide) rfl
  obtain ⟨more, -, all⟩ := complete expected true whole
  refine ⟨⟨more, all rfl⟩, finished _ _ _ (List.take_append_drop 3 _).symm rfl,
    fun other at0 at1 => ?_⟩
  refine ((left unruly rfl).2 other fun position seen => ?_).trans rfl
  have known : position ∈ [0, 1] := seen
  have either : position = 0 ∨ position = 1 := by simpa using known
  rcases either with rfl | rfl
  · exact at0
  · exact at1

end Results

end SubscriptionGateway
