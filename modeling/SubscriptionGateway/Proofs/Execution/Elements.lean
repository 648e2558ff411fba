import SubscriptionGateway.Execution.Results

/-! What an answer of the engine amounts to, without a clock: the elements among its first so many
steps, whether the stream is over by then, and the messages that report this to the client. Polling
walks along these elements, one or more steps at a time. -/
namespace SubscriptionGateway

/-- The elements among so many steps, from a position on. A failure and a panic are the last. -/
def elementsFrom (steps : Nat → StreamStep) : (count position : Nat) → List Element
  | 0, _ => []
  | count + 1, position =>
    match steps position with
    | .result value => .ok value :: elementsFrom steps count (position + 1)
    | .wait _ => elementsFrom steps count (position + 1)
    | .failure cause => [.error cause]
    | .panic cause => [.error cause.failure]
    | .stall | .finish => []

def endsFrom (steps : Nat → StreamStep) : (count position : Nat) → Bool
  | 0, _ => false
  | count + 1, position =>
    match steps position with
    | .result _ | .wait _ => endsFrom steps count (position + 1)
    | .failure _ | .panic _ | .finish => true
    | .stall => false

/-- Once a stream is over, further steps change nothing. -/
theorem elementsFrom_of_ends {steps : Nat → StreamStep} {count position : Nat}
    (h : endsFrom steps count position = true) (more : Nat) :
    elementsFrom steps (count + more) position = elementsFrom steps count position ∧
      endsFrom steps (count + more) position = true := by
  induction count generalizing position with
  | zero => simp [endsFrom] at h
  | succ count ih =>
    rw [Nat.succ_add]
    simp only [elementsFrom, endsFrom] at h ⊢
    cases hs : steps position with
    | result value =>
      simp only [hs] at h
      exact ⟨congrArg _ (ih h).1, (ih h).2⟩
    | wait duration =>
      simp only [hs] at h
      exact ih h
    | stall => simp [hs] at h
    | failure | panic | finish => exact ⟨rfl, rfl⟩

namespace Answer

def elements (count : Nat) : Answer → List Element
  | .refused cause => [.error cause]
  | .panicked cause => [.error cause.failure]
  | .streaming steps => elementsFrom steps count 0

def ends (count : Nat) : Answer → Bool
  | .refused _ | .panicked _ => true
  | .streaming steps => endsFrom steps count 0

theorem elements_of_ends {a : Answer} {count : Nat} (h : a.ends count = true) (more : Nat) :
    a.elements (count + more) = a.elements count ∧ a.ends (count + more) = true := by
  cases a with
  | refused | panicked => exact ⟨rfl, rfl⟩
  | streaming steps => exact elementsFrom_of_ends h more

end Answer

def Element.message (id : String) : Element → Message
  | .ok value => .next id value
  | .error cause => .error id cause.errors

/-- The messages for the first so many steps of an answer: one for each element, and `complete` at
the end of a stream that has not failed. -/
def Answer.messages (id : String) (count : Nat) (a : Answer) : List Message :=
  (a.elements count).map (Element.message id) ++
    if a.ends count && (a.elements count).all Except.isOk then [.complete id] else []

namespace Results

def elements (count : Nat) : Results → List Element
  | .unasked _ _ | .spent _ => []
  | .starting _ answer => answer.elements count
  | .streaming steps position _ => elementsFrom steps count position

def ends (count : Nat) : Results → Bool
  | .unasked _ _ => false
  | .spent _ => true
  | .starting _ answer => answer.ends count
  | .streaming steps position _ => endsFrom steps count position

/-- Whether the engine has been called. -/
def Asked : Results → Prop
  | .unasked _ _ => False
  | _ => True

variable {engine : Engine} {now : Nat} {r next : Results}

theorem elements_of_progressed (h : r.poll engine now = .progressed next) :
    next.Asked ∧ ∃ passed, ∀ count, r.elements (count + passed) = next.elements count ∧
      r.ends (count + passed) = next.ends count := by
  cases r with
  | unasked | spent => simp [poll] at h
  | starting pause answer =>
    simp only [poll] at h
    split at h
    · cases h
    · cases answer with
      | refused | panicked => cases h
      | streaming steps => cases h; exact ⟨trivial, 0, fun count => ⟨rfl, rfl⟩⟩
  | streaming steps position pause =>
    simp only [poll] at h
    split at h
    · cases h
    · split at h <;> cases h <;>
        exact ⟨trivial, 1, fun count => by simp [elements, ends, elementsFrom, endsFrom, *]⟩

theorem elements_of_element {value : Element} (h : r.poll engine now = .element value next) :
    next.Asked ∧ ∃ passed, ∀ count, r.elements (count + passed) = value :: next.elements count ∧
      r.ends (count + passed) = next.ends count := by
  cases r with
  | unasked | spent => simp [poll] at h
  | starting pause answer =>
    simp only [poll] at h
    split at h
    · cases h
    · cases answer with
      | refused | panicked => cases h; exact ⟨trivial, 0, fun count => ⟨rfl, rfl⟩⟩
      | streaming => cases h
  | streaming steps position pause =>
    simp only [poll] at h
    split at h
    · cases h
    · split at h <;> cases h <;>
        exact ⟨trivial, 1, fun count => by simp [elements, ends, elementsFrom, endsFrom, *]⟩

theorem asked_of_poll {found : Poll} (h : r.poll engine now = found)
    (uncalled : ∀ next, found ≠ .called next) : r.Asked := by
  cases r with
  | unasked request context => exact absurd h.symm (uncalled _)
  | starting | streaming | spent => trivial

theorem eq_unasked_of_called (h : r.poll engine now = .called next) :
    ∃ request context, r = .unasked request context ∧
      next = .starting (answerPause now (engine request context).delay)
        (engine request context).answer := by
  cases r with
  | unasked request context => cases h; exact ⟨request, context, rfl, rfl⟩
  | spent => cases h
  | starting pause answer =>
    simp only [poll] at h
    split at h
    · cases h
    · split at h <;> cases h
  | streaming steps position pause =>
    simp only [poll] at h
    split at h
    · cases h
    · split at h <;> cases h

theorem eq_spent_of_ended (h : r.poll engine now = .ended) :
    ∃ unfinished, r = .spent unfinished := by
  cases r with
  | spent unfinished => exact ⟨unfinished, rfl⟩
  | unasked => cases h
  | starting pause answer =>
    simp only [poll] at h
    split at h
    · cases h
    · split at h <;> cases h
  | streaming steps position pause =>
    simp only [poll] at h
    split at h
    · cases h
    · split at h <;> cases h

end Results

/-- The results are what is left of an answer after the given elements. -/
def Answer.Leads (a : Answer) (past : List Element) (r : Results) : Prop :=
  r.Asked ∧ ∃ passed, ∀ count, a.elements (count + passed) = past ++ r.elements count ∧
    a.ends (count + passed) = r.ends count

namespace Answer.Leads

variable {engine : Engine} {now : Nat} {a : Answer} {past : List Element} {r next : Results}

theorem starting (a : Answer) (pause : Option Nat) : a.Leads [] (.starting pause a) :=
  ⟨trivial, 0, fun _ => ⟨rfl, rfl⟩⟩

theorem progressed (h : a.Leads past r) (polled : r.poll engine now = .progressed next) :
    a.Leads past next := by
  obtain ⟨-, before, h⟩ := h
  obtain ⟨asked, passed, walked⟩ := Results.elements_of_progressed polled
  refine ⟨asked, passed + before, fun count => ?_⟩
  rw [← Nat.add_assoc, (h _).1, (h _).2, (walked count).1, (walked count).2]
  exact ⟨rfl, rfl⟩

theorem element {value : Element} (h : a.Leads past r)
    (polled : r.poll engine now = .element value next) : a.Leads (past ++ [value]) next := by
  obtain ⟨-, before, h⟩ := h
  obtain ⟨asked, passed, walked⟩ := Results.elements_of_element polled
  refine ⟨asked, passed + before, fun count => ?_⟩
  rw [← Nat.add_assoc, (h _).1, (h _).2, (walked count).1, (walked count).2]
  simp

theorem spent {unfinished : Bool} (h : a.Leads past (.spent unfinished)) :
    ∃ count, a.elements count = past ∧ a.ends count = true := by
  obtain ⟨-, passed, h⟩ := h
  refine ⟨0 + passed, ?_, (h 0).2⟩
  rw [(h 0).1]
  exact List.append_nil past

theorem exists_prefix (h : a.Leads past r) : ∃ count, past <+: a.elements count := by
  obtain ⟨-, passed, h⟩ := h
  exact ⟨0 + passed, (h 0).1 ▸ List.prefix_append past _⟩

end Answer.Leads

end SubscriptionGateway
