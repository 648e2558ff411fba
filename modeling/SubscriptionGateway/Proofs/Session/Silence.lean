import SubscriptionGateway.Proofs.Session.Registrations

/-! When an operation is over for the client: through its terminal message, through the client's
`complete`, through another registration of its id, or through the end of the connection. No message
is accepted of it after that. -/
namespace SubscriptionGateway

/-- An element of two lists in a row stands in one of them. -/
theorem append_eq_append_cons {α : Type} {l m before later : List α} {x : α}
    (h : l ++ m = before ++ x :: later) :
    (∃ middle, l = before ++ x :: middle ∧ later = middle ++ m) ∨
      ∃ middle, before = l ++ middle ∧ m = middle ++ x :: later := by
  rcases List.append_eq_append_iff.mp h with ⟨middle, made, rest⟩ | ⟨middle, made, rest⟩
  · exact .inr ⟨middle, made, rest⟩
  · rcases List.cons_eq_append_iff.mp rest with ⟨rfl, rfl⟩ | ⟨inner, rfl, rfl⟩
    · exact .inr ⟨[], by simp [made], rfl⟩
    · exact .inl ⟨inner, made, rfl⟩

namespace Session

variable {past events : List Event} {s after : Session} {id : String} {seq : Nat}

def Over (id : String) (seq : Nat) (s : Session) : Prop :=
  seq ≤ s.registry.lastSeq ∧ s.registry.seq? id ≠ some seq

theorem Over.of_closed (sound : s.registry.Sound) (closed : s.registry.closed = true)
    (made : seq ≤ s.registry.lastSeq) : Over id seq s :=
  ⟨made, by simp [Registry.entries_nil_iff.mp (sound.emptied closed) id]⟩

theorem Over.step (finished : Over id seq s) (books : s.Books events after) :
    Over id seq after := by
  obtain ⟨made, gone⟩ := finished
  cases books with
  | keeps registry | leaves registry => rw [Over, registry]; exact ⟨made, gone⟩
  | shuts registry => rw [Over, registry]; exact ⟨by simpa using made, by simp⟩
  | frees decoded registry =>
    rw [Over, registry]
    exact ⟨by simpa using made, fun live => gone (Relay.seq?_cancelId.mp live).2⟩
  | @enrols _ other _ _ number _ decoded known free =>
    by_cases same : id = other
    · subst same
      have taken := Registry.seq?_register_self free
      obtain ⟨-, -, rfl, registry⟩ := Registry.register_eq_ok free
      refine ⟨by rw [registry]; exact Nat.le_succ_of_le made, ?_⟩
      rw [taken]
      simp only [ne_eq, Option.some.injEq]
      omega
    · refine ⟨?_, by rw [Registry.seq?_register_of_ne free same]; exact gone⟩
      obtain ⟨-, -, rfl, registry⟩ := Registry.register_eq_ok free
      rw [registry]
      exact Nat.le_succ_of_le made
  | produces found turned registry =>
    rw [Over, registry]
    refine ⟨by rw [turned.lastSeq_eq]; exact made, ?_⟩
    rcases turned.registry_eq with same | freed
    · rw [same]; exact gone
    · rw [freed]; simp [Registry.seq?_drop_eq_some, gone]

theorem Enrolled.over_of_silences (enrolled : Enrolled past s) (orderly : s.Orderly)
    (books : s.Books events after) (made : (id, seq) ∈ registrations past) {e : Event}
    (member : e ∈ events) (silenced : e.Silences id seq) : Over id seq after := by
  have number : seq ≤ s.registry.lastSeq := enrolled.numbered _ made
  cases books with
  | keeps registry producers harmless => exact absurd silenced ((harmless e member).2 id seq)
  | leaves registry producers closed =>
    rw [Over, registry]
    exact Over.of_closed orderly.sound closed number
  | shuts registry => rw [Over, registry]; exact ⟨by simpa using number, by simp⟩
  | frees decoded registry =>
    cases List.mem_singleton.mp member
    obtain rfl : _ = id := by simpa [Event.Silences, decoded] using silenced
    rw [Over, registry]
    exact ⟨by simpa using number, fun live => (Relay.seq?_cancelId.mp live).1 rfl⟩
  | enrols decoded known free =>
    simp only [List.mem_cons, List.not_mem_nil, or_false] at member
    rcases member with rfl | rfl
    · simp [Event.Silences, decoded] at silenced
    · obtain rfl : _ = id := silenced
      have taken := Registry.seq?_register_self free
      obtain ⟨-, -, rfl, registry⟩ := Registry.register_eq_ok free
      refine ⟨by rw [registry]; exact Nat.le_succ_of_le number, ?_⟩
      rw [taken]
      simp only [ne_eq, Option.some.injEq]
      omega
  | @produces p taken _ found turned registry =>
    have caused := turned.causes e member
    cases caused with
    | accepted live named freed =>
      obtain ⟨rfl, terminal⟩ : p.seq = seq ∧ _ := silenced
      obtain rfl : id = p.id :=
        enrolled.unique made (enrolled.named p (List.mem_of_find?_eq_some found))
      rw [Over, registry, freed terminal]
      exact ⟨by simpa using number, by simp [Registry.seq?_drop_self]⟩
    | _ => exact silenced.elim

theorem Books.live_of_sent (books : s.Books events after) {e : Event} (member : e ∈ events)
    {message : Message} (sent : e.sent? seq = some message) :
    ∃ p ∈ s.producers, p.seq = seq ∧ s.registry.seq? p.id = some seq := by
  obtain rfl := Event.sent?_eq_some.mp sent
  obtain ⟨p, taken, found, turned, rfl⟩ := books.turn_of_producer? member rfl
  cases turned.causes _ member with
  | accepted live => exact ⟨p, List.mem_of_find?_eq_some found, rfl, live⟩

theorem Enrolled.not_over_of_sent (enrolled : Enrolled past s) (books : s.Books events after)
    (made : (id, seq) ∈ registrations past) {e : Event} (member : e ∈ events) {message : Message}
    (sent : e.sent? seq = some message) : ¬ Over id seq s := by
  obtain ⟨p, running, rfl, live⟩ := books.live_of_sent member sent
  obtain rfl : id = p.id := enrolled.unique made (enrolled.named p running)
  exact fun finished => finished.2 live

/-- Where a registration stands in the past: nothing of it comes before, and nothing is accepted
from it after it has been silenced. -/
def Hushed (past : List Event) (s : Session) : Prop :=
  ∀ before later id seq, past = before ++ .registered id seq :: later →
    Untouched seq before ∧
      later.Pairwise (fun first second => first.Silences id seq → second.sent? seq = none) ∧
      ((∃ e ∈ later, e.Silences id seq) → Over id seq s)

/-- Within a step only the first event can be a message of an operation. -/
theorem Books.sent_first (books : s.Books events after) (seq : Nat) :
    ∀ e ∈ events.tail, e.sent? seq = none := by
  intro e member
  refine Option.eq_none_iff_forall_ne_some.mpr fun message sent => ?_
  obtain rfl := Event.sent?_eq_some.mp sent
  obtain ⟨p, taken, found, turned, rfl⟩ :=
    books.turn_of_producer? (List.mem_of_mem_tail member) rfl
  exact turned.accepted_first member

/-- A registration is the last thing that happens in its step. -/
theorem Books.registered_last (books : s.Books events after) {first second : List Event}
    (split : events = first ++ .registered id seq :: second) :
    second = [] ∧ seq = s.registry.lastSeq + 1 ∧ ∀ number, Untouched number first := by
  have member : .registered id seq ∈ events := by simp [split]
  cases books with
  | keeps registry producers harmless =>
    exact absurd (harmless _ member).1.2 (by simp [Event.registration?])
  | leaves | frees => simp at member
  | shuts registry producers common =>
    exact absurd (common _ member).2 (by simp [Event.registration?])
  | enrols decoded known free =>
    obtain ⟨-, -, rfl, -⟩ := Registry.register_eq_ok free
    rcases first with _ | ⟨arrived, _ | ⟨other, first⟩⟩
    · simp at split
    · simp only [List.cons_append, List.nil_append, List.cons.injEq,
        Event.registered.injEq] at split
      obtain ⟨rfl, ⟨-, rfl⟩, rfl⟩ := split
      exact ⟨rfl, rfl, by simp [Untouched, Event.producer?]⟩
    · simp at split
  | produces found turned =>
    exact absurd (turned.causes _ member).producer?.1 (by simp [Event.registration?])

theorem Hushed.step (hushed : Hushed past s) (enrolled : Enrolled past s) (orderly : s.Orderly)
    (books : s.Books events after) : Hushed (past ++ events) after := by
  intro before later id seq split
  obtain ⟨middle, old, new⟩ | ⟨middle, rfl, new⟩ :
      (∃ middle, past = before ++ .registered id seq :: middle ∧ later = middle ++ events) ∨
        ∃ middle, before = past ++ middle ∧ events = middle ++ .registered id seq :: later :=
    append_eq_append_cons split
  · -- The registration is from the past: what is silenced by now is over.
    obtain ⟨untouched, silent, finished⟩ := hushed _ _ _ _ old
    have made : (id, seq) ∈ registrations past := mem_registrations.mpr (by simp [old])
    subst new
    refine ⟨untouched, List.pairwise_append.mpr ⟨silent, ?_, ?_⟩, ?_⟩
    · cases events with
      | nil => exact .nil
      | cons e rest =>
        have unsent := books.sent_first seq
        exact List.pairwise_cons.mpr ⟨fun second member _ => unsent second member,
          List.pairwise_of_forall_mem_list fun _ _ second member _ => unsent second member⟩
    · intro first earlier second new silenced
      refine Option.eq_none_iff_forall_ne_some.mpr fun message sent => ?_
      exact enrolled.not_over_of_sent books made new sent (finished ⟨first, earlier, silenced⟩)
    · rintro ⟨e, member, silenced⟩
      rcases List.mem_append.mp member with earlier | new
      · exact (finished ⟨e, earlier, silenced⟩).step books
      · exact enrolled.over_of_silences orderly books made new silenced
  · -- The registration is new, and the last thing in its step.
    obtain ⟨rfl, rfl, apart⟩ := books.registered_last new
    have fresh : Untouched (s.registry.lastSeq + 1) past := enrolled.untouched (by omega)
    refine ⟨fun e member => ?_, .nil, by simp⟩
    exact (List.mem_append.mp member).elim (fresh e) (apart _ e)

theorem hushed_nil (s : Session) : Hushed [] s := by
  intro before later id seq split
  simp at split

/-- What is known of every run: the account of the registrations, and their silence. -/
theorem enrolled_hushed_of_reaches {config : SessionConfig} {connectionId : String}
    {engine : Engine} {interceptors : InterceptorChain} {half : WriteHalf} {now : Nat}
    {shutdown : Bool}
    (run : Reaches (.new config connectionId engine interceptors half now shutdown) events s) :
    Enrolled events s ∧ Hushed events s := by
  have orderly := orderly_new config connectionId engine interceptors half now shutdown
  have start := enrolled_new config connectionId engine interceptors half now shutdown
  exact run.history (P := fun past s => Enrolled past s ∧ Hushed past s)
    (fun orderly ⟨enrolled, hushed⟩ does =>
      have books := books_of_does orderly does
      ⟨enrolled.step books, hushed.step enrolled orderly books⟩)
    orderly ⟨start, hushed_nil _⟩

end Session

end SubscriptionGateway
