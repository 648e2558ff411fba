import SubscriptionGateway.Proofs.Session.Silence

/-! What the client gets of an operation, whatever happens around it: the messages that the queue
accepts follow the answer of the engine, and none comes after the operation is over for the client,
be it through its terminal message, through the client's `complete` or through the end of the
connection. -/
namespace SubscriptionGateway

theorem Answer.errors_ne_nil {a : Answer} {id other : String} {count : Nat}
    {errors : List GraphQlError} (member : .error other errors ∈ a.messages id count) :
    errors ≠ [] := by
  rcases List.mem_append.mp member with reported | last
  · obtain ⟨element, -, made⟩ := List.mem_map.mp reported
    cases element with
    | ok value => cases made
    | error cause => cases made; exact cause.errors_ne_nil
  · split at last <;> simp at last

theorem FollowsAnswer.errors_ne_nil {id other : String} {seq : Nat} {events : List Event}
    (h : FollowsAnswer id seq events) {errors : List GraphQlError}
    (member : .error other errors ∈ sentBy seq events) : errors ≠ [] := by
  unfold FollowsAnswer at h
  split at h
  · rw [h.1] at member; cases member
  · obtain ⟨⟨count, before⟩, -⟩ := h
    exact Answer.errors_ne_nil (before.subset member)
  · exact h.elim

namespace Session

variable {past events : List Event} {s after : Session} {id : String} {seq : Nat}

/-- Behind a closed registry no operation is heard of any more. -/
theorem sentBy_eq_nil_of_closed {last : Session} (run : Reaches s events last)
    (orderly : s.Orderly) (closed : s.registry.closed = true) (seq : Nat) :
    sentBy seq events = [] := by
  have start : s.registry.closed = true ∧ sentBy seq [] = [] := ⟨closed, rfl⟩
  have quiet := run.history (P := fun past s => s.registry.closed = true ∧ sentBy seq past = [])
    (fun {past events s after} orderly ⟨closed, silent⟩ does => ?_) orderly start
  · exact quiet.2
  · have books := books_of_does orderly does
    refine ⟨books.closed closed, ?_⟩
    rw [sentBy_append, silent, List.nil_append]
    refine List.filterMap_eq_nil_iff.mpr fun e member => ?_
    refine Option.eq_none_iff_forall_ne_some.mpr fun message sent => ?_
    obtain ⟨p, -, -, live⟩ := books.live_of_sent member sent
    simp [Registry.entries_nil_iff.mp (orderly.sound.emptied closed)] at live

/-- In every run, and for every registration in it: the messages that the queue accepts of the
operation are a beginning of the messages of the engine's answer, all of them if the operation
completes or fails; none comes before the registration, none after it has been silenced; if the id
is registered again, the messages of the two are apart in time; and behind a closed registry there
are no more. -/
theorem messages_of_registration {config : SessionConfig} {connectionId : String}
    {engine : Engine} {interceptors : InterceptorChain} {half : WriteHalf} {now : Nat}
    {shutdown : Bool} {before later : List Event}
    (run : Reaches (.new config connectionId engine interceptors half now shutdown) events s)
    (registered : events = before ++ .registered id seq :: later) :
    Untouched seq before ∧ FollowsAnswer id seq events ∧
      (∀ other errors, .error other errors ∈ sentBy seq events → errors ≠ []) ∧
      later.Pairwise (fun first second => first.Silences id seq → second.sent? seq = none) ∧
      (∀ middle number rest, later = middle ++ .registered id number :: rest →
        sentBy seq rest = [] ∧ sentBy number (before ++ .registered id seq :: middle) = []) ∧
      (s.registry.closed = true →
        ∀ rest last, Reaches s rest last → sentBy seq rest = []) := by
  obtain ⟨enrolled, hushed⟩ := enrolled_hushed_of_reaches run
  have made : (id, seq) ∈ registrations events := mem_registrations.mpr (by simp [registered])
  obtain ⟨untouched, silent, -⟩ := hushed _ _ _ _ registered
  refine ⟨untouched, enrolled.followsAnswer made, ?_, silent, ?_, ?_⟩
  · intro other errors member
    exact (enrolled.followsAnswer made).errors_ne_nil member
  · intro middle number rest split
    subst split
    constructor
    · rw [List.pairwise_append, List.pairwise_cons] at silent
      exact List.filterMap_eq_nil_iff.mpr fun e member => silent.2.1.1 e member rfl
    · have again :
          events = (before ++ .registered id seq :: middle) ++ .registered id number :: rest := by
        simp [registered]
      exact (hushed _ _ _ _ again).1.eq_nil.1
  · intro closed rest last onwards
    have orderly := orderly_of_reaches run
      (orderly_new config connectionId engine interceptors half now shutdown)
    exact sentBy_eq_nil_of_closed onwards orderly closed seq

/-- An id that is used twice: the client completes the first operation after its only result, and
the producer of it finds out after the second operation has completed. -/
theorem messages_of_id_used_twice : ∃ events last before later,
    Reaches (single 256 .direct) events last ∧ events = before ++ .registered "1" 1 :: later ∧
      sentBy 1 events = [.next "1" (.ofData (.integer 1))] ∧ fatesOf 1 events = [.cancelled] ∧
      sentBy 2 events = [.next "1" (.ofData (.integer 1)), .complete "1"] ∧
      fatesOf 2 events = [.completed] ∧ FollowsAnswer "1" 1 events ∧
      later.Pairwise (fun first second => first.Silences "1" 1 → second.sent? 1 = none) := by
  obtain ⟨events, last, run, seen⟩ := exists_reaches_of_play (single 256 .direct)
    (hearing (.connectionInit none) ++ hearing (subscribing "1") ++ producing 1 4 ++
      hearing (.complete "1") ++ hearing (subscribing "1") ++ producing 2 6 ++ producing 1 1)
    (fun events _ => decide (("1", 1) ∈ registrations events ∧
      sentBy 1 events = [.next "1" (.ofData (.integer 1))] ∧ fatesOf 1 events = [.cancelled] ∧
      sentBy 2 events = [.next "1" (.ofData (.integer 1)), .complete "1"] ∧
      fatesOf 2 events = [.completed])) (by decide +kernel)
  obtain ⟨made, seen⟩ := of_decide_eq_true seen
  obtain ⟨before, later, split⟩ := List.append_of_mem (mem_registrations.mp made)
  obtain ⟨-, follows, -, silent, -⟩ := messages_of_registration run split
  exact ⟨events, last, before, later, run, split, seen.1, seen.2.1, seen.2.2.1, seen.2.2.2, follows,
    silent⟩

end Session

end SubscriptionGateway
