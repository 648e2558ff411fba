import SubscriptionGateway.Proofs.Session.Runs

/-! Runs in which the registry is the connection's own: nobody else closes it, and so it is open as
long as the connection is. -/
namespace SubscriptionGateway.Session

variable {start s after last : Session} {past events : List Event}

/-- Steps in any order in which nobody else closes the registry. -/
inductive Undisturbed (start : Session) : List Event → Session → Prop where
  | start : Undisturbed start [] start
  | turn {past events : List Event} {s after : Session} {task : SessionTask}
      (run : Undisturbed start past s) (taken : s.turn task = some (after, events)) :
      Undisturbed start (past ++ events) after
  | input {past : List Event} {s : Session} (run : Undisturbed start past s) (cause : Stimulus)
      (other : cause ≠ .closeRegistry) : Undisturbed start past (s.stimulate cause)

theorem Undisturbed.reaches (run : Undisturbed start past s) : Reaches start past s := by
  induction run with
  | start => exact .refl start
  | turn run taken ih => exact ih.snoc (.task taken)
  | @input past s run cause other ih => simpa using ih.snoc (.stimulus s cause)

def Opens (s : Session) : Prop := s.phase ≠ .closed → s.registry.closed = false

theorem Takes.opens {item : InboundItem} (taken : s.Takes item events after) (opens : s.Opens) :
    after.Opens := by
  intro opened
  cases taken with
  | parts | breaks | rejects | objects => exact absurd rfl opened
  | greets decoded fresh => exact opens (by simp [fresh])
  | enrols decoded ready known free =>
    obtain ⟨isOpen, -, -, made⟩ := Registry.register_eq_ok free
    exact (congrArg Registry.closed made).trans isOpen
  | cancels => exact (Relay.closed_cancelId ..).trans (opens opened)
  | replies | ignores => exact opens opened

theorem opens_of_idleTurn (opens : s.Opens) (taken : s.idleTurn = some (after, events)) :
    after.Opens := by
  intro opened
  unfold idleTurn at taken
  split at taken
  · cases taken; exact absurd rfl opened
  · split at taken
    · cases taken; exact absurd rfl opened
    · split at taken
      · unfold tick at taken
        split at taken
        · split at taken
          · cases taken; exact opens opened
          · cases taken
        · cases taken
      · cases taken

theorem opens_of_connectionTurn (orderly : s.Orderly) (opens : s.Opens)
    (taken : s.connectionTurn = some (after, events)) : after.Opens := by
  intro opened
  unfold connectionTurn at taken
  split at taken
  · next running =>
    split at taken
    · cases taken; exact absurd rfl opened
    · split at taken
      · next item rest next =>
        cases taken
        have heard : ({ s with inbound := rest } : Session).Orderly :=
          orderly.of_registry rfl rfl rfl id orderly.sound
        have takes := takes_takeItem heard running item
        exact takes.opens opens opened
      · cases taken; exact absurd rfl opened
      · exact opens_of_idleTurn opens taken opened
  · next reason deadline waiting =>
    have closed : s.phase = .closed := by simpa [waiting] using orderly.running
    split at taken
    · cases taken; exact absurd closed opened
    · split at taken
      · cases taken; exact absurd closed opened
      · cases taken
  · cases taken

theorem opens_of_turn {task : SessionTask} (orderly : s.Orderly) (opens : s.Opens)
    (taken : s.turn task = some (after, events)) : after.Opens := by
  cases task with
  | connection => exact opens_of_connectionTurn orderly opens taken
  | relay task =>
    obtain ⟨⟨relay, caused⟩, turned, made⟩ := Option.map_eq_some_iff.mp taken
    cases made
    intro opened
    have registry : relay.registry.closed = s.registry.closed := by
      cases task with
      | writer =>
        simp only [Relay.turn] at turned
        split at turned
        · cases turned
        · obtain ⟨result, -, made⟩ := Option.map_eq_some_iff.mp turned
          cases made
          rfl
      | producer seq =>
        obtain ⟨p, result, found, turns, rfl, rfl⟩ := Relay.turns_of_producerTurn turned
        rcases turns.registry_eq with same | freed
        · exact congrArg Registry.closed same
        · exact (congrArg Registry.closed freed).trans rfl
    exact registry.trans (opens opened)

theorem Undisturbed.opens {config : SessionConfig} {connectionId : String} {engine : Engine}
    {interceptors : InterceptorChain} {half : WriteHalf} {now : Nat} {shutdown : Bool}
    (run : Undisturbed (.new config connectionId engine interceptors half now shutdown) past s) :
    s.Opens := by
  induction run with
  | start => exact fun _ => rfl
  | turn run taken ih =>
    have orderly := orderly_of_reaches run.reaches
      (orderly_new config connectionId engine interceptors half now shutdown)
    exact opens_of_turn orderly ih taken
  | @input past s run cause other ih =>
    cases cause with
    | closeRegistry => exact absurd rfl other
    | deliver | disconnect | losePeer | requestShutdown | changeEngine | clock => exact ih

def Move.isOwn : Move → Bool
  | .stimulus .closeRegistry => false
  | _ => true

theorem Undisturbed.play {moves : List Move} (run : Undisturbed start past s)
    (own : moves.all Move.isOwn = true) (played : play moves s = some (events, last)) :
    Undisturbed start (past ++ events) last := by
  induction moves generalizing s past events with
  | nil => cases played; simpa using run
  | cons m rest ih =>
    obtain ⟨middle, first, later, made, onwards, rfl⟩ := play_cons_eq_some played
    simp only [List.all_cons, Bool.and_eq_true] at own
    rw [← List.append_assoc]
    refine ih ?_ own.2 onwards
    cases m with
    | turn task => exact run.turn made
    | stimulus cause =>
      cases made
      have other : cause ≠ .closeRegistry := by
        rintro rfl
        cases own.1
      simpa using run.input cause other

theorem exists_undisturbed_of_play (s : Session) (moves : List Move)
    (own : moves.all Move.isOwn = true) (seen : List Event → Session → Bool)
    (h : (Session.play moves s).any (fun played => seen played.1 played.2) = true) :
    ∃ events last, Undisturbed s events last ∧ seen events last = true := by
  cases played : Session.play moves s with
  | none => simp [played] at h
  | some run => exact ⟨run.1, run.2, Undisturbed.start.play own played, by simpa [played] using h⟩

end SubscriptionGateway.Session
