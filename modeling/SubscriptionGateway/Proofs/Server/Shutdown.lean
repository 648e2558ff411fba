import SubscriptionGateway.Proofs.Server.Upgrades
import SubscriptionGateway.Proofs.Session.Shutdown

/-! A shutdown of the server, and all of its connections. Each of them comes to its end as if it
were alone, and nobody gets in any more. -/
namespace SubscriptionGateway

namespace Fleet

variable {sessions after last : List Session} {log since events : List Event} {position : Nat}
  {s : Session}

/-- The part of one connection in a step of the fleet. -/
theorem Step.own (step : Step sessions events after) (found : sessions[position]? = some s) :
    ∃ own t, after[position]? = some t ∧ Session.Reaches s own t ∧ own.Sublist events := by
  cases step with
  | opens =>
    refine ⟨[], s, ?_, .refl s, List.nil_sublist _⟩
    rw [List.getElem?_append_left (List.getElem?_eq_some_iff.mp found).1]
    exact found
  | pongs => exact ⟨[], s, found, .refl s, List.nil_sublist _⟩
  | @moves before later u v events step =>
    by_cases here : position = before.length
    · subst here
      obtain rfl : u = s := by simpa using found
      exact ⟨events, v, by simp, by simpa using Session.Reaches.step step (.refl v),
        List.Sublist.refl events⟩
    · refine ⟨[], s, ?_, .refl s, List.nil_sublist _⟩
      rw [Upgrades.getElem?_moved u v, if_neg here, found]

/-- The part of one connection in a run of the fleet. -/
theorem Reaches.own (run : Reaches sessions events last)
    (found : sessions[position]? = some s) :
    ∃ own t, last[position]? = some t ∧ Session.Reaches s own t ∧ own.Sublist events := by
  induction run generalizing s with
  | refl => exact ⟨[], s, found, .refl s, List.nil_sublist _⟩
  | step head _ ih =>
    obtain ⟨first, middle, at1, ran, part⟩ := head.own found
    obtain ⟨rest, t, there, onwards, more⟩ := ih at1
    exact ⟨first ++ rest, t, there, ran.trans onwards, part.append more⟩

def Lives (past : List Event) (s : Session) : Prop :=
  ∃ config connectionId engine interceptors half now shutdown,
    Session.Reaches (.new config connectionId engine interceptors half now shutdown) past s

theorem exists_past (run : Reaches [] log sessions) (member : s ∈ sessions) :
    ∃ past, Lives past s := by
  obtain ⟨members, rfl, -⟩ := exists_members run
  obtain ⟨m, -, rfl⟩ := List.mem_map.mp member
  exact ⟨m.past, m.lives⟩

/-- The shutdown that was requested of some connections has ended all of them. -/
def AllShutDown (sessions : List Session) (since : List Event) (last : List Session) : Prop :=
  ∀ (position : Nat) (s : Session), sessions[position]? = some s →
    ∃ past own t, Lives past s ∧ last[position]? = some t ∧
      Session.Reaches (s.stimulate .requestShutdown) own t ∧ own.Sublist since ∧
      Session.ShutDown past s own t ∧ (.closing .goingAway ∈ own → t.closesWith 1001 = true)

theorem closesWith_of_told {past : List Event} {t : Session} (told : Session.Told past t)
    {reason : CloseReason} (closing : .closing reason ∈ past) :
    t.closesWith reason.code = true := by
  have known : reason ∈ closings past := mem_closings.mpr closing
  rw [told.closings, Option.mem_toList] at known
  rw [Session.closesWith, Option.mem_def.mp known]
  exact beq_self_eq_true _

theorem reaches_asked (early : Reaches [] log sessions) :
    Reaches [] log (sessions.map fun s => s.stimulate .requestShutdown) := by
  simpa using early.trans (reaches_stimulate .requestShutdown sessions)

theorem settles_of_shutdown (run : Reaches [] log sessions) (member : s ∈ sessions)
    (asked : s.shutdown = true) : s.Settles := by
  obtain ⟨past, config, connectionId, engine, interceptors, half, now, shutdown, own⟩ :=
    exists_past run member
  exact Session.settles_of_shutdown own asked

/-- Nobody who was asked forgets the shutdown. -/
theorem asked_of_reaches (run : Reaches [] log sessions) (asked : ∀ s ∈ sessions, s.shutdown = true)
    (late : Reaches sessions since last) (same : last.length = sessions.length)
    (member : s ∈ last) : s.shutdown = true := by
  obtain ⟨position, there⟩ := List.mem_iff_getElem?.mp member
  have bound : position < sessions.length := same ▸ (List.getElem?_eq_some_iff.mp there).1
  have found : sessions[position]? = some sessions[position] := List.getElem?_eq_getElem bound
  have start := List.mem_of_getElem? found
  obtain ⟨past, config, connectionId, engine, interceptors, half, now, shutdown, early⟩ :=
    exists_past run start
  obtain ⟨own, t, at1, onwards, -⟩ := late.own found
  obtain rfl : t = s := Option.some.inj (at1.symm.trans there)
  exact onwards.shutdown (Session.known_of_reaches early).orderly (asked _ start)

theorem allShutDown (early : Reaches [] log sessions)
    (late : Reaches (sessions.map fun s => s.stimulate .requestShutdown) since last)
    (idle : ∀ s ∈ last, s.Idle) : AllShutDown sessions since last := by
  intro position s found
  obtain ⟨past, config, connectionId, engine, interceptors, half, now, shutdown, run⟩ :=
    exists_past early (List.mem_of_getElem? found)
  have asked : (sessions.map fun s => s.stimulate .requestShutdown)[position]? =
      some (s.stimulate .requestShutdown) := by simp [found]
  obtain ⟨own, t, there, onwards, part⟩ := late.own asked
  have ends := Session.shutDown_of_reaches run onwards (idle t (List.mem_of_getElem? there))
  exact ⟨past, own, t, ⟨config, connectionId, engine, interceptors, half, now, shutdown, run⟩,
    there, onwards, part, ends, fun decided =>
      closesWith_of_told ends.told (List.mem_append_right _ decided)⟩

end Fleet

namespace Gateway

variable {g after last : Gateway} {events : List GatewayEvent}

/-- While the server shuts down, no request changes anything. -/
theorem respond_of_shutdown (down : g.shutdown = true) (seen : List Event) (r : HttpRequest) :
    (g.respond seen r).2 = (g, []) := by
  unfold respond
  dsimp only
  rw [upgrade_of_shutdown down]
  split
  · rfl
  · split
    · rfl
    · split
      · rfl
      · split
        · rfl
        · split <;> rfl
        · rfl

theorem answer_of_shutdown (down : g.shutdown = true) (seen : List Event) {r : HttpRequest}
    (route : g.route? r.path = some .socket) (get : r.method = "GET") :
    (g.respond seen r).1 = .refused ⟨503, .text "server shutting down"⟩ := by
  simp [respond, route, get, upgrade_of_shutdown down, forMethod]

theorem shutdown_settleSlot (g : Gateway) (position : Nat) :
    (g.settleSlot position).shutdown = g.shutdown := by
  unfold settleSlot
  split
  · split <;> rfl
  · rfl

theorem Step.shutdown (step : Step g events after) (down : g.shutdown = true) :
    after.shutdown = true ∧ after.sessions.length = g.sessions.length := by
  cases step with
  | task taken =>
    obtain ⟨turned, -, made⟩ := Option.map_eq_some_iff.mp taken
    cases made
    rw [shutdown_settleSlot, sessions_settleSlot, sessions_update, List.length_modify]
    exact ⟨down, rfl⟩
  | responds seen r =>
    rw [respond_of_shutdown down]
    exact ⟨down, rfl⟩
  | receives position frame =>
    unfold receive
    split
    · exact ⟨down, by rw [sessions_update, List.length_modify]⟩
    · exact ⟨down, rfl⟩
  | losesPeer position => exact ⟨down, by rw [losePeer, sessions_update, List.length_modify]⟩
  | shutsDown => exact ⟨rfl, by simp [sessions, requestShutdown]⟩
  | passes time => exact ⟨down, by simp [sessions, setNow]⟩

theorem Reaches.shutdown (run : Reaches g events after) (down : g.shutdown = true) :
    after.shutdown = true ∧ after.sessions.length = g.sessions.length := by
  induction run with
  | refl => exact ⟨down, rfl⟩
  | step head _ ih =>
    obtain ⟨still, same⟩ := head.shutdown down
    obtain ⟨ends, length⟩ := ih still
    exact ⟨ends, length.trans same⟩

theorem idle_iff (g : Gateway) : (∀ task, g.turn task = none) ↔ ∀ s ∈ g.sessions, s.Idle := by
  constructor
  · intro idle s member task
    obtain ⟨position, found⟩ := List.mem_iff_getElem?.mp member
    have waits := idle ⟨position, task⟩
    simpa [turn, session?_eq, found] using waits
  · intro idle task
    rw [turn, session?_eq]
    cases found : g.sessions[task.position]? with
    | none => rfl
    | some s => simp [idle s (List.mem_of_getElem? found) task.task]

theorem exists_turn {position : Nat} {s t : Session} {task : SessionTask} {caused : List Event}
    (found : g.sessions[position]? = some s) (taken : s.turn task = some (t, caused)) :
    ∃ after events, g.turn ⟨position, task⟩ = some (after, events) ∧
      after.sessions = g.sessions.set position t := by
  have turned : g.turn ⟨position, task⟩ =
      some ((g.update position fun _ => t).settleSlot position,
        caused.map fun event => ⟨position, event⟩) := by
    simp [turn, session?_eq, found, taken]
  refine ⟨_, _, turned, ?_⟩
  rw [sessions_settleSlot, sessions_update, List.set_eq_modify]

section Rest

variable {front back : List Session} {s : Session} {tasks : List SessionTask}

/-- One more connection comes to rest, and then all that is to come to rest behind it. -/
theorem exists_rest_of_next (rests : RestsBy Session.turn s tasks)
    (behind : ∀ (g : Gateway) (t : Session), g.sessions = front ++ t :: back → t.Idle →
      ∃ tasks, RestsBy Gateway.turn g tasks)
    (split : g.sessions = front ++ s :: back) : ∃ tasks, RestsBy Gateway.turn g tasks := by
  induction rests generalizing g with
  | waits idle => exact behind g _ split idle
  | @goesOn s t task events tasks taken _ ih =>
    have found : g.sessions[front.length]? = some s := by simp [split]
    obtain ⟨after, log, turned, moved⟩ := exists_turn found taken
    obtain ⟨later, rests⟩ := @ih after (by simp [moved, split])
    exact ⟨_, .goesOn turned rests⟩

theorem exists_rest_of_split (idle : ∀ s ∈ front, s.Idle)
    (rests : ∀ s ∈ back, ∃ tasks, RestsBy Session.turn s tasks)
    (split : g.sessions = front ++ back) : ∃ tasks, RestsBy Gateway.turn g tasks := by
  induction back generalizing front g with
  | nil => exact ⟨[], .waits (g.idle_iff.mpr (by simpa [split] using idle))⟩
  | cons s back ih =>
    obtain ⟨tasks, first⟩ := rests s List.mem_cons_self
    refine exists_rest_of_next first (fun g t split waits => ?_) split
    refine @ih g (front ++ [t]) (fun u member => ?_)
      (fun u member => rests u (List.mem_cons_of_mem s member)) (by simp [split])
    rcases List.mem_append.mp member with old | new
    · exact idle u old
    · exact List.mem_singleton.mp new ▸ waits

/-- Each connection that comes to rest alone does so beside the others. -/
theorem exists_rest (rests : ∀ s ∈ g.sessions, ∃ tasks, RestsBy Session.turn s tasks) :
    ∃ tasks, RestsBy Gateway.turn g tasks :=
  exists_rest_of_split (by simp) rests (List.nil_append _).symm

end Rest

/-- Whenever the server begins to shut down, with any connections in whatever states, and however
things go on from there. Each connection can come to rest, and its own task gets there in a number
of turns that only depends on what it is sent; so does the gateway. Once every task waits, each
connection that there was is closed, has nothing left to run, and takes nothing any more. If it was
open, one step has torn it down; that was for the shutdown, with the code 1001, unless by then the
queue had overflowed, something had arrived or the deadline of the handshake had come. No upgrade
that is handled after the request gets in: it is answered with 503, and nothing changes. -/
theorem shutdown_ends_all :
    (∀ {sessions : List Session} {log : List Event}, Fleet.Reaches [] log sessions →
      (∀ s ∈ sessions, (s.stimulate .requestShutdown).Settles) ∧
      ∀ {last : List Session} {since : List Event},
        Fleet.Reaches (sessions.map fun s => s.stimulate .requestShutdown) since last →
        (∀ s ∈ last, s.Idle) → Fleet.AllShutDown sessions since last) ∧
    ∀ {config : ServerConfig} {socketRoute : RoutePattern} {engine : Engine}
      {interceptors : InterceptorChain} {servesMetrics : Bool} {log since : List GatewayEvent}
      {g last : Gateway},
      Reaches (.new config socketRoute engine interceptors servesMetrics) log g →
      Reaches g.requestShutdown since last →
      last.sessions.length = g.sessions.length ∧
      (∀ r, last.upgrade r = (.refused ⟨503, .text "server shutting down"⟩, last, [])) ∧
      (∀ seen r, (last.respond seen r).2 = (last, []) ∧
        (last.route? r.path = some .socket → r.method = "GET" →
          (last.respond seen r).1 = .refused ⟨503, .text "server shutting down"⟩)) ∧
      (∃ tasks, RestsBy Gateway.turn last tasks) ∧
      ((∀ task, last.turn task = none) →
        Fleet.AllShutDown g.sessions (since.map GatewayEvent.event) last.sessions) := by
  refine ⟨fun early => ⟨fun s member => ?_, Fleet.allShutDown early⟩, fun {config socketRoute
    engine interceptors servesMetrics log since g last} early late => ?_⟩
  · exact Fleet.settles_of_shutdown (Fleet.reaches_asked early) (List.mem_map_of_mem member) rfl
  obtain ⟨down, length⟩ := late.shutdown rfl
  have same : g.requestShutdown.sessions = g.sessions.map fun s => s.stimulate .requestShutdown :=
    sessions_map_stimulate g .requestShutdown
  have requested := Fleet.reaches_asked early.fleet
  have asked : ∀ s ∈ g.requestShutdown.sessions, s.shutdown = true := by
    rw [same]
    exact List.forall_mem_map.mpr fun s _ => rfl
  refine ⟨by simpa [same] using length, upgrade_of_shutdown down, fun seen r =>
    ⟨respond_of_shutdown down seen r, answer_of_shutdown down seen⟩, ?_, fun idle => ?_⟩
  · refine last.exists_rest fun s member => ?_
    have still := Fleet.asked_of_reaches (same ▸ requested) asked late.fleet length member
    exact (Fleet.settles_of_shutdown ((same ▸ requested).trans late.fleet) member still).rests
  · exact Fleet.allShutDown early.fleet (same ▸ late.fleet) (last.idle_iff.mp idle)

/-- A step as somebody chooses it: a turn, a client that asks for a connection, or a message. -/
inductive Move where
  | turn (task : GatewayTask)
  | asks
  | sends (position : Nat) (message : Message)

def move (g : Gateway) : Move → Option Gateway
  | .turn task => (g.turn task).map Prod.fst
  | .asks => some g.asked
  | .sends position message => some (g.receive position (.text message.encode)).1

def play (moves : List Move) (g : Gateway) : Option Gateway := moves.foldlM move g

theorem step_of_move {m : Move} (made : g.move m = some after) : ∃ events, Step g events after := by
  cases m with
  | turn task =>
    obtain ⟨⟨_, events⟩, taken, rfl⟩ := Option.map_eq_some_iff.mp made
    exact ⟨events, .task taken⟩
  | asks =>
    cases made
    exact ⟨_, .responds g [] (.webSocket "/graphql" [])⟩
  | sends position message =>
    cases made
    exact ⟨_, .receives g position (.text message.encode)⟩

/-- What is seen of a gateway that comes out of something, is seen of some gateway. -/
theorem exists_of_any {made : Option Gateway} {seen : Gateway → Bool} (h : made.any seen = true) :
    ∃ g, made = some g ∧ seen g = true := by
  cases made with
  | none => cases h
  | some g => exact ⟨g, rfl, h⟩

theorem reaches_of_play {moves : List Move} (played : g.play moves = some last) :
    ∃ log, Reaches g log last := by
  induction moves generalizing g with
  | nil =>
    cases played
    exact ⟨[], .refl _⟩
  | cons m rest ih =>
    obtain ⟨middle, made, played⟩ := Option.bind_eq_some_iff.mp played
    obtain ⟨first, step⟩ := step_of_move made
    obtain ⟨later, onwards⟩ := ih played
    exact ⟨first ++ later, .step step onwards⟩

def patient : Gateway :=
  .new ServerConfig.default ⟨"/graphql".toList.map .char⟩ (fun _ _ => .ofSteps [] .stall) [] false

/-- Of two clients the first has an operation that goes on, and the second has sent a message before
its handshake, which nobody has taken yet. -/
def engaged : List Move :=
  [.asks, .asks, .sends 0 (.connectionInit none), .turn ⟨0, .connection⟩,
    .sends 0 (Session.subscribing "1"), .turn ⟨0, .connection⟩] ++
    List.replicate 3 (.turn ⟨0, .relay (.producer 1)⟩) ++ [.sends 1 (.ping none)]

def retiring : List Move :=
  [.turn ⟨0, .connection⟩, .turn ⟨1, .connection⟩, .turn ⟨0, .relay (.producer 1)⟩] ++
    List.replicate 4 (.turn ⟨0, .relay .writer⟩) ++ List.replicate 2 (.turn ⟨1, .relay .writer⟩) ++
    [.turn ⟨0, .connection⟩, .turn ⟨1, .connection⟩]

/-- The first connection is closed for the shutdown, and the second for its message. -/
theorem shutdown_of_engaged : ∃ log since g last, Reaches patient log g ∧
    Reaches g.requestShutdown since last ∧ g.liveOperations = 1 ∧
    (∀ r, last.upgrade r = (.refused ⟨503, .text "server shutting down"⟩, last, [])) ∧
    last.sessions.map (·.closesWith 1001) = [true, false] ∧
    Fleet.AllShutDown g.sessions (since.map GatewayEvent.event) last.sessions := by
  have seen : (patient.play engaged).any (fun g => g.liveOperations == 1 &&
      (g.requestShutdown.play retiring).any fun last => last.sessions.all Session.isIdle &&
        last.sessions.map (·.closesWith 1001) == [true, false]) := by decide +kernel
  obtain ⟨g, played, seen⟩ := exists_of_any seen
  rw [Bool.and_eq_true, beq_iff_eq] at seen
  obtain ⟨one, seen⟩ := seen
  obtain ⟨last, retired, seen⟩ := exists_of_any seen
  simp only [Bool.and_eq_true, beq_iff_eq, List.all_eq_true] at seen
  obtain ⟨idle, closed⟩ := seen
  obtain ⟨log, early⟩ := reaches_of_play played
  obtain ⟨since, late⟩ := reaches_of_play retired
  obtain ⟨-, refused, -, -, ends⟩ := shutdown_ends_all.2 early late
  have waits := last.idle_iff.mpr fun s member => Session.idle_iff.mpr (idle s member)
  exact ⟨log, since, g, last, early, late, one, refused, closed, ends waits⟩

end Gateway

end SubscriptionGateway
