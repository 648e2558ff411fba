import Mathlib.Algebra.BigOperators.Group.List.Basic
import SubscriptionGateway.Proofs.Session.Runs
import SubscriptionGateway.Server.Gateway

/-! Connections side by side. They share nothing but the log, so that each of them runs as if it
were alone, and what adds up over the log adds up over the connections. The gateway is such a
fleet: whatever it does, it opens a connection or lets some of them move. -/
namespace SubscriptionGateway

namespace Fleet

inductive Step : List Session → List Event → List Session → Prop where
  | opens (sessions : List Session) (config : SessionConfig) (connectionId : String)
      (engine : Engine) (interceptors : InterceptorChain) (half : WriteHalf) (now : Nat)
      (shutdown : Bool) :
      Step sessions [.opened]
        (sessions ++ [.new config connectionId engine interceptors half now shutdown])
  | moves {before after : List Session} {s t : Session} {events : List Event}
      (step : Session.Step s events t) :
      Step (before ++ s :: after) events (before ++ t :: after)
  /-- The transport of a connection answers a ping, of which the connection knows nothing. -/
  | pongs (sessions : List Session) (payload : String) :
      Step sessions [.ponged payload] sessions

inductive Reaches : List Session → List Event → List Session → Prop where
  | refl (sessions : List Session) : Reaches sessions [] sessions
  | step {sessions middle last : List Session} {first rest : List Event}
      (head : Step sessions first middle) (tail : Reaches middle rest last) :
      Reaches sessions (first ++ rest) last

theorem Reaches.trans {sessions middle last : List Session} {first rest : List Event}
    (h : Reaches sessions first middle) (t : Reaches middle rest last) :
    Reaches sessions (first ++ rest) last := by
  induction h with
  | refl => exact t
  | step head _ ih => simpa only [List.append_assoc] using Reaches.step head (ih t)

/-- Whatever each step keeps, the log so far considered, holds at the end of a run. -/
theorem Reaches.history {P : List Event → List Session → Prop}
    (preserved : ∀ {past events : List Event} {sessions after : List Session},
      P past sessions → Step sessions events after → P (past ++ events) after)
    {sessions last : List Session} {log : List Event} (run : Reaches sessions log last)
    {past : List Event} (holds : P past sessions) : P (past ++ log) last := by
  induction run generalizing past with
  | refl => simpa using holds
  | step head tail ih =>
    rw [← List.append_assoc]
    exact ih (preserved holds head)

structure Member where
  session : Session
  past : List Event
  lives : ∃ config connectionId engine interceptors half now shutdown,
    Session.Reaches (.new config connectionId engine interceptors half now shutdown) past session

/-- A quantity that adds up over the events and does not depend on the answers of the transport. -/
structure Tally {M : Type} [AddCommMonoid M] (f : List Event → M) : Prop where
  nil : f [] = 0
  append : ∀ first second, f (first ++ second) = f first + f second
  ponged : ∀ payload, f [.ponged payload] = 0

theorem tally_countP {q : Event → Bool} (silent : ∀ payload, q (.ponged payload) = false) :
    Tally (List.countP q) where
  nil := rfl
  append _ _ := List.countP_append
  ponged payload := by simp [silent payload]

/-- Each connection runs as if it were alone, and the log consists of what happens on them. -/
def Recorded (log : List Event) (sessions : List Session) (members : List Member) : Prop :=
  members.map Member.session = sessions ∧
    ∀ {M : Type} [AddCommMonoid M] {f : List Event → M}, Tally f →
      f log = (members.map fun m => f [.opened] + f m.past).sum

theorem Recorded.step {log events : List Event} {sessions after : List Session}
    {members : List Member} (recorded : Recorded log sessions members)
    (step : Step sessions events after) :
    ∃ members, Recorded (log ++ events) after members := by
  obtain ⟨same, sums⟩ := recorded
  cases step with
  | opens _ config connectionId engine interceptors half now shutdown =>
    let opened : Member := ⟨.new config connectionId engine interceptors half now shutdown, [],
      config, connectionId, engine, interceptors, half, now, shutdown, .refl _⟩
    refine ⟨members ++ [opened], by simp [same, opened], fun tally => ?_⟩
    rw [tally.append, sums tally]
    simp [opened, tally.nil]
  | pongs payload =>
    refine ⟨members, same, fun tally => ?_⟩
    rw [tally.append, tally.ponged, add_zero, sums tally]
  | @moves before after s t events step =>
    obtain ⟨first, rest, rfl, rfl, others⟩ := List.map_eq_append_iff.mp same
    obtain ⟨m, second, rfl, rfl, rfl⟩ := List.map_eq_cons_iff.mp others
    obtain ⟨config, connectionId, engine, interceptors, half, now, shutdown, run⟩ := m.lives
    let moved : Member := ⟨t, m.past ++ events,
      config, connectionId, engine, interceptors, half, now, shutdown, run.snoc step⟩
    refine ⟨first ++ moved :: second, by simp [moved], fun tally => ?_⟩
    rw [tally.append, sums tally]
    simp only [List.map_append, List.map_cons, List.sum_append, List.sum_cons, moved, tally.append]
    ac_rfl

theorem exists_members {log : List Event} {sessions : List Session}
    (run : Reaches [] log sessions) : ∃ members, Recorded log sessions members := by
  have empty : ∃ members, Recorded [] [] members :=
    ⟨[], rfl, fun tally => by simpa using tally.nil⟩
  have all := run.history (P := fun past sessions => ∃ members, Recorded past sessions members)
    (fun ⟨members, recorded⟩ step => recorded.step step) empty
  exact all

/-- A tally that is known of every run of one connection is a sum over the connections. -/
theorem Recorded.sum_eq {log : List Event} {sessions : List Session} {members : List Member}
    (recorded : Recorded log sessions members) {M : Type} [AddCommMonoid M] {f : List Event → M}
    (tally : Tally f) {own : Session → M}
    (known : ∀ m : Member, f [.opened] + f m.past = own m.session) :
    f log = (sessions.map own).sum := by
  obtain ⟨rfl, sums⟩ := recorded
  rw [sums tally, List.map_map, List.map_congr_left fun m _ => known m]
  rfl

/-- A connection that runs alone runs in a fleet as well. -/
theorem Reaches.of_session {sessions : List Session} {config : SessionConfig}
    {connectionId : String} {engine : Engine} {interceptors : InterceptorChain} {half : WriteHalf}
    {now : Nat} {shutdown : Bool} {past : List Event} {s : Session}
    (run : Session.Reaches (.new config connectionId engine interceptors half now shutdown) past
      s) : Reaches sessions (.opened :: past) (sessions ++ [s]) := by
  have moves {start last : Session} {events : List Event}
      (run : Session.Reaches start events last) :
      Reaches (sessions ++ [start]) events (sessions ++ [last]) := by
    induction run with
    | refl => exact .refl _
    | step head tail ih => exact .step (.moves head) ih
  exact .step (.opens sessions config connectionId engine interceptors half now shutdown)
    (moves run)

theorem Step.reaches {sessions after : List Session} {events : List Event}
    (step : Step sessions events after) : Reaches sessions events after := by
  simpa using Reaches.step step (.refl after)

/-- All connections may be stirred at once. -/
theorem reaches_stimulate (cause : Session.Stimulus) (sessions : List Session) :
    Reaches sessions [] (sessions.map fun s => s.stimulate cause) := by
  have onwards (before : List Session) :
      Reaches (before ++ sessions) [] (before ++ sessions.map fun s => s.stimulate cause) := by
    induction sessions generalizing before with
    | nil => exact .refl _
    | cons s rest ih =>
      have head : Step (before ++ s :: rest) [] (before ++ s.stimulate cause :: rest) :=
        .moves (.stimulus s cause)
      have tail := ih (before ++ [s.stimulate cause])
      rw [List.append_assoc, List.append_assoc] at tail
      exact .step head tail
  exact onwards []

/-- One of the connections moves. -/
theorem step_modify {sessions : List Session} {position : Nat} {s : Session}
    (found : sessions[position]? = some s) {change : Session → Session} {events : List Event}
    (step : Session.Step s events (change s)) :
    Step sessions events (sessions.modify position change) := by
  obtain ⟨bound, rfl⟩ := List.getElem?_eq_some_iff.mp found
  obtain ⟨before, t, after, rfl, rfl, modified⟩ := List.exists_of_modify change bound
  rw [modified]
  simp only [List.getElem_append_right (Nat.le_refl _), Nat.sub_self,
    List.getElem_cons_zero] at step
  exact .moves step

end Fleet

namespace Gateway

variable {g after : Gateway} {events : List GatewayEvent}

def sessions (g : Gateway) : List Session := g.hosted.map Hosted.session

inductive Step : Gateway → List GatewayEvent → Gateway → Prop where
  | task {g after : Gateway} {t : GatewayTask} {events : List GatewayEvent}
      (taken : g.turn t = some (after, events)) : Step g events after
  /-- A request is answered, in view of what has happened. -/
  | responds (g : Gateway) (seen : List Event) (r : HttpRequest) :
      Step g (g.respond seen r).2.2 (g.respond seen r).2.1
  | receives (g : Gateway) (position : Nat) (frame : SocketFrame) :
      Step g (g.receive position frame).2 (g.receive position frame).1
  | losesPeer (g : Gateway) (position : Nat) : Step g [] (g.losePeer position)
  | shutsDown (g : Gateway) : Step g [] g.requestShutdown
  | passes (g : Gateway) (time : Nat) : Step g [] (g.setNow time)

inductive Reaches : Gateway → List GatewayEvent → Gateway → Prop where
  | refl (g : Gateway) : Reaches g [] g
  | step {g middle last : Gateway} {first rest : List GatewayEvent}
      (head : Step g first middle) (tail : Reaches middle rest last) :
      Reaches g (first ++ rest) last

theorem session?_eq (g : Gateway) (position : Nat) :
    g.session? position = g.sessions[position]? := by
  simp [session?, sessions]

theorem sessions_update (g : Gateway) (position : Nat) (change : Session → Session) :
    (g.update position change).sessions = g.sessions.modify position change := by
  refine List.ext_getElem? fun i => ?_
  simp only [sessions, update, List.getElem?_map, List.getElem?_modify]
  by_cases same : position = i <;> simp [same, Function.comp_def]

theorem sessions_settleSlot (g : Gateway) (position : Nat) :
    (g.settleSlot position).sessions = g.sessions := by
  unfold settleSlot
  split
  · next session slot found =>
    split
    · refine List.ext_getElem? fun i => ?_
      simp only [sessions, List.getElem?_map, List.getElem?_set]
      by_cases same : position = i
      · subst same
        obtain ⟨bound, there⟩ := List.getElem?_eq_some_iff.mp found
        simp [bound, there]
      · simp [same]
    · rfl
  · rfl

/-- A connection that is stirred may be one that the gateway does not have. -/
theorem reaches_update (g : Gateway) (position : Nat) (cause : Session.Stimulus) :
    Fleet.Reaches g.sessions []
      (g.update position fun s => s.stimulate cause).sessions := by
  rw [sessions_update]
  cases found : g.sessions[position]? with
  | none =>
    rw [List.modify_eq_self (List.getElem?_eq_none_iff.mp found)]
    exact .refl _
  | some s => exact (Fleet.step_modify found (.stimulus s cause)).reaches

theorem reaches_turn {t : GatewayTask} (taken : g.turn t = some (after, events)) :
    Fleet.Reaches g.sessions (events.map GatewayEvent.event) after.sessions := by
  obtain ⟨⟨s, caused⟩, turned, made⟩ := Option.map_eq_some_iff.mp taken
  cases made
  obtain ⟨before, found, turned⟩ := Option.bind_eq_some_iff.mp turned
  rw [session?_eq] at found
  have moved : Fleet.Step g.sessions caused (g.sessions.modify t.position fun _ => s) :=
    Fleet.step_modify found (.task turned)
  rw [sessions_settleSlot, sessions_update]
  simpa [Function.comp_def] using moved.reaches

theorem reaches_accept (g : Gateway) :
    Fleet.Reaches g.sessions (g.accept.2.map GatewayEvent.event) g.accept.1.sessions := by
  have opened := Fleet.Step.opens g.sessions g.config.connection g.nextConnectionId g.engine
    g.interceptors .direct g.now g.shutdown
  simpa [accept, sessions] using opened.reaches

theorem reaches_upgrade (g : Gateway) (r : HttpRequest) :
    Fleet.Reaches g.sessions ((g.upgrade r).2.2.map GatewayEvent.event)
      (g.upgrade r).2.1.sessions := by
  unfold upgrade
  split
  · exact .refl _
  · split
    · exact .refl _
    · next slot tracker reserved =>
      split
      · exact .refl _
      · exact reaches_accept { g with tracker }

theorem reaches_respond (g : Gateway) (seen : List Event) (r : HttpRequest) :
    Fleet.Reaches g.sessions ((g.respond seen r).2.2.map GatewayEvent.event)
      (g.respond seen r).2.1.sessions := by
  have upgraded := g.reaches_upgrade r
  unfold respond
  dsimp only
  split
  · exact .refl _
  · split
    · exact .refl _
    · split
      · exact .refl _
      · split
        · exact .refl _
        · split <;> exact .refl _
        · split
          · next response rest eq =>
            rw [eq] at upgraded
            exact upgraded
          · exact upgraded

theorem reaches_receive (g : Gateway) (position : Nat) (frame : SocketFrame) :
    Fleet.Reaches g.sessions ((g.receive position frame).2.map GatewayEvent.event)
      (g.receive position frame).1.sessions := by
  unfold receive
  split
  · exact g.reaches_update position _
  · cases g.pong? position frame with
    | none => exact .refl _
    | some payload => exact (Fleet.Step.pongs g.sessions payload).reaches

theorem sessions_map_stimulate (g : Gateway) (cause : Session.Stimulus) :
    (g.hosted.map fun h => { h with session := h.session.stimulate cause }).map Hosted.session =
      g.sessions.map fun s => s.stimulate cause := by
  simp [sessions]

/-- The gateway is a fleet. -/
theorem Step.fleet (step : Step g events after) :
    Fleet.Reaches g.sessions (events.map GatewayEvent.event) after.sessions := by
  cases step with
  | task taken => exact reaches_turn taken
  | responds seen r => exact g.reaches_respond seen r
  | receives position frame => exact g.reaches_receive position frame
  | losesPeer position => exact g.reaches_update position .losePeer
  | shutsDown =>
    have stirred := Fleet.reaches_stimulate .requestShutdown g.sessions
    rwa [← sessions_map_stimulate] at stirred
  | passes time =>
    have stirred := Fleet.reaches_stimulate (.clock time) g.sessions
    rwa [← sessions_map_stimulate] at stirred

theorem Reaches.fleet (run : Reaches g events after) :
    Fleet.Reaches g.sessions (events.map GatewayEvent.event) after.sessions := by
  induction run with
  | refl => exact .refl _
  | step head tail ih =>
    rw [List.map_append]
    exact head.fleet.trans ih

end Gateway

end SubscriptionGateway
