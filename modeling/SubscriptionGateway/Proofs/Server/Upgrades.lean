import SubscriptionGateway.Proofs.Server.Accounts
import SubscriptionGateway.Proofs.Server.Slots

/-! The slots of the gateway. The gateway handles each upgrade at a stretch, which is one of the
orders in which handlers may take their steps; so its count is that of the connections that have not
ended, and what it knows are their registries. -/
namespace SubscriptionGateway

namespace Session

theorem hasEnded_stimulate (s : Session) (cause : Stimulus) :
    (s.stimulate cause).hasEnded = s.hasEnded := by
  cases cause <;> rfl

/-- A connection that is over stays over. -/
theorem hasEnded_of_turn {s after : Session} {task : SessionTask} {events : List Event}
    (taken : s.turn task = some (after, events)) (finished : s.hasEnded = true) :
    after.hasEnded = true := by
  cases task with
  | connection =>
    cases stage : s.stage with
    | ended => rw [turn_connection_of_ended stage] at taken; cases taken
    | running | closing => simp [hasEnded, stage, Stage.outcome?] at finished
  | relay task =>
    obtain ⟨made, -, same⟩ := Option.map_eq_some_iff.mp taken
    cases same
    exact finished

end Session

namespace Gateway

def idAt (position : Nat) : String := "connection-" ++ toString position

theorem idAt_inj {first second : Nat} (same : idAt first = idAt second) : first = second := by
  have texts : toString first = toString second := (String.append_right_inj _).mp same
  have digits : Nat.toDigits 10 first = Nat.toDigits 10 second := String.ofList_injective texts
  rw [← Nat.ofDigitChars_ten_toDigits (n := first), digits, Nat.ofDigitChars_ten_toDigits]

def liveFrom (position : Nat) (ended : List Bool) : List (String × Nat) :=
  (ended.zipIdx position).filterMap fun (finished, i) => if finished then none else some (idAt i, i)

theorem liveFrom_append (position : Nat) (first second : List Bool) :
    liveFrom position (first ++ second) =
      liveFrom position first ++ liveFrom (position + first.length) second := by
  rw [liveFrom, List.zipIdx_append, List.filterMap_append]
  rfl

theorem liveFrom_cons (position : Nat) (finished : Bool) (rest : List Bool) :
    liveFrom position (finished :: rest) =
      (if finished then [] else [(idAt position, position)]) ++ liveFrom (position + 1) rest := by
  cases finished <;> simp [liveFrom]

/-- As many are known as have not ended, and their operations add up. -/
theorem sum_liveFrom {sessions : List Session} {position : Nat} {size : Nat → Nat}
    (known : ∀ i s, sessions[i]? = some s → size (position + i) = s.registry.size) :
    (liveFrom position (sessions.map Session.hasEnded)).length =
        sessions.countP (fun s => !s.hasEnded) ∧
      ((liveFrom position (sessions.map Session.hasEnded)).map fun entry => size entry.2).sum =
        ((sessions.filter fun s => !s.hasEnded).map fun s => s.registry.size).sum := by
  induction sessions generalizing position with
  | nil => exact ⟨rfl, rfl⟩
  | cons s rest ih =>
    have here : size position = s.registry.size := known 0 s rfl
    obtain ⟨length, sum⟩ := @ih (position + 1) fun i s found => by
      rw [Nat.add_right_comm]
      exact known (i + 1) s found
    rw [List.map_cons, liveFrom_cons]
    cases finished : s.hasEnded with
    | true => simpa [finished] using ⟨length, sum⟩
    | false => simp [finished, here, length, sum]

theorem position_of_mem_liveFrom {position : Nat} {ended : List Bool} {entry : String × Nat}
    (member : entry ∈ liveFrom position ended) :
    entry.1 = idAt entry.2 ∧ position ≤ entry.2 ∧ entry.2 < position + ended.length := by
  obtain ⟨⟨finished, i⟩, known, made⟩ := List.mem_filterMap.mp member
  obtain ⟨le, lt, -⟩ := List.mem_zipIdx known
  cases finished with
  | true => cases made
  | false =>
    cases made
    exact ⟨rfl, le, by omega⟩

def marks (g : Gateway) : List (Option Slot × Bool) :=
  g.hosted.map fun h => (h.slot, h.session.hasEnded)

def ended (g : Gateway) : List Bool := g.marks.map Prod.snd

theorem ended_eq (g : Gateway) : g.ended = g.sessions.map Session.hasEnded := by
  simp [ended, marks, sessions, Function.comp_def]

/-- A request that is not an upgrade changes nothing. -/
theorem respond_cases (g : Gateway) (seen : List Event) (r : HttpRequest) :
    (g.respond seen r).2.1 = g ∨ (g.respond seen r).2.1 = (g.upgrade r).2.1 := by
  unfold respond
  dsimp only
  split
  · exact .inl rfl
  · split
    · exact .inl rfl
    · split
      · exact .inl rfl
      · split
        · exact .inl rfl
        · split <;> exact .inl rfl
        · split
          · next eq => exact .inr (by rw [eq])
          · exact .inr rfl

/-- Each connection has a slot until it has ended, bound to its own id. -/
def Kept (g : Gateway) : Prop :=
  ∀ (position : Nat) (slot : Option Slot) (finished : Bool),
    g.marks[position]? = some (slot, finished) →
      slot = if finished then none else some ⟨some (idAt position)⟩

variable {g after : Gateway} {events : List GatewayEvent}

theorem marks_update (g : Gateway) (position : Nat) (cause : Session.Stimulus) :
    (g.update position fun s => s.stimulate cause).marks = g.marks := by
  refine List.ext_getElem? fun i => ?_
  simp only [marks, update, List.getElem?_map, List.getElem?_modify]
  by_cases here : position = i <;>
    simp [here, Function.comp_def, Session.hasEnded_stimulate]

theorem marks_stirred (g : Gateway) (cause : Session.Stimulus) :
    (g.hosted.map fun h => { h with session := h.session.stimulate cause }).map
      (fun h => (h.slot, h.session.hasEnded)) = g.marks := by
  simp [marks, Function.comp_def, Session.hasEnded_stimulate]

theorem settleSlot_eq {before later : List Hosted} {h : Hosted}
    (hosted : g.hosted = before ++ h :: later) :
    g.settleSlot before.length =
      match h.session.hasEnded, h.slot with
      | true, some slot =>
        { g with
          tracker := g.tracker.release slot
          hosted := before ++ { h with slot := none } :: later }
      | _, _ => g := by
  obtain ⟨session, slot⟩ := h
  have found : g.hosted[before.length]? = some ⟨session, slot⟩ := by simp [hosted]
  unfold settleSlot Session.hasEnded
  rw [found]
  cases slot with
  | none => cases session.stage <;> rfl
  | some slot => cases stage : session.stage <;> simp [stage, hosted, Stage.outcome?]

/-- A turn of the gateway is one of some connection, whose slot is settled then. -/
theorem exists_of_turn {t : GatewayTask} (taken : g.turn t = some (after, events)) :
    ∃ before h later session, g.hosted = before ++ h :: later ∧
      (h.session.hasEnded = true → session.hasEnded = true) ∧
      after = ({ g with hosted := before ++ { h with session } :: later } : Gateway).settleSlot
        before.length := by
  obtain ⟨⟨session, caused⟩, turned, made⟩ := Option.map_eq_some_iff.mp taken
  cases made
  obtain ⟨s, found, turned⟩ := Option.bind_eq_some_iff.mp turned
  obtain ⟨h, known, rfl⟩ := Option.map_eq_some_iff.mp found
  obtain ⟨bound, rfl⟩ := List.getElem?_eq_some_iff.mp known
  obtain ⟨before, h, later, hosted, length, modified⟩ :=
    List.exists_of_modify (fun h : Hosted => { h with session }) bound
  refine ⟨before, h, later, session, hosted, ?_, ?_⟩
  · have here : g.hosted[t.position] = h := by simp [hosted, ← length]
    exact Session.hasEnded_of_turn (here ▸ turned)
  · rw [update, modified, length]

/-- A connection that is opened gets the slot of its position. -/
theorem Kept.opens (kept : g.Kept)
    (opened : after.marks = g.marks ++ [(some ⟨some (idAt g.marks.length)⟩, false)]) :
    after.Kept := by
  intro position slot finished found
  rw [opened] at found
  obtain ⟨bound, -⟩ := List.getElem?_eq_some_iff.mp found
  rcases Nat.lt_succ_iff_lt_or_eq.mp (by simpa using bound) with old | rfl
  · rw [List.getElem?_append_left old] at found
    exact kept position slot finished found
  · rw [List.getElem?_concat_length] at found
    cases found
    rfl

/-- A connection that ends loses its slot. -/
theorem Kept.ends (kept : g.Kept) {first second : List (Option Slot × Bool)}
    {mark : Option Slot × Bool} (before : g.marks = first ++ mark :: second)
    (ended : after.marks = first ++ (none, true) :: second) : after.Kept := by
  intro position slot finished found
  rw [ended, Upgrades.getElem?_moved mark] at found
  split at found
  · cases found
    rfl
  · exact kept position slot finished (before ▸ found)

/-- Some handlers, all of them at rest, that have left things as they are at the gateway. -/
structure Mirrors (g : Gateway) (u : Upgrades Nat) : Prop where
  tracker : u.tracker = g.tracker
  shutdown : u.shutdown = g.shutdown
  entries : u.handlers.filterMap Handler.entry? = liveFrom 0 g.ended
  settled : ∀ h ∈ u.handlers, h.isSettled = true
  kept : g.Kept

namespace Mirrors

variable {u : Upgrades Nat}

theorem done {t : Tracker Nat} {shutdown : Bool} {handlers : List (Handler Nat)} {h : Handler Nat}
    (m : Mirrors g ⟨t, shutdown, handlers⟩) (settled : h.isSettled = true)
    (unknown : h.entry? = none) : Mirrors g ⟨t, shutdown, handlers ++ [h]⟩ := by
  refine ⟨m.tracker, m.shutdown, ?_, fun other member => ?_, m.kept⟩
  · simpa [List.filterMap_cons, unknown] using m.entries
  · rcases List.mem_append.mp member with old | new
    · exact m.settled other old
    · exact List.mem_singleton.mp new ▸ settled

/-- An upgrade is handled from its arrival until the answer is given. -/
theorem upgrade (m : Mirrors g u) (r : HttpRequest) :
    ∃ log u', Upgrades.Reaches u log u' ∧ Mirrors (g.upgrade r).2.1 u' := by
  obtain ⟨t, shutdown, handlers⟩ := u
  obtain rfl : t = g.tracker := m.tracker
  obtain rfl : shutdown = g.shutdown := m.shutdown
  have arrives : Upgrades.Step ⟨g.tracker, g.shutdown, handlers⟩ []
    ⟨g.tracker, g.shutdown, handlers ++ [.arrived]⟩ := .arrives _
  unfold Gateway.upgrade
  split
  · next down =>
    have turnsAway := Upgrades.step_last _ handlers
      (Handler.Step.turnsAway g.tracker down) (by simp [Handler.entry?])
    exact ⟨_, _, .step arrives (.step turnsAway (.refl _)), m.done rfl rfl⟩
  · next up =>
    have admits := Upgrades.step_last _ handlers
      (Handler.Step.admits g.tracker (Bool.eq_false_iff.mpr up)) (by simp [Handler.entry?])
    split
    · next full =>
      have refuses := Upgrades.step_last g.shutdown handlers
        (Handler.Step.refuses full) (by simp [Handler.entry?])
      exact ⟨_, _, .step arrives (.step admits (.step refuses (.refl _))), m.done rfl rfl⟩
    · next slot tracker taken =>
      have reserves := Upgrades.step_last g.shutdown handlers
        (Handler.Step.reserves taken) (by simp [Handler.entry?])
      split
      · have rejects := Upgrades.step_last g.shutdown handlers
          (Handler.Step.rejects tracker slot) (by simp [Handler.entry?])
        have gives := Upgrades.step_last g.shutdown handlers
          (Handler.Step.gives (tracker.unbind slot) false) (by simp [Handler.entry?])
        have restored : (tracker.unbind slot).lower = g.tracker := by
          rw [← Tracker.release_eq, Tracker.release_reserve? taken]
        rw [restored] at gives
        refine ⟨_, _, .step arrives (.step admits (.step reserves (.step rejects
          (.step gives (.refl _))))), ?_⟩
        rw [Tracker.release_reserve? taken]
        exact m.done rfl rfl
      · let id := g.nextConnectionId
        have unshared : ∀ other ∈ handlers.filterMap Handler.entry?, other.1 ≠ id := by
          intro other member same
          rw [m.entries] at member
          obtain ⟨named, -, lt⟩ := position_of_mem_liveFrom member
          have last : other.2 = g.hosted.length := idAt_inj (named.symm.trans same)
          simp [ended, marks, last] at lt
        have binds := Upgrades.step_last g.shutdown handlers
          (Handler.Step.binds tracker slot id g.hosted.length) (by rintro _ ⟨⟩; exact unshared)
        have opened : (({ g with tracker } : Gateway).accept.1).marks =
            g.marks ++ [(some ⟨some (idAt g.marks.length)⟩, false)] := by
          simp only [accept, marks, List.map_append, List.length_map]
          rfl
        refine ⟨_, _, .step arrives (.step admits (.step reserves (.step binds (.refl _)))),
          rfl, rfl, ?_, fun h member => ?_, m.kept.opens opened⟩
        · have length : g.ended.length = g.hosted.length := by simp [ended, marks]
          have onwards : (({ g with tracker } : Gateway).accept.1).ended = g.ended ++ [false] := by
            rw [ended, opened, List.map_append]
            rfl
          rw [onwards, liveFrom_append, ← m.entries, List.filterMap_append, liveFrom_cons, length,
            Nat.zero_add]
          rfl
        · rcases List.mem_append.mp member with old | new
          · exact m.settled h old
          · cases List.mem_singleton.mp new
            rfl

/-- What changes neither the slots nor which connections have ended is no concern of the handlers,
but a shutdown. -/
theorem stirred (m : Mirrors g u) (tracker : after.tracker = g.tracker)
    (shutdown : u.shutdown = after.shutdown) (same : after.marks = g.marks) : Mirrors after u :=
  ⟨m.tracker.trans tracker.symm, shutdown, by rw [m.entries, ended, ended, same], m.settled,
    fun position slot finished found => m.kept position slot finished (same ▸ found)⟩

/-- A handler whose connection has ended gives its slot back. -/
theorem ends (m : Mirrors g u) (bound : ∀ h ∈ u.handlers, h.Bound)
    (first second : List (Option Slot × Bool)) (slot : Option Slot)
    (before : g.marks = first ++ (slot, false) :: second)
    (tracker : after.tracker = g.tracker.release ⟨some (idAt first.length)⟩)
    (shutdown : after.shutdown = g.shutdown)
    (ended : after.marks = first ++ (none, true) :: second) :
    ∃ log u', Upgrades.Reaches u log u' ∧ Mirrors after u' := by
  obtain ⟨t, down, handlers⟩ := u
  obtain rfl : t = g.tracker := m.tracker
  obtain rfl : down = g.shutdown := m.shutdown
  let entry := (idAt first.length, first.length)
  have entries : handlers.filterMap Handler.entry? =
      liveFrom 0 (first.map Prod.snd) ++
        entry :: liveFrom (first.length + 1) (second.map Prod.snd) := by
    rw [m.entries, Gateway.ended, before, List.map_append, List.map_cons, liveFrom_append,
      liveFrom_cons, List.length_map, Nat.zero_add]
    rfl
  obtain ⟨front, back, rfl, entriesFront, entriesBack⟩ := List.filterMap_eq_append_iff.mp entries
  obtain ⟨idle, h, later, rfl, silent, entryHere, entriesLater⟩ :=
    List.filterMap_eq_cons_iff.mp entriesBack
  rw [← List.append_assoc] at m bound ⊢
  -- The handler serves that connection, and its slot is bound as the connection's is.
  obtain ⟨own, rfl, named⟩ : ∃ own : Slot, h = .serving own entry.1 entry.2 ∧
      own.connectionId = some entry.1 := by
    have bound := bound h (by simp)
    cases h with
    | serving own id registry =>
      obtain ⟨rfl, rfl⟩ : id = entry.1 ∧ registry = entry.2 :=
        Prod.mk.inj (Option.some.inj entryHere)
      exact ⟨own, rfl, bound⟩
    | _ => cases entryHere
  obtain rfl : own = ⟨some entry.1⟩ := by
    cases own
    exact congrArg Slot.mk named
  let unbound := g.tracker.unbind ⟨some entry.1⟩
  let serving : Handler Nat := .serving ⟨some entry.1⟩ entry.1 entry.2
  have leaves : Upgrades.Step ⟨g.tracker, g.shutdown, (front ++ idle) ++ serving :: later⟩ []
      ⟨unbound, g.shutdown, (front ++ idle) ++ .leaving true :: later⟩ :=
    .moves _ _ (.ends _ _ _ _) (by simp [Handler.entry?])
  have gives : Upgrades.Step ⟨unbound, g.shutdown, (front ++ idle) ++ .leaving true :: later⟩
      [⟨(front ++ idle).length, .returned⟩]
      ⟨unbound.lower, g.shutdown, (front ++ idle) ++ .gone true :: later⟩ :=
    .moves _ _ (.gives _ _) (by simp [Handler.entry?])
  have known : (front ++ idle).filterMap Handler.entry? = liveFrom 0 (first.map Prod.snd) := by
    rw [List.filterMap_append, entriesFront, List.filterMap_eq_nil_iff.mpr silent, List.append_nil]
  refine ⟨_, _, .step leaves (.step gives (.refl _)), ?_, shutdown.symm, ?_, ?_,
    m.kept.ends before ended⟩
  · rw [tracker, Tracker.release_eq]
  · rw [Gateway.ended, ended, List.map_append, List.map_cons, liveFrom_append, liveFrom_cons,
      List.filterMap_append, List.filterMap_cons, known, entriesLater, List.length_map,
      Nat.zero_add]
    rfl
  · intro other member
    rcases List.mem_append.mp member with old | new
    · exact m.settled other (List.mem_append_left _ old)
    · rcases List.mem_cons.mp new with rfl | old
      · rfl
      · exact m.settled other (List.mem_append_right _ (List.mem_cons_of_mem _ old))

/-- The turns of a connection are no concern of the handlers, but the one that ends it. -/
theorem turn (m : Mirrors g u) (bound : ∀ h ∈ u.handlers, h.Bound) {t : GatewayTask}
    (taken : g.turn t = some (after, events)) :
    ∃ log u', Upgrades.Reaches u log u' ∧ Mirrors after u' := by
  obtain ⟨before, h, later, session, hosted, stays, rfl⟩ := exists_of_turn taken
  have slot : h.slot = if h.session.hasEnded then none else some ⟨some (idAt before.length)⟩ :=
    m.kept before.length h.slot h.session.hasEnded (by simp [marks, hosted])
  rw [settleSlot_eq rfl]
  cases finished : h.session.hasEnded with
  | true =>
    rw [stays finished, slot, finished]
    exact ⟨_, _, .refl _, m.stirred rfl m.shutdown
      (by simp [marks, hosted, finished, stays finished, slot])⟩
  | false =>
    cases ends : session.hasEnded with
    | false =>
      exact ⟨_, _, .refl _, m.stirred rfl m.shutdown (by simp [marks, hosted, finished, ends])⟩
    | true =>
      rw [slot, finished]
      refine m.ends bound (before.map fun h => (h.slot, h.session.hasEnded))
        (later.map fun h => (h.slot, h.session.hasEnded)) h.slot
        (by simp [marks, hosted, finished]) ?_ rfl (by simp [marks, ends])
      rw [List.length_map]
      rfl

theorem step (m : Mirrors g u) (bound : ∀ h ∈ u.handlers, h.Bound) (step : Step g events after) :
    ∃ log u', Upgrades.Reaches u log u' ∧ Mirrors after u' := by
  have stays {g' : Gateway} (tracker : g'.tracker = g.tracker) (shutdown : g'.shutdown = g.shutdown)
      (same : g'.marks = g.marks) : ∃ log u', Upgrades.Reaches u log u' ∧ Mirrors g' u' :=
    ⟨_, _, .refl _, m.stirred tracker (m.shutdown.trans shutdown.symm) same⟩
  cases step with
  | task taken => exact m.turn bound taken
  | responds seen r =>
    rcases respond_cases g seen r with same | upgraded
    · rw [same]
      exact stays rfl rfl rfl
    · rw [upgraded]
      exact m.upgrade r
  | receives position frame =>
    unfold receive
    split
    · exact stays rfl rfl (marks_update g position _)
    · exact stays rfl rfl rfl
  | losesPeer position => exact stays rfl rfl (marks_update g position .losePeer)
  | shutsDown =>
    have same : g.requestShutdown.marks = g.marks := marks_stirred g .requestShutdown
    exact ⟨_, _, .step (.shutsDown u) (.refl _), m.tracker, rfl,
      by rw [m.entries, ended, ended, same], m.settled,
      fun position slot finished found => m.kept position slot finished (same ▸ found)⟩
  | passes time => exact stays rfl rfl (marks_stirred g (.clock time))

/-- What the gateway does with its slots is done by some handlers. -/
theorem exists_of_reaches {limit : Nat} {log : List SlotEvent}
    (run : Upgrades.Reaches (.new limit) log u) (m : Mirrors g u)
    (reaches : Reaches g events after) :
    ∃ log u', Upgrades.Reaches (.new limit) log u' ∧ Mirrors after u' := by
  induction reaches generalizing log u with
  | refl => exact ⟨log, u, run, m⟩
  | step head _ ih =>
    obtain ⟨later, u', onwards, m'⟩ := m.step (Upgrades.accounted_of_reaches run).bound head
    exact ih (run.trans onwards) m'

end Mirrors

/-- Whatever the handlers of upgrades do, in whatever order, the slots are in order. What the
gateway does with its slots is done by some such handlers; so at any time its count is the number of
the connections that have not ended, and the live operations that it knows of are those of these
connections. -/
theorem slots_are_in_order :
    (∀ {ρ : Type} {limit : Nat} {changes : List SlotEvent} {u : Upgrades ρ},
      Upgrades.Reaches (.new limit) changes u → u.InOrder limit changes) ∧
    ∀ {config : ServerConfig} {socketRoute : RoutePattern} {engine : Engine}
      {interceptors : InterceptorChain} {servesMetrics : Bool} {log : List GatewayEvent}
      {g : Gateway}, Reaches (.new config socketRoute engine interceptors servesMetrics) log g →
      (∃ changes u, Upgrades.Reaches (.new config.maxConnections) changes u ∧ Mirrors g u) ∧
      g.tracker.count = g.sessions.countP (fun s => !s.hasEnded) ∧
      g.liveOperations =
        ((g.sessions.filter fun s => !s.hasEnded).map fun s => s.registry.size).sum := by
  refine ⟨fun run => (Upgrades.accounted_of_reaches run).inOrder, fun {config socketRoute engine
    interceptors servesMetrics log g} run => ?_⟩
  have fresh : Mirrors (.new config socketRoute engine interceptors servesMetrics)
      (Upgrades.new config.maxConnections) :=
    ⟨rfl, rfl, rfl, by simp [Upgrades.new], fun position slot finished found => by cases found⟩
  obtain ⟨changes, u, ran, m⟩ := Mirrors.exists_of_reaches (.refl _) fresh run
  have inOrder := (Upgrades.accounted_of_reaches ran).inOrder
  have sizes : ∀ i s, g.sessions[i]? = some s → g.operations (0 + i) = s.registry.size := by
    intro i s found
    rw [operations, session?_eq, Nat.zero_add, found]
    rfl
  have sums := sum_liveFrom sizes
  rw [← ended_eq, ← m.entries] at sums
  refine ⟨⟨changes, u, ran, m⟩, ?_, ?_⟩
  · rw [← sums.1, ← m.tracker, inOrder.count_eq, List.length_filterMap_eq_countP]
    refine List.countP_congr fun h member => ?_
    have settled := m.settled h member
    cases h <;> first | rfl | cases settled
  · rw [← sums.2, liveOperations, ← m.tracker]
    exact inOrder.liveOperations_eq g.operations

def narrow : Gateway :=
  .new { ServerConfig.default with maxConnections := 1 } ⟨"/graphql".toList.map .char⟩
    (fun _ _ => .ofSteps [] .finish) [] false

def asked (g : Gateway) : Gateway := (g.respond [] (.webSocket "/graphql" [])).2.1

/-- Of two handlers that race for the only slot the first gets it, once, and gives it back, once.
The gateway with one place turns the second client away, and takes the third when the first has
gone. -/
theorem slots_of_race :
    (∃ changes u, Upgrades.Reaches (.new 1 : Upgrades Nat) changes u ∧
      u.tracker.count = u.handlers.countP Handler.holdsSlot ∧
      changes.count ⟨0, .taken⟩ = 1 ∧ changes.count ⟨0, .returned⟩ = 1 ∧
      changes.count ⟨1, .taken⟩ = 0) ∧
    ∃ log g, Reaches narrow log g ∧ g.hosted.length = 2 ∧ g.tracker.count = 1 ∧
      g.sessions.countP (fun s => !s.hasEnded) = 1 := by
  refine ⟨?_, ?_⟩
  · have none : ∀ entry ∈ (Option.none : Option (String × Nat)),
        ∀ other ∈ ([] : List (String × Nat)), other.1 ≠ entry.1 := by simp
    have run : Upgrades.Reaches (.new 1 : Upgrades Nat) _ _ :=
      .step (.arrives _) <| .step (.arrives _) <|
      .step (.moves [] [.arrived] (.admits _ rfl) none) <|
      .step (.moves [.admitted] [] (.admits _ rfl) none) <|
      .step (.moves [] [.admitted] (.reserves rfl) none) <|
      .step (.moves [.reserved ⟨.none⟩] [] (.refuses rfl) none) <|
      .step (.moves [] [.turnedAway false] (.binds _ _ "first" 7)
        (by simp [Handler.entry?])) <|
      .step (.moves [] [.turnedAway false] (.ends _ _ _ _) none) <|
      .step (.moves [] [.turnedAway false] (.gives _ _) none) <| .refl _
    have inOrder := slots_are_in_order.1 run
    have first := inOrder.uses 0 _ rfl
    have second := inOrder.uses 1 _ rfl
    exact ⟨_, _, run, inOrder.count_eq, first.1, first.2, second.1⟩
  · have left : ((narrow.asked.asked.losePeer 0).turn ⟨0, .connection⟩).any fun made =>
        made.1.asked.hosted.length == 2 && made.1.asked.tracker.count == 1 := by decide +kernel
    cases turned : (narrow.asked.asked.losePeer 0).turn ⟨0, .connection⟩ with
    | none => simp [turned] at left
    | some made =>
      obtain ⟨g, events⟩ := made
      have asks (g : Gateway) : Step g _ g.asked := .responds g [] (.webSocket "/graphql" [])
      have run : Reaches narrow _ g.asked :=
        .step (asks narrow) <| .step (asks narrow.asked) <| .step (.losesPeer _ 0) <|
        .step (.task turned) <| .step (asks g) <| .refl _
      simp only [turned, Option.any_some, Bool.and_eq_true, beq_iff_eq] at left
      exact ⟨_, _, run, left.1, left.2, (slots_are_in_order.2 run).2.1.symm.trans left.2⟩

end Gateway

end SubscriptionGateway
