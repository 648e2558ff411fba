import SubscriptionGateway.Greeting.Engine
import SubscriptionGateway.Proofs.Settings.Layers
import SubscriptionGateway.Server.Gateway

/-! What becomes of settings that are accepted when the server is built from them and a connection
is opened. Accepting them makes sure of some of what that takes, but not of all of it. -/
namespace SubscriptionGateway

/-- The greatest capacity that a channel can be made with. -/
def channelLimit : Nat := (UInt64.size - 1) / 8

def OutboundQueue.Allocatable (q : OutboundQueue) : Prop :=
  1 ≤ q.capacity ∧ q.capacity ≤ channelLimit

namespace RoutePattern

/-- Whether a path is a pattern as far as its own text goes. -/
structure WellFormed (path : String) : Prop where
  unmarked : hasBareMark path.toList = false
  paired : ∃ pieces, PatternToken.pieces? (PatternToken.scan path.toList) = some pieces ∧
    pieces.count .segment ≤ segmentLimit

theorem hasBareMark_of_plain {text : List Char} (plain : ∀ c ∈ text, c ≠ ':' ∧ c ≠ '*') :
    hasBareMark text = false := by
  fun_induction hasBareMark text with
  | case1 c later ih =>
    have rest := ih fun d member => plain d (List.mem_cons_of_mem _ member)
    simpa [rest] using plain c (by simp)
  | case2 _ later _ ih => exact ih fun d member => plain d (List.mem_cons_of_mem _ member)
  | case3 => rfl

theorem wellFormed_of_plain {path : String}
    (plain : ∀ c ∈ path.toList, c ∉ ['\x7b', '\x7d', ':', '*']) : WellFormed path where
  unmarked := hasBareMark_of_plain fun c member => by
    have other := plain c member
    simp only [List.mem_cons, List.not_mem_nil, or_false, not_or] at other
    exact other.2.2
  paired := by
    have unbraced : ∀ c ∈ path.toList, c ≠ '\x7b' ∧ c ≠ '\x7d' := fun c member => by
      have other := plain c member
      simp only [List.mem_cons, List.not_mem_nil, or_false, not_or] at other
      exact ⟨other.1, other.2.1⟩
    refine ⟨path.toList.map .char, ?_, ?_⟩
    · rw [PatternToken.scan_of_plain unbraced, PatternToken.pieces?_map_char]
    · have none : (path.toList.map PatternPiece.char).count .segment = 0 := by
        simp [List.count_eq_zero]
      rw [none]
      exact Nat.zero_le _

theorem isSome_ofPath? {path : String} (absolute : isAbsolutePath path = true) :
    (ofPath? path).isSome = true ↔ Route.ofFixedPath? path = none ∧ WellFormed path := by
  unfold ofPath?
  constructor
  · intro routed
    split at routed
    · next guard =>
      simp only [Bool.and_eq_true, Bool.not_eq_true', Option.isNone_iff_eq_none] at guard
      split at routed
      · next pieces paired =>
        split at routed
        · next few => exact ⟨guard.2, guard.1.2, pieces, paired, few⟩
        · cases routed
      · cases routed
    · cases routed
  · rintro ⟨free, unmarked, pieces, paired, few⟩
    simp [absolute, free, unmarked, paired, few]

end RoutePattern

theorem Route.ofFixedPath?_eq_none {path : String} :
    Route.ofFixedPath? path = none ↔ path ≠ "/health" ∧ path ≠ "/metrics" := by
  unfold Route.ofFixedPath?
  split
  · next same => simp [same]
  · next health =>
    split
    · next same => simp [same]
    · next metrics => simp [health, metrics]

namespace Settings

variable {source : SettingsSource} {env : Environment} {s : Settings}

theorem load_eq_ok (loaded : load source env = .ok s) :
    ∃ file, ofSource source = .ok file ∧ s = file.override env ∧ s.Runnable := by
  cases read : ofSource source with
  | error cause => cases (load_of_error env read).symm.trans loaded
  | ok file =>
    rw [load_of_ok env read] at loaded
    split at loaded
    · cases loaded
    · next faultless =>
      cases loaded
      exact ⟨file, rfl, rfl, (fault?_eq_none_iff _).mp faultless⟩

theorem allocatable_iff (positive : s.websocket.outboundBuffer ≠ 0) :
    (OutboundQueue.new s.websocket.outboundBuffer).Allocatable ↔
      s.websocket.outboundBuffer ≤ channelLimit := by
  have least : max s.websocket.outboundBuffer 1 = s.websocket.outboundBuffer := by omega
  simp only [OutboundQueue.Allocatable, OutboundQueue.new, least]
  exact and_iff_right (Nat.one_le_iff_ne_zero.mpr positive)

end Settings

namespace Gateway

theorem isSome_build? (config : ServerConfig) (engine : Engine) (interceptors : InterceptorChain)
    (servesMetrics : Bool) (absolute : isAbsolutePath config.path = true) :
    (build? config engine interceptors servesMetrics).isSome = true ↔
      (config.path ≠ "/health" ∧ config.path ≠ "/metrics") ∧
        RoutePattern.WellFormed config.path := by
  rw [build?, Option.isSome_map, RoutePattern.isSome_ofPath? absolute, Route.ofFixedPath?_eq_none]

theorem session?_accept_of_build? {config : ServerConfig} {engine : Engine}
    {interceptors : InterceptorChain} {servesMetrics : Bool} {g : Gateway}
    (built : build? config engine interceptors servesMetrics = some g) :
    ∃ opened, g.accept.1.session? 0 = some opened ∧
      opened.queue = .new config.connection.outboundBuffer := by
  obtain ⟨socketRoute, -, rfl⟩ := Option.map_eq_some_iff.mp built
  exact ⟨_, rfl, rfl⟩

variable {source : SettingsSource} {env : Environment} {s : Settings}

/-- Of settings that are accepted, the server can be built and its first connection opened exactly
if the path is not that of another route, is a pattern as far as its text goes, and the queue is not
too long for a channel. A path is such a pattern if it has no braces, colons or asterisks. The
length of the queue can be too great only if it comes from the file. -/
theorem run_of_accepted (loaded : Settings.load source env = .ok s) (engine : Engine)
    (interceptors : InterceptorChain) (servesMetrics : Bool) :
    isAbsolutePath s.server.path = true ∧
    ((∃ g opened, build? (.ofSettings s) engine interceptors servesMetrics = some g ∧
        g.accept.1.session? 0 = some opened ∧ opened.queue.Allocatable) ↔
      (s.server.path ≠ "/health" ∧ s.server.path ≠ "/metrics") ∧
        RoutePattern.WellFormed s.server.path ∧ s.websocket.outboundBuffer ≤ channelLimit) ∧
    ((∀ c ∈ s.server.path.toList, c ∉ ['\x7b', '\x7d', ':', '*']) →
      RoutePattern.WellFormed s.server.path) ∧
    ∀ n, env.number? "GQLWS_OUTBOUND_BUFFER" .outboundBuffer = some n →
      s.websocket.outboundBuffer ≤ channelLimit := by
  obtain ⟨file, read, layered, runnable⟩ := Settings.load_eq_ok loaded
  have routed : (build? (.ofSettings s) engine interceptors servesMetrics).isSome = true ↔
      (s.server.path ≠ "/health" ∧ s.server.path ≠ "/metrics") ∧
        RoutePattern.WellFormed s.server.path :=
    isSome_build? (.ofSettings s) engine interceptors servesMetrics runnable.absolute
  have allocatable := Settings.allocatable_iff runnable.outboundBuffer
  refine ⟨runnable.absolute, ?_, RoutePattern.wellFormed_of_plain, fun n given => ?_⟩
  · rw [← and_assoc, ← allocatable, ← routed]
    constructor
    · rintro ⟨g, opened, built, accepted, fits⟩
      obtain ⟨first, same, queue⟩ := session?_accept_of_build? built
      obtain rfl := Option.some.inj (same.symm.trans accepted)
      exact ⟨Option.isSome_of_mem built, queue ▸ fits⟩
    · rintro ⟨possible, fits⟩
      obtain ⟨g, built⟩ := Option.isSome_iff_exists.mp possible
      obtain ⟨first, accepted, queue⟩ := session?_accept_of_build? built
      exact ⟨g, first, built, accepted, queue ▸ fits⟩
  · have bounded := (Environment.number?_bounds given).2
    have taken : s.websocket.outboundBuffer = n := by simp [layered, Settings.override, given]
    rw [taken]
    exact bounded.trans (by decide)

def shortened : Settings :=
  ⟨{ ServerSettings.default with path := "/live" },
    { WebSocketSettings.default with outboundBuffer := 8 }, LoggingSettings.default⟩

/-- The theorem at a file whose queue is longer than any channel, under an environment that shortens
it. -/
theorem run_of_shortened :
    let text := "\x7b\"server\":\x7b\"path\":\"/live\"\x7d,"
      ++ "\"websocket\":\x7b\"outboundBuffer\":2305843009213693952\x7d\x7d"
    let env : Environment := fun name => List.lookup name [("GQLWS_OUTBOUND_BUFFER", "+8")]
    Settings.load (.file text.toUTF8) env = .ok shortened ∧
      env.number? "GQLWS_OUTBOUND_BUFFER" .outboundBuffer = some 8 ∧
      shortened.websocket.outboundBuffer ≤ channelLimit ∧
      ∃ g opened,
        build? (.ofSettings shortened) (Greeting.engine Greeting.defaultInterval) [] true = some g ∧
          g.accept.1.session? 0 = some opened ∧ opened.queue.Allocatable := by
  intro text env
  have ofFile : Settings.ofText text = .ok ⟨shortened.server,
      { shortened.websocket with outboundBuffer := 2305843009213693952 }, shortened.logging⟩ := by
    decide +kernel
  have loaded : Settings.load (.file text.toUTF8) env = .ok shortened :=
    (Settings.load_file env ofFile (by decide +kernel)).trans (congrArg _ (by decide +kernel))
  have given : env.number? "GQLWS_OUTBOUND_BUFFER" .outboundBuffer = some 8 := by decide +kernel
  obtain ⟨-, runs, wellFormed, bounded⟩ :=
    run_of_accepted loaded (Greeting.engine Greeting.defaultInterval) [] true
  have short := bounded 8 given
  have plain := wellFormed (by simp [shortened])
  exact ⟨loaded, given, short, runs.mpr ⟨by decide +kernel, plain, short⟩⟩

/-- A path that every server has a route for, and a queue that is longer than any channel. -/
def unroutable : Settings :=
  { Settings.default with server := { ServerSettings.default with path := "/health" } }

def unallocatable : Settings :=
  { Settings.default with
    websocket := { WebSocketSettings.default with outboundBuffer := 2305843009213693952 } }

/-- Both come from files that are accepted. -/
theorem accepted_but_not_run :
    (Settings.load
          (.file "\x7b\"server\":\x7b\"path\":\"/health\"\x7d\x7d".toUTF8)
          (fun _ => none) = .ok unroutable ∧
      ∀ engine interceptors servesMetrics,
        build? (.ofSettings unroutable) engine interceptors servesMetrics = none) ∧
    Settings.load
        (.file "\x7b\"websocket\":\x7b\"outboundBuffer\":2305843009213693952\x7d\x7d".toUTF8)
        (fun _ => none) = .ok unallocatable ∧
      ¬ (OutboundQueue.new unallocatable.websocket.outboundBuffer).Allocatable := by
  refine ⟨⟨Settings.load_file_alone (by decide +kernel) (by decide +kernel), ?_⟩,
    Settings.load_file_alone (by decide +kernel) (by decide +kernel), ?_⟩
  · intro engine interceptors servesMetrics
    have buildable :=
      isSome_build? (.ofSettings unroutable) engine interceptors servesMetrics (by decide +kernel)
    exact Option.not_isSome_iff_eq_none.mp fun built => (buildable.mp built).1.1 rfl
  · rw [Settings.allocatable_iff (by decide)]
    decide

end Gateway

end SubscriptionGateway
