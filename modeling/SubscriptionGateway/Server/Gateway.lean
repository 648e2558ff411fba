import SubscriptionGateway.Metrics
import SubscriptionGateway.Server.Config
import SubscriptionGateway.Server.Http
import SubscriptionGateway.Server.Route
import SubscriptionGateway.Server.Socket
import SubscriptionGateway.Server.Tracker
import SubscriptionGateway.Session.Schedule

/-! The server: its routes, and the connections that it has accepted. A connection takes a slot
before its request is looked at any further, and gives it back when the request is refused or the
connection has ended. -/
namespace SubscriptionGateway

/-- A connection that was accepted, with its slot until it has ended. -/
structure Hosted where
  session : Session
  slot : Option Slot

structure Gateway where
  config : ServerConfig
  /-- Where the upgrade is found. -/
  socketRoute : RoutePattern
  engine : Engine
  interceptors : InterceptorChain
  /-- Whether the counters and gauges can be asked for. -/
  servesMetrics : Bool
  now : Nat
  shutdown : Bool
  /-- The registry of a connection is known by the position of the connection. -/
  tracker : Tracker Nat
  /-- All connections that were accepted, the oldest first. -/
  hosted : List Hosted

/-- A task of the connection at a position. -/
structure GatewayTask where
  position : Nat
  task : SessionTask
deriving DecidableEq, Repr

/-- An event of the connection at a position. -/
structure GatewayEvent where
  position : Nat
  event : Event

namespace Gateway

def new (config : ServerConfig) (socketRoute : RoutePattern) (engine : Engine)
    (interceptors : InterceptorChain) (servesMetrics : Bool) : Gateway :=
  ⟨config, socketRoute, engine, interceptors, servesMetrics, 0, false,
    .new config.maxConnections, []⟩

/-- A server, if its path can be routed. -/
def build? (config : ServerConfig) (engine : Engine) (interceptors : InterceptorChain)
    (servesMetrics : Bool) : Option Gateway :=
  (RoutePattern.ofPath? config.path).map fun socketRoute =>
    new config socketRoute engine interceptors servesMetrics

/-- The fixed routes come before the path of the upgrade. -/
def route? (g : Gateway) (path : String) : Option Route :=
  (Route.ofFixedPath? path).or (if g.socketRoute.accepts path then some .socket else none)

def session? (g : Gateway) (position : Nat) : Option Session :=
  (g.hosted[position]?).map Hosted.session

/-- The number of live operations of a connection. -/
def operations (g : Gateway) (position : Nat) : Nat :=
  ((g.session? position).map fun s => s.registry.size).getD 0

def liveOperations (g : Gateway) : Nat := g.tracker.liveOperations g.operations

def health (g : Gateway) : HealthReport := ⟨g.now / 1000, g.tracker.count, g.liveOperations⟩

/-- The id of the connection that is accepted next; no two connections have the same. -/
def nextConnectionId (g : Gateway) : String := "connection-" ++ toString g.hosted.length

/-- Opens a connection with a slot that has been taken for it. -/
def accept (g : Gateway) : Gateway × List GatewayEvent :=
  let id := g.nextConnectionId
  let position := g.hosted.length
  let (slot, tracker) := g.tracker.bind id position
  let session :=
    Session.new g.config.connection id g.engine g.interceptors .direct g.now g.shutdown
  ({ g with tracker, hosted := g.hosted ++ [⟨session, some slot⟩] }, [⟨position, .opened⟩])

/-- How a request to the route of the upgrade ends. -/
inductive UpgradeAnswer where
  | refused (response : HttpResponse)
  | accepted (protocol : Option String)

def upgrade (g : Gateway) (r : HttpRequest) : UpgradeAnswer × Gateway × List GatewayEvent :=
  if g.shutdown then (.refused ⟨503, .text "server shutting down"⟩, g, [])
  else
    match g.tracker.reserve? with
    | none => (.refused ⟨503, .text "too many connections"⟩, g, [])
    | some (slot, tracker) =>
      match r.upgradeError? with
      | some cause =>
        (.refused cause.response, { g with tracker := tracker.release slot }, [])
      | none => (.accepted r.protocol?, ({ g with tracker } : Gateway).accept)

/-- A response as the method of the request wants it. -/
def forMethod (method : String) (response : HttpResponse) : HttpResponse :=
  if method = "HEAD" then response.withoutBody else response

/-- The answer to a request. A client that asks for options in advance is always told that it may
go on. -/
def respond (g : Gateway) (events : List Event) (r : HttpRequest) :
    UpgradeAnswer × Gateway × List GatewayEvent :=
  let refused (response : HttpResponse) : UpgradeAnswer × Gateway × List GatewayEvent :=
    (.refused (forMethod r.method response), g, [])
  if r.method = "OPTIONS" then refused (.empty 200)
  else
    match g.route? r.path with
    | none => refused (.empty 404)
    | some route =>
      if r.method != "GET" && r.method != "HEAD" then refused (.empty 405)
      else
        match route with
        | .health => refused ⟨200, .health g.health⟩
        | .metrics =>
          if g.servesMetrics then refused ⟨200, .metrics (Metrics.report events)⟩
          else refused (.empty 404)
        | .socket =>
          match g.upgrade r with
          | (.refused response, rest) => (.refused (forMethod r.method response), rest)
          | accepted => accepted

def update (g : Gateway) (position : Nat) (change : Session → Session) : Gateway :=
  { g with hosted := g.hosted.modify position fun h => { h with session := change h.session } }

/-- The transport's answer to a frame, as long as the connection is read. -/
def pong? (g : Gateway) (position : Nat) : SocketFrame → Option String
  | .ping payload =>
    if (g.session? position).any fun s => s.stage == .running then some payload else none
  | _ => none

/-- A frame arrives from the client of a connection. -/
def receive (g : Gateway) (position : Nat) (frame : SocketFrame) : Gateway × List GatewayEvent :=
  match frame.inboundItem? g.config.maxMessageSize with
  | some item => (g.update position fun s => s.stimulate (.deliver item), [])
  | none => (g, ((g.pong? position frame).map fun payload => ⟨position, .ponged payload⟩).toList)

/-- The stream to the client of a connection breaks. -/
def losePeer (g : Gateway) (position : Nat) : Gateway :=
  g.update position fun s => s.stimulate .losePeer

def requestShutdown (g : Gateway) : Gateway :=
  { g with
    shutdown := true
    hosted := g.hosted.map fun h => { h with session := h.session.stimulate .requestShutdown } }

def setNow (g : Gateway) (time : Nat) : Gateway :=
  { g with
    now := max g.now time
    hosted := g.hosted.map fun h => { h with session := h.session.stimulate (.clock time) } }

/-- Takes back the slot of a connection that has ended. -/
def settleSlot (g : Gateway) (position : Nat) : Gateway :=
  match g.hosted[position]? with
  | some ⟨session, some slot⟩ =>
    match session.stage with
    | .ended _ =>
      { g with
        tracker := g.tracker.release slot
        hosted := g.hosted.set position ⟨session, none⟩ }
    | _ => g
  | _ => g

def turn (g : Gateway) (t : GatewayTask) : Option (Gateway × List GatewayEvent) :=
  ((g.session? t.position).bind fun s => s.turn t.task).map fun (session, events) =>
    ((g.update t.position fun _ => session).settleSlot t.position,
      events.map fun event => ⟨t.position, event⟩)

def tasks (g : Gateway) : List GatewayTask :=
  g.hosted.zipIdx.flatMap fun (h, position) => h.session.tasks.map fun task => ⟨position, task⟩

def toll (g : Gateway) (t : GatewayTask) : Option Nat :=
  (g.session? t.position).bind fun s => s.toll t.task

def due? (g : Gateway) (t : GatewayTask) : Option Nat :=
  (g.session? t.position).bind fun s => s.due? t.task

def machine : Machine Gateway GatewayTask GatewayEvent where
  now g := g.now
  setNow time g := g.setNow time
  tasks := tasks
  turn := turn
  toll := toll
  due? := due?
  isCaller _ := false

theorem upgrade_of_shutdown {g : Gateway} (h : g.shutdown = true) (r : HttpRequest) :
    g.upgrade r = (.refused ⟨503, .text "server shutting down"⟩, g, []) := by
  simp [upgrade, h]

end Gateway

end SubscriptionGateway
