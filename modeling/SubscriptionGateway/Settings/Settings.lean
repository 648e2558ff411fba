import SubscriptionGateway.Text.Quoted

/-! The settings of the gateway, their defaults and what the server cannot run with. -/
namespace SubscriptionGateway

structure ServerSettings where
  host : String
  port : Nat
  /-- The route of the WebSocket upgrade. -/
  path : String
  /-- Upgrades beyond this many live connections are refused. -/
  maxConnections : Nat
  /-- How many milliseconds a shutdown waits for connections to close. -/
  shutdownTimeoutMs : Nat
deriving DecidableEq, Repr

def ServerSettings.default : ServerSettings := ⟨"127.0.0.1", 4000, "/graphql", 1024, 5000⟩

structure WebSocketSettings where
  /-- How many milliseconds a client has for its `connection_init`. -/
  initTimeoutMs : Nat
  /-- The period of the server's pings; 0 for none. -/
  keepAliveMs : Nat
  /-- How many outbound messages of a connection may wait. -/
  outboundBuffer : Nat
  /-- The longest inbound frame, in bytes. -/
  maxMessageSize : Nat
  /-- How many milliseconds a closing connection may take to write what is queued. -/
  closeTimeoutMs : Nat
deriving DecidableEq, Repr

def WebSocketSettings.default : WebSocketSettings := ⟨60000, 0, 256, 1048576, 5000⟩

structure LoggingSettings where
  level : String
  /-- Whether log lines are JSON objects. -/
  json : Bool
deriving DecidableEq, Repr

def LoggingSettings.default : LoggingSettings := ⟨"info", false⟩

structure Settings where
  server : ServerSettings
  websocket : WebSocketSettings
  logging : LoggingSettings
deriving DecidableEq, Repr

/-- A value that the server cannot run with. -/
inductive InvalidSetting where
  | relativePath (path : String)
  | noConnections
  | noInitTimeout
  | noCloseTimeout
  | noOutboundBuffer
deriving DecidableEq, Repr

def InvalidSetting.message : InvalidSetting → String
  | .relativePath path => "server.path must start with '/', got " ++ Text.quoted path
  | .noConnections => "server.maxConnections must be at least 1"
  | .noInitTimeout => "websocket.initTimeoutMs must be at least 1"
  | .noCloseTimeout => "websocket.closeTimeoutMs must be at least 1"
  | .noOutboundBuffer => "websocket.outboundBuffer must be at least 1"

/-- Whether a route begins at the root. -/
def isAbsolutePath (path : String) : Bool := path.toList.head? == some '/'

namespace Settings

def default : Settings :=
  ⟨ServerSettings.default, WebSocketSettings.default, LoggingSettings.default⟩

/-- The first value that the server cannot run with. -/
def fault? (s : Settings) : Option InvalidSetting :=
  if !isAbsolutePath s.server.path then some (.relativePath s.server.path)
  else if s.server.maxConnections = 0 then some .noConnections
  else if s.websocket.initTimeoutMs = 0 then some .noInitTimeout
  else if s.websocket.closeTimeoutMs = 0 then some .noCloseTimeout
  else if s.websocket.outboundBuffer = 0 then some .noOutboundBuffer
  else none

/-- What the server can run with. -/
structure Runnable (s : Settings) : Prop where
  absolute : isAbsolutePath s.server.path = true
  connections : s.server.maxConnections ≠ 0
  initTimeout : s.websocket.initTimeoutMs ≠ 0
  closeTimeout : s.websocket.closeTimeoutMs ≠ 0
  outboundBuffer : s.websocket.outboundBuffer ≠ 0

theorem fault?_eq_none_iff (s : Settings) : s.fault? = none ↔ s.Runnable := by
  constructor
  · intro h
    simp only [fault?] at h
    repeat' split at h
    all_goals first | contradiction | skip
    constructor <;> simp_all
  · intro ⟨absolute, connections, initTimeout, closeTimeout, outboundBuffer⟩
    simp [fault?, absolute, connections, initTimeout, closeTimeout, outboundBuffer]

theorem fault?_default : default.fault? = none := by decide +kernel

end Settings

end SubscriptionGateway
