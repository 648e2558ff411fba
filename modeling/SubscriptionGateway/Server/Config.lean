import SubscriptionGateway.Session.Session
import SubscriptionGateway.Settings.Settings

/-! What a server is run with. -/
namespace SubscriptionGateway

structure ServerConfig where
  host : String
  /-- Port 0 leaves the choice to the system. -/
  port : Nat
  /-- The route of the WebSocket upgrade. -/
  path : String
  maxConnections : Nat
  /-- The longest inbound frame, in bytes. -/
  maxMessageSize : Nat
  /-- How many milliseconds a shutdown waits for connections to close. -/
  shutdownTimeout : Nat
  connection : SessionConfig
deriving DecidableEq, Repr

def SessionConfig.toJson (c : SessionConfig) : Json :=
  .object [("init_timeout_ms", .integer c.initTimeout),
    ("keep_alive_ms", (c.keepAlive.map fun period => Json.integer period).getD .null),
    ("outbound_buffer", .integer c.outboundBuffer), ("close_timeout_ms", .integer c.closeTimeout)]

namespace ServerConfig

def default : ServerConfig :=
  ⟨"127.0.0.1", 0, "/graphql", 1024, 1048576, 5000, SessionConfig.default⟩

/-- A keep-alive period of 0 means that there are no pings. -/
def ofSettings (s : Settings) : ServerConfig where
  host := s.server.host
  port := s.server.port
  path := s.server.path
  maxConnections := s.server.maxConnections
  maxMessageSize := s.websocket.maxMessageSize
  shutdownTimeout := s.server.shutdownTimeoutMs
  connection := {
    initTimeout := s.websocket.initTimeoutMs
    keepAlive := if s.websocket.keepAliveMs = 0 then none else some s.websocket.keepAliveMs
    outboundBuffer := s.websocket.outboundBuffer
    closeTimeout := s.websocket.closeTimeoutMs }

def listenAddress (c : ServerConfig) : String := c.host ++ ":" ++ toString c.port

/-- The configuration in full, for display. -/
def toJson (c : ServerConfig) : Json :=
  .object [("host", .string c.host), ("port", .integer c.port), ("path", .string c.path),
    ("max_connections", .integer c.maxConnections),
    ("max_message_size", .integer c.maxMessageSize),
    ("shutdown_timeout_ms", .integer c.shutdownTimeout), ("connection", c.connection.toJson),
    ("bind_address", .string c.listenAddress)]

end ServerConfig

end SubscriptionGateway
