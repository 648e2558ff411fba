import SubscriptionGateway.Json.Decoding
import SubscriptionGateway.Settings.Settings

/-! Settings as a JSON document. Every section and every field may be left out, but none may be
null. -/
namespace SubscriptionGateway

namespace ServerSettings

def ofMembers (members : Members) : Decoded ServerSettings := do
  let host ← members.decodeOr "host" default.host Json.decodeString
  let maxConnections ←
    members.decodeOr "maxConnections" default.maxConnections (Json.decodeUnsigned .size)
  let path ← members.decodeOr "path" default.path Json.decodeString
  let port ← members.decodeOr "port" default.port (Json.decodeUnsigned .u16)
  let shutdownTimeoutMs ←
    members.decodeOr "shutdownTimeoutMs" default.shutdownTimeoutMs (Json.decodeUnsigned .u64)
  return ⟨host, port, path, maxConnections, shutdownTimeoutMs⟩

def ofItems (items : List Json) : Decoded ServerSettings := do
  let host ← decodeItemOr items 0 default.host Json.decodeString
  let port ← decodeItemOr items 1 default.port (Json.decodeUnsigned .u16)
  let path ← decodeItemOr items 2 default.path Json.decodeString
  let maxConnections ← decodeItemOr items 3 default.maxConnections (Json.decodeUnsigned .size)
  let shutdownTimeoutMs ←
    decodeItemOr items 4 default.shutdownTimeoutMs (Json.decodeUnsigned .u64)
  return ⟨host, port, path, maxConnections, shutdownTimeoutMs⟩

def decode : Json → Decoded ServerSettings :=
  Json.decodeRecord "ServerSettings" 5 ofMembers ofItems

def toJson (s : ServerSettings) : Json :=
  .object (Members.ofList [("host", .string s.host), ("port", .integer s.port),
    ("path", .string s.path), ("maxConnections", .integer s.maxConnections),
    ("shutdownTimeoutMs", .integer s.shutdownTimeoutMs)])

end ServerSettings

namespace WebSocketSettings

def ofMembers (members : Members) : Decoded WebSocketSettings := do
  let closeTimeoutMs ←
    members.decodeOr "closeTimeoutMs" default.closeTimeoutMs (Json.decodeUnsigned .u64)
  let initTimeoutMs ←
    members.decodeOr "initTimeoutMs" default.initTimeoutMs (Json.decodeUnsigned .u64)
  let keepAliveMs ← members.decodeOr "keepAliveMs" default.keepAliveMs (Json.decodeUnsigned .u64)
  let maxMessageSize ←
    members.decodeOr "maxMessageSize" default.maxMessageSize (Json.decodeUnsigned .size)
  let outboundBuffer ←
    members.decodeOr "outboundBuffer" default.outboundBuffer (Json.decodeUnsigned .size)
  return ⟨initTimeoutMs, keepAliveMs, outboundBuffer, maxMessageSize, closeTimeoutMs⟩

def ofItems (items : List Json) : Decoded WebSocketSettings := do
  let initTimeoutMs ← decodeItemOr items 0 default.initTimeoutMs (Json.decodeUnsigned .u64)
  let keepAliveMs ← decodeItemOr items 1 default.keepAliveMs (Json.decodeUnsigned .u64)
  let outboundBuffer ← decodeItemOr items 2 default.outboundBuffer (Json.decodeUnsigned .size)
  let maxMessageSize ← decodeItemOr items 3 default.maxMessageSize (Json.decodeUnsigned .size)
  let closeTimeoutMs ← decodeItemOr items 4 default.closeTimeoutMs (Json.decodeUnsigned .u64)
  return ⟨initTimeoutMs, keepAliveMs, outboundBuffer, maxMessageSize, closeTimeoutMs⟩

def decode : Json → Decoded WebSocketSettings :=
  Json.decodeRecord "WebSocketSettings" 5 ofMembers ofItems

def toJson (s : WebSocketSettings) : Json :=
  .object (Members.ofList [("initTimeoutMs", .integer s.initTimeoutMs),
    ("keepAliveMs", .integer s.keepAliveMs), ("outboundBuffer", .integer s.outboundBuffer),
    ("maxMessageSize", .integer s.maxMessageSize), ("closeTimeoutMs", .integer s.closeTimeoutMs)])

end WebSocketSettings

namespace LoggingSettings

def ofMembers (members : Members) : Decoded LoggingSettings := do
  let json ← members.decodeOr "json" default.json Json.decodeBool
  let level ← members.decodeOr "level" default.level Json.decodeString
  return ⟨level, json⟩

def ofItems (items : List Json) : Decoded LoggingSettings := do
  let level ← decodeItemOr items 0 default.level Json.decodeString
  let json ← decodeItemOr items 1 default.json Json.decodeBool
  return ⟨level, json⟩

def decode : Json → Decoded LoggingSettings :=
  Json.decodeRecord "LoggingSettings" 2 ofMembers ofItems

def toJson (s : LoggingSettings) : Json :=
  .object (Members.ofList [("level", .string s.level), ("json", .bool s.json)])

end LoggingSettings

namespace Settings

def ofMembers (members : Members) : Decoded Settings := do
  let logging ← members.decodeOr "logging" default.logging LoggingSettings.decode
  let server ← members.decodeOr "server" default.server ServerSettings.decode
  let websocket ← members.decodeOr "websocket" default.websocket WebSocketSettings.decode
  return ⟨server, websocket, logging⟩

def ofItems (items : List Json) : Decoded Settings := do
  let server ← decodeItemOr items 0 default.server ServerSettings.decode
  let websocket ← decodeItemOr items 1 default.websocket WebSocketSettings.decode
  let logging ← decodeItemOr items 2 default.logging LoggingSettings.decode
  return ⟨server, websocket, logging⟩

def decode : Json → Decoded Settings :=
  Json.decodeRecord "GatewaySettings" 3 ofMembers ofItems

def toJson (s : Settings) : Json :=
  .object (Members.ofList [("server", s.server.toJson), ("websocket", s.websocket.toJson),
    ("logging", s.logging.toJson)])

theorem decode_toJson_default : decode default.toJson = .ok default := by rfl

end Settings

end SubscriptionGateway
