import SubscriptionGateway.Number.Decimal
import SubscriptionGateway.Settings.Settings

/-! Overrides of settings by variables of the environment. A variable whose value is unacceptable
for its setting is ignored. -/
namespace SubscriptionGateway

/-- The values of the variables that are set. -/
abbrev Environment := String → Option String

/-- Capital letters of ASCII as small ones. No other capital letter has one of the letters of the
words for truth and falsehood as its small form. -/
def lowered (text : String) : String := text.map Char.toLower

/-- A word for truth or falsehood, in any case. -/
def readBool? (text : String) : Option Bool :=
  let word := lowered text
  if word ∈ ["true", "1", "yes", "on"] then some true
  else if word ∈ ["false", "0", "no", "off"] then some false
  else none

/-- The acceptable values of a numeric setting, both ends included. -/
structure Allowed where
  least : Nat
  most : Nat

namespace Allowed

def port : Allowed := ⟨1, 65535⟩
def maxConnections : Allowed := ⟨1, 1000000⟩
def initTimeoutMs : Allowed := ⟨1, 3600000⟩
def keepAliveMs : Allowed := ⟨0, 3600000⟩
def outboundBuffer : Allowed := ⟨1, 1000000⟩
def maxMessageSize : Allowed := ⟨1024, 268435456⟩
def closeTimeoutMs : Allowed := ⟨1, 600000⟩

end Allowed

namespace Environment

/-- The variables that override settings. -/
def names : List String :=
  ["GQLWS_HOST", "GQLWS_PORT", "GQLWS_PATH", "GQLWS_MAX_CONNECTIONS", "GQLWS_INIT_TIMEOUT_MS",
    "GQLWS_KEEP_ALIVE_MS", "GQLWS_OUTBOUND_BUFFER", "GQLWS_MAX_MESSAGE_SIZE",
    "GQLWS_CLOSE_TIMEOUT_MS", "GQLWS_LOG_LEVEL", "GQLWS_LOG_JSON"]

/-- A variable that is not empty. -/
def text? (env : Environment) (name : String) : Option String :=
  (env name).filter fun value => !value.isEmpty

/-- A variable that holds a route. -/
def path? (env : Environment) (name : String) : Option String :=
  (env.text? name).filter isAbsolutePath

def bool? (env : Environment) (name : String) : Option Bool := (env name).bind readBool?

/-- A variable that holds a number among those allowed. -/
def number? (env : Environment) (name : String) (allowed : Allowed) : Option Nat :=
  (env name).bind (readWithin? UInt64.size allowed.least allowed.most)

end Environment

namespace Settings

def override (env : Environment) (s : Settings) : Settings where
  server := {
    host := (env.text? "GQLWS_HOST").getD s.server.host
    port := (env.number? "GQLWS_PORT" .port).getD s.server.port
    path := (env.path? "GQLWS_PATH").getD s.server.path
    maxConnections :=
      (env.number? "GQLWS_MAX_CONNECTIONS" .maxConnections).getD s.server.maxConnections
    shutdownTimeoutMs := s.server.shutdownTimeoutMs }
  websocket := {
    initTimeoutMs :=
      (env.number? "GQLWS_INIT_TIMEOUT_MS" .initTimeoutMs).getD s.websocket.initTimeoutMs
    keepAliveMs := (env.number? "GQLWS_KEEP_ALIVE_MS" .keepAliveMs).getD s.websocket.keepAliveMs
    outboundBuffer :=
      (env.number? "GQLWS_OUTBOUND_BUFFER" .outboundBuffer).getD s.websocket.outboundBuffer
    maxMessageSize :=
      (env.number? "GQLWS_MAX_MESSAGE_SIZE" .maxMessageSize).getD s.websocket.maxMessageSize
    closeTimeoutMs :=
      (env.number? "GQLWS_CLOSE_TIMEOUT_MS" .closeTimeoutMs).getD s.websocket.closeTimeoutMs }
  logging := {
    level := (env.text? "GQLWS_LOG_LEVEL").getD s.logging.level
    json := (env.bool? "GQLWS_LOG_JSON").getD s.logging.json }

end Settings

theorem Environment.number?_bounds {env : Environment} {name : String} {allowed : Allowed}
    {value : Nat} (h : env.number? name allowed = some value) :
    allowed.least ≤ value ∧ value ≤ allowed.most := by
  obtain ⟨text, _, read⟩ := Option.bind_eq_some_iff.1 h
  exact readWithin?_bounds read

end SubscriptionGateway
