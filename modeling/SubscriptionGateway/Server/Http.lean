import SubscriptionGateway.Text.Cuts
import SubscriptionGateway.Wire.Message

/-! Requests and responses of the server, and what a request needs to become a WebSocket
connection. -/
namespace SubscriptionGateway

structure HttpRequest where
  method : String
  /-- The path, with a query if there is one. -/
  target : String
  /-- Names and values in their order; names in any case. -/
  headers : List (String × String)
  /-- Whether the connection can be handed over. -/
  canUpgrade : Bool

/-- The state of the server for those who ask whether it is well. -/
structure HealthReport where
  uptimeSeconds : Nat
  connections : Nat
  liveOperations : Nat
deriving DecidableEq, Repr

inductive HttpBody where
  | text (content : String)
  | health (report : HealthReport)
  /-- The counters and gauges by name. -/
  | metrics (values : List (String × Int))
deriving DecidableEq, Repr

structure HttpResponse where
  status : Nat
  body : HttpBody
deriving DecidableEq, Repr

def HealthReport.toJson (r : HealthReport) : Json :=
  .object [("status", .string "ok"), ("uptime_secs", .integer r.uptimeSeconds),
    ("connections", .integer r.connections), ("active_operations", .integer r.liveOperations)]

namespace HttpResponse

def empty (status : Nat) : HttpResponse := ⟨status, .text ""⟩

def withoutBody (r : HttpResponse) : HttpResponse := { r with body := .text "" }

end HttpResponse

def lowerAscii (text : String) : List Char := text.toList.map Char.toLower

/-- Whether one text occurs in another. -/
def occursIn (part : List Char) : List Char → Bool
  | [] => part.isEmpty
  | c :: rest => part.isPrefixOf (c :: rest) || occursIn part rest

namespace HttpRequest

/-- The request of a WebSocket client that offers some protocols. -/
def webSocket (target : String) (protocols : List String) : HttpRequest where
  method := "GET"
  target := target
  headers := [("Connection", "Upgrade"), ("Upgrade", "websocket"), ("Sec-WebSocket-Version", "13"),
    ("Sec-WebSocket-Key", "dGhlIHNhbXBsZSBub25jZQ==")]
    ++ protocols.map fun name => ("Sec-WebSocket-Protocol", name)
  canUpgrade := true

/-- The target without its query. -/
def path (r : HttpRequest) : String :=
  String.ofList (r.target.toList.takeWhile fun c => c != '?' && c != '#')

/-- The first header of a name, which is given in small letters. -/
def header? (r : HttpRequest) (name : String) : Option String :=
  (r.headers.find? fun header => lowerAscii header.1 == name.toList).map Prod.snd

def headerContains (r : HttpRequest) (name part : String) : Bool :=
  (r.header? name).any fun value => occursIn part.toList (lowerAscii value)

def headerEquals (r : HttpRequest) (name value : String) : Bool :=
  (r.header? name).any fun found => lowerAscii found == value.toList

end HttpRequest

/-- Why a request cannot become a WebSocket connection. -/
inductive UpgradeError where
  | notGet
  | noConnectionUpgrade
  | noWebSocketUpgrade
  | noKey
  | badVersion
  | noUpgradeState
deriving DecidableEq, Repr

namespace UpgradeError

def status : UpgradeError → Nat
  | .notGet => 405
  | .noUpgradeState => 426
  | _ => 400

def message : UpgradeError → String
  | .notGet => "Request method must be `GET`"
  | .noConnectionUpgrade => "Connection header did not include 'upgrade'"
  | .noWebSocketUpgrade => "`Upgrade` header did not include 'websocket'"
  | .noKey => "`Sec-WebSocket-Key` header missing"
  | .badVersion => "`Sec-WebSocket-Version` header did not include '13'"
  | .noUpgradeState => "WebSocket request couldn't be upgraded since no upgrade state was present"

def response (e : UpgradeError) : HttpResponse := ⟨e.status, .text e.message⟩

end UpgradeError

namespace HttpRequest

/-- The first thing that keeps a request from becoming a WebSocket connection. -/
def upgradeError? (r : HttpRequest) : Option UpgradeError :=
  if r.method != "GET" then some .notGet
  else if !r.headerContains "connection" "upgrade" then some .noConnectionUpgrade
  else if !r.headerEquals "upgrade" "websocket" then some .noWebSocketUpgrade
  else if (r.header? "sec-websocket-key").isNone then some .noKey
  else if !r.headerEquals "sec-websocket-version" "13" then some .badVersion
  else if !r.canUpgrade then some .noUpgradeState
  else none

/-- The parts of a text between commas. -/
def splitAtCommas : List Char → List (List Char)
  | [] => [[]]
  | ',' :: rest => [] :: splitAtCommas rest
  | c :: rest =>
    match splitAtCommas rest with
    | [] => [[c]]
    | part :: later => (c :: part) :: later

/-- Text that a header may hold: what ASCII can print, and tabs. -/
def isVisible (c : Char) : Bool := (' ' ≤ c && c ≤ '~') || c == '\t'

/-- The protocol of this server, if the client offers it. -/
def protocol? (r : HttpRequest) : Option String :=
  match r.header? "sec-websocket-protocol" with
  | none => none
  | some offered =>
    let offers := (splitAtCommas offered.toList).map Text.trim
    if offered.toList.all isVisible && offers.contains subprotocol.toList then some subprotocol
    else none

end HttpRequest

end SubscriptionGateway
