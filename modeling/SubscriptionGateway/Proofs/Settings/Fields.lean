import SubscriptionGateway.Json.Access
import SubscriptionGateway.Proofs.Json.Merge
import SubscriptionGateway.Proofs.Json.RoundTrip
import SubscriptionGateway.Proofs.Settings.Variables
import SubscriptionGateway.Settings.Document

/-! The settings one by one: where a file and the environment have each of them, which values it may
have, and what it is in a file that lies over the defaults. -/
namespace SubscriptionGateway

/-- One of the settings, and where its layers have it. -/
structure Setting (α : Type) where
  /-- The section of a settings file that it belongs to. -/
  part : String
  key : String
  toJson : α → Json
  /-- Whether a value is in the range of the setting's type. -/
  fits : α → Prop
  envName : Option String
  /-- Whether the text of the variable stands for a value that the variable may give. -/
  accepts : String → α → Prop
  default : α
  get : Settings → α

namespace Setting

section Kinds

def text (part key name default : String) (get : Settings → String) : Setting String where
  part := part
  key := key
  toJson := .string
  fits _ := True
  envName := some name
  accepts text value := text = value ∧ value ≠ ""
  default := default
  get := get

def number (part key : String) (width : Width) (default : Nat) (get : Settings → Nat) :
    Setting Nat where
  part := part
  key := key
  toJson n := .integer n
  fits n := n < width.bound
  envName := none
  accepts _ _ := False
  default := default
  get := get

def within (x : Setting Nat) (name : String) (least most : Nat) : Setting Nat :=
  { x with
    envName := some name
    accepts := fun text n => IsNumeral text n ∧ least ≤ n ∧ n ≤ most }

end Kinds

def host : Setting String :=
  text "server" "host" "GQLWS_HOST" "127.0.0.1" fun s => s.server.host

def port : Setting Nat :=
  within (number "server" "port" .u16 4000 fun s => s.server.port) "GQLWS_PORT" 1 65535

def path : Setting String :=
  { text "server" "path" "GQLWS_PATH" "/graphql" fun s => s.server.path with
    accepts := fun text value => text = value ∧ isAbsolutePath value = true }

def maxConnections : Setting Nat :=
  within (number "server" "maxConnections" .size 1024 fun s => s.server.maxConnections)
    "GQLWS_MAX_CONNECTIONS" 1 1000000

def shutdownTimeoutMs : Setting Nat :=
  number "server" "shutdownTimeoutMs" .u64 5000 fun s => s.server.shutdownTimeoutMs

def initTimeoutMs : Setting Nat :=
  within (number "websocket" "initTimeoutMs" .u64 60000 fun s => s.websocket.initTimeoutMs)
    "GQLWS_INIT_TIMEOUT_MS" 1 3600000

def keepAliveMs : Setting Nat :=
  within (number "websocket" "keepAliveMs" .u64 0 fun s => s.websocket.keepAliveMs)
    "GQLWS_KEEP_ALIVE_MS" 0 3600000

def outboundBuffer : Setting Nat :=
  within (number "websocket" "outboundBuffer" .size 256 fun s => s.websocket.outboundBuffer)
    "GQLWS_OUTBOUND_BUFFER" 1 1000000

def maxMessageSize : Setting Nat :=
  within (number "websocket" "maxMessageSize" .size 1048576 fun s => s.websocket.maxMessageSize)
    "GQLWS_MAX_MESSAGE_SIZE" 1024 268435456

def closeTimeoutMs : Setting Nat :=
  within (number "websocket" "closeTimeoutMs" .u64 5000 fun s => s.websocket.closeTimeoutMs)
    "GQLWS_CLOSE_TIMEOUT_MS" 1 600000

def level : Setting String :=
  text "logging" "level" "GQLWS_LOG_LEVEL" "info" fun s => s.logging.level

def json : Setting Bool where
  part := "logging"
  key := "json"
  toJson := .bool
  fits _ := True
  envName := some "GQLWS_LOG_JSON"
  accepts := IsWord
  default := false
  get s := s.logging.json

def all : List (Sigma Setting) :=
  [⟨_, host⟩, ⟨_, port⟩, ⟨_, path⟩, ⟨_, maxConnections⟩, ⟨_, shutdownTimeoutMs⟩, ⟨_, initTimeoutMs⟩,
    ⟨_, keepAliveMs⟩, ⟨_, outboundBuffer⟩, ⟨_, maxMessageSize⟩, ⟨_, closeTimeoutMs⟩, ⟨_, level⟩,
    ⟨_, json⟩]

theorem forall_all_iff {P : Sigma Setting → Prop} :
    (∀ x ∈ all, P x) ↔
      P ⟨_, host⟩ ∧ P ⟨_, port⟩ ∧ P ⟨_, path⟩ ∧ P ⟨_, maxConnections⟩ ∧ P ⟨_, shutdownTimeoutMs⟩ ∧
      P ⟨_, initTimeoutMs⟩ ∧ P ⟨_, keepAliveMs⟩ ∧ P ⟨_, outboundBuffer⟩ ∧ P ⟨_, maxMessageSize⟩ ∧
      P ⟨_, closeTimeoutMs⟩ ∧ P ⟨_, level⟩ ∧ P ⟨_, json⟩ := by
  simp only [all, List.forall_mem_cons, List.not_mem_nil, false_implies, implies_true, and_true]

variable {α : Type} {x : Setting α} {document : Members}

/-- What a settings file says of the setting, unless that or the section is null. -/
def given? (x : Setting α) (document : Members) : Option Json :=
  ((Json.object document).given? x.part).bind fun found => found.given? x.key

/-- Whether a settings file gives the setting something that is not of its type. -/
def Misfits (x : Setting α) (document : Members) : Prop :=
  ∃ found, x.given? document = some found ∧ ∀ value, x.fits value → found ≠ x.toJson value

def Stored (x : Setting α) (document : Members) (value : α) : Prop :=
  x.given? document = some (x.toJson value) ∧ x.fits value ∨
    x.given? document = none ∧ value = x.default

structure Reads (x : Setting α) (decode : Json → Decoded α) (defaults : Members) : Prop where
  decodes : ∀ found value, decode found = .ok value ↔ x.fits value ∧ found = x.toJson value
  typical : x.fits x.default
  scalar : (x.toJson x.default).isObject = false
  plain : Members.get? defaults x.key = some (x.toJson x.default)

/-- A section of a settings file; nothing is in one that is missing or null. -/
def sectionOf (document : Members) (part : String) : Members :=
  ((Json.object document).object? part).getD []

theorem given?_eq (x : Setting α) (document : Members) :
    x.given? document = (sectionOf document x.part).given? x.key := by
  unfold given? sectionOf Json.object?
  cases (Json.object document).given? x.part with
  | none => rfl
  | some found => cases found <;> rfl

theorem stored_iff {decode : Json → Decoded α} {defaults : Members}
    (reads : x.Reads decode defaults) {value : α} :
    decode ((x.given? document).getD (x.toJson x.default)) = .ok value ↔
      x.Stored document value := by
  rw [reads.decodes, Stored]
  have ofDefault := (reads.decodes _ _).mpr ⟨reads.typical, rfl⟩
  cases x.given? document with
  | none =>
    have same : (x.fits value ∧ x.toJson x.default = x.toJson value) ↔ value = x.default := by
      rw [← reads.decodes, ofDefault, Except.ok.injEq, eq_comm]
    simpa using same
  | some found => simp [and_comm]

theorem misfits_iff : x.Misfits document ↔ ∀ value, ¬ x.Stored document value := by
  unfold Misfits Stored
  cases x.given? document with
  | none => simp
  | some found =>
    simp only [Option.some.injEq, exists_eq_left', reduceCtorEq, false_and, or_false, not_and]
    exact forall_congr' fun value => imp_not_comm

theorem decodeOr_eq_ok {decode : Json → Decoded α} {defaults : Members}
    (reads : x.Reads decode defaults) (sorted : (sectionOf document x.part).Sorted) {value : α} :
    (Json.mergeMembers defaults (sectionOf document x.part)).decodeOr x.key x.default decode =
      .ok value ↔ x.Stored document value := by
  have found := Json.get?_mergeMembers_of_plain sorted reads.plain reads.scalar
  rw [Json.decodeOr_of_get? found, ← given?_eq]
  exact stored_iff reads

section Reads

variable {part key name : String} {defaults : Members} {decode : Json → Decoded α}

/-- How a setting is decoded has nothing to do with its variable. -/
theorem Reads.named (reads : x.Reads decode defaults) (envName : Option String)
    (accepts : String → α → Prop) : Reads { x with envName, accepts } decode defaults :=
  ⟨reads.decodes, reads.typical, reads.scalar, reads.plain⟩

theorem reads_text {default : String} {get : Settings → String}
    (plain : Members.get? defaults key = some (.string default)) :
    (text part key name default get).Reads Json.decodeString defaults where
  decodes found value := by cases found <;> simp [text, Json.decodeString]
  typical := trivial
  scalar := rfl
  plain := plain

theorem decodeUnsigned_eq_ok {width : Width} {found : Json} {n : Nat} :
    found.decodeUnsigned width = .ok n ↔ n < width.bound ∧ found = .integer n := by
  cases found with
  | integer k =>
    simp only [Json.decodeUnsigned, Json.integer.injEq]
    constructor
    · intro read
      split at read
      · next fits =>
        cases read
        exact ⟨fits.2, (Int.toNat_of_nonneg fits.1).symm⟩
      · cases read
    · rintro ⟨fits, rfl⟩
      simp [fits]
  | _ => simp [Json.decodeUnsigned]

theorem reads_number {width : Width} {default : Nat} {get : Settings → Nat}
    (fits : default < width.bound) (plain : Members.get? defaults key = some (.integer default)) :
    (number part key width default get).Reads (Json.decodeUnsigned width) defaults where
  decodes _ _ := decodeUnsigned_eq_ok
  typical := fits
  scalar := rfl
  plain := plain

theorem reads_json (plain : Members.get? defaults "json" = some (.bool false)) :
    json.Reads Json.decodeBool defaults where
  decodes found value := by cases found <;> simp [json, Json.decodeBool]
  typical := trivial
  scalar := rfl
  plain := plain

end Reads

end Setting

section Sections

open Setting

variable {document : Members}

theorem ServerSettings.ofMembers_eq_ok {members : Members} {s : ServerSettings} :
    ofMembers members = .ok s ↔
      members.decodeOr "host" default.host Json.decodeString = .ok s.host ∧
      members.decodeOr "maxConnections" default.maxConnections (Json.decodeUnsigned .size) =
        .ok s.maxConnections ∧
      members.decodeOr "path" default.path Json.decodeString = .ok s.path ∧
      members.decodeOr "port" default.port (Json.decodeUnsigned .u16) = .ok s.port ∧
      members.decodeOr "shutdownTimeoutMs" default.shutdownTimeoutMs (Json.decodeUnsigned .u64) =
        .ok s.shutdownTimeoutMs := by
  simp only [ofMembers, bind_eq_ok]
  constructor
  · rintro ⟨host, isHost, most, isMost, path, isPath, port, isPort, time, isTime, made⟩
    cases made
    exact ⟨isHost, isMost, isPath, isPort, isTime⟩
  · rintro ⟨isHost, isMost, isPath, isPort, isTime⟩
    exact ⟨_, isHost, _, isMost, _, isPath, _, isPort, _, isTime, rfl⟩

theorem WebSocketSettings.ofMembers_eq_ok {members : Members} {s : WebSocketSettings} :
    ofMembers members = .ok s ↔
      members.decodeOr "closeTimeoutMs" default.closeTimeoutMs (Json.decodeUnsigned .u64) =
        .ok s.closeTimeoutMs ∧
      members.decodeOr "initTimeoutMs" default.initTimeoutMs (Json.decodeUnsigned .u64) =
        .ok s.initTimeoutMs ∧
      members.decodeOr "keepAliveMs" default.keepAliveMs (Json.decodeUnsigned .u64) =
        .ok s.keepAliveMs ∧
      members.decodeOr "maxMessageSize" default.maxMessageSize (Json.decodeUnsigned .size) =
        .ok s.maxMessageSize ∧
      members.decodeOr "outboundBuffer" default.outboundBuffer (Json.decodeUnsigned .size) =
        .ok s.outboundBuffer := by
  simp only [ofMembers, bind_eq_ok]
  constructor
  · rintro ⟨close, isClose, init, isInit, period, isPeriod, size, isSize, buffer, isBuffer, made⟩
    cases made
    exact ⟨isClose, isInit, isPeriod, isSize, isBuffer⟩
  · rintro ⟨isClose, isInit, isPeriod, isSize, isBuffer⟩
    exact ⟨_, isClose, _, isInit, _, isPeriod, _, isSize, _, isBuffer, rfl⟩

theorem LoggingSettings.ofMembers_eq_ok {members : Members} {s : LoggingSettings} :
    ofMembers members = .ok s ↔
      members.decodeOr "json" default.json Json.decodeBool = .ok s.json ∧
      members.decodeOr "level" default.level Json.decodeString = .ok s.level := by
  simp only [ofMembers, bind_eq_ok]
  constructor
  · rintro ⟨json, isJson, level, isLevel, made⟩
    cases made
    exact ⟨isJson, isLevel⟩
  · rintro ⟨isJson, isLevel⟩
    exact ⟨_, isJson, _, isLevel, rfl⟩

theorem Settings.ofMembers_eq_ok {members : Members} {s : Settings} :
    ofMembers members = .ok s ↔
      members.decodeOr "logging" default.logging LoggingSettings.decode = .ok s.logging ∧
      members.decodeOr "server" default.server ServerSettings.decode = .ok s.server ∧
      members.decodeOr "websocket" default.websocket WebSocketSettings.decode =
        .ok s.websocket := by
  simp only [ofMembers, bind_eq_ok]
  constructor
  · rintro ⟨logging, isLogging, server, isServer, websocket, isWebsocket, made⟩
    cases made
    exact ⟨isLogging, isServer, isWebsocket⟩
  · rintro ⟨isLogging, isServer, isWebsocket⟩
    exact ⟨_, isLogging, _, isServer, _, isWebsocket, rfl⟩

variable {defaults : Members} {s : Settings}

theorem server_eq_ok (under : ServerSettings.default.toJson = .object defaults)
    (sorted : (sectionOf document "server").Sorted) :
    ServerSettings.decode (.object (Json.mergeMembers defaults (sectionOf document "server"))) =
        .ok s.server ↔
      host.Stored document s.server.host ∧ maxConnections.Stored document s.server.maxConnections ∧
      path.Stored document s.server.path ∧ port.Stored document s.server.port ∧
      shutdownTimeoutMs.Stored document s.server.shutdownTimeoutMs := by
  cases under
  refine ServerSettings.ofMembers_eq_ok.trans
    (and_congr ?_ (and_congr ?_ (and_congr ?_ (and_congr ?_ ?_))))
  · exact decodeOr_eq_ok (x := host) (reads_text rfl) sorted
  · exact decodeOr_eq_ok (x := maxConnections) ((reads_number (by decide) rfl).named _ _) sorted
  · exact decodeOr_eq_ok (x := path) ((reads_text rfl).named _ _) sorted
  · exact decodeOr_eq_ok (x := port) ((reads_number (by decide) rfl).named _ _) sorted
  · exact decodeOr_eq_ok (x := shutdownTimeoutMs) (reads_number (by decide) rfl) sorted

theorem websocket_eq_ok (under : WebSocketSettings.default.toJson = .object defaults)
    (sorted : (sectionOf document "websocket").Sorted) :
    WebSocketSettings.decode
        (.object (Json.mergeMembers defaults (sectionOf document "websocket"))) =
        .ok s.websocket ↔
      closeTimeoutMs.Stored document s.websocket.closeTimeoutMs ∧
      initTimeoutMs.Stored document s.websocket.initTimeoutMs ∧
      keepAliveMs.Stored document s.websocket.keepAliveMs ∧
      maxMessageSize.Stored document s.websocket.maxMessageSize ∧
      outboundBuffer.Stored document s.websocket.outboundBuffer := by
  cases under
  refine WebSocketSettings.ofMembers_eq_ok.trans
    (and_congr ?_ (and_congr ?_ (and_congr ?_ (and_congr ?_ ?_))))
  · exact decodeOr_eq_ok (x := closeTimeoutMs) ((reads_number (by decide) rfl).named _ _) sorted
  · exact decodeOr_eq_ok (x := initTimeoutMs) ((reads_number (by decide) rfl).named _ _) sorted
  · exact decodeOr_eq_ok (x := keepAliveMs) ((reads_number (by decide) rfl).named _ _) sorted
  · exact decodeOr_eq_ok (x := maxMessageSize) ((reads_number (by decide) rfl).named _ _) sorted
  · exact decodeOr_eq_ok (x := outboundBuffer) ((reads_number (by decide) rfl).named _ _) sorted

theorem logging_eq_ok (under : LoggingSettings.default.toJson = .object defaults)
    (sorted : (sectionOf document "logging").Sorted) :
    LoggingSettings.decode (.object (Json.mergeMembers defaults (sectionOf document "logging"))) =
        .ok s.logging ↔
      json.Stored document s.logging.json ∧ level.Stored document s.logging.level := by
  cases under
  refine LoggingSettings.ofMembers_eq_ok.trans (and_congr ?_ ?_)
  · exact decodeOr_eq_ok (x := json) (reads_json rfl) sorted
  · exact decodeOr_eq_ok (x := level) (reads_text rfl) sorted

end Sections

namespace Settings

open Setting

variable {document : Members} {s : Settings}

/-- A settings file whose sections are objects unless they are missing or null. -/
def Sectioned (document : Members) : Prop :=
  ∀ part ∈ ["server", "websocket", "logging"], ∀ found,
    document.given? part = some found → found.isObject = true

theorem sorted_sectionOf (ordered : (Json.object document).Ordered) (part : String) :
    (sectionOf document part).Sorted := by
  unfold sectionOf Json.object?
  cases given : (Json.object document).given? part with
  | none => exact .nil
  | some found =>
    cases found with
    | object members =>
      have member := Members.mem_of_get? (Json.given?_eq_some given)
      cases ordered with | object keys all =>
      cases all _ member with | object inner _ => exact inner
    | _ => exact .nil

theorem get?_section {base defaults : Members} (sorted : document.Sorted) {part : String}
    (sectioned : ∀ found, document.given? part = some found → found.isObject = true)
    (under : base.get? part = some (.object defaults)) :
    (Json.mergeMembers base document).get? part =
      some (.object (Json.mergeMembers defaults (sectionOf document part))) := by
  have same : (Json.object document).given? part = document.given? part := rfl
  rw [Json.get?_mergeMembers sorted, under, sectionOf, Json.object?, same]
  cases given : document.given? part with
  | none => simp [Json.mergeMembers]
  | some found =>
    cases found with
    | object members => simp [Json.laidOver, Json.merge, Json.asMembers?]
    | _ => cases sectioned _ given

theorem merge_default (document : Members) :
    ∃ base, default.toJson.merge (.object document) = .object (Json.mergeMembers base document) ∧
      base.get? "server" = some ServerSettings.default.toJson ∧
      base.get? "websocket" = some WebSocketSettings.default.toJson ∧
      base.get? "logging" = some LoggingSettings.default.toJson :=
  ⟨_, by rw [toJson, Json.merge], rfl, rfl, rfl⟩

/-- The settings of a file over the defaults, one by one. -/
theorem decode_merge_eq_ok (ordered : (Json.object document).Ordered)
    (sectioned : Sectioned document) :
    decode (default.toJson.merge (.object document)) = .ok s ↔
      ∀ x ∈ all, x.2.Stored document (x.2.get s) := by
  have sorted : document.Sorted := by cases ordered with | object keys _ => exact keys
  obtain ⟨base, merged, server, websocket, logging⟩ := merge_default document
  have isLogging := get?_section sorted (sectioned "logging" (by simp)) logging
  have isServer := get?_section sorted (sectioned "server" (by simp)) server
  have isWebsocket := get?_section sorted (sectioned "websocket" (by simp)) websocket
  have decodes : decode (default.toJson.merge (.object document)) =
      ofMembers (Json.mergeMembers base document) := by rw [merged]; rfl
  rw [decodes, ofMembers_eq_ok, Json.decodeOr_of_get? isLogging, Json.decodeOr_of_get? isServer,
    Json.decodeOr_of_get? isWebsocket, logging_eq_ok rfl (sorted_sectionOf ordered _),
    server_eq_ok rfl (sorted_sectionOf ordered _), websocket_eq_ok rfl (sorted_sectionOf ordered _)]
  rw [forall_all_iff]
  constructor
  · rintro ⟨⟨json, level⟩, ⟨host, most, path, port, time⟩, close, init, period, size, buffer⟩
    exact ⟨host, port, path, most, time, init, period, buffer, size, close, level, json⟩
  · rintro ⟨host, port, path, most, time, init, period, buffer, size, close, level, json⟩
    exact ⟨⟨json, level⟩, ⟨host, most, path, port, time⟩, close, init, period, size, buffer⟩

end Settings

end SubscriptionGateway
