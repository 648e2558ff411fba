import SubscriptionGateway.CommandLine
import SubscriptionGateway.Proofs.Settings.Fields
import SubscriptionGateway.Settings.Load

/-! The layers that settings come from. Each setting is taken from its variable, from the file or
from the defaults, whatever the others are taken from. -/
namespace SubscriptionGateway

namespace Setting

variable {α : Type} {x : Setting α} {document : Members} {env : Environment}

def Named (x : Setting α) (env : Environment) (value : α) : Prop :=
  ∃ name text, x.envName = some name ∧ env name = some text ∧ x.accepts text value

/-- The value that the setting has in all layers together. -/
def Layered (x : Setting α) (env : Environment) (document : Members) (value : α) : Prop :=
  x.Named env value ∨ (∀ other, ¬ x.Named env other) ∧ x.Stored document value

section Variables

variable {part key name default : String} {get : Settings → String}

theorem named_iff (named : x.envName = some name) {value : α} :
    x.Named env value ↔ ∃ text, env name = some text ∧ x.accepts text value := by
  simp [Named, named]

theorem named_text {value : String} :
    (text part key name default get).Named env value ↔ env.text? name = some value := by
  rw [named_iff rfl, Environment.text?_eq_some]
  simp [text]

theorem named_path {value : String} :
    path.Named env value ↔ env.path? "GQLWS_PATH" = some value := by
  rw [named_iff rfl, Environment.path?_eq_some]
  simp [path]

theorem named_within {x : Setting Nat} {n : Nat} (allowed : Allowed)
    (narrow : allowed.most < UInt64.size) :
    (x.within name allowed.least allowed.most).Named env n ↔ env.number? name allowed = some n :=
  (named_iff rfl).trans (Environment.number?_eq_some narrow).symm

theorem named_json {value : Bool} :
    json.Named env value ↔ env.bool? "GQLWS_LOG_JSON" = some value :=
  (named_iff rfl).trans Environment.bool?_eq_some.symm

theorem not_named_number {part key : String} {width : Width} {default n : Nat}
    {get : Settings → Nat} : ¬ (number part key width default get).Named env n := by
  rintro ⟨_, _, ⟨⟩, -⟩

end Variables

structure Overrides (x : Setting α) (env : Environment) (found : Option α) : Prop where
  named : ∀ value, x.Named env value ↔ found = some value
  get : ∀ s : Settings, x.get (s.override env) = found.getD (x.get s)

theorem exists_overrides (env : Environment) :
    ∀ x ∈ all, ∃ found, x.2.Overrides env found := by
  refine forall_all_iff.mpr ⟨?_, ?_, ?_, ?_, ?_, ?_, ?_, ?_, ?_, ?_, ?_, ?_⟩
  · exact ⟨_, fun _ => named_text, fun _ => rfl⟩
  · exact ⟨_, fun _ => named_within .port (by decide), fun _ => rfl⟩
  · exact ⟨_, fun _ => named_path, fun _ => rfl⟩
  · exact ⟨_, fun _ => named_within .maxConnections (by decide), fun _ => rfl⟩
  · exact ⟨none, fun _ => iff_of_false not_named_number (by simp), fun _ => rfl⟩
  · exact ⟨_, fun _ => named_within .initTimeoutMs (by decide), fun _ => rfl⟩
  · exact ⟨_, fun _ => named_within .keepAliveMs (by decide), fun _ => rfl⟩
  · exact ⟨_, fun _ => named_within .outboundBuffer (by decide), fun _ => rfl⟩
  · exact ⟨_, fun _ => named_within .maxMessageSize (by decide), fun _ => rfl⟩
  · exact ⟨_, fun _ => named_within .closeTimeoutMs (by decide), fun _ => rfl⟩
  · exact ⟨_, fun _ => named_text, fun _ => rfl⟩
  · exact ⟨_, fun _ => named_json, fun _ => rfl⟩

theorem injective_toJson : ∀ x ∈ all, Function.Injective x.2.toJson := by
  have texts : Function.Injective Json.string := fun _ _ => Json.string.inj
  have numbers : Function.Injective fun n : Nat => Json.integer n := fun _ _ same =>
    Int.ofNat.inj (Json.integer.inj same)
  have flags : Function.Injective Json.bool := fun _ _ => Json.bool.inj
  exact forall_all_iff.mpr ⟨texts, numbers, texts, numbers, numbers, numbers, numbers, numbers,
    numbers, numbers, texts, flags⟩

theorem Stored.unique (injective : Function.Injective x.toJson) {first second : α}
    (one : x.Stored document first) (other : x.Stored document second) : first = second := by
  rcases one with ⟨found, -⟩ | ⟨absent, rfl⟩ <;> rcases other with ⟨again, -⟩ | ⟨gone, rfl⟩
  · exact injective (Option.some.inj (found.symm.trans again))
  · simp [gone] at found
  · simp [absent] at again
  · rfl

theorem layered_iff {found : Option α} (overrides : x.Overrides env found) {value : α} :
    x.Layered env document value ↔
      found = some value ∨ found = none ∧ x.Stored document value := by
  have unnamed : (∀ other, ¬ x.Named env other) ↔ found = none := by
    simp only [overrides.named, Option.eq_none_iff_forall_ne_some, ne_eq]
  rw [Layered, overrides.named, unnamed]

theorem Layered.unique (injective : Function.Injective x.toJson) {found : Option α}
    (overrides : x.Overrides env found) {first second : α} (one : x.Layered env document first)
    (other : x.Layered env document second) : first = second := by
  rcases (layered_iff overrides).mp one with named | ⟨unnamed, stored⟩ <;>
    rcases (layered_iff overrides).mp other with again | ⟨bare, kept⟩
  · exact Option.some.inj (named.symm.trans again)
  · simp [bare] at named
  · simp [unnamed] at again
  · exact stored.unique injective kept

theorem eq_of_get_eq {s t : Settings} (same : ∀ x ∈ all, x.2.get s = x.2.get t) : s = t := by
  obtain ⟨host, port, path, most, time, init, period, buffer, size, close, level, json⟩ :=
    forall_all_iff.mp same
  obtain ⟨⟨⟩, ⟨⟩, ⟨⟩⟩ := s
  obtain ⟨⟨⟩, ⟨⟩, ⟨⟩⟩ := t
  cases host; cases port; cases path; cases most; cases time; cases init
  cases period; cases buffer; cases size; cases close; cases level; cases json
  rfl

/-- The environment over what a file and the defaults give. -/
theorem layered_override {file t : Settings}
    (stored : ∀ x ∈ all, x.2.Stored document (x.2.get file)) :
    (∀ x ∈ all, x.2.Layered env document (x.2.get t)) ↔ t = file.override env := by
  have layered : ∀ x ∈ all, x.2.Layered env document (x.2.get (file.override env)) := by
    intro x member
    obtain ⟨found, overrides⟩ := exists_overrides env x member
    rw [layered_iff overrides, overrides.get]
    cases found with
    | some value => exact .inl rfl
    | none => exact .inr ⟨rfl, stored x member⟩
  constructor
  · intro each
    refine eq_of_get_eq fun x member => ?_
    obtain ⟨found, overrides⟩ := exists_overrides env x member
    exact (each x member).unique (injective_toJson x member) overrides (layered x member)
  · rintro rfl
    exact layered

/-- There are settings for a file over the defaults exactly if the file has nothing of a wrong
type. -/
theorem exists_stored_iff :
    (∃ s : Settings, ∀ x ∈ all, x.2.Stored document (x.2.get s)) ↔
      ∀ x ∈ all, ¬ x.2.Misfits document := by
  constructor
  · rintro ⟨s, stored⟩ x member misfits
    exact misfits_iff.mp misfits _ (stored x member)
  · intro fits
    have found : ∀ x ∈ all, ∃ value, x.2.Stored document value := fun x member =>
      not_forall_not.mp (mt misfits_iff.mpr (fits x member))
    simp only [forall_all_iff] at found ⊢
    obtain ⟨⟨host, isHost⟩, ⟨port, isPort⟩, ⟨path, isPath⟩, ⟨most, isMost⟩, ⟨time, isTime⟩,
      ⟨init, isInit⟩, ⟨period, isPeriod⟩, ⟨buffer, isBuffer⟩, ⟨size, isSize⟩, ⟨close, isClose⟩,
      ⟨level, isLevel⟩, ⟨json, isJson⟩⟩ := found
    exact ⟨⟨⟨host, port, path, most, time⟩, ⟨init, period, buffer, size, close⟩, ⟨level, json⟩⟩,
      isHost, isPort, isPath, isMost, isTime, isInit, isPeriod, isBuffer, isSize, isClose, isLevel,
      isJson⟩

end Setting

namespace Settings

open Setting

variable {document : Members} {env : Environment} {text : String}

theorem ofSource_file (text : String) : ofSource (.file text.toUTF8) = ofText text := by
  have decoded : String.fromUTF8? text.toUTF8 = some text := dif_pos text.isValidUTF8
  simp only [ofSource, decoded]

theorem ofText_of_read (read : Json.read? text = some (.object document)) :
    ofText text = (decode (default.toJson.merge (.object document))).mapError .data := by
  simp only [ofText, read, ofJson]

theorem load_of_error {source : SettingsSource} {cause : SettingsError} (env : Environment)
    (failed : ofSource source = .error cause) : load source env = .error cause := by
  simp only [load, failed]
  rfl

theorem load_of_ok {source : SettingsSource} {file : Settings} (env : Environment)
    (read : ofSource source = .ok file) :
    load source env =
      match (file.override env).fault? with
      | some cause => .error (.invalid cause)
      | none => .ok (file.override env) := by
  simp only [load, read, validate, bind, Except.bind]
  cases (file.override env).fault? <;> rfl

theorem load_file (env : Environment) {file : Settings} (read : ofText text = .ok file)
    (faultless : (file.override env).fault? = none) :
    load (.file text.toUTF8) env = .ok (file.override env) := by
  rw [load_of_ok env ((ofSource_file text).trans read), faultless]

theorem load_file_alone {file : Settings} (read : ofText text = .ok file)
    (faultless : file.fault? = none) : load (.file text.toUTF8) (fun _ => none) = .ok file :=
  load_file _ read faultless

/-- Loading settings from a file whose root is an object, and whose sections are, if they are
there. It fails for a wrong type exactly if the file gives some setting a value that is not of the
setting's type, whatever the environment is. Otherwise there are settings each of which has the
value of its variable if that is set to something acceptable, else the value of the file if that has
one and it is not null, else the default; they are the result if the server can run with them, and
if it cannot, that is the failure. Under the command line they make up what the server is run
with. -/
theorem load_is_layered (read : Json.read? text = some (.object document))
    (sectioned : Sectioned document) (env : Environment) :
    ((∃ cause, load (.file text.toUTF8) env = .error (.data cause)) ↔
      ∃ x ∈ all, x.2.Misfits document) ∧
    ((∀ x ∈ all, ¬ x.2.Misfits document) → ∃ s : Settings,
      (∀ t : Settings, (∀ x ∈ all, x.2.Layered env document (x.2.get t)) ↔ t = s) ∧
      (s.Runnable → load (.file text.toUTF8) env = .ok s) ∧
      ((∃ cause, load (.file text.toUTF8) env = .error (.invalid cause)) ↔ ¬ s.Runnable) ∧
      ∀ a : Arguments, a.apply (.ofSettings s) =
        { host := a.host.getD s.server.host
          port := a.port.getD s.server.port
          path := s.server.path
          maxConnections := s.server.maxConnections
          maxMessageSize := s.websocket.maxMessageSize
          shutdownTimeout := s.server.shutdownTimeoutMs
          connection := {
            initTimeout := a.initTimeoutMs.getD s.websocket.initTimeoutMs
            keepAlive := if s.websocket.keepAliveMs = 0 then none else some s.websocket.keepAliveMs
            outboundBuffer := s.websocket.outboundBuffer
            closeTimeout := s.websocket.closeTimeoutMs } }) := by
  have source := (ofSource_file text).trans (ofText_of_read read)
  have stored_iff := fun s => decode_merge_eq_ok (s := s) (Json.ordered_of_read? read).1 sectioned
  cases decoded : decode (default.toJson.merge (.object document)) with
  | error cause =>
    have failed := load_of_error env (source.trans (congrArg _ decoded))
    have misfits : ¬ ∀ x ∈ all, ¬ x.2.Misfits document := by
      rw [← exists_stored_iff]
      rintro ⟨s, stored⟩
      simp [(stored_iff s).mpr stored] at decoded
    exact ⟨iff_of_true ⟨cause, failed⟩ (by simpa using misfits), fun fits => absurd fits misfits⟩
  | ok file =>
    have stored := (stored_iff file).mp decoded
    have fits := exists_stored_iff.mp ⟨file, stored⟩
    have loaded := load_of_ok env (source.trans (congrArg _ decoded))
    have runnable := (file.override env).fault?_eq_none_iff
    refine ⟨iff_of_false ?_ fun ⟨x, member, misfits⟩ => fits x member misfits, fun _ =>
      ⟨file.override env, fun t => layered_override stored, ?_, ?_, fun a => rfl⟩⟩ <;> rw [loaded]
    · rintro ⟨cause, failed⟩
      split at failed <;> cases failed
    · intro runs
      rw [runnable.mpr runs]
    · rw [← runnable]
      cases (file.override env).fault? <;> simp

/-- A file with a null, a member that is no setting, and an outbound buffer that is a number but
nothing to run with. -/
def faulty : String :=
  "\x7b\"server\":\x7b\"port\":4001,\"path\":null,\"color\":1\x7d,"
    ++ "\"websocket\":\x7b\"outboundBuffer\":0\x7d\x7d"

def faultyDocument : Members :=
  [("server", .object [("color", .integer 1), ("path", .null), ("port", .integer 4001)]),
    ("websocket", .object [("outboundBuffer", .integer 0)])]

/-- An environment that repairs this file. A port out of range is ignored. -/
def repairing : Environment := fun name =>
  List.lookup name [("GQLWS_OUTBOUND_BUFFER", "+016"), ("GQLWS_PORT", "65536")]

def repaired : Settings :=
  ⟨{ ServerSettings.default with port := 4001 },
    { WebSocketSettings.default with outboundBuffer := 16 }, LoggingSettings.default⟩

/-- The theorem at this file and this environment. -/
theorem load_of_repaired :
    load (.file faulty.toUTF8) repairing = .ok repaired ∧
      ∀ x ∈ all, x.2.Layered repairing faultyDocument (x.2.get repaired) := by
  have read : Json.read? faulty = some (.object faultyDocument) := by decide +kernel
  have sectioned : Sectioned faultyDocument := by
    simp only [Sectioned, List.forall_mem_cons, List.not_mem_nil, false_implies, implies_true,
      and_true]
    refine ⟨?_, ?_, ?_⟩ <;> rintro _ ⟨⟩ <;> rfl
  have ofFile : ofText faulty = .ok ⟨repaired.server,
      { repaired.websocket with outboundBuffer := 0 }, repaired.logging⟩ := by decide +kernel
  have loaded : load (.file faulty.toUTF8) repairing = .ok repaired :=
    (load_file repairing ofFile (by decide +kernel)).trans (congrArg _ (by decide +kernel))
  obtain ⟨data, layered⟩ := load_is_layered read sectioned repairing
  have fits : ∀ x ∈ all, ¬ x.2.Misfits faultyDocument := by
    intro x member misfits
    obtain ⟨cause, failed⟩ := data.mpr ⟨x, member, misfits⟩
    cases loaded.symm.trans failed
  obtain ⟨s, only, runs, rejected, -⟩ := layered fits
  have runnable : s.Runnable := by
    refine not_not.mp (mt rejected.mpr ?_)
    rintro ⟨cause, failed⟩
    cases loaded.symm.trans failed
  obtain rfl : repaired = s := Except.ok.inj (loaded.symm.trans (runs runnable))
  exact ⟨loaded, (only _).mpr rfl⟩

end Settings

end SubscriptionGateway
