import SubscriptionGateway.Proofs.Json.Texts
import SubscriptionGateway.Proofs.Wire.Envelope

/-! The texts that are messages, and what is wrong with those that are not. Only the value written
last for `type`, `id` and `payload` counts. The type decides whether the id matters and which shape
the payload must have, and of several faults the one that comes first in this order is reported. -/
namespace SubscriptionGateway

open Json

namespace Message

def Fits (type : MessageType) (payload : Option Json) : Prop :=
  ∃ m : Message, m.type = type ∧ m.Carries payload

structure Stands (field : String → Option Json) (m : Message) : Prop where
  type : field "type" = some (.string m.type.name)
  id : ∀ id ∈ m.id?, field "id" = some (.string id)
  payload : m.Carries (field "payload")

inductive Untyped (text : String) : DecodeError → Prop where
  | syntaxError (unread : ∀ value, ¬ Denotes text value) : Untyped text (.malformed .syntaxError)
  | notAnObject {value : Json} (read : Denotes text value)
      (other : ∀ members, value ≠ .object members) : Untyped text (.malformed .notAnObject)
  | nameless {members : Members} {error : DecodeError} (listed : Lists text members)
      (nameless : Nameless (members.last? "type") error) : Untyped text error

/-- What is made of an envelope of these fields that names a type. The types of an operation need
an id first and then a payload that fits; the types of the connection take any id. -/
structure Judges (type : MessageType) (field : String → Option Json)
    (verdict : Except DecodeError Message) : Prop where
  accepted : (∃ m, verdict = .ok m) ↔
    (type.hasId = true → ∃ id, field "id" = some (.string id)) ∧ Fits type (field "payload")
  typed : ∀ error, verdict = .error error → error.isOfEnvelope = false ∧ error.type? = some type
  missingId : type.hasId = true → (verdict = .error (.missingId type) ↔ Lacks (field "id"))
  invalidId : type.hasId = true → (verdict = .error (.invalidId type) ↔
    ¬ Lacks (field "id") ∧ ∀ id, field "id" ≠ some (.string id))
  invalidPayload : type.hasId = true → ((∃ cause, verdict = .error (.invalidPayload type cause)) ↔
    (∃ id, field "id" = some (.string id)) ∧ ¬ Fits type (field "payload"))
  missingPayload : type.hasId = true → (verdict = .error (.invalidPayload type .missing) ↔
    (∃ id, field "id" = some (.string id)) ∧ type ≠ .complete ∧ Lacks (field "payload"))
  complete : type = .complete → ∀ cause, verdict ≠ .error (.invalidPayload type cause)
  notAnObject : type.hasId = false → ∀ error, verdict = .error error ↔
    error = .invalidPayload type .notAnObject ∧
      ¬ Lacks (field "payload") ∧ ∀ members, field "payload" ≠ some (.object members)

section Envelope

variable {type : MessageType} {envelope : Members} {error : DecodeError}

/-- An id that is not a string is reported whatever the payload is. -/
theorem ofEnvelope_of_decodeId (operation : type.hasId = true)
    (h : decodeId type envelope = .error error) : ofEnvelope type envelope = .error error := by
  cases type <;> cases operation <;> simp [ofEnvelope, h, bind, Except.bind, Except.map]

/-- With its id, a message of an operation fails for its payload only. -/
theorem invalidPayload_of_id {id : String} (operation : type.hasId = true)
    (named : envelope.get? "id" = some (.string id))
    (h : ofEnvelope type envelope = .error error) :
    ∃ cause, error = .invalidPayload type cause := by
  have read : decodeId type envelope = .ok id := decodeId_eq_ok.mpr named
  cases type with
  | connectionInit | connectionAck | ping | pong => cases operation
  | subscribe | next | error =>
    simp only [ofEnvelope, bind_eq_error, read, reduceCtorEq, false_or, Except.ok.injEq,
      exists_eq_left', pure, Except.pure, and_false, exists_false, or_false] at h
    exact invalidPayload_of_decodePayload h
  | complete => simp [ofEnvelope, read, Except.map] at h

/-- A payload that fits is all that a message needs, with an id where its type has one. -/
theorem ofEnvelope_of_fits (fits : Fits type (envelope.get? "payload"))
    (named : type.hasId = true → ∃ id, envelope.get? "id" = some (.string id)) :
    ∃ m, ofEnvelope type envelope = .ok m := by
  obtain ⟨m, rfl, carries⟩ := fits
  cases m with
  | connectionInit members =>
    exact ⟨.connectionInit members, ofEnvelope_eq_ok.mpr ⟨rfl, nofun, carries⟩⟩
  | connectionAck members =>
    exact ⟨.connectionAck members, ofEnvelope_eq_ok.mpr ⟨rfl, nofun, carries⟩⟩
  | ping members => exact ⟨.ping members, ofEnvelope_eq_ok.mpr ⟨rfl, nofun, carries⟩⟩
  | pong members => exact ⟨.pong members, ofEnvelope_eq_ok.mpr ⟨rfl, nofun, carries⟩⟩
  | subscribe _ request =>
    obtain ⟨id, named⟩ := named rfl
    exact ⟨.subscribe id request, ofEnvelope_eq_ok.mpr ⟨rfl, by simpa [id?] using named, carries⟩⟩
  | next _ result =>
    obtain ⟨id, named⟩ := named rfl
    exact ⟨.next id result, ofEnvelope_eq_ok.mpr ⟨rfl, by simpa [id?] using named, carries⟩⟩
  | error _ errors =>
    obtain ⟨id, named⟩ := named rfl
    exact ⟨.error id errors, ofEnvelope_eq_ok.mpr ⟨rfl, by simpa [id?] using named, carries⟩⟩
  | complete =>
    obtain ⟨id, named⟩ := named rfl
    exact ⟨.complete id, ofEnvelope_eq_ok.mpr ⟨rfl, by simpa [id?] using named, carries⟩⟩

/-- The faults of an operation's message, in the order in which they are looked for. -/
theorem fault_of_ofEnvelope (operation : type.hasId = true)
    (h : ofEnvelope type envelope = .error error) :
    (Lacks (envelope.get? "id") ∧ error = .missingId type) ∨
      ((¬ Lacks (envelope.get? "id") ∧ ∀ id, envelope.get? "id" ≠ some (.string id)) ∧
        error = .invalidId type) ∨
      (∃ id, envelope.get? "id" = some (.string id)) ∧
        ∃ cause, error = .invalidPayload type cause := by
  cases read : decodeId type envelope with
  | error fault =>
    cases (ofEnvelope_of_decodeId operation read).symm.trans h
    exact (decodeId_eq_error.mp read).imp_right .inl
  | ok id =>
    have named := decodeId_eq_ok.mp read
    exact .inr (.inr ⟨⟨id, named⟩, invalidPayload_of_id operation named h⟩)

theorem fits_of_ofEnvelope {m : Message} (h : ofEnvelope type envelope = .ok m) :
    Fits type (envelope.get? "payload") :=
  have ⟨same, _, carries⟩ := ofEnvelope_eq_ok.mp h
  ⟨m, same, carries⟩

theorem judges_ofEnvelope (type : MessageType) (envelope : Members) :
    Judges type envelope.get? (ofEnvelope type envelope) where
  accepted := by
    constructor
    · rintro ⟨m, read⟩
      obtain ⟨rfl, named, -⟩ := ofEnvelope_eq_ok.mp read
      refine ⟨fun operation => ?_, fits_of_ofEnvelope read⟩
      obtain ⟨id, isId⟩ := Option.isSome_iff_exists.mp (m.id?_isSome.trans operation)
      exact ⟨id, named id isId⟩
    · rintro ⟨named, fits⟩
      exact ofEnvelope_of_fits fits named
  typed error h := by
    have typed := type?_of_ofEnvelope h
    exact ⟨by rw [error.isOfEnvelope_eq, typed]; rfl, typed⟩
  missingId operation := by
    constructor
    · intro h
      rcases fault_of_ofEnvelope operation h with ⟨lacks, -⟩ | ⟨-, other⟩ | ⟨-, _, other⟩
      · exact lacks
      · cases other
      · cases other
    · intro lacks
      exact ofEnvelope_of_decodeId operation (decodeId_eq_error.mpr (.inl ⟨lacks, rfl⟩))
  invalidId operation := by
    constructor
    · intro h
      rcases fault_of_ofEnvelope operation h with ⟨-, other⟩ | ⟨strange, -⟩ | ⟨-, _, other⟩
      · cases other
      · exact strange
      · cases other
    · intro strange
      exact ofEnvelope_of_decodeId operation (decodeId_eq_error.mpr (.inr ⟨strange, rfl⟩))
  invalidPayload operation := by
    constructor
    · rintro ⟨cause, h⟩
      rcases fault_of_ofEnvelope operation h with ⟨-, other⟩ | ⟨-, other⟩ | ⟨named, -⟩
      · cases other
      · cases other
      · refine ⟨named, fun fits => ?_⟩
        obtain ⟨m, read⟩ := ofEnvelope_of_fits fits fun _ => named
        cases read.symm.trans h
    · rintro ⟨⟨id, named⟩, misfit⟩
      cases read : ofEnvelope type envelope with
      | ok m => exact absurd (fits_of_ofEnvelope read) misfit
      | error error =>
        obtain ⟨cause, rfl⟩ := invalidPayload_of_id operation named read
        exact ⟨cause, rfl⟩
  missingPayload operation := by
    cases type with
    | connectionInit | connectionAck | ping | pong => cases operation
    | subscribe | next | error | complete =>
      simp [ofEnvelope, bind_eq_error, map_eq_error, decodeId_eq_error, decodeId_eq_ok,
        decodePayload_eq_error, pure, Except.pure]
  complete := by
    rintro rfl cause h
    rcases fault_of_ofEnvelope rfl h with ⟨-, other⟩ | ⟨-, other⟩ | ⟨⟨id, named⟩, -⟩
    · cases other
    · cases other
    · have fits : Fits .complete (envelope.get? "payload") := ⟨.complete id, rfl, trivial⟩
      obtain ⟨m, read⟩ := ofEnvelope_of_fits fits fun _ => ⟨id, named⟩
      cases read.symm.trans h
  notAnObject connection error := by
    cases type <;> cases connection <;>
      simp [ofEnvelope, map_eq_error, decodeObject_eq_error, and_comm]

variable {other : Members}

theorem envelopeType_congr (same : envelope.get? "type" = other.get? "type") :
    envelopeType envelope = envelopeType other := by
  simp only [envelopeType, Members.given?, same]

/-- Nothing but the payload is looked at behind the type, and the id where the type has one. -/
theorem ofEnvelope_congr (payload : envelope.get? "payload" = other.get? "payload")
    (id : type.hasId = true → envelope.get? "id" = other.get? "id") :
    ofEnvelope type envelope = ofEnvelope type other := by
  cases type with
  | connectionInit | connectionAck | ping | pong =>
    simp only [ofEnvelope, decodeObject, Members.given?, payload]
  | subscribe | next | error | complete =>
    simp only [ofEnvelope, decodeId, decodePayload, Members.given?, payload, id rfl]

end Envelope

section Text

variable {text : String} {members : Members} {type : MessageType} {error : DecodeError}

theorem decode_of_lists (listed : Lists text members) :
    decode text = (envelopeType (Members.ofList members)).bind fun type =>
      ofEnvelope type (Members.ofList members) := by
  simp only [decode, listed.read?, bind]

theorem decode_of_typed (listed : Lists text members)
    (named : members.last? "type" = some (.string type.name)) :
    decode text = ofEnvelope type (Members.ofList members) := by
  rw [← Members.get?_ofList_eq_last?] at named
  rw [decode_of_lists listed, envelopeType_eq_ok.mpr named]
  rfl

theorem untyped_of_decode (h : decode text = .error error) (untyped : error.type? = none) :
    Untyped text error := by
  unfold decode at h
  split at h
  · next unread => cases h; exact .syntaxError (read?_eq_none.mp unread)
  · next envelope read =>
    obtain ⟨members, listed, rfl⟩ := denotes_object.mp (read?_eq_some.mp read)
    rcases bind_eq_error.mp h with nameless | ⟨type, -, h⟩
    · have found := nameless_of_envelopeType nameless
      rw [Members.get?_ofList_eq_last?] at found
      exact .nameless listed found
    · rw [type?_of_ofEnvelope h] at untyped
      cases untyped
  · next value other read => cases h; exact .notAnObject (read?_eq_some.mp read) other

theorem decode_of_untyped (h : Untyped text error) :
    decode text = .error error ∧ error.type? = none := by
  cases h with
  | syntaxError unread => simp [decode, read?_eq_none.mpr unread, DecodeError.type?]
  | @notAnObject value read other =>
    have read := read?_eq_some.mpr read
    cases value with
    | object members => exact absurd rfl (other members)
    | _ => simp [decode, read, DecodeError.type?]
  | @nameless members _ listed nameless =>
    refine ⟨?_, nameless.type?⟩
    rw [← Members.get?_ofList_eq_last?] at nameless
    rw [decode_of_lists listed, envelopeType_of_nameless nameless]
    rfl

theorem decode_eq_ok {m : Message} :
    decode text = .ok m ↔ ∃ members, Lists text members ∧ m.Stands members.last? := by
  constructor
  · intro h
    unfold decode at h
    split at h
    · cases h
    · next envelope read =>
      obtain ⟨members, listed, rfl⟩ := denotes_object.mp (read?_eq_some.mp read)
      obtain ⟨type, named, h⟩ := bind_eq_ok.mp h
      obtain ⟨rfl, isId, carries⟩ := ofEnvelope_eq_ok.mp h
      have named := envelopeType_eq_ok.mp named
      rw [Members.get?_ofList_eq_last?] at named isId carries
      exact ⟨members, listed, named, isId, carries⟩
    · cases h
  · rintro ⟨members, listed, named, isId, carries⟩
    rw [decode_of_typed listed named]
    rw [← Members.get?_ofList_eq_last?] at isId carries
    exact ofEnvelope_eq_ok.mpr ⟨rfl, isId, carries⟩

end Text

/-- Decoding accepts the texts that stand for a message and classifies every failure. A failure
that names no type is one of the text, of the object or of the value of `type`; any other names the
type, and is one of the id or of the payload. What else is in the envelope never matters, and of
the members of one key only the last does. JSON is meant as the reader takes it: at most 127 arrays
and objects are open at once, and every number is in the range of binary64. -/
theorem decode_is_exact (text : String) :
    (∀ error, decode text = .error error ∧ error.isOfEnvelope = true ∧ error.type? = none ↔
      Untyped text error) ∧
    (∀ members type, Lists text members → members.last? "type" = some (.string type.name) →
      Judges type members.last? (decode text)) ∧
    (∀ m, decode text = .ok m ↔ ∃ members, Lists text members ∧ m.Stands members.last?) ∧
    ∀ members other others, Lists text members → Lists other others →
      members.last? "type" = others.last? "type" →
      (∀ type : MessageType, members.last? "type" = some (.string type.name) →
        members.last? "payload" = others.last? "payload" ∧
          (type.hasId = true → members.last? "id" = others.last? "id")) →
      decode text = decode other := by
  refine ⟨fun error => ⟨?_, ?_⟩, ?_, fun m => decode_eq_ok, ?_⟩
  · rintro ⟨h, -, untyped⟩
    exact untyped_of_decode h untyped
  · intro h
    obtain ⟨failed, untyped⟩ := decode_of_untyped h
    exact ⟨failed, by rw [error.isOfEnvelope_eq, untyped]; rfl, untyped⟩
  · intro members type listed named
    rw [decode_of_typed listed named, ← Members.get?_ofList_eq_last?]
    exact judges_ofEnvelope type (Members.ofList members)
  · intro members other others listed listedOther same alike
    rw [decode_of_lists listed, decode_of_lists listedOther]
    simp only [← Members.get?_ofList_eq_last?] at same alike
    rw [← envelopeType_congr same]
    cases known : envelopeType (Members.ofList members) with
    | error error => rfl
    | ok type =>
      obtain ⟨payload, id⟩ := alike type (envelopeType_eq_ok.mp known)
      exact ofEnvelope_congr payload id

/-- An id that is no string counts before a payload that does not fit, and neither the members that
were overwritten nor those that nobody knows make a difference; a ping may have any id. -/
theorem verdicts_of_wrong_ids :
    let text := " \x7b\"id\":7,\"type\":\"ping\",\"payload\":[],\"type\":\"subscribe\"\x7d "
    let other := "\x7b\"type\":\"subscribe\",\"x\":null,\"id\":\"1\",\"payload\":[],\"id\":7\x7d"
    let ping := "\x7b\"type\":\"ping\",\"id\":7,\"payload\":1\x7d"
    decode text = .error (.invalidId .subscribe) ∧ decode other = decode text ∧
      decode ping = .error (.invalidPayload .ping .notAnObject) := by
  intro text other ping
  let members : Members := [("id", .integer 7), ("type", .string "ping"), ("payload", .array []),
    ("type", .string "subscribe")]
  let others : Members := [("type", .string "subscribe"), ("x", .null), ("id", .string "1"),
    ("payload", .array []), ("id", .integer 7)]
  let pings : Members := [("type", .string "ping"), ("id", .integer 7), ("payload", .integer 1)]
  have listed : Lists text members :=
    ⟨126, (skipBlank text.toList).tail, [' '], rfl, by decide +kernel,
      .inr ((derives 200).members _ _ _ _ (by decide +kernel)), by decide⟩
  have listedOther : Lists other others :=
    ⟨126, (skipBlank other.toList).tail, [], rfl, by decide +kernel,
      .inr ((derives 200).members _ _ _ _ (by decide +kernel)), by decide⟩
  have listedPing : Lists ping pings :=
    ⟨126, (skipBlank ping.toList).tail, [], rfl, by decide +kernel,
      .inr ((derives 200).members _ _ _ _ (by decide +kernel)), by decide⟩
  obtain ⟨-, judged, -, alike⟩ := decode_is_exact text
  obtain ⟨-, judgedPing, -, -⟩ := decode_is_exact ping
  refine ⟨?_, ?_, ?_⟩
  · have judges := judged members .subscribe listed (by decide +kernel)
    have isSeven : members.last? "id" = some (.integer 7) := by decide +kernel
    exact (judges.invalidId rfl).mpr (by simp [isSeven, Lacks])
  · exact (alike members other others listed listedOther (by decide +kernel)
      fun _ _ => ⟨by decide +kernel, fun _ => by decide +kernel⟩).symm
  · have judges := judgedPing pings .ping listedPing (by decide +kernel)
    have isOne : pings.last? "payload" = some (.integer 1) := by decide +kernel
    exact (judges.notAnObject rfl _).mpr ⟨rfl, by simp [isOne, Lacks]⟩

end Message

end SubscriptionGateway
