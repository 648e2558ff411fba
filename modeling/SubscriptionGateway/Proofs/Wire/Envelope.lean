import SubscriptionGateway.Proofs.Wire.Shapes

/-! What stands in an envelope. Only the type tells how the rest is read; whatever is wrong behind
it is reported with the type, and whatever is wrong before it without one. -/
namespace SubscriptionGateway

open Json

namespace Message

def Carries (payload : Option Json) : Message → Prop
  | .connectionInit members | .connectionAck members | .ping members | .pong members =>
    Holds Json.object payload members
  | .subscribe _ request => ∃ value, payload = some value ∧ SubscribePayload.IsRead value request
  | .next _ result => ∃ value, payload = some value ∧ ExecutionResult.IsRead value result
  | .error _ errors => ∃ value, payload = some value ∧ IsListOf GraphQlError.IsRead value errors
  | .complete _ => True

variable {type : MessageType} {envelope : Members} {error : DecodeError}

inductive Nameless (field : Option Json) : DecodeError → Prop where
  | lacking (lacks : Lacks field) : Nameless field .missingType
  | unknown {name : String} (found : field = some (.string name))
      (other : ∀ type : MessageType, type.name ≠ name) : Nameless field (.unknownType name)
  | notText {value : Json} (found : field = some value) (notNull : value ≠ .null)
      (other : ∀ name, value ≠ .string name) : Nameless field (.unknownType value.render)

theorem Nameless.type? {field : Option Json} (h : Nameless field error) : error.type? = none := by
  cases h <;> rfl

theorem nameless_of_envelopeType (h : envelopeType envelope = .error error) :
    Nameless (envelope.get? "type") error := by
  unfold envelopeType at h
  split at h
  · next lacks => cases h; exact .lacking (Members.given?_eq_none.mp lacks)
  · next name given =>
    obtain ⟨found, -⟩ := Members.given?_eq_some.mp given
    split at h
    · cases h
    · next unknown =>
      cases h
      refine .unknown found fun type same => ?_
      simp [MessageType.ofName?_eq_some_iff.mpr same] at unknown
  · next value other given =>
    obtain ⟨found, notNull⟩ := Members.given?_eq_some.mp given
    cases h
    exact .notText found notNull other

theorem envelopeType_of_nameless (h : Nameless (envelope.get? "type") error) :
    envelopeType envelope = .error error := by
  cases h with
  | lacking lacks => simp [envelopeType, Members.given?_eq_none.mpr lacks]
  | @unknown name found other =>
    have given := Members.given?_eq_some.mpr ⟨found, by simp⟩
    cases known : MessageType.ofName? name with
    | none => simp [envelopeType, given, known]
    | some type => exact absurd (MessageType.ofName?_eq_some_iff.mp known) (other type)
  | @notText value found notNull other =>
    have given := Members.given?_eq_some.mpr ⟨found, notNull⟩
    cases value with
    | string name => exact absurd rfl (other name)
    | _ => simp [envelopeType, given]

theorem envelopeType_eq_ok : envelopeType envelope = .ok type ↔
    envelope.get? "type" = some (.string type.name) := by
  constructor
  · intro h
    unfold envelopeType at h
    split at h
    · cases h
    · next name given =>
      split at h
      · next known =>
        cases h
        rw [MessageType.ofName?_eq_some_iff.mp known]
        exact (Members.given?_eq_some.mp given).1
      · cases h
    · cases h
  · intro found
    have given := Members.given?_eq_some.mpr ⟨found, by simp⟩
    simp [envelopeType, given, MessageType.ofName?_name]

/-- An id is missing where its field lacks, and invalid where it is anything but a string. -/
theorem decodeId_eq_error : decodeId type envelope = .error error ↔
    (Lacks (envelope.get? "id") ∧ error = .missingId type) ∨
      ((¬ Lacks (envelope.get? "id") ∧ ∀ id, envelope.get? "id" ≠ some (.string id)) ∧
        error = .invalidId type) := by
  unfold decodeId Lacks Members.given?
  cases envelope.get? "id" with
  | none => simp [eq_comm]
  | some value => cases value <;> simp [eq_comm]

theorem decodeId_eq_ok {id : String} :
    decodeId type envelope = .ok id ↔ envelope.get? "id" = some (.string id) := by
  unfold decodeId Members.given?
  cases envelope.get? "id" with
  | none => simp
  | some value => cases value <;> simp

theorem decodeObject_eq_ok {members : Option Members} : decodeObject type envelope = .ok members ↔
    Holds Json.object (envelope.get? "payload") members := by
  unfold decodeObject Members.given?
  cases members <;> cases envelope.get? "payload" with
  | none => simp [Holds, Lacks]
  | some value => cases value <;> simp [Holds, Lacks]

theorem decodeObject_eq_error : decodeObject type envelope = .error error ↔
    (¬ Lacks (envelope.get? "payload") ∧
      ∀ members, envelope.get? "payload" ≠ some (.object members)) ∧
      error = .invalidPayload type .notAnObject := by
  unfold decodeObject Lacks Members.given?
  cases envelope.get? "payload" with
  | none => simp
  | some value => cases value <;> simp [eq_comm]

theorem decodeObject_of_absent
    (absent : envelope.get? "payload" = none ∨ envelope.get? "payload" = some .null) :
    decodeObject type envelope = .ok none :=
  decodeObject_eq_ok.mpr absent

theorem decodeObject_of_object {members : Members}
    (found : envelope.get? "payload" = some (.object members)) :
    decodeObject type envelope = .ok (some members) :=
  decodeObject_eq_ok.mpr ⟨found, by simp⟩

theorem decodeObject_of_other {value : Json} (found : envelope.get? "payload" = some value)
    (given : value ≠ .null) (other : ∀ members, value ≠ .object members) :
    decodeObject type envelope = .error (.invalidPayload type .notAnObject) := by
  refine decodeObject_eq_error.mpr ⟨⟨?_, fun members same => ?_⟩, rfl⟩
  · rintro (absent | isNull)
    · simp [absent] at found
    · exact given (Option.some.inj (found.symm.trans isNull))
  · exact other members (Option.some.inj (found.symm.trans same))

section Payload

variable {α : Type} {decoder : Json → Decoded α}

/-- A payload of an operation is there if it has the shape asked for, which null never has. -/
theorem decodePayload_eq_ok (Shape : Json → α → Prop)
    (exact : ∀ {part x}, decoder part = .ok x ↔ Shape part x) (notNull : ∀ x, ¬ Shape .null x)
    {x : α} : decodePayload type decoder envelope = .ok x ↔
      ∃ value, envelope.get? "payload" = some value ∧ Shape value x := by
  unfold decodePayload
  cases given : envelope.given? "payload" with
  | none =>
    rcases Members.given?_eq_none.mp given with absent | isNull
    · simp [absent]
    · simp [isNull, notNull]
  | some value =>
    obtain ⟨found, -⟩ := Members.given?_eq_some.mp given
    simp only [found, Option.some.injEq, exists_eq_left', ← exact]
    cases decoder value <;> simp [Except.mapError]

theorem decodePayload_eq_error : decodePayload type decoder envelope = .error error ↔
    (Lacks (envelope.get? "payload") ∧ error = .invalidPayload type .missing) ∨
      ∃ value cause, envelope.get? "payload" = some value ∧ value ≠ .null ∧
        decoder value = .error cause ∧ error = .invalidPayload type (.data cause) := by
  unfold decodePayload
  cases given : envelope.given? "payload" with
  | none =>
    have lacks := Members.given?_eq_none.mp given
    have absent : ∀ value, envelope.get? "payload" = some value → value = .null := by
      intro value found
      rcases lacks with absent | isNull
      · simp [absent] at found
      · exact Option.some.inj (found.symm.trans isNull)
    constructor
    · rintro ⟨⟩
      exact .inl ⟨lacks, rfl⟩
    · rintro (⟨-, rfl⟩ | ⟨value, _, found, notNull, -⟩)
      · rfl
      · exact absurd (absent value found) notNull
  | some value =>
    obtain ⟨found, notNull⟩ := Members.given?_eq_some.mp given
    have given : ¬ Lacks (some value) := by simpa [Lacks] using notNull
    rw [found]
    cases read : decoder value with
    | ok x => simp [Except.mapError, given, read]
    | error cause => simp [Except.mapError, given, read, notNull, eq_comm]

theorem invalidPayload_of_decodePayload (h : decodePayload type decoder envelope = .error error) :
    ∃ cause, error = .invalidPayload type cause := by
  rcases decodePayload_eq_error.mp h with ⟨-, rfl⟩ | ⟨_, _, -, -, -, rfl⟩
  · exact ⟨_, rfl⟩
  · exact ⟨_, rfl⟩

end Payload

theorem decodeRequest_eq_ok {p : SubscribePayload} :
    decodePayload type SubscribePayload.decode envelope = .ok p ↔
      ∃ value, envelope.get? "payload" = some value ∧ SubscribePayload.IsRead value p :=
  decodePayload_eq_ok SubscribePayload.IsRead SubscribePayload.decode_eq_ok
    SubscribePayload.not_isRead_null

theorem decodeResult_eq_ok {r : ExecutionResult} :
    decodePayload type ExecutionResult.decode envelope = .ok r ↔
      ∃ value, envelope.get? "payload" = some value ∧ ExecutionResult.IsRead value r :=
  decodePayload_eq_ok ExecutionResult.IsRead ExecutionResult.decode_eq_ok
    ExecutionResult.not_isRead_null

theorem decodeErrors_eq_ok {es : List GraphQlError} :
    decodePayload type (decodeList GraphQlError.decode) envelope = .ok es ↔
      ∃ value, envelope.get? "payload" = some value ∧ IsListOf GraphQlError.IsRead value es :=
  decodePayload_eq_ok (IsListOf GraphQlError.IsRead) (decodeList_eq_ok GraphQlError.decode_eq_ok)
    not_isListOf_null

/-- The messages of an envelope that names a type. -/
theorem ofEnvelope_eq_ok {m : Message} : ofEnvelope type envelope = .ok m ↔
    m.type = type ∧ (∀ id ∈ m.id?, envelope.get? "id" = some (.string id)) ∧
      m.Carries (envelope.get? "payload") := by
  cases type with
  | connectionInit | connectionAck | ping | pong =>
    cases m <;> simp [ofEnvelope, map_eq_ok, decodeObject_eq_ok, Message.type, id?, Carries]
  | subscribe =>
    cases m <;> simp [ofEnvelope, bind_eq_ok, decodeId_eq_ok, decodeRequest_eq_ok, pure,
      Except.pure, Message.type, id?, Carries]
  | next =>
    cases m <;> simp [ofEnvelope, bind_eq_ok, decodeId_eq_ok, decodeResult_eq_ok, pure,
      Except.pure, Message.type, id?, Carries]
  | error =>
    cases m <;> simp [ofEnvelope, bind_eq_ok, decodeId_eq_ok, decodeErrors_eq_ok, pure,
      Except.pure, Message.type, id?, Carries]
  | complete =>
    cases m <;> simp [ofEnvelope, map_eq_ok, decodeId_eq_ok, Message.type, id?, Carries]

/-- What goes wrong behind the envelope is reported with the type that the envelope names. -/
theorem type?_of_ofEnvelope (h : ofEnvelope type envelope = .error error) :
    error.type? = some type := by
  have ofId (h : decodeId type envelope = .error error) : error.type? = some type := by
    rcases decodeId_eq_error.mp h with ⟨-, rfl⟩ | ⟨-, rfl⟩ <;> rfl
  cases type with
  | connectionInit | connectionAck | ping | pong =>
    obtain ⟨-, rfl⟩ := decodeObject_eq_error.mp (map_eq_error.mp h)
    rfl
  | complete => exact ofId (map_eq_error.mp h)
  | subscribe | next | error =>
    rcases bind_eq_error.mp h with noId | ⟨id, -, h⟩
    · exact ofId noId
    · rcases bind_eq_error.mp h with noPayload | ⟨payload, -, h⟩
      · obtain ⟨cause, rfl⟩ := invalidPayload_of_decodePayload noPayload
        rfl
      · cases h

end Message

end SubscriptionGateway
