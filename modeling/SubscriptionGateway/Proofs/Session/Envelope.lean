import SubscriptionGateway.Json.Access
import SubscriptionGateway.Proofs.Session.Steps
import SubscriptionGateway.Proofs.Wire.Envelope

/-! What a frame shows before its message is decoded: its text, the object in it, and the type that
the object names. -/
namespace SubscriptionGateway

namespace InboundFrame

def text? : InboundFrame → Option String
  | .text content => some content
  | .binary content => String.fromUTF8? content
  | .close => none

def envelope? (frame : InboundFrame) : Option Members :=
  (frame.text?.bind Json.read?).bind Json.asMembers?

/-- Whether a frame is an object that names a type of the protocol. -/
def Names (frame : InboundFrame) (envelope : Members) (type : MessageType) : Prop :=
  frame.envelope? = some envelope ∧ envelope.get? "type" = some (.string type.name)

variable {frame : InboundFrame} {envelope : Members} {type : MessageType}

theorem decoded?_of_text? {text : String} (h : frame.text? = some text) :
    frame.decoded? = some (Message.decode text) := by
  cases frame with
  | text content => cases h; rfl
  | binary content =>
    have read : String.fromUTF8? content = some text := h
    simp [decoded?, Message.decodeBinary, read]
  | close => cases h

theorem decoded?_of_names (h : frame.Names envelope type) :
    frame.decoded? = some (Message.ofEnvelope type envelope) := by
  obtain ⟨isObject, named⟩ := h
  obtain ⟨value, read, members⟩ := Option.bind_eq_some_iff.mp isObject
  obtain ⟨text, isText, read⟩ := Option.bind_eq_some_iff.mp read
  cases value with
  | object found =>
    cases members
    rw [decoded?_of_text? isText]
    simp [Message.decode, read, Message.envelopeType_eq_ok.mpr named, bind, Except.bind]
  | _ => cases members

/-- A frame that names no type fails before its type is known. -/
theorem decoded?_of_nameless (data : frame ≠ .close)
    (nameless : ∀ envelope type, ¬ frame.Names envelope type) :
    ∃ error, frame.decoded? = some (.error error) ∧ error.type? = none := by
  cases isText : frame.text? with
  | none =>
    cases frame with
    | text => cases isText
    | binary content =>
      have garbled : String.fromUTF8? content = none := isText
      exact ⟨.notUtf8, by simp [decoded?, Message.decodeBinary, garbled], rfl⟩
    | close => exact absurd rfl data
  | some text =>
    rw [decoded?_of_text? isText]
    unfold Message.decode
    split
    · exact ⟨_, rfl, rfl⟩
    · next envelope read =>
      have isObject : frame.envelope? = some envelope := by
        simp [envelope?, isText, read, Json.asMembers?]
      cases known : Message.envelopeType envelope with
      | ok type =>
        exact absurd ⟨isObject, Message.envelopeType_eq_ok.mp known⟩ (nameless envelope type)
      | error error => exact ⟨error, rfl, (Message.nameless_of_envelopeType known).type?⟩
    · exact ⟨_, rfl, rfl⟩

theorem decoded?_of_unreadable (data : frame ≠ .close) (unread : frame.message? = none) :
    ∃ error, frame.decoded? = some (.error error) := by
  cases decoded : frame.decoded? with
  | none =>
    cases frame with
    | text | binary => cases decoded
    | close => exact absurd rfl data
  | some result =>
    cases result with
    | error error => exact ⟨error, rfl⟩
    | ok message => simp [message?_eq_some.mpr decoded] at unread

end InboundFrame

end SubscriptionGateway
