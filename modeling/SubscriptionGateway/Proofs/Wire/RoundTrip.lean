import SubscriptionGateway.Proofs.Json.Literals
import SubscriptionGateway.Proofs.Wire.Decoded
import SubscriptionGateway.Proofs.Wire.Envelope

/-! Messages as text: what is encoded decodes to the message, data that is null apart, and what
is decoded encodes to a text that decodes to it. -/
namespace SubscriptionGateway

namespace Message

def Canonical : Message → Prop
  | .connectionInit payload | .connectionAck payload | .ping payload | .pong payload =>
    ∀ members ∈ payload, (Json.object members).Canonical
  | .subscribe _ payload => payload.Canonical
  | .next _ payload => payload.Canonical
  | .error _ payload => ∀ e ∈ payload, e.Canonical
  | .complete _ => True

def withoutNull : Message → Message
  | .next id payload => .next id payload.withoutNull
  | other => other

section Encoded

variable {m : Message}

theorem integral_payloadJson (h : m.Canonical) : ∀ v ∈ m.payloadJson, v.Integral := by
  cases m with
  | connectionInit payload | connectionAck payload | ping payload | pong payload =>
    exact Option.forall_mem_map.mpr fun members found => (h members found).integral
  | subscribe id payload =>
    intro v found
    obtain rfl := Option.mem_some.mp found
    exact SubscribePayload.integral_toJson h
  | next id payload =>
    intro v found
    obtain rfl := Option.mem_some.mp found
    exact ExecutionResult.integral_toJson h
  | error id payload =>
    intro v found
    obtain rfl := Option.mem_some.mp found
    exact .array (List.forall_mem_map.mpr fun e member => GraphQlError.integral_toJson (h e member))
  | complete id => simp [payloadJson]

theorem integral_toJson (h : m.Canonical) : m.toJson.Integral := by
  refine .object ?_
  simp only [List.forall_mem_append, List.forall_mem_cons, forall_optionalMember]
  refine ⟨?_, .string _, integral_payloadJson h⟩
  exact Option.forall_mem_map.mpr fun id _ => .string id

def envelope (m : Message) : Members :=
  Members.ofList (optionalMember "id" (m.id?.map Json.string)
    ++ ("type", .string m.type.name)
    :: optionalMember "payload" (m.payloadJson.map Json.sorted))

theorem sorted_toJson (m : Message) : m.toJson.sorted = .object m.envelope := by
  have same : (m.id?.map Json.string).map Json.sorted = m.id?.map Json.string := by
    rw [Option.map_map]
    rfl
  rw [toJson, envelope, Json.sorted_object, List.map_append, List.map_cons, map_optionalMember,
    map_optionalMember, same, Json.sorted_string]

theorem get?_type (m : Message) : m.envelope.get? "type" = some (.string m.type.name) := by
  simp [envelope, Members.get?_ofList, List.lookup_append]

theorem get?_id (m : Message) : m.envelope.get? "id" = m.id?.map Json.string := by
  simp [envelope, Members.get?_ofList, List.lookup_append, List.lookup_cons]

theorem get?_payload (m : Message) :
    m.envelope.get? "payload" = m.payloadJson.map Json.sorted := by
  simp [envelope, Members.get?_ofList, List.lookup_append, List.lookup_cons]

/-- What is written for the payload of a message is its payload. -/
theorem carries_payloadJson (h : m.Canonical) :
    m.withoutNull.Carries (m.payloadJson.map Json.sorted) := by
  cases m with
  | connectionInit payload | connectionAck payload | ping payload | pong payload =>
    exact Json.holds_map (Json.map_sorted_of_canonical h) (by simp)
  | subscribe id payload => exact ⟨_, rfl, SubscribePayload.isRead_toJson h⟩
  | next id payload => exact ⟨_, rfl, ExecutionResult.isRead_toJson h⟩
  | error id payload =>
    refine ⟨_, rfl, ?_⟩
    rw [Json.sorted_array, List.map_map]
    exact Json.isListOf_map fun e member => GraphQlError.isRead_toJson (h e member)
  | complete id => trivial

theorem ofEnvelope_envelope (h : m.Canonical) :
    ofEnvelope m.type m.envelope = .ok m.withoutNull := by
  have type : m.withoutNull.type = m.type := by cases m <;> rfl
  have id : m.withoutNull.id? = m.id? := by cases m <;> rfl
  refine ofEnvelope_eq_ok.mpr ⟨type, fun found isId => ?_, ?_⟩
  · rw [get?_id, ← id, isId]
    rfl
  · rw [get?_payload]
    exact carries_payloadJson h

theorem decode_of_shallow (h : m.Canonical) (shallow : m.toJson.depth ≤ Json.maxDepth) :
    decode m.encode = .ok m.withoutNull := by
  have read := Json.read?_render (integral_toJson h) shallow
  rw [sorted_toJson] at read
  rw [decode, encode, read]
  exact bind_eq_ok.mpr ⟨m.type, envelopeType_eq_ok.mpr (get?_type m), ofEnvelope_envelope h⟩

end Encoded

section Decoded

variable {m : Message} {envelope : Members} {type : MessageType}

theorem canonical_of_ofEnvelope (h : ofEnvelope type envelope = .ok m)
    (canonical : (Json.object envelope).Canonical) :
    m.Canonical ∧ m.withoutNull = m ∧
      ∀ v ∈ m.payloadJson, v.depth < (Json.object envelope).depth := by
  have isPart {part : Json} (found : envelope.get? "payload" = some part) :
      Json.Part part (.object envelope) := ⟨_, Members.mem_of_get? found⟩
  obtain ⟨-, -, carries⟩ := ofEnvelope_eq_ok.mp h
  cases m with
  | connectionInit payload | connectionAck payload | ping payload | pong payload =>
    have part : ∀ members ∈ payload, Json.Part (.object members) (.object envelope) := by
      rintro members rfl
      exact isPart carries.1
    exact ⟨fun members found => (part members found).canonical canonical, rfl,
      Option.forall_mem_map.mpr fun members found => (part members found).depth_lt⟩
  | subscribe id payload =>
    obtain ⟨part, found, read⟩ := carries
    refine ⟨read.canonical ((isPart found).canonical canonical), rfl, ?_⟩
    rintro _ ⟨⟩
    exact Nat.lt_of_le_of_lt read.depth_le (isPart found).depth_lt
  | next id payload =>
    obtain ⟨part, found, read⟩ := carries
    refine ⟨read.canonical ((isPart found).canonical canonical),
      congrArg (next id) read.withoutNull_eq, ?_⟩
    rintro _ ⟨⟩
    exact Nat.lt_of_le_of_lt read.depth_le (isPart found).depth_lt
  | error id payload =>
    obtain ⟨part, found, list⟩ := carries
    refine ⟨fun e member => ?_, rfl, ?_⟩
    · obtain ⟨item, isItem, read⟩ := list.source e member
      exact read.canonical (isItem.canonical ((isPart found).canonical canonical))
    · rintro _ ⟨⟩
      exact Nat.lt_of_le_of_lt (list.depth_le fun _ _ => GraphQlError.IsRead.depth_le)
        (isPart found).depth_lt
  | complete id => exact ⟨trivial, rfl, by simp [payloadJson]⟩

theorem depth_toJson_le {n : Nat} (positive : 0 < n) (inner : ∀ v ∈ m.payloadJson, v.depth < n) :
    m.toJson.depth ≤ n := by
  refine Json.depth_object_le_of_lt positive ?_
  simp only [List.forall_mem_append, List.forall_mem_cons, depth_optionalMember]
  exact ⟨Option.forall_mem_map.mpr fun _ _ => positive, positive, inner⟩

theorem envelope_of_decode {text : String} (h : decode text = .ok m) :
    ∃ envelope type, Json.read? text = some (.object envelope) ∧
      ofEnvelope type envelope = .ok m := by
  unfold decode at h
  split at h
  · cases h
  · next envelope read =>
    obtain ⟨type, -, made⟩ := bind_eq_ok.mp h
    exact ⟨envelope, type, read, made⟩
  · cases h

theorem canonical_of_decode {text : String} (integers : Json.IntegersOnly text.toList)
    (h : decode text = .ok m) :
    m.Canonical ∧ m.withoutNull = m ∧ m.toJson.depth ≤ Json.maxDepth := by
  obtain ⟨envelope, type, read, made⟩ := envelope_of_decode h
  have canonical := Json.canonical_of_read? read integers
  have shallow := (Json.ordered_of_read? read).2
  obtain ⟨isCanonical, same, inner⟩ := canonical_of_ofEnvelope made canonical
  have positive : 0 < (Json.object envelope).depth := by rw [Json.depth]; omega
  exact ⟨isCanonical, same, Nat.le_trans (depth_toJson_le positive inner) shallow⟩

end Decoded

theorem decodeBinary_toUTF8 (text : String) : decodeBinary text.toUTF8 = decode text := by
  have whole : String.fromUTF8? text.toUTF8 = some text := by
    rw [String.fromUTF8?, String.toUTF8_eq_toByteArray, dif_pos text.isValidUTF8]
    rfl
  rw [decodeBinary, whole]

theorem withoutNull_eq_self {m : Message}
    (given : ∀ id payload, m = .next id payload → payload.data ≠ some .null) :
    m.withoutNull = m := by
  cases m with
  | next id payload =>
    obtain ⟨data, errors, extensions⟩ := payload
    have notNull := given id _ rfl
    cases data with
    | none => rfl
    | some value => cases value <;> first | rfl | exact absurd rfl notNull
  | _ => rfl

/-- A message whose numbers are integers of 64 bits and whose text nests no deeper than the reader
allows decodes from that text, as it was except for data that is null, which comes back absent. -/
theorem decode_encode {m : Message} (canonical : m.Canonical)
    (shallow : m.toJson.depth ≤ Json.maxDepth) :
    (∀ id errors extensions, m = .next id ⟨some .null, errors, extensions⟩ →
      decode m.encode = .ok (.next id ⟨none, errors, extensions⟩)) ∧
    ((∀ id payload, m = .next id payload → payload.data ≠ some .null) →
      decode m.encode = .ok m) := by
  have read := decode_of_shallow canonical shallow
  constructor
  · rintro id errors extensions rfl
    exact read
  · intro given
    rwa [withoutNull_eq_self given] at read

theorem decode_encode_of_null_data :
    decode (encode (.next "a\n" ⟨some .null,
      [⟨"no \"user\"", [⟨3, 14⟩], some [.string "users", .integer 0], none⟩],
      some [("cost", .object [("limit", .integer (-5)), ("used", .array [.null, .integer 7])])]⟩)) =
    .ok (.next "a\n" ⟨none,
      [⟨"no \"user\"", [⟨3, 14⟩], some [.string "users", .integer 0], none⟩],
      some [("cost", .object [("limit", .integer (-5)), ("used", .array [.null, .integer 7])])]⟩) := by
  refine (decode_encode ?_ (by decide)).1 _ _ _ rfl
  have error : GraphQlError.Canonical
      ⟨"no \"user\"", [⟨3, 14⟩], some [.string "users", .integer 0], none⟩ :=
    ⟨by simpa using ⟨by decide, by decide⟩, by simp; decide, by simp⟩
  have limits : (Json.object
      [("limit", .integer (-5)), ("used", .array [.null, .integer 7])]).Canonical := by
    refine Json.canonical_object.mpr ⟨by unfold Members.Sorted; decide, ?_⟩
    simp
    decide
  have cost : (Json.object
      [("cost", .object [("limit", .integer (-5)), ("used", .array [.null, .integer 7])])]).Canonical :=
    Json.canonical_object.mpr ⟨List.pairwise_singleton _ _, List.forall_mem_singleton.mpr limits⟩
  exact ⟨by simp, by simpa using error, by simpa using cost⟩

/-- A text whose number literals are integers of 64 bits decodes to a message, if to any, whose own
text is shallow enough for the reader and decodes to the same message. -/
theorem decode_encode_of_decode {text : String} {m : Message}
    (integers : Json.IntegersOnly text.toList) (h : decode text = .ok m) :
    m.toJson.depth ≤ Json.maxDepth ∧ decode m.encode = .ok m ∧
      (decode m.encode).map encode = .ok m.encode ∧ decodeBinary text.toUTF8 = .ok m := by
  obtain ⟨canonical, same, shallow⟩ := canonical_of_decode integers h
  have again := decode_of_shallow canonical shallow
  rw [same] at again
  refine ⟨shallow, again, ?_, (decodeBinary_toUTF8 text).trans h⟩
  rw [again]
  rfl

/-- Blanks, a key twice, a member nobody knows, an escape, and the request as an array. -/
theorem decode_encode_of_scattered_text :
    let text := " \x7b \"payload\" : [ \"\x7b a \x7d\", null, \x7b\"b\":1, \"a\":[ -3 ]\x7d ], \"x\": 0,"
      ++ "\"id\":\"7\",\"id\":\"\\u0041\", \"type\":\"subscribe\"\x7d\n"
    let m := Message.subscribe "A" ⟨"\x7b a \x7d", none,
      some [("a", .array [.integer (-3)]), ("b", .integer 1)], none⟩
    decode text = .ok m ∧ decode m.encode = .ok m ∧ decodeBinary text.toUTF8 = .ok m := by
  intro text m
  have read : decode text = .ok m := by decide +kernel
  have found : Json.literals .between text.toList =
      [Json.integerText 1, Json.integerText (-3), Json.integerText 0] := by decide +kernel
  have integers : Json.IntegersOnly text.toList := by
    intro literal member
    rw [found] at member
    simp only [List.mem_cons, List.not_mem_nil, or_false] at member
    rcases member with rfl | rfl | rfl
    · exact ⟨1, by decide, rfl⟩
    · exact ⟨-3, by decide, rfl⟩
    · exact ⟨0, by decide, rfl⟩
  obtain ⟨-, again, -, bytes⟩ := decode_encode_of_decode integers read
  exact ⟨read, again, bytes⟩

end Message

end SubscriptionGateway
