import SubscriptionGateway.Execution.Context
import SubscriptionGateway.Proofs.Json.Canonical

/-! Chains of interceptors. Of all that set an attribute the last one wins, and nothing else of a
context changes. -/
namespace SubscriptionGateway

namespace Context

variable {c : Context} {attributes : Members}

theorem withAttributes_eq (c : Context) (attributes : Members) :
    c.withAttributes attributes =
      { c with
        attributes :=
          attributes.foldl (fun set entry => set.insert entry.1 entry.2) c.attributes } := by
  induction attributes generalizing c with
  | nil => rfl
  | cons entry rest ih => exact ih (c.withAttribute entry.1 entry.2)

theorem attribute?_withAttributes (sorted : attributes.Sorted) (key : String) :
    (c.withAttributes attributes).attribute? key =
      (attributes.get? key).or (c.attribute? key) := by
  rw [withAttributes_eq]
  show Members.get? (attributes.foldl _ c.attributes) key = _
  rw [Members.get?_foldl_insert, Members.lookup_reverse_of_sorted sorted]
  rfl

theorem mem_withAttributes {m : String × Json}
    (member : m ∈ (c.withAttributes attributes).attributes) :
    m ∈ c.attributes ∨ m ∈ attributes := by
  rw [withAttributes_eq] at member
  exact Members.mem_foldl_insert member

end Context

/-- The interceptors that set attributes, given or out of the init payload. -/
inductive AttributeSource where
  | fixed (attributes : Members) (sorted : attributes.Sorted)
  | initPayload

namespace AttributeSource

def interceptor : AttributeSource → Interceptor
  | .fixed attributes _ => .fixed attributes
  | .initPayload => .fromInitPayload

def attributes (payload : Option Members) : AttributeSource → Members
  | .fixed attributes _ => attributes
  | .initPayload => payload.getD []

def provides? (source : AttributeSource) (payload : Option Members) (key : String) : Option Json :=
  (source.attributes payload).get? key

/-- Whether the source is the last one of a chain to provide the attribute. -/
def Decides (source : AttributeSource) (chain : List AttributeSource) (payload : Option Members)
    (key : String) (value : Json) : Prop :=
  ∃ earlier later, chain = earlier ++ source :: later ∧
    source.provides? payload key = some value ∧
    ∀ other ∈ later, other.provides? payload key = none

/-- The sources of the gateway: a name for those who do not give one. -/
def defaultName : AttributeSource :=
  .fixed [("name", .string "James")] (List.pairwise_singleton _ _)

def ofGateway : List AttributeSource := [defaultName, .initPayload]

theorem gateway_eq : InterceptorChain.gateway = ofGateway.map interceptor := rfl

variable {source : AttributeSource} {chain : List AttributeSource} {payload : Option Members}
  {c : Context} {key : String}

theorem interceptor_apply (source : AttributeSource) (c : Context) :
    source.interceptor c = c.withAttributes (source.attributes c.initPayload) := by
  cases source <;> rfl

theorem sorted_attributes (sorted : ∀ members, payload = some members → members.Sorted)
    (source : AttributeSource) : (source.attributes payload).Sorted := by
  cases source with
  | fixed attributes sorted => exact sorted
  | initPayload =>
    cases payload with
    | none => exact .nil
    | some members => exact sorted members rfl

theorem attribute?_interceptor
    (sorted : ∀ members, c.initPayload = some members → members.Sorted) :
    (source.interceptor c).attribute? key =
      (source.provides? c.initPayload key).or (c.attribute? key) := by
  rw [interceptor_apply]
  exact Context.attribute?_withAttributes (source.sorted_attributes sorted) key

theorem connectionId_interceptor (source : AttributeSource) (c : Context) :
    (source.interceptor c).connectionId = c.connectionId := by
  rw [interceptor_apply, Context.withAttributes_eq]

theorem initPayload_interceptor (source : AttributeSource) (c : Context) :
    (source.interceptor c).initPayload = c.initPayload := by
  rw [interceptor_apply, Context.withAttributes_eq]

def applyAll (chain : List AttributeSource) (c : Context) : Context :=
  InterceptorChain.apply (chain.map interceptor) c

theorem applyAll_cons (source : AttributeSource) (rest : List AttributeSource) (c : Context) :
    applyAll (source :: rest) c = applyAll rest (source.interceptor c) := rfl

theorem applyAll_append (earlier later : List AttributeSource) (c : Context) :
    applyAll (earlier ++ later) c = applyAll later (applyAll earlier c) := by
  rw [applyAll, List.map_append, InterceptorChain.apply_append]
  rfl

theorem connectionId_applyAll (chain : List AttributeSource) (c : Context) :
    (applyAll chain c).connectionId = c.connectionId := by
  induction chain generalizing c with
  | nil => rfl
  | cons source rest ih => exact (ih _).trans (connectionId_interceptor source c)

theorem initPayload_applyAll (chain : List AttributeSource) (c : Context) :
    (applyAll chain c).initPayload = c.initPayload := by
  induction chain generalizing c with
  | nil => rfl
  | cons source rest ih => exact (ih _).trans (initPayload_interceptor source c)

theorem attribute?_applyAll_of_absent
    (sorted : ∀ members, c.initPayload = some members → members.Sorted)
    (absent : ∀ source ∈ chain, source.provides? c.initPayload key = none) :
    (applyAll chain c).attribute? key = c.attribute? key := by
  induction chain generalizing c with
  | nil => rfl
  | cons source rest ih =>
    obtain ⟨first, others⟩ := List.forall_mem_cons.mp absent
    have payload := initPayload_interceptor source c
    calc (applyAll (source :: rest) c).attribute? key
        = (source.interceptor c).attribute? key := ih (payload ▸ sorted) (payload ▸ others)
      _ = c.attribute? key := by rw [attribute?_interceptor sorted, first, Option.none_or]

theorem Decides.attribute?_applyAll {value : Json}
    (sorted : ∀ members, c.initPayload = some members → members.Sorted)
    (decides : source.Decides chain c.initPayload key value) :
    (applyAll chain c).attribute? key = some value := by
  obtain ⟨earlier, later, rfl, provides, absent⟩ := decides
  have before : (applyAll earlier c).initPayload = c.initPayload := initPayload_applyAll earlier c
  have behind := (initPayload_interceptor source (applyAll earlier c)).trans before
  calc (applyAll (earlier ++ source :: later) c).attribute? key
      = (applyAll later (source.interceptor (applyAll earlier c))).attribute? key := by
        rw [applyAll_append, applyAll_cons]
    _ = (source.interceptor (applyAll earlier c)).attribute? key :=
        attribute?_applyAll_of_absent (behind ▸ sorted) (behind ▸ absent)
    _ = some value := by
        rw [attribute?_interceptor (before ▸ sorted), before, provides, Option.some_or]

theorem mem_attributes_applyAll
    (sorted : ∀ members, c.initPayload = some members → members.Sorted) {m : String × Json}
    (member : m ∈ (applyAll chain c).attributes) :
    m ∈ c.attributes ∨ ∃ source ∈ chain, source.provides? c.initPayload m.1 = some m.2 := by
  induction chain generalizing c with
  | nil => exact .inl member
  | cons source rest ih =>
    have payload := initPayload_interceptor source c
    rw [applyAll_cons] at member
    rcases ih (payload ▸ sorted) member with early | ⟨other, isLater, provides⟩
    · rw [interceptor_apply] at early
      rcases Context.mem_withAttributes early with start | given
      · exact .inl start
      · exact .inr ⟨source, List.mem_cons_self,
          Members.get?_of_mem (source.sorted_attributes sorted) given⟩
    · exact .inr ⟨other, List.mem_cons_of_mem _ isLater, payload ▸ provides⟩

theorem decides_defaultName (payload : Option Members) :
    defaultName.Decides ofGateway payload "name" (.string "James") ↔
      (payload.getD []).get? "name" = none := by
  constructor
  · intro ⟨earlier, later, isChain, _, absent⟩
    cases earlier with
    | nil =>
      obtain rfl : later = [.initPayload] := (List.cons.inj isChain).2.symm
      exact absent .initPayload (List.mem_singleton_self _)
    | cons first rest =>
      have member : defaultName ∈ [AttributeSource.initPayload] := by
        rw [(List.cons.inj isChain).2]
        simp
      cases List.mem_singleton.mp member
  · intro absent
    refine ⟨[], [.initPayload], rfl, rfl, fun other member => ?_⟩
    obtain rfl := List.mem_singleton.mp member
    exact absent

/-- Who decides about an attribute. After a chain of given attributes and init payloads it has the
value of the last source that provides it, and the value that it had before if none does; no other
attribute is there, and connection id and init payload are as they were. Of two chains one behind
the other, whatever is in them, the second is applied to what the first one makes. In the gateway
whatever the client puts into its init payload is set; its name is the one of that payload, and the
default name decides just where the payload has none. -/
theorem last_source_decides (chain : List AttributeSource) (c : Context)
    (sorted : ∀ members, c.initPayload = some members → members.Sorted) :
    let after := InterceptorChain.apply (chain.map interceptor) c
    let greeted := InterceptorChain.apply .gateway c
    (∀ (source : AttributeSource) (key : String) (value : Json),
      source.Decides chain c.initPayload key value → after.attribute? key = some value) ∧
    (∀ key, (∀ source ∈ chain, source.provides? c.initPayload key = none) →
      after.attribute? key = c.attribute? key) ∧
    (∀ m ∈ after.attributes,
      m ∈ c.attributes ∨ ∃ source ∈ chain, source.provides? c.initPayload m.1 = some m.2) ∧
    after.connectionId = c.connectionId ∧ after.initPayload = c.initPayload ∧
    (∀ (first second : InterceptorChain) (start : Context),
      InterceptorChain.apply (first ++ second) start =
        InterceptorChain.apply second (InterceptorChain.apply first start)) ∧
    (∀ key value, (c.initPayload.getD []).get? key = some value →
      greeted.attribute? key = some value) ∧
    greeted.attribute? "name" =
      some (((c.initPayload.getD []).get? "name").getD (.string "James")) ∧
    (defaultName.Decides ofGateway c.initPayload "name" (.string "James") ↔
      (c.initPayload.getD []).get? "name" = none) := by
  intro after greeted
  have chained : greeted = applyAll ofGateway c := by rw [applyAll, ← gateway_eq]
  have ofPayload : ∀ key value, (c.initPayload.getD []).get? key = some value →
      greeted.attribute? key = some value := by
    intro key value given
    have decides : initPayload.Decides ofGateway c.initPayload key value :=
      ⟨[defaultName], [], rfl, given, by simp⟩
    rw [chained]
    exact decides.attribute?_applyAll sorted
  refine ⟨fun source key value decides => decides.attribute?_applyAll sorted,
    fun key absent => attribute?_applyAll_of_absent sorted absent,
    fun m member => mem_attributes_applyAll sorted member, connectionId_applyAll chain c,
    initPayload_applyAll chain c, InterceptorChain.apply_append, ofPayload, ?_,
    decides_defaultName c.initPayload⟩
  cases given : (c.initPayload.getD []).get? "name" with
  | some value => exact ofPayload "name" value given
  | none =>
    rw [chained]
    exact ((decides_defaultName _).mpr given).attribute?_applyAll sorted

/-- A client that gives a name and a role, the name being null. -/
def nameless : Context :=
  ⟨"connection", some [("name", .null), ("role", .string "admin")], [("seen", .bool true)]⟩

/-- The theorem at a chain that sets the role before and behind the client's. -/
theorem role_of_nameless :
    let user : AttributeSource :=
      .fixed [("name", .string "James"), ("role", .string "user")] (by decide)
    let guest : AttributeSource := .fixed [("role", .string "guest")] (List.pairwise_singleton _ _)
    let after := InterceptorChain.apply ([user, .initPayload, guest].map interceptor) nameless
    (∀ members, nameless.initPayload = some members → members.Sorted) ∧
      after.attribute? "role" = some (.string "guest") ∧
      after.attribute? "name" = some .null ∧
      after.attribute? "seen" = some (.bool true) ∧ after.connectionId = "connection" := by
  intro user guest after
  have sorted : ∀ members, nameless.initPayload = some members → members.Sorted := by
    rintro _ ⟨⟩
    decide
  obtain ⟨decides, absent, -, id, -⟩ :=
    last_source_decides [user, .initPayload, guest] nameless sorted
  refine ⟨sorted, decides guest "role" _ ⟨[user, .initPayload], [], rfl, rfl, by simp⟩,
    decides .initPayload "name" .null ⟨[user], [guest], rfl, rfl, ?_⟩, absent "seen" ?_, id⟩
  · intro other member
    obtain rfl := List.mem_singleton.mp member
    rfl
  · simp only [List.forall_mem_cons, List.not_mem_nil, false_implies, implies_true, and_true]
    exact ⟨rfl, rfl, rfl⟩

end AttributeSource

end SubscriptionGateway
