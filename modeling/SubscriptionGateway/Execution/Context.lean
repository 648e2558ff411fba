import SubscriptionGateway.Json.Value

/-! What is known about a connection when its operations run, and the interceptors that decorate
it once, after the handshake. -/
namespace SubscriptionGateway

structure Context where
  connectionId : String
  /-- The payload of the client's `connection_init`. -/
  initPayload : Option Members
  attributes : Members
deriving DecidableEq, Repr

namespace Context

def new (connectionId : String) (initPayload : Option Members) : Context :=
  ⟨connectionId, initPayload, []⟩

def attribute? (c : Context) (key : String) : Option Json := c.attributes.get? key

def withAttribute (c : Context) (key : String) (value : Json) : Context :=
  { c with attributes := c.attributes.insert key value }

/-- Sets each of the given attributes, the later ones over the earlier ones. -/
def withAttributes (c : Context) (attributes : Members) : Context :=
  attributes.foldl (fun c entry => c.withAttribute entry.1 entry.2) c

end Context

/-- A pure transformation of the context. -/
abbrev Interceptor := Context → Context

namespace Interceptor

/-- The same attributes for every connection. -/
def fixed (attributes : Members) : Interceptor := fun c => c.withAttributes attributes

/-- Every member of the init payload becomes an attribute. -/
def fromInitPayload : Interceptor := fun c => c.withAttributes (c.initPayload.getD [])

end Interceptor

/-- Interceptors in the order in which they are applied. -/
abbrev InterceptorChain := List Interceptor

namespace InterceptorChain

def apply (chain : InterceptorChain) (c : Context) : Context :=
  chain.foldl (fun c interceptor => interceptor c) c

theorem apply_append (first second : InterceptorChain) (c : Context) :
    apply (first ++ second) c = apply second (apply first c) := by
  simp [apply, List.foldl_append]

/-- A chain as it is shown: by its length. -/
def describe (chain : InterceptorChain) : String :=
  "InterceptorChain \x7b len: " ++ toString chain.length ++ " \x7d"

/-- The chain of the gateway: a default `name`, which the client's init payload may replace. -/
def gateway : InterceptorChain :=
  [.fixed [("name", .string "James")], .fromInitPayload]

end InterceptorChain

end SubscriptionGateway
