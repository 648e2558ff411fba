import SubscriptionGateway.Event

/-! The counters and gauges of the gateway. All of them are counts of events, so that they cannot
disagree with what has happened; one that was never touched is not shown. -/
namespace SubscriptionGateway.Metrics

def isOpened : Event → Bool
  | .opened => true
  | _ => false

def isEnded : Event → Bool
  | .ended _ => true
  | _ => false

def isClosingWith (code : Nat) : Event → Bool
  | .closing reason => reason.code == code
  | _ => false

def isRegistered : Event → Bool
  | .registered _ _ => true
  | _ => false

def isOperationStarted : Event → Bool
  | .operationStarted _ => true
  | _ => false

def isOperationEnded : Event → Bool
  | .operationEnded _ _ _ => true
  | _ => false

def isCompleted : Event → Bool
  | .operationEnded _ _ .completed => true
  | _ => false

def isFailed : Event → Bool
  | .operationEnded _ _ .failed => true
  | _ => false

/-- A refused message counts as a cancellation. -/
def isCancelled : Event → Bool
  | .operationEnded _ _ .cancelled | .operationEnded _ _ .refused => true
  | _ => false

def isOverflow : Event → Bool
  | .overflowed => true
  | _ => false

def connectionsTotal (events : List Event) : Nat := events.countP isOpened

def connectionsActive (events : List Event) : Int :=
  (connectionsTotal events : Int) - events.countP isEnded

def closesTotal (code : Nat) (events : List Event) : Nat := events.countP (isClosingWith code)

def operationsStarted (events : List Event) : Nat := events.countP isRegistered

def operationsCompleted (events : List Event) : Nat := events.countP isCompleted

def operationsFailed (events : List Event) : Nat := events.countP isFailed

def operationsCancelled (events : List Event) : Nat := events.countP isCancelled

def operationsActive (events : List Event) : Int :=
  (events.countP isOperationStarted : Int) - events.countP isOperationEnded

def overflowsTotal (events : List Event) : Nat := events.countP isOverflow

/-- The codes with which the server closes. -/
def closeCodes : List Nat := [1001, 1013, 4400, 4401, 4408, 4409, 4429]

def counter (name : String) (count : Nat) : List (String × Int) :=
  if count = 0 then [] else [(name, count)]

def gauge (name : String) (touched : Bool) (value : Int) : List (String × Int) :=
  if touched then [(name, value)] else []

def closesName (code : Nat) : String := "ws_closes_total\x7bcode=\"" ++ toString code ++ "\"\x7d"

/-- Every counter and gauge that was touched, with its value. -/
def report (events : List Event) : List (String × Int) :=
  counter "ws_connections_total" (connectionsTotal events)
    ++ gauge "ws_connections_active" (events.any isOpened) (connectionsActive events)
    ++ closeCodes.flatMap (fun code => counter (closesName code) (closesTotal code events))
    ++ counter "operations_started_total" (operationsStarted events)
    ++ counter "operations_completed_total" (operationsCompleted events)
    ++ counter "operations_failed_total" (operationsFailed events)
    ++ counter "operations_cancelled_total" (operationsCancelled events)
    ++ gauge "operations_active" (events.any isOperationStarted) (operationsActive events)
    ++ counter "outbound_overflows_total" (overflowsTotal events)

theorem code_mem_closeCodes (reason : CloseReason) : reason.code ∈ closeCodes := by
  cases reason <;> simp [CloseReason.code, closeCodes]

/-- Every operation that has ended did so in one of three ways. -/
theorem countP_isOperationEnded (events : List Event) :
    events.countP isOperationEnded =
      operationsCompleted events + operationsFailed events + operationsCancelled events := by
  simp only [operationsCompleted, operationsFailed, operationsCancelled]
  induction events with
  | nil => rfl
  | cons e rest ih =>
    simp only [List.countP_cons, ih]
    cases e with
    | operationEnded seq id how =>
      cases how <;> simp [isOperationEnded, isCompleted, isFailed, isCancelled] <;> omega
    | _ => simp [isOperationEnded, isCompleted, isFailed, isCancelled]

end SubscriptionGateway.Metrics
