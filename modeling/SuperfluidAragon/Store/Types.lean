import Mathlib.Data.List.Basic

/-! The app state the store keeps (flows and super tokens of one agent), the
events its handlers read, and the helpers of `store/helpers` they call. -/

namespace SuperfluidAragon

/-- An account, as the 20-byte value its hex spelling denotes. -/
structure Address where
  value : Nat
deriving DecidableEq, Repr

/-- `addressesEqual` of the app helpers (not among the sources) compares two
spellings of an address case-insensitively: equality of the values they spell. -/
def addressesEqual (first second : Address) : Bool :=
  decide (first = second)

@[simp] theorem addressesEqual_iff (first second : Address) :
    addressesEqual first second = true ↔ first = second := by
  simp [addressesEqual]

/-- The identity of a stream on the ledger: `(tokenAddress, sender, receiver)`. -/
structure FlowId where
  token : Address
  sender : Address
  receiver : Address
deriving DecidableEq, Repr

/-- A flow record of the store, as `updateFlows` builds it. -/
structure Flow where
  isCancelled : Bool
  isIncoming : Bool
  entity : Address
  superTokenAddress : Address
  accumulatedAmount : Int
  creationTimestamp : Int
  lastTimestamp : Int
  flowRate : Int
deriving DecidableEq, Repr

/-- What `newSuperToken` loads from the token contract and the token list. -/
structure TokenMetadata where
  decimals : Nat
  name : String
  symbol : String
deriving DecidableEq, Repr

/-- A super token entry of the store, as `updateSuperTokens` leaves it. -/
structure SuperToken where
  address : Address
  decimals : Nat
  name : String
  symbol : String
  netFlow : Int
  balance : Int
  lastUpdateTimestamp : Int
deriving DecidableEq, Repr

structure AppState where
  agentAddress : Address
  superTokens : List SuperToken
  flows : List Flow
deriving DecidableEq, Repr

/-- `returnValues` of a `FlowUpdated` event of the constant flow agreement. -/
structure FlowUpdated where
  token : Address
  sender : Address
  receiver : Address
  flowRate : Int
  totalSenderFlowRate : Int
  totalReceiverFlowRate : Int
deriving DecidableEq, Repr

/-- `returnValues` of a vault event: the token whose balance changed. -/
structure VaultEvent where
  token : Address
deriving DecidableEq, Repr

/-- `returnValues` of a `SetAgent` event. -/
structure SetAgent where
  agent : Address
deriving DecidableEq, Repr

/-- What the chain answers while one event is handled: the timestamp of the
event's block (`getBlock`), the agent's balance of the event's token
(`balanceOf`), and the token's metadata should it be new (`newSuperToken`). -/
structure ChainAnswers where
  timestamp : Int
  balance : Int
  metadata : TokenMetadata
deriving DecidableEq, Repr

def FlowUpdated.identity (event : FlowUpdated) : FlowId :=
  ⟨event.token, event.sender, event.receiver⟩

/-- The stream a record stands for: the agent is its receiver when it is
incoming and its sender otherwise, `entity` the other party. -/
def Flow.identity (agentAddress : Address) (flow : Flow) : FlowId :=
  if flow.isIncoming then ⟨flow.superTokenAddress, flow.entity, agentAddress⟩
  else ⟨flow.superTokenAddress, agentAddress, flow.entity⟩

@[simp] theorem Flow.identity_token (agentAddress : Address) (flow : Flow) :
    (flow.identity agentAddress).token = flow.superTokenAddress := by
  unfold Flow.identity; split <;> rfl

/-- Modelled from the spec: `calculateNewAccumulatedAmount` of `store/helpers`
is not among the sources. It is `accruedSince` of §4.1 at the record's rate,
in exact integers and unclamped. -/
def calculateNewAccumulatedAmount (flow : Flow) (updateTimestamp : Int) : Int :=
  flow.accumulatedAmount + flow.flowRate * (updateTimestamp - flow.lastTimestamp)

/-- Modelled from the spec: `getFlowEventEntity` of `store/helpers` is not among
the sources. It is the counterparty: the sender of an incoming flow, the
receiver of an outgoing one. -/
def getFlowEventEntity (event : FlowUpdated) (isIncoming : Bool) : Address :=
  if isIncoming then event.sender else event.receiver

/-- Modelled from the spec: `isFlowEqual` of `store/helpers` is not among the
sources. A record matches an event naming the same flow `(tokenAddress, sender,
receiver)`: the same token and, on the record's side, the same counterparty.
A cancelled record matches too: §9 observes that a new stream on its triple
reuses the record in place. -/
def isFlowEqual (flow : Flow) (event : FlowUpdated) : Bool :=
  addressesEqual flow.superTokenAddress event.token &&
    addressesEqual flow.entity (getFlowEventEntity event flow.isIncoming)

/-- The flow an event involving `agentAddress` names is the one a record it
matches stands for, when neither party of the record is the agent twice. -/
theorem identity_of_isFlowEqual {agentAddress : Address} {flow : Flow}
    {event : FlowUpdated} (matched : isFlowEqual flow event = true)
    (involved : event.sender = agentAddress ∨ event.receiver = agentAddress)
    (notAgent : flow.entity ≠ agentAddress) :
    flow.identity agentAddress = event.identity := by
  simp only [isFlowEqual, getFlowEventEntity, Bool.and_eq_true, addressesEqual_iff] at matched
  obtain ⟨sameToken, sameEntity⟩ := matched
  cases incoming : flow.isIncoming <;>
    simp only [incoming, Bool.false_eq_true, if_false, if_true] at sameEntity <;>
    simp only [Flow.identity, FlowUpdated.identity, incoming, Bool.false_eq_true, if_false,
      if_true, sameToken, sameEntity, FlowId.mk.injEq, true_and, and_true] <;>
    rcases involved with agent | agent <;> subst agentAddress <;> simp_all

/-- A record matches every event naming the flow it stands for. -/
theorem isFlowEqual_of_identity {agentAddress : Address} {flow : Flow}
    {event : FlowUpdated} (same : flow.identity agentAddress = event.identity) :
    isFlowEqual flow event = true := by
  cases incoming : flow.isIncoming <;>
    simp only [Flow.identity, FlowUpdated.identity, incoming, Bool.false_eq_true, if_false,
      if_true, FlowId.mk.injEq] at same <;>
    simp [isFlowEqual, getFlowEventEntity, incoming, same]

end SuperfluidAragon
