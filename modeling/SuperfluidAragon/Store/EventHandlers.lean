import SuperfluidAragon.Store.Types
import SuperfluidAragon.Foundation.List

/-! `store/event-handlers.js`: the handlers that fold chain events into the app
state. The chain's answers to the handlers' awaited calls are an argument. -/

namespace SuperfluidAragon

open Foundation

def isAgentSender (agentAddress sender receiver : Address) : Bool :=
  addressesEqual agentAddress sender || addressesEqual agentAddress receiver

theorem isAgentSender_eq_true_iff (agentAddress sender receiver : Address) :
    isAgentSender agentAddress sender receiver = true ↔
      sender = agentAddress ∨ receiver = agentAddress := by
  simp only [isAgentSender, Bool.or_eq_true, addressesEqual_iff, @eq_comm _ agentAddress]

/-- The entry `newSuperToken` builds for a token first seen: its metadata, no
net flow and no balance. Its caller sets the address and timestamp at once. -/
def newSuperToken (tokenAddress : Address) (metadata : TokenMetadata) : SuperToken :=
  { address := tokenAddress, decimals := metadata.decimals, name := metadata.name,
    symbol := metadata.symbol, netFlow := 0, balance := 0, lastUpdateTimestamp := 0 }

/-- The fields `updateSuperTokens` writes on the entry it keeps; the net flow
only when one is given (`typeof netFlow !== 'undefined'`). -/
def refreshSuperToken (token : SuperToken) (tokenAddress : Address)
    (updateTimestamp balance : Int) (netFlow : Option Int) : SuperToken :=
  { token with address := tokenAddress, lastUpdateTimestamp := updateTimestamp,
               balance := balance, netFlow := netFlow.getD token.netFlow }

def updateSuperTokens (state : AppState) (answers : ChainAnswers) (tokenAddress : Address)
    (updateTimestamp : Int) (netFlow : Option Int) : List SuperToken :=
  match state.superTokens.findIdx? (fun token => addressesEqual tokenAddress token.address) with
  | none =>
      state.superTokens ++ [refreshSuperToken (newSuperToken tokenAddress answers.metadata)
        tokenAddress updateTimestamp answers.balance netFlow]
  | some superTokenIndex =>
      state.superTokens.modify
        (refreshSuperToken · tokenAddress updateTimestamp answers.balance netFlow)
        superTokenIndex

section Tokens

variable (token : SuperToken) (tokenAddress : Address) (updateTimestamp balance : Int)
  (netFlow : Option Int)

@[simp] theorem refreshSuperToken_address :
    (refreshSuperToken token tokenAddress updateTimestamp balance netFlow).address = tokenAddress := rfl
@[simp] theorem refreshSuperToken_netFlow :
    (refreshSuperToken token tokenAddress updateTimestamp balance netFlow).netFlow =
      netFlow.getD token.netFlow := rfl
@[simp] theorem refreshSuperToken_balance :
    (refreshSuperToken token tokenAddress updateTimestamp balance netFlow).balance = balance := rfl
@[simp] theorem refreshSuperToken_lastUpdateTimestamp :
    (refreshSuperToken token tokenAddress updateTimestamp balance netFlow).lastUpdateTimestamp =
      updateTimestamp := rfl
@[simp] theorem newSuperToken_netFlow (metadata : TokenMetadata) :
    (newSuperToken tokenAddress metadata).netFlow = 0 := rfl

end Tokens

/-- The record the create branch of `updateFlows` pushes. -/
def createdFlow (event : FlowUpdated) (isIncoming : Bool) (updateTimestamp : Int) : Flow :=
  { isCancelled := false, isIncoming := isIncoming,
    entity := getFlowEventEntity event isIncoming, superTokenAddress := event.token,
    accumulatedAmount := 0, creationTimestamp := updateTimestamp,
    lastTimestamp := updateTimestamp, flowRate := event.flowRate }

/-- The update branch: bank at the old rate up to now, then take the new rate. -/
def updatedFlow (flow : Flow) (updateTimestamp flowRate : Int) : Flow :=
  { flow with accumulatedAmount := calculateNewAccumulatedAmount flow updateTimestamp,
              lastTimestamp := updateTimestamp, flowRate := flowRate }

/-- The delete branch: bank at the old rate up to now and cancel; the rate is kept. -/
def deletedFlow (flow : Flow) (updateTimestamp : Int) : Flow :=
  { flow with accumulatedAmount := calculateNewAccumulatedAmount flow updateTimestamp,
              lastTimestamp := updateTimestamp, isCancelled := true }

def updateFlows (state : AppState) (event : FlowUpdated) (updateTimestamp : Int) :
    List Flow :=
  let isIncoming := addressesEqual event.receiver state.agentAddress
  match state.flows.findIdx? (isFlowEqual · event) with
  | none => state.flows ++ [createdFlow event isIncoming updateTimestamp]
  | some flowIndex =>
      if 0 < event.flowRate then
        state.flows.modify (updatedFlow · updateTimestamp event.flowRate) flowIndex
      else state.flows.modify (deletedFlow · updateTimestamp) flowIndex

def handleFlowUpdated (state : AppState) (event : FlowUpdated) (answers : ChainAnswers) :
    AppState :=
  if !isAgentSender state.agentAddress event.sender event.receiver then state
  else
    { state with
      superTokens := updateSuperTokens state answers event.token answers.timestamp
        (some (if addressesEqual state.agentAddress event.sender then event.totalSenderFlowRate
          else event.totalReceiverFlowRate))
      flows := updateFlows state event answers.timestamp }

def handleVaultEvent (state : AppState) (event : VaultEvent) (answers : ChainAnswers) :
    AppState :=
  { state with superTokens := updateSuperTokens state answers event.token answers.timestamp none }

/-- The handler is a stub (a log line and a `TODO`) that returns nothing: the
store's next state is `undefined`, written `none`. -/
def handleSetAgent (_state : AppState) (_event : SetAgent) : Option AppState :=
  none

inductive StoreEvent
  | flowUpdated (event : FlowUpdated)
  | vault (event : VaultEvent)
  | setAgent (event : SetAgent)

/-- Modelled from the spec: the store's dispatch (the app script) is not among
the sources. Each event of the closed vocabulary goes to its handler, whose
result is the next state; an `undefined` state stays so, since every handler
destructures the state before anything else. -/
def reduce : Option AppState → StoreEvent → ChainAnswers → Option AppState
  | none, _, _ => none
  | some state, .flowUpdated event, answers => some (handleFlowUpdated state event answers)
  | some state, .vault event, answers => some (handleVaultEvent state event answers)
  | some state, .setAgent event, _ => handleSetAgent state event

/-! ## Spec lemmas -/

section Records

variable (flow : Flow) (event : FlowUpdated) (isIncoming : Bool) (t rate : Int)

@[simp] theorem createdFlow_isCancelled : (createdFlow event isIncoming t).isCancelled = false := rfl
@[simp] theorem createdFlow_isIncoming : (createdFlow event isIncoming t).isIncoming = isIncoming := rfl
@[simp] theorem createdFlow_flowRate : (createdFlow event isIncoming t).flowRate = event.flowRate := rfl
@[simp] theorem createdFlow_lastTimestamp : (createdFlow event isIncoming t).lastTimestamp = t := rfl
@[simp] theorem createdFlow_accumulatedAmount :
    (createdFlow event isIncoming t).accumulatedAmount = 0 := rfl
@[simp] theorem createdFlow_superTokenAddress :
    (createdFlow event isIncoming t).superTokenAddress = event.token := rfl
@[simp] theorem createdFlow_entity :
    (createdFlow event isIncoming t).entity = getFlowEventEntity event isIncoming := rfl

@[simp] theorem updatedFlow_isCancelled : (updatedFlow flow t rate).isCancelled = flow.isCancelled := rfl
@[simp] theorem updatedFlow_isIncoming : (updatedFlow flow t rate).isIncoming = flow.isIncoming := rfl
@[simp] theorem updatedFlow_entity : (updatedFlow flow t rate).entity = flow.entity := rfl
@[simp] theorem updatedFlow_superTokenAddress :
    (updatedFlow flow t rate).superTokenAddress = flow.superTokenAddress := rfl
@[simp] theorem updatedFlow_creationTimestamp :
    (updatedFlow flow t rate).creationTimestamp = flow.creationTimestamp := rfl
@[simp] theorem updatedFlow_flowRate : (updatedFlow flow t rate).flowRate = rate := rfl
@[simp] theorem updatedFlow_lastTimestamp : (updatedFlow flow t rate).lastTimestamp = t := rfl
@[simp] theorem updatedFlow_accumulatedAmount :
    (updatedFlow flow t rate).accumulatedAmount = calculateNewAccumulatedAmount flow t := rfl

@[simp] theorem deletedFlow_isCancelled : (deletedFlow flow t).isCancelled = true := rfl
@[simp] theorem deletedFlow_isIncoming : (deletedFlow flow t).isIncoming = flow.isIncoming := rfl
@[simp] theorem deletedFlow_entity : (deletedFlow flow t).entity = flow.entity := rfl
@[simp] theorem deletedFlow_superTokenAddress :
    (deletedFlow flow t).superTokenAddress = flow.superTokenAddress := rfl
@[simp] theorem deletedFlow_creationTimestamp :
    (deletedFlow flow t).creationTimestamp = flow.creationTimestamp := rfl
@[simp] theorem deletedFlow_flowRate : (deletedFlow flow t).flowRate = flow.flowRate := rfl
@[simp] theorem deletedFlow_lastTimestamp : (deletedFlow flow t).lastTimestamp = t := rfl
@[simp] theorem deletedFlow_accumulatedAmount :
    (deletedFlow flow t).accumulatedAmount = calculateNewAccumulatedAmount flow t := rfl

end Records

/-- What the update and delete branches do to the record they found. -/
def changedFlow (event : FlowUpdated) (updateTimestamp : Int) (flow : Flow) : Flow :=
  if 0 < event.flowRate then updatedFlow flow updateTimestamp event.flowRate
  else deletedFlow flow updateTimestamp

@[simp] theorem changedFlow_identity (agentAddress : Address) (event : FlowUpdated)
    (t : Int) (flow : Flow) :
    (changedFlow event t flow).identity agentAddress = flow.identity agentAddress := by
  unfold changedFlow; split <;> rfl

@[simp] theorem changedFlow_creationTimestamp (event : FlowUpdated) (t : Int) (flow : Flow) :
    (changedFlow event t flow).creationTimestamp = flow.creationTimestamp := by
  unfold changedFlow; split <;> rfl

@[simp] theorem changedFlow_lastTimestamp (event : FlowUpdated) (t : Int) (flow : Flow) :
    (changedFlow event t flow).lastTimestamp = t := by
  unfold changedFlow; split <;> rfl

@[simp] theorem changedFlow_accumulatedAmount (event : FlowUpdated) (t : Int) (flow : Flow) :
    (changedFlow event t flow).accumulatedAmount = calculateNewAccumulatedAmount flow t := by
  unfold changedFlow; split <;> rfl

@[simp] theorem changedFlow_isCancelled (event : FlowUpdated) (t : Int) (flow : Flow) :
    (changedFlow event t flow).isCancelled = (decide (event.flowRate ≤ 0) || flow.isCancelled) := by
  unfold changedFlow
  split
  · simp [Int.not_le.mpr ‹0 < event.flowRate›]
  · simp [Int.not_lt.mp ‹¬0 < event.flowRate›]

theorem changedFlow_isCancelled_of_isCancelled (event : FlowUpdated) (t : Int) {flow : Flow}
    (cancelled : flow.isCancelled = true) : (changedFlow event t flow).isCancelled = true := by
  simp [cancelled]

@[simp] theorem changedFlow_flowRate (event : FlowUpdated) (t : Int) (flow : Flow) :
    (changedFlow event t flow).flowRate =
      if 0 < event.flowRate then event.flowRate else flow.flowRate := by
  unfold changedFlow; split <;> rfl

@[simp] theorem changedFlow_isFlowEqual (event other : FlowUpdated) (t : Int) (flow : Flow) :
    isFlowEqual (changedFlow event t flow) other = isFlowEqual flow other := by
  unfold changedFlow; split <;> rfl

theorem updateFlows_of_none {state : AppState} {event : FlowUpdated} (t : Int)
    (missing : state.flows.findIdx? (isFlowEqual · event) = none) :
    updateFlows state event t =
      state.flows ++ [createdFlow event (addressesEqual event.receiver state.agentAddress) t] := by
  simp only [updateFlows, missing]

theorem updateFlows_of_some {state : AppState} {event : FlowUpdated} (t : Int) {flowIndex : Nat}
    (found : state.flows.findIdx? (isFlowEqual · event) = some flowIndex) :
    updateFlows state event t = state.flows.modify (changedFlow event t) flowIndex := by
  unfold updateFlows changedFlow
  simp only [found]
  split <;> rename_i rate <;> simp only [rate, ↓reduceIte]

/-- With at most one record matching, the found record is the only one changed. -/
theorem updateFlows_of_some_eq_map {state : AppState} {event : FlowUpdated} (t : Int)
    {flowIndex : Nat} (found : state.flows.findIdx? (isFlowEqual · event) = some flowIndex)
    (unique : AtMostOne (isFlowEqual · event) state.flows) :
    updateFlows state event t =
      state.flows.map fun flow => if isFlowEqual flow event then changedFlow event t flow else flow := by
  rw [updateFlows_of_some t found, modify_findIdx?_eq_map _ found unique]

theorem handleFlowUpdated_of_not_involved {state : AppState} {event : FlowUpdated}
    (answers : ChainAnswers)
    (outside : isAgentSender state.agentAddress event.sender event.receiver = false) :
    handleFlowUpdated state event answers = state := by
  simp [handleFlowUpdated, outside]

theorem handleFlowUpdated_of_involved {state : AppState} {event : FlowUpdated}
    (answers : ChainAnswers)
    (involved : isAgentSender state.agentAddress event.sender event.receiver = true) :
    handleFlowUpdated state event answers =
      { state with
        superTokens := updateSuperTokens state answers event.token answers.timestamp
          (some (if addressesEqual state.agentAddress event.sender then event.totalSenderFlowRate
            else event.totalReceiverFlowRate))
        flows := updateFlows state event answers.timestamp } := by
  simp [handleFlowUpdated, involved]

@[simp] theorem handleFlowUpdated_agentAddress (state : AppState) (event : FlowUpdated)
    (answers : ChainAnswers) :
    (handleFlowUpdated state event answers).agentAddress = state.agentAddress := by
  unfold handleFlowUpdated; split <;> rfl

@[simp] theorem handleVaultEvent_agentAddress (state : AppState) (event : VaultEvent)
    (answers : ChainAnswers) :
    (handleVaultEvent state event answers).agentAddress = state.agentAddress := rfl

@[simp] theorem handleVaultEvent_flows (state : AppState) (event : VaultEvent)
    (answers : ChainAnswers) :
    (handleVaultEvent state event answers).flows = state.flows := rfl

end SuperfluidAragon
