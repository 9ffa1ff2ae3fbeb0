import SuperfluidAragon.Store.EventHandlers
import Mathlib.Algebra.BigOperators.Group.List
import Mathlib.Algebra.Ring.Int.Defs
import Mathlib.Data.List.Nodup

/-! The external ledger the store's feed comes from, specified by its
interface only (§1, §6): the open streams of the constant flow agreement, the
agent's vault balances, and the events each operation emits. -/

namespace SuperfluidAragon

/-- The ledger: its open streams with their rates in creation order, and the
agent's balance of each token settled at `time`. -/
structure Ledger where
  flows : List (FlowId × Int)
  balance : Address → Int
  time : Int

namespace Ledger

/-- An operation on the ledger; `transfer` is a vault deposit (a positive
amount) or withdrawal (a negative one) of the agent. -/
inductive Operation
  | create (flow : FlowId) (flowRate : Int)
  | update (flow : FlowId) (flowRate : Int)
  | delete (flow : FlowId)
  | transfer (token : Address) (amount : Int)
deriving DecidableEq, Repr

def empty : Ledger := ⟨[], fun _ => 0, 0⟩

/-- The rate of `flow` among open streams, zero when it has none. -/
def rateOf : List (FlowId × Int) → FlowId → Int
  | [], _ => 0
  | (key, value) :: rest, flow => if key = flow then value else rateOf rest flow

def rate (ledger : Ledger) (flow : FlowId) : Int :=
  rateOf ledger.flows flow

/-- An open stream's entry once the rate of `flow` is set to `flowRate`. -/
def setRate (flow : FlowId) (flowRate : Int) (entry : FlowId × Int) : FlowId × Int :=
  if entry.1 = flow then (flow, flowRate) else entry

/-- What a stream contributes to the net rate of `account` in `token`. -/
def contribution (token account : Address) (entry : FlowId × Int) : Int :=
  if entry.1.token = token then
    (if entry.1.receiver = account then entry.2 else 0) -
      (if entry.1.sender = account then entry.2 else 0)
  else 0

/-- The net rate of `account` in `token`: what it receives minus what it sends. -/
def netFlowOf (flows : List (FlowId × Int)) (token account : Address) : Int :=
  (flows.map (contribution token account)).sum

def involves (agentAddress : Address) (flow : FlowId) : Prop :=
  flow.sender = agentAddress ∨ flow.receiver = agentAddress

instance (agentAddress : Address) (flow : FlowId) : Decidable (involves agentAddress flow) :=
  inferInstanceAs (Decidable (_ ∨ _))

/-- The flow a record stands for always has the agent as a party. -/
theorem involves_identity (agentAddress : Address) (flow : Flow) :
    involves agentAddress (flow.identity agentAddress) := by
  unfold Flow.identity involves; split <;> simp

/-- Bring the agent's balances forward to `t` at their net rates. -/
def settle (ledger : Ledger) (agentAddress : Address) (t : Int) : Ledger :=
  { ledger with
    balance := fun token =>
      ledger.balance token + netFlowOf ledger.flows token agentAddress * (t - ledger.time)
    time := t }

def execute (ledger : Ledger) : Operation → Ledger
  | .create flow flowRate => { ledger with flows := ledger.flows ++ [(flow, flowRate)] }
  | .update flow flowRate => { ledger with flows := ledger.flows.map (setRate flow flowRate) }
  | .delete flow => { ledger with flows := ledger.flows.filter fun entry => entry.1 != flow }
  | .transfer token amount =>
      { ledger with balance := Function.update ledger.balance token (ledger.balance token + amount) }

/-- What the flow agreement requires of an operation: no self flow, no second
stream on an open triple, positive rates, and only open streams updated or
deleted. -/
def Admissible (ledger : Ledger) : Operation → Prop
  | .create flow flowRate => flow.sender ≠ flow.receiver ∧ ledger.rate flow = 0 ∧ 0 < flowRate
  | .update flow flowRate => 0 < ledger.rate flow ∧ 0 < flowRate
  | .delete flow => 0 < ledger.rate flow
  | .transfer _ _ => True

instance (ledger : Ledger) : (operation : Operation) → Decidable (ledger.Admissible operation)
  | .create flow flowRate =>
      inferInstanceAs (Decidable (flow.sender ≠ flow.receiver ∧ ledger.rate flow = 0 ∧ 0 < flowRate))
  | .update flow flowRate => inferInstanceAs (Decidable (0 < ledger.rate flow ∧ 0 < flowRate))
  | .delete flow => inferInstanceAs (Decidable (0 < ledger.rate flow))
  | .transfer _ _ => inferInstanceAs (Decidable True)

/-- The open streams are keyed by their triples, never a self flow, at
positive rates. -/
structure WellFormed (ledger : Ledger) : Prop where
  keysDistinct : (ledger.flows.map Prod.fst).Nodup
  noSelfFlow : ∀ entry ∈ ledger.flows, entry.1.sender ≠ entry.1.receiver
  ratePositive : ∀ entry ∈ ledger.flows, 0 < entry.2

/-- The rate of `flow` once `operation` has run on top of `rate`. -/
def Operation.rateAfter (flow : FlowId) (rate : Int) : Operation → Int
  | .create target flowRate | .update target flowRate => if target = flow then flowRate else rate
  | .delete target => if target = flow then 0 else rate
  | .transfer _ _ => rate

/-- The `FlowUpdated` event of `flow`, read on the ledger after the operation:
the new rate and both parties' net rates in the token. -/
def flowUpdated (after : Ledger) (flow : FlowId) : FlowUpdated :=
  ⟨flow.token, flow.sender, flow.receiver, after.rate flow,
    netFlowOf after.flows flow.token flow.sender, netFlowOf after.flows flow.token flow.receiver⟩

/-- The event the ledger emits for an operation: the flow's `FlowUpdated`, or a
vault event for the token. -/
def Operation.event (after : Ledger) : Operation → StoreEvent
  | .create flow _ | .update flow _ | .delete flow => .flowUpdated (after.flowUpdated flow)
  | .transfer token _ => .vault ⟨token⟩

/-- The flow an operation is about, if any. -/
def Operation.flow? : Operation → Option FlowId
  | .create flow _ | .update flow _ | .delete flow => some flow
  | .transfer _ _ => none

/-- The token an operation's event names. -/
def Operation.token : Operation → Address
  | .create flow _ | .update flow _ | .delete flow => flow.token
  | .transfer token _ => token

theorem Operation.token_of_flow? {operation : Operation} {flow : FlowId}
    (about : operation.flow? = some flow) : operation.token = flow.token := by
  cases operation <;> cases about <;> rfl

/-! ## Rates and net rates -/

@[simp] theorem settle_flows (ledger : Ledger) (agentAddress : Address) (t : Int) :
    (ledger.settle agentAddress t).flows = ledger.flows := rfl

@[simp] theorem settle_rate (ledger : Ledger) (agentAddress : Address) (t : Int) :
    (ledger.settle agentAddress t).rate = ledger.rate := rfl

@[simp] theorem settle_admissible (ledger : Ledger) (agentAddress : Address) (t : Int)
    (operation : Operation) :
    (ledger.settle agentAddress t).Admissible operation ↔ ledger.Admissible operation := by
  cases operation <;> rfl

@[simp] theorem settle_balance (ledger : Ledger) (agentAddress : Address) (t : Int)
    (token : Address) :
    (ledger.settle agentAddress t).balance token =
      ledger.balance token + netFlowOf ledger.flows token agentAddress * (t - ledger.time) := rfl

@[simp] theorem settle_time (ledger : Ledger) (agentAddress : Address) (t : Int) :
    (ledger.settle agentAddress t).time = t := rfl

@[simp] theorem execute_time (ledger : Ledger) (operation : Operation) :
    (ledger.execute operation).time = ledger.time := by
  cases operation <;> rfl

/-- Operations on streams move no balance; only the vault moves one. -/
theorem execute_balance_of_flow (ledger : Ledger) {operation : Operation} {flow : FlowId}
    (about : operation.flow? = some flow) : (ledger.execute operation).balance = ledger.balance := by
  cases operation <;> cases about <;> rfl

theorem execute_balance_of_ne (ledger : Ledger) {operation : Operation} {token : Address}
    (other : operation.token ≠ token) :
    (ledger.execute operation).balance token = ledger.balance token := by
  cases operation with
  | transfer target amount => exact Function.update_noteq (Ne.symm other) _ _
  | _ => rfl

@[simp] theorem execute_settle_flows (ledger : Ledger) (agentAddress : Address) (t : Int)
    (operation : Operation) :
    ((ledger.settle agentAddress t).execute operation).flows = (ledger.execute operation).flows := by
  cases operation <;> rfl

@[simp] theorem flowUpdated_identity (after : Ledger) (flow : FlowId) :
    (after.flowUpdated flow).identity = flow := rfl

@[simp] theorem flowUpdated_token (after : Ledger) (flow : FlowId) :
    (after.flowUpdated flow).token = flow.token := rfl

@[simp] theorem flowUpdated_flowRate (after : Ledger) (flow : FlowId) :
    (after.flowUpdated flow).flowRate = after.rate flow := rfl

/-- The total an event reports on the agent's side is the agent's net rate. -/
theorem agentTotal_flowUpdated (after : Ledger) {agentAddress : Address} {flow : FlowId}
    (inside : involves agentAddress flow) :
    (if addressesEqual agentAddress (after.flowUpdated flow).sender then
        (after.flowUpdated flow).totalSenderFlowRate
      else (after.flowUpdated flow).totalReceiverFlowRate) =
      netFlowOf after.flows flow.token agentAddress := by
  by_cases sender : flow.sender = agentAddress
  · simp [flowUpdated, sender]
  · have receiver : flow.receiver = agentAddress := inside.resolve_left sender
    simp [flowUpdated, addressesEqual, Ne.symm sender, receiver]

theorem rateAfter_of_ne {flow : FlowId} {operation : Operation}
    (other : operation.flow? ≠ some flow) (rate : Int) : operation.rateAfter flow rate = rate := by
  cases operation <;> simp_all [Operation.rateAfter, Operation.flow?]


@[simp] theorem setRate_self (flow : FlowId) (flowRate value : Int) :
    setRate flow flowRate (flow, value) = (flow, flowRate) := by
  simp [setRate]

theorem setRate_of_ne {flow key : FlowId} (different : key ≠ flow) (flowRate value : Int) :
    setRate flow flowRate (key, value) = (key, value) := by
  simp [setRate, different]

@[simp] theorem setRate_fst (flow : FlowId) (flowRate : Int) (entry : FlowId × Int) :
    (setRate flow flowRate entry).1 = entry.1 := by
  unfold setRate; split <;> simp_all

theorem rateOf_append_singleton (entries : List (FlowId × Int)) (flow key : FlowId) (flowRate : Int)
    (fresh : flow ∉ entries.map Prod.fst) :
    rateOf (entries ++ [(flow, flowRate)]) key = if flow = key then flowRate else rateOf entries key := by
  induction entries with
  | nil => simp [rateOf]
  | cons entry rest induction =>
      obtain ⟨target, value⟩ := entry
      simp only [List.map_cons, List.mem_cons, not_or] at fresh
      by_cases same : target = key
      · subst same; simp [rateOf, fresh.1]
      · simp [rateOf, same, induction fresh.2]

theorem rateOf_map_setRate_of_ne (entries : List (FlowId × Int)) {flow key : FlowId}
    (different : flow ≠ key) (flowRate : Int) :
    rateOf (entries.map (setRate flow flowRate)) key = rateOf entries key := by
  induction entries with
  | nil => rfl
  | cons entry rest induction =>
      obtain ⟨target, value⟩ := entry
      by_cases replaced : target = flow
      · subst replaced
        rw [List.map_cons, setRate_self]
        simp [rateOf, different, induction]
      · rw [List.map_cons, setRate_of_ne replaced]
        simp [rateOf, induction]

theorem rateOf_map_setRate_self (entries : List (FlowId × Int)) {flow : FlowId}
    (present : flow ∈ entries.map Prod.fst) (flowRate : Int) :
    rateOf (entries.map (setRate flow flowRate)) flow = flowRate := by
  induction entries with
  | nil => simp at present
  | cons entry rest induction =>
      obtain ⟨target, value⟩ := entry
      by_cases replaced : target = flow
      · subst replaced
        rw [List.map_cons, setRate_self]
        simp [rateOf]
      · rw [List.map_cons, setRate_of_ne replaced]
        simp only [rateOf, replaced, if_false]
        exact induction (by simpa [Ne.symm replaced] using present)

theorem rateOf_filter (entries : List (FlowId × Int)) (flow key : FlowId) :
    rateOf (entries.filter fun entry => entry.1 != flow) key =
      if flow = key then 0 else rateOf entries key := by
  induction entries with
  | nil => simp [rateOf]
  | cons entry rest induction =>
      obtain ⟨target, value⟩ := entry
      by_cases removed : target = flow
      · subst removed
        by_cases same : target = key
        · subst same; simp [rateOf, induction]
        · simp [rateOf, induction, same]
      · by_cases same : target = key
        · subst same; simp [rateOf, List.filter_cons, removed, Ne.symm removed]
        · simp [rateOf, List.filter_cons, removed, same, induction]

theorem rateOf_of_not_mem {entries : List (FlowId × Int)} {flow : FlowId}
    (absent : flow ∉ entries.map Prod.fst) : rateOf entries flow = 0 := by
  induction entries with
  | nil => rfl
  | cons entry rest induction =>
      simp only [List.map_cons, List.mem_cons, not_or] at absent
      simp [rateOf, Ne.symm absent.1, induction absent.2]

theorem rateOf_of_mem {entries : List (FlowId × Int)} (distinct : (entries.map Prod.fst).Nodup)
    {entry : FlowId × Int} (member : entry ∈ entries) : rateOf entries entry.1 = entry.2 := by
  induction entries with
  | nil => simp at member
  | cons head rest induction =>
      rw [List.map_cons, List.nodup_cons] at distinct
      rcases List.mem_cons.mp member with rfl | inRest
      · simp [rateOf]
      · have different : head.1 ≠ entry.1 := fun same =>
          distinct.1 (same ▸ List.mem_map_of_mem Prod.fst inRest)
        simp [rateOf, different, induction distinct.2 inRest]

theorem mem_of_rateOf_ne_zero {entries : List (FlowId × Int)} {flow : FlowId}
    (nonzero : rateOf entries flow ≠ 0) : (flow, rateOf entries flow) ∈ entries := by
  induction entries with
  | nil => simp [rateOf] at nonzero
  | cons head rest induction =>
      obtain ⟨key, value⟩ := head
      by_cases same : key = flow
      · subst same; simp [rateOf]
      · simp only [rateOf, same, if_false] at nonzero ⊢
        exact List.mem_cons_of_mem _ (induction nonzero)

namespace WellFormed

variable {ledger : Ledger} (wellFormed : ledger.WellFormed)
include wellFormed

theorem rate_of_mem {entry : FlowId × Int} (member : entry ∈ ledger.flows) :
    ledger.rate entry.1 = entry.2 :=
  rateOf_of_mem wellFormed.keysDistinct member

theorem not_mem_of_rate_eq_zero {flow : FlowId} (closed : ledger.rate flow = 0) :
    flow ∉ ledger.flows.map Prod.fst := by
  intro member
  obtain ⟨entry, inFlows, rfl⟩ := List.mem_map.mp member
  have positive := wellFormed.ratePositive entry inFlows
  rw [wellFormed.rate_of_mem inFlows] at closed
  omega

theorem rate_nonneg (flow : FlowId) : 0 ≤ ledger.rate flow := by
  by_cases closed : ledger.rate flow = 0
  · exact closed.symm.le
  · exact (wellFormed.ratePositive _ (mem_of_rateOf_ne_zero closed)).le

/-- Each operation the flow agreement admits sets the rate of its own flow and
leaves every other rate. -/
theorem rate_execute {operation : Operation} (admissible : ledger.Admissible operation)
    (flow : FlowId) :
    (ledger.execute operation).rate flow = operation.rateAfter flow (ledger.rate flow) := by
  cases operation with
  | create target flowRate =>
      simp only [execute, rate, Operation.rateAfter]
      rw [rateOf_append_singleton _ _ _ _ (wellFormed.not_mem_of_rate_eq_zero admissible.2.1)]
  | update target flowRate =>
      simp only [execute, rate, Operation.rateAfter]
      by_cases same : target = flow
      · subst same
        have present := List.mem_map_of_mem Prod.fst
          (mem_of_rateOf_ne_zero (ne_of_gt admissible.1))
        simp [rateOf_map_setRate_self _ present]
      · simp [rateOf_map_setRate_of_ne _ same, same]
  | delete target =>
      simp only [execute, rate, Operation.rateAfter, rateOf_filter]
  | transfer token amount => rfl

theorem execute {operation : Operation} (admissible : ledger.Admissible operation) :
    (ledger.execute operation).WellFormed := by
  cases operation with
  | create target flowRate =>
      have fresh := wellFormed.not_mem_of_rate_eq_zero admissible.2.1
      refine ⟨?_, ?_, ?_⟩ <;> simp only [Ledger.execute, List.map_append, List.mem_append,
        List.mem_singleton]
      · exact wellFormed.keysDistinct.append (List.nodup_singleton _)
          (List.disjoint_singleton.mpr fresh)
      · rintro entry (old | rfl)
        · exact wellFormed.noSelfFlow entry old
        · exact admissible.1
      · rintro entry (old | rfl)
        · exact wellFormed.ratePositive entry old
        · exact admissible.2.2
  | update target flowRate =>
      have sameKeys : (ledger.flows.map (setRate target flowRate)).map Prod.fst =
          ledger.flows.map Prod.fst := by
        simp only [List.map_map]
        exact List.map_congr_left fun entry _ => setRate_fst target flowRate entry
      refine ⟨?_, ?_, ?_⟩ <;> simp only [Ledger.execute]
      · rw [sameKeys]; exact wellFormed.keysDistinct
      · intro entry member
        obtain ⟨old, inFlows, rfl⟩ := List.mem_map.mp member
        rw [setRate_fst]
        exact wellFormed.noSelfFlow old inFlows
      · intro entry member
        obtain ⟨old, inFlows, rfl⟩ := List.mem_map.mp member
        by_cases same : old.1 = target
        · simpa [setRate, same] using admissible.2
        · simpa [setRate, same] using wellFormed.ratePositive old inFlows
  | delete target =>
      exact ⟨wellFormed.keysDistinct.sublist ((List.filter_sublist _).map _),
        fun entry member => wellFormed.noSelfFlow entry (List.mem_of_mem_filter member),
        fun entry member => wellFormed.ratePositive entry (List.mem_of_mem_filter member)⟩
  | transfer token amount => exact ⟨wellFormed.1, wellFormed.2, wellFormed.3⟩

end WellFormed

/-- An operation whose flow does not move `account`'s net rate in `token`
leaves that net rate as it was. -/
theorem netFlowOf_execute {ledger : Ledger} {operation : Operation} {token account : Address}
    (unmoved : ∀ flow, operation.flow? = some flow → ∀ value,
      contribution token account (flow, value) = 0) :
    netFlowOf (ledger.execute operation).flows token account =
      netFlowOf ledger.flows token account := by
  cases operation with
  | create target flowRate =>
      simp [execute, netFlowOf, unmoved target rfl flowRate]
  | update target flowRate =>
      simp only [execute, netFlowOf, List.map_map]
      congr 1
      refine List.map_congr_left fun entry _ => ?_
      by_cases same : entry.1 = target
      · have replaced := unmoved target rfl flowRate
        have old := unmoved target rfl entry.2
        rw [← same] at old
        simp [setRate, same, replaced, old]
      · simp [setRate, same]
  | delete target =>
      simp only [execute, netFlowOf]
      induction ledger.flows with
      | nil => rfl
      | cons entry rest induction =>
          by_cases same : entry.1 = target
          · have old := unmoved target rfl entry.2
            rw [← same] at old
            simp [List.filter_cons, same, induction, old]
          · simp [List.filter_cons, same, induction]
  | transfer _ _ => rfl

theorem contribution_of_not_involves {account : Address} {flow : FlowId}
    (outside : ¬involves account flow) (token : Address) (value : Int) :
    contribution token account (flow, value) = 0 := by
  simp only [involves, not_or] at outside
  simp [contribution, outside.1, outside.2]

theorem contribution_of_token_ne {token : Address} {flow : FlowId} (other : flow.token ≠ token)
    (account : Address) (value : Int) : contribution token account (flow, value) = 0 := by
  simp [contribution, other]

/-- An account none of whose streams is in `token` has no net rate in it. -/
theorem netFlowOf_eq_zero {flows : List (FlowId × Int)} {token account : Address}
    (unlisted : ∀ entry ∈ flows, involves account entry.1 → entry.1.token ≠ token) :
    netFlowOf flows token account = 0 := by
  refine List.sum_eq_zero fun value member => ?_
  obtain ⟨entry, inFlows, rfl⟩ := List.mem_map.mp member
  by_cases inside : involves account entry.1
  · exact contribution_of_token_ne (unlisted entry inFlows inside) account entry.2
  · exact contribution_of_not_involves inside token entry.2

/-- An operation that moves none of `account`'s streams leaves its net rates. -/
theorem netFlowOf_step_of_quiet {ledger : Ledger} {operation : Operation} {account : Address}
    (quiet : ∀ flow, operation.flow? = some flow → ¬involves account flow) (t : Int)
    (token : Address) :
    netFlowOf ((ledger.settle account t).execute operation).flows token account =
      netFlowOf ledger.flows token account := by
  rw [execute_settle_flows, netFlowOf_execute fun flow about value =>
    contribution_of_not_involves (quiet flow about) token value]

/-- The streams after an operation were open before, or are the operation's own. -/
theorem mem_execute_flows {ledger : Ledger} {operation : Operation} {entry : FlowId × Int}
    (member : entry ∈ (ledger.execute operation).flows) :
    entry.1 ∈ ledger.flows.map Prod.fst ∨ operation.flow? = some entry.1 := by
  cases operation with
  | create target flowRate =>
      rcases List.mem_append.mp member with old | created
      · exact .inl (List.mem_map_of_mem _ old)
      · exact .inr (by simp [List.mem_singleton.mp created, Operation.flow?])
  | update target flowRate =>
      obtain ⟨old, inOld, rfl⟩ := List.mem_map.mp member
      exact .inl (by rw [setRate_fst]; exact List.mem_map_of_mem _ inOld)
  | delete target => exact .inl (List.mem_map_of_mem _ (List.mem_of_mem_filter member))
  | transfer _ _ => exact .inl (List.mem_map_of_mem _ member)

/-- The flow of an admitted operation is never a self flow. -/
theorem WellFormed.selfFree {ledger : Ledger} (wellFormed : ledger.WellFormed)
    {operation : Operation} (admissible : ledger.Admissible operation) {flow : FlowId}
    (about : operation.flow? = some flow) : flow.sender ≠ flow.receiver := by
  have running : ∀ flow, 0 < ledger.rate flow → flow.sender ≠ flow.receiver := fun flow positive =>
    wellFormed.noSelfFlow _ (mem_of_rateOf_ne_zero (ne_of_gt positive))
  cases operation <;> cases about
  · exact admissible.1
  · exact running _ admissible.1
  · exact running _ admissible

theorem WellFormed.settle {ledger : Ledger} (wellFormed : ledger.WellFormed)
    (agentAddress : Address) (t : Int) : (ledger.settle agentAddress t).WellFormed :=
  ⟨wellFormed.1, wellFormed.2, wellFormed.3⟩

end Ledger

end SuperfluidAragon
