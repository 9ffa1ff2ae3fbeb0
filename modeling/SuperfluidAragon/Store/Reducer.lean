import SuperfluidAragon.Store.EventHandlers
import Mathlib.Data.List.Nodup

/-! The flows reducer alone: `updateFlows` folded over `FlowUpdated` events in
any order, whatever their triples, rates and timestamps. -/

namespace SuperfluidAragon

open Foundation

/-- `updateFlows` folded in order over timed events, the tokens left alone. -/
def replayFlows (state : AppState) : List (FlowUpdated × Int) → AppState
  | [] => state
  | (event, t) :: rest => replayFlows { state with flows := updateFlows state event t } rest

theorem replayFlows_append (state : AppState) (events more : List (FlowUpdated × Int)) :
    replayFlows state (events ++ more) = replayFlows (replayFlows state events) more := by
  induction events generalizing state with
  | nil => rfl
  | cons head rest induction =>
      obtain ⟨event, t⟩ := head
      exact induction _

/-- The fields of a record `isFlowEqual` reads. -/
def Flow.matchKey (flow : Flow) : Address × Bool × Address :=
  (flow.superTokenAddress, flow.isIncoming, flow.entity)

theorem isFlowEqual_eq_of_matchKey {flow other : Flow} (same : flow.matchKey = other.matchKey)
    (event : FlowUpdated) : isFlowEqual flow event = isFlowEqual other event := by
  simp only [Flow.matchKey, Prod.mk.injEq] at same
  simp only [isFlowEqual, same]

@[simp] theorem changedFlow_matchKey (event : FlowUpdated) (t : Int) (flow : Flow) :
    (changedFlow event t flow).matchKey = flow.matchKey := by
  unfold changedFlow; split <;> rfl

theorem isFlowEqual_createdFlow (event : FlowUpdated) (isIncoming : Bool) (t : Int) :
    isFlowEqual (createdFlow event isIncoming t) event = true := by
  simp [isFlowEqual]

/-! ## One step -/

/-- Every record keeps its position: it is left as it was, or it is the record
the event matched and the update or delete branch rewrote it. -/
theorem getElem?_updateFlows (state : AppState) (event : FlowUpdated) (t : Int)
    {index : Nat} {flow : Flow} (present : state.flows[index]? = some flow) :
    (updateFlows state event t)[index]? = some flow ∨
      isFlowEqual flow event = true ∧
        (updateFlows state event t)[index]? = some (changedFlow event t flow) := by
  cases found : state.flows.findIdx? (isFlowEqual · event) with
  | none =>
      rw [updateFlows_of_none t found, List.getElem?_append_left
        (List.getElem?_eq_some_iff.mp present).1]
      exact .inl present
  | some flowIndex =>
      rw [updateFlows_of_some t found]
      by_cases same : flowIndex = index
      · subst same
        have matched := List.findIdx?_of_eq_some found
        simp only [present] at matched
        exact .inr ⟨matched, by simp [present]⟩
      · exact .inl (by rw [List.getElem?_modify_ne _ _ same]; exact present)

/-- The records after a step are the old ones, one possibly rewritten by its
branch, and at most one new record created for the event. -/
theorem mem_updateFlows {state : AppState} {event : FlowUpdated} {t : Int} {flow : Flow}
    (member : flow ∈ updateFlows state event t) :
    flow ∈ state.flows ∨ (∃ old ∈ state.flows, flow = changedFlow event t old) ∨
      (flow = createdFlow event (addressesEqual event.receiver state.agentAddress) t ∧
        ∀ old ∈ state.flows, isFlowEqual old event = false) := by
  cases found : state.flows.findIdx? (isFlowEqual · event) with
  | none =>
      rw [updateFlows_of_none t found, List.mem_append, List.mem_singleton] at member
      rcases member with old | created
      · exact .inl old
      · exact .inr (.inr ⟨created, List.findIdx?_eq_none_iff.mp found⟩)
  | some flowIndex =>
      rw [updateFlows_of_some t found] at member
      rcases mem_modify member with old | changed
      · exact .inl old
      · exact .inr (.inl changed)

/-! ## Records per triple -/

/-- What every flows list `updateFlows` builds from no flows satisfies: no two
records answer to the same events, and the counterparty of an outgoing record
is never the agent. -/
structure FlowsWellFormed (agentAddress : Address) (flows : List Flow) : Prop where
  keysDistinct : (flows.map Flow.matchKey).Nodup
  outgoingEntity : ∀ flow ∈ flows, flow.isIncoming = false → flow.entity ≠ agentAddress

theorem flowsWellFormed_nil (agentAddress : Address) : FlowsWellFormed agentAddress [] :=
  ⟨List.nodup_nil, fun _ member => absurd member (List.not_mem_nil _)⟩

theorem FlowsWellFormed.step {state : AppState}
    (wellFormed : FlowsWellFormed state.agentAddress state.flows) (event : FlowUpdated)
    (t : Int) : FlowsWellFormed state.agentAddress (updateFlows state event t) := by
  cases found : state.flows.findIdx? (isFlowEqual · event) with
  | none =>
      have unmatched := List.findIdx?_eq_none_iff.mp found
      rw [updateFlows_of_none t found]
      constructor
      · rw [List.map_append, List.nodup_append]
        refine ⟨wellFormed.keysDistinct, List.nodup_singleton _, ?_⟩
        intro key inOld inNew
        obtain ⟨old, member, rfl⟩ := List.mem_map.mp inOld
        have := (isFlowEqual_eq_of_matchKey (List.mem_singleton.mp inNew) event).trans
          (isFlowEqual_createdFlow event _ t)
        simp [unmatched old member] at this
      · intro flow member outgoing
        rcases List.mem_append.mp member with old | created
        · exact wellFormed.outgoingEntity flow old outgoing
        · rw [List.mem_singleton.mp created] at outgoing ⊢
          simp only [createdFlow_isIncoming] at outgoing
          simp only [createdFlow_entity, getFlowEventEntity, outgoing, Bool.false_eq_true, if_false]
          simpa [addressesEqual] using outgoing
  | some flowIndex =>
      rw [updateFlows_of_some t found]
      constructor
      · rw [map_modify_of_comp (changedFlow_matchKey event t)]
        exact wellFormed.keysDistinct
      · intro flow member outgoing
        rcases mem_modify member with old | ⟨old, inOld, rfl⟩
        · exact wellFormed.outgoingEntity flow old outgoing
        · have sameKey := changedFlow_matchKey event t old
          simp only [Flow.matchKey, Prod.mk.injEq] at sameKey
          rw [sameKey.2.2]
          exact wellFormed.outgoingEntity old inOld (sameKey.2.1 ▸ outgoing)

theorem FlowsWellFormed.replay {state : AppState}
    (wellFormed : FlowsWellFormed state.agentAddress state.flows)
    (events : List (FlowUpdated × Int)) :
    FlowsWellFormed state.agentAddress (replayFlows state events).flows := by
  induction events generalizing state with
  | nil => exact wellFormed
  | cons head rest induction =>
      obtain ⟨event, t⟩ := head
      exact @induction { state with flows := updateFlows state event t } (wellFormed.step event t)

/-- Records answering to different events stand for different flows. -/
theorem FlowsWellFormed.identities_nodup {agentAddress : Address} {flows : List Flow}
    (wellFormed : FlowsWellFormed agentAddress flows) :
    (flows.map (Flow.identity agentAddress)).Nodup := by
  have sameIdentity : ∀ x ∈ flows, ∀ y ∈ flows,
      x.identity agentAddress = y.identity agentAddress → x.matchKey = y.matchKey := by
    intro x inX y inY same
    have notAgentX := wellFormed.outgoingEntity x inX
    have notAgentY := wellFormed.outgoingEntity y inY
    cases incomingX : x.isIncoming <;> cases incomingY : y.isIncoming <;>
      simp only [Flow.identity, incomingX, incomingY, Bool.false_eq_true, if_false, if_true,
        FlowId.mk.injEq] at same <;>
      simp_all [Flow.matchKey]
  exact (wellFormed.keysDistinct.of_map _).map_on fun x inX y inY same =>
    List.inj_on_of_nodup_map wellFormed.keysDistinct inX inY (sameIdentity x inX y inY same)

/-- Every flows list `updateFlows` builds from no flows, whatever the events,
has at most one record per `(token, sender, receiver)` triple. -/
theorem replayFlows_identities_nodup (agentAddress : Address) (superTokens : List SuperToken)
    (events : List (FlowUpdated × Int)) :
    ((replayFlows ⟨agentAddress, superTokens, []⟩ events).flows.map
      (Flow.identity agentAddress)).Nodup :=
  (@FlowsWellFormed.replay ⟨agentAddress, superTokens, []⟩ (flowsWellFormed_nil agentAddress)
    events).identities_nodup

/-- A first event of rate zero for a triple, as a feed that starts after the
stream was opened delivers its deletion, opens a record at rate zero. -/
theorem updateFlows_opens_record_at_rate_zero :
    updateFlows ⟨⟨0⟩, [], []⟩ ⟨⟨1⟩, ⟨0⟩, ⟨2⟩, 0, 0, 0⟩ 100 =
      [{ isCancelled := false, isIncoming := false, entity := ⟨2⟩, superTokenAddress := ⟨1⟩,
         accumulatedAmount := 0, creationTimestamp := 100, lastTimestamp := 100,
         flowRate := 0 }] := rfl

/-! ## Records keyed by their flows -/

/-- One record per flow, and no record whose counterparty is the agent: then a
record matches exactly the events naming the flow it stands for. -/
structure Keyed (state : AppState) : Prop where
  identitiesDistinct : (state.flows.map (Flow.identity state.agentAddress)).Nodup
  counterpartyNotAgent : ∀ flow ∈ state.flows, flow.entity ≠ state.agentAddress

/-- An event of a stream between two parties, one of them the agent. -/
def FlowUpdated.Regular (agentAddress : Address) (event : FlowUpdated) : Prop :=
  event.sender ≠ event.receiver ∧ (event.sender = agentAddress ∨ event.receiver = agentAddress)

namespace Keyed

variable {state : AppState} (keyed : Keyed state) {event : FlowUpdated}
  (regular : event.Regular state.agentAddress)
include keyed regular

theorem isFlowEqual_iff {flow : Flow} (member : flow ∈ state.flows) :
    isFlowEqual flow event = true ↔ flow.identity state.agentAddress = event.identity :=
  ⟨fun matched => identity_of_isFlowEqual matched regular.2 (keyed.counterpartyNotAgent flow member),
    isFlowEqual_of_identity⟩

/-- The record of an event's flow is the one `updateFlows` rewrites. -/
theorem updateFlows_of_recorded (t : Int)
    (recorded : ∃ flow ∈ state.flows, flow.identity state.agentAddress = event.identity) :
    updateFlows state event t = state.flows.map fun flow =>
      if flow.identity state.agentAddress = event.identity then changedFlow event t flow
      else flow := by
  obtain ⟨flow, member, same⟩ := recorded
  have found : state.flows.findIdx? (isFlowEqual · event) =
      some (state.flows.findIdx (isFlowEqual · event)) :=
    List.findIdx?_eq_some_of_exists ⟨flow, member, (keyed.isFlowEqual_iff regular member).mpr same⟩
  rw [updateFlows_of_some_eq_map t found]
  · exact List.map_congr_left fun other inOther => by
      simp only [keyed.isFlowEqual_iff regular inOther]
  · exact atMostOne_of_pairwise (List.pairwise_map.mp keyed.identitiesDistinct)
      fun x inX y inY hitX hitY => by
        rw [(keyed.isFlowEqual_iff regular inX).mp hitX, (keyed.isFlowEqual_iff regular inY).mp hitY]

theorem updateFlows_of_unrecorded (t : Int)
    (unrecorded : ∀ flow ∈ state.flows, flow.identity state.agentAddress ≠ event.identity) :
    updateFlows state event t =
      state.flows ++ [createdFlow event (addressesEqual event.receiver state.agentAddress) t] :=
  updateFlows_of_none t (List.findIdx?_eq_none_iff.mpr fun flow member =>
    Bool.eq_false_iff.mpr fun matched =>
      unrecorded flow member ((keyed.isFlowEqual_iff regular member).mp matched))

omit keyed in
/-- The record created for an event stands for the event's flow, with the other
party as counterparty. -/
theorem createdFlow_identity (t : Int) :
    (createdFlow event (addressesEqual event.receiver state.agentAddress) t).identity
        state.agentAddress = event.identity ∧
      (createdFlow event (addressesEqual event.receiver state.agentAddress) t).entity ≠
        state.agentAddress := by
  obtain ⟨selfFree, involved⟩ := regular
  by_cases incoming : event.receiver = state.agentAddress
  · have : event.sender ≠ state.agentAddress := incoming ▸ selfFree
    simp [Flow.identity, FlowUpdated.identity, getFlowEventEntity, incoming, this]
  · have : event.sender = state.agentAddress := involved.resolve_right incoming
    simp [Flow.identity, FlowUpdated.identity, getFlowEventEntity, incoming, this]

/-- The flows with a record after a regular event: those before, and the event's. -/
theorem identities_updateFlows (t : Int) :
    (updateFlows state event t).map (Flow.identity state.agentAddress) =
      if event.identity ∈ state.flows.map (Flow.identity state.agentAddress) then
        state.flows.map (Flow.identity state.agentAddress)
      else state.flows.map (Flow.identity state.agentAddress) ++ [event.identity] := by
  split
  · rename_i recorded
    rw [keyed.updateFlows_of_recorded regular t (by simpa using recorded), List.map_map]
    exact List.map_congr_left fun flow _ => by simp only [Function.comp_apply]; split <;> simp
  · rename_i unrecorded
    rw [keyed.updateFlows_of_unrecorded regular t (by simpa using unrecorded), List.map_append,
      List.map_singleton, (createdFlow_identity regular t).1]

theorem mem_identities_updateFlows (t : Int) (flow : FlowId) :
    flow ∈ (updateFlows state event t).map (Flow.identity state.agentAddress) ↔
      flow ∈ state.flows.map (Flow.identity state.agentAddress) ∨ flow = event.identity := by
  rw [keyed.identities_updateFlows regular t]
  split
  · rename_i recorded
    exact ⟨.inl, fun | .inl old => old | .inr same => same ▸ recorded⟩
  · simp

/-- A record after a regular event is one of another flow as it was, the
event's record rewritten by its branch, or the record created for the event
when its flow had none. -/
theorem mem_updateFlows (t : Int) {record : Flow} (member : record ∈ updateFlows state event t) :
    (record ∈ state.flows ∧ record.identity state.agentAddress ≠ event.identity) ∨
      (∃ old ∈ state.flows, old.identity state.agentAddress = event.identity ∧
        record = changedFlow event t old) ∨
      (event.identity ∉ state.flows.map (Flow.identity state.agentAddress) ∧
        record = createdFlow event (addressesEqual event.receiver state.agentAddress) t) := by
  by_cases recorded : ∃ flow ∈ state.flows, flow.identity state.agentAddress = event.identity
  · rw [keyed.updateFlows_of_recorded regular t recorded] at member
    obtain ⟨old, inOld, rfl⟩ := List.mem_map.mp member
    split
    · exact .inr (.inl ⟨old, inOld, ‹_›, rfl⟩)
    · exact .inl ⟨inOld, ‹_›⟩
  · push_neg at recorded
    rw [keyed.updateFlows_of_unrecorded regular t recorded, List.mem_append,
      List.mem_singleton] at member
    rcases member with old | rfl
    · exact .inl ⟨old, recorded _ old⟩
    · exact .inr (.inr ⟨by simpa using recorded, rfl⟩)

/-- A regular event keeps the records keyed. -/
theorem step (t : Int) : Keyed { state with flows := updateFlows state event t } := by
  refine ⟨?_, fun flow member => ?_⟩
  · show ((updateFlows state event t).map (Flow.identity state.agentAddress)).Nodup
    rw [keyed.identities_updateFlows regular t]
    split
    · exact keyed.identitiesDistinct
    · exact keyed.identitiesDistinct.append (List.nodup_singleton _)
        (List.disjoint_singleton.mpr ‹_›)
  · rcases keyed.mem_updateFlows regular t member with ⟨old, -⟩ | ⟨old, inOld, -, rfl⟩ | ⟨-, rfl⟩
    · exact keyed.counterpartyNotAgent flow old
    · have sameKey := changedFlow_matchKey event t old
      simp only [Flow.matchKey, Prod.mk.injEq] at sameKey
      rw [sameKey.2.2]
      exact keyed.counterpartyNotAgent old inOld
    · exact (createdFlow_identity regular t).2

/-- `updateFlows` on keyed records updates the event's record, or appends one. -/
theorem updateFlows_eq_upsert (t : Int) :
    updateFlows state event t =
      upsert (Flow.identity state.agentAddress) event.identity (changedFlow event t)
        (createdFlow event (addressesEqual event.receiver state.agentAddress) t) state.flows := by
  unfold upsert
  split
  · rename_i recorded
    exact keyed.updateFlows_of_recorded regular t (List.mem_map.mp recorded)
  · rename_i unrecorded
    exact keyed.updateFlows_of_unrecorded regular t fun flow member same =>
      unrecorded (List.mem_map.mpr ⟨flow, member, same⟩)

/-- Two regular events of different flows leave the same records, in either
order, up to the order of the records they create. -/
theorem updateFlows_comm {second : FlowUpdated} (regularSecond : second.Regular state.agentAddress)
    (different : event.identity ≠ second.identity) (t t' : Int) :
    (updateFlows { state with flows := updateFlows state event t } second t').Perm
      (updateFlows { state with flows := updateFlows state second t' } event t) := by
  rw [(keyed.step regular t).updateFlows_eq_upsert regularSecond t',
    (keyed.step regularSecond t').updateFlows_eq_upsert regular t,
    keyed.updateFlows_eq_upsert regular t, keyed.updateFlows_eq_upsert regularSecond t']
  exact upsert_comm different (fun flow same => (changedFlow_identity _ event t flow).trans same)
    (fun flow same => (changedFlow_identity _ second t' flow).trans same)
    (createdFlow_identity regular t).1 (createdFlow_identity regularSecond t').1 _

end Keyed

/-! ## Later states -/

/-- A record keeps its position and what `isFlowEqual` reads of it through any
later events; once cancelled it stays cancelled; and it is left as it was by
every event that does not match it. -/
theorem getElem?_replayFlows (state : AppState) (events : List (FlowUpdated × Int))
    {index : Nat} {flow : Flow} (present : state.flows[index]? = some flow) :
    ∃ later, (replayFlows state events).flows[index]? = some later ∧
      later.matchKey = flow.matchKey ∧ later.creationTimestamp = flow.creationTimestamp ∧
      (flow.isCancelled = true → later.isCancelled = true) ∧
      ((∀ step ∈ events, isFlowEqual flow step.1 = false) → later = flow) := by
  induction events generalizing state flow with
  | nil => exact ⟨flow, present, rfl, rfl, id, fun _ => rfl⟩
  | cons head rest induction =>
      obtain ⟨event, t⟩ := head
      rcases getElem?_updateFlows state event t present with same | ⟨matched, changed⟩
      · obtain ⟨later, found, key, created, cancelled, frame⟩ :=
          @induction { state with flows := updateFlows state event t } flow same
        exact ⟨later, found, key, created, cancelled,
          fun unmatched => frame fun step member => unmatched step (List.mem_cons_of_mem _ member)⟩
      · obtain ⟨later, found, key, created, cancelled, frame⟩ :=
          @induction { state with flows := updateFlows state event t } _ changed
        refine ⟨later, found, key.trans (changedFlow_matchKey event t flow),
          created.trans (changedFlow_creationTimestamp event t flow),
          fun wasCancelled => cancelled (changedFlow_isCancelled_of_isCancelled event t wasCancelled),
          fun unmatched => ?_⟩
        simp [unmatched (event, t) (List.mem_cons_self _ _)] at matched

/-- Once a record is cancelled it stays cancelled at its position, for the
same token and counterparty, through any later events; its banked amount and
checkpoint stay as they were through every later event that does not match it. -/
theorem cancelled_flow_stays_cancelled (state : AppState) (events : List (FlowUpdated × Int))
    {index : Nat} {flow : Flow} (present : state.flows[index]? = some flow)
    (cancelled : flow.isCancelled = true) :
    ∃ later, (replayFlows state events).flows[index]? = some later ∧
      later.isCancelled = true ∧ later.matchKey = flow.matchKey ∧
      ((∀ step ∈ events, isFlowEqual flow step.1 = false) →
        later.accumulatedAmount = flow.accumulatedAmount ∧
          later.lastTimestamp = flow.lastTimestamp) := by
  obtain ⟨later, found, key, -, stays, frame⟩ := getElem?_replayFlows state events present
  exact ⟨later, found, stays cancelled, key, fun unmatched => by rw [frame unmatched]; simp⟩

theorem cancelled_flow_stays_cancelled_at_late_event :
    let record : Flow := ⟨true, false, ⟨2⟩, ⟨1⟩, 500, 0, 50, 10⟩
    let state : AppState := ⟨⟨0⟩, [], [record]⟩
    let events : List (FlowUpdated × Int) := [(⟨⟨1⟩, ⟨0⟩, ⟨2⟩, 10, -10, 10⟩, 40)]
    state.flows[0]? = some record ∧ record.isCancelled = true ∧
      ∃ later, (replayFlows state events).flows[0]? = some later ∧ later.isCancelled = true ∧
        later.matchKey = record.matchKey ∧
        ((∀ step ∈ events, isFlowEqual record step.1 = false) →
          later.accumulatedAmount = record.accumulatedAmount ∧
            later.lastTimestamp = record.lastTimestamp) := by
  intro record state events
  exact ⟨rfl, rfl, cancelled_flow_stays_cancelled state events rfl rfl⟩

/-- Deleting a deleted flow again banks the rate its cancelled record kept. -/
theorem repeated_delete_banks_into_cancelled_flow :
    let opening : FlowUpdated := ⟨⟨1⟩, ⟨0⟩, ⟨2⟩, 10, -10, 10⟩
    let closing : FlowUpdated := ⟨⟨1⟩, ⟨0⟩, ⟨2⟩, 0, 0, 0⟩
    (replayFlows ⟨⟨0⟩, [], []⟩ [(opening, 0), (closing, 50)]).flows.map
        (fun flow => (flow.isCancelled, flow.accumulatedAmount)) = [(true, 500)] ∧
      (replayFlows ⟨⟨0⟩, [], []⟩ [(opening, 0), (closing, 50), (closing, 60)]).flows.map
        (fun flow => (flow.isCancelled, flow.accumulatedAmount)) = [(true, 600)] :=
  ⟨rfl, rfl⟩

/-! ## A feed in block order -/

/-- What a feed in block order, with rates of zero or more as the chain's are,
keeps of every record: nothing banked below zero, a rate of zero or more, and
its creation no later than its last checkpoint. -/
structure Banked (flow : Flow) : Prop where
  amountNonneg : 0 ≤ flow.accumulatedAmount
  rateNonneg : 0 ≤ flow.flowRate
  createdFirst : flow.creationTimestamp ≤ flow.lastTimestamp

/-- Banking a record at a time no earlier than its checkpoint, for an event of
rate zero or more, keeps it banked and does not lower its banked amount. -/
theorem Banked.bank {flow : Flow} (banked : Banked flow) {event : FlowUpdated}
    (rate : 0 ≤ event.flowRate) {t : Int} (later : flow.lastTimestamp ≤ t) :
    Banked (changedFlow event t flow) ∧
      flow.accumulatedAmount ≤ (changedFlow event t flow).accumulatedAmount := by
  have accrued : 0 ≤ flow.flowRate * (t - flow.lastTimestamp) :=
    Int.mul_nonneg banked.rateNonneg (Int.sub_nonneg_of_le later)
  have := banked.amountNonneg
  have := banked.createdFirst
  refine ⟨⟨?_, ?_, ?_⟩, ?_⟩
  · simp only [changedFlow_accumulatedAmount, calculateNewAccumulatedAmount]; omega
  · rw [changedFlow_flowRate]; split
    · exact rate
    · exact banked.rateNonneg
  · simp only [changedFlow_creationTimestamp, changedFlow_lastTimestamp]; omega
  · simp only [changedFlow_accumulatedAmount, calculateNewAccumulatedAmount]; omega

/-- Events the records can take in block order: every record banked, no event
before a record's checkpoint, timestamps that never go back, and rates of zero
or more. -/
structure InOrder (flows : List Flow) (events : List (FlowUpdated × Int)) : Prop where
  banked : ∀ flow ∈ flows, Banked flow
  behind : ∀ flow ∈ flows, ∀ step ∈ events, flow.lastTimestamp ≤ step.2
  sorted : events.Pairwise fun earlier later => earlier.2 ≤ later.2
  rates : ∀ step ∈ events, 0 ≤ step.1.flowRate

theorem inOrder_nil (events : List (FlowUpdated × Int))
    (sorted : events.Pairwise fun earlier later => earlier.2 ≤ later.2)
    (rates : ∀ step ∈ events, 0 ≤ step.1.flowRate) : InOrder [] events :=
  ⟨fun _ member => absurd member (List.not_mem_nil _),
    fun _ member => absurd member (List.not_mem_nil _), sorted, rates⟩

/-- Handling the first event leaves records the rest can take in order: each is
an old one, or was banked or created at the event's time. -/
theorem InOrder.step {state : AppState} {event : FlowUpdated} {t : Int}
    {rest : List (FlowUpdated × Int)} (inOrder : InOrder state.flows ((event, t) :: rest)) :
    InOrder (updateFlows state event t) rest := by
  obtain ⟨banked, behind, sorted, rates⟩ := inOrder
  have first := List.pairwise_cons.mp sorted
  have rate := rates _ (List.mem_cons_self _ _)
  have kept : ∀ flow ∈ updateFlows state event t,
      Banked flow ∧ (flow ∈ state.flows ∨ flow.lastTimestamp = t) := by
    intro flow member
    rcases mem_updateFlows member with old | ⟨old, inOld, rfl⟩ | ⟨rfl, -⟩
    · exact ⟨banked flow old, .inl old⟩
    · exact ⟨((banked old inOld).bank rate (behind old inOld _ (List.mem_cons_self _ _))).1,
        .inr (changedFlow_lastTimestamp event t old)⟩
    · exact ⟨⟨le_rfl, rate, le_rfl⟩, .inr rfl⟩
  refine ⟨fun flow member => (kept flow member).1, fun flow member step later => ?_, first.2,
    fun step member => rates step (List.mem_cons_of_mem _ member)⟩
  rcases (kept flow member).2 with old | checkpoint
  · exact behind flow old step (List.mem_cons_of_mem _ later)
  · exact checkpoint ▸ first.1 step later

/-- What a feed in block order keeps holds after any part of it. -/
theorem InOrder.replay {state : AppState} {events more : List (FlowUpdated × Int)}
    (inOrder : InOrder state.flows (events ++ more)) :
    InOrder (replayFlows state events).flows more := by
  induction events generalizing state with
  | nil => exact inOrder
  | cons head rest induction =>
      obtain ⟨event, t⟩ := head
      exact @induction { state with flows := updateFlows state event t } inOrder.step

/-- Over a feed in block order every record keeps its position, and neither its
banked amount nor its checkpoint ever moves back. -/
theorem InOrder.grows {state : AppState} {events : List (FlowUpdated × Int)}
    (inOrder : InOrder state.flows events) {index : Nat} {flow : Flow}
    (present : state.flows[index]? = some flow) :
    ∃ later, (replayFlows state events).flows[index]? = some later ∧
      flow.accumulatedAmount ≤ later.accumulatedAmount ∧
      flow.lastTimestamp ≤ later.lastTimestamp := by
  induction events generalizing state flow with
  | nil => exact ⟨flow, present, le_rfl, le_rfl⟩
  | cons head rest induction =>
      obtain ⟨event, t⟩ := head
      have next := @induction { state with flows := updateFlows state event t } inOrder.step
      rcases getElem?_updateFlows state event t present with same | ⟨-, changed⟩
      · exact next same
      · have member := List.getElem?_mem present
        have checkpoint := inOrder.behind flow member _ (List.mem_cons_self _ _)
        have banked := ((inOrder.banked flow member).bank
          (inOrder.rates _ (List.mem_cons_self _ _)) checkpoint).2
        obtain ⟨later, found, amount, moved⟩ := next changed
        exact ⟨later, found, banked.trans amount,
          checkpoint.trans (by simpa only [changedFlow_lastTimestamp] using moved)⟩

/-- Over a feed in block order whose events carry rates of zero or more, handled
from no flows: at every point of the feed each record has banked zero or more,
at a rate of zero or more, since a creation no later than its last checkpoint;
and no later event moves its banked amount or its checkpoint back. -/
theorem banking_never_goes_back (agentAddress : Address) (superTokens : List SuperToken)
    (before after : List (FlowUpdated × Int))
    (sorted : (before ++ after).Pairwise fun earlier later => earlier.2 ≤ later.2)
    (rates : ∀ step ∈ before ++ after, 0 ≤ step.1.flowRate) :
    (∀ flow ∈ (replayFlows ⟨agentAddress, superTokens, []⟩ before).flows, Banked flow) ∧
    ∀ (index : Nat) (flow : Flow),
      (replayFlows ⟨agentAddress, superTokens, []⟩ before).flows[index]? = some flow →
      ∃ later, (replayFlows ⟨agentAddress, superTokens, []⟩ (before ++ after)).flows[index]? =
          some later ∧
        flow.accumulatedAmount ≤ later.accumulatedAmount ∧
        flow.lastTimestamp ≤ later.lastTimestamp := by
  have middle : InOrder (replayFlows ⟨agentAddress, superTokens, []⟩ before).flows after :=
    InOrder.replay (inOrder_nil _ sorted rates)
  refine ⟨middle.banked, fun index flow present => ?_⟩
  rw [replayFlows_append]
  exact middle.grows present

theorem banking_never_goes_back_after_slowing :
    let before : List (FlowUpdated × Int) := [(⟨⟨1⟩, ⟨0⟩, ⟨2⟩, 10, -10, 10⟩, 0)]
    let after : List (FlowUpdated × Int) :=
      [(⟨⟨1⟩, ⟨0⟩, ⟨2⟩, 5, -5, 5⟩, 20), (⟨⟨1⟩, ⟨0⟩, ⟨2⟩, 0, 0, 0⟩, 50)]
    ((before ++ after).Pairwise fun earlier later => earlier.2 ≤ later.2) ∧
      (∀ step ∈ before ++ after, 0 ≤ step.1.flowRate) ∧
      (∀ flow ∈ (replayFlows ⟨⟨0⟩, [], []⟩ before).flows, Banked flow) ∧
      ∀ (index : Nat) (flow : Flow), (replayFlows ⟨⟨0⟩, [], []⟩ before).flows[index]? = some flow →
        ∃ later, (replayFlows ⟨⟨0⟩, [], []⟩ (before ++ after)).flows[index]? = some later ∧
          flow.accumulatedAmount ≤ later.accumulatedAmount ∧
          flow.lastTimestamp ≤ later.lastTimestamp := by
  intro before after
  have sorted : (before ++ after).Pairwise fun earlier later => earlier.2 ≤ later.2 := by decide
  have rates : ∀ step ∈ before ++ after, 0 ≤ step.1.flowRate := by decide
  exact ⟨sorted, rates, banking_never_goes_back ⟨0⟩ [] before after sorted rates⟩

/-- Opened at rate ten, slowed to five at twenty and closed at fifty, the record
has banked two hundred and then a hundred and fifty more. -/
example : (replayFlows ⟨⟨0⟩, [], []⟩ [(⟨⟨1⟩, ⟨0⟩, ⟨2⟩, 10, -10, 10⟩, 0),
    (⟨⟨1⟩, ⟨0⟩, ⟨2⟩, 5, -5, 5⟩, 20), (⟨⟨1⟩, ⟨0⟩, ⟨2⟩, 0, 0, 0⟩, 50)]).flows.map
      (fun flow => (flow.isCancelled, flow.accumulatedAmount, flow.lastTimestamp)) =
    [(true, 350, 50)] := rfl

/-! ## Re-delivered and stale events -/

/-- Applying a branch twice at one timestamp is applying it once: the second
banks nothing, over no elapsed time. -/
@[simp] theorem changedFlow_changedFlow (event : FlowUpdated) (t : Int) (flow : Flow) :
    changedFlow event t (changedFlow event t flow) = changedFlow event t flow := by
  unfold changedFlow
  split <;> simp [updatedFlow, deletedFlow, calculateNewAccumulatedAmount]

/-- A later step leaves the first record an event matches the first: no branch changes
what `isFlowEqual` reads of a record, and a new record goes last. -/
theorem findIdx?_updateFlows {state : AppState} {event : FlowUpdated} {flowIndex : Nat}
    (found : state.flows.findIdx? (isFlowEqual · event) = some flowIndex) (other : FlowUpdated)
    (t : Int) : (updateFlows state other t).findIdx? (isFlowEqual · event) = some flowIndex := by
  cases matched : state.flows.findIdx? (isFlowEqual · other) with
  | none => simp [updateFlows_of_none t matched, found]
  | some otherIndex =>
      rw [updateFlows_of_some t matched]
      exact (findIdx?_modify_of_comp (changedFlow_isFlowEqual other event t) otherIndex
        state.flows 0).trans found

/-- After a step, the first record the event matches is one its branch leaves as it is,
unless the event found no record and carried rate zero. -/
theorem updateFlows_first_match_fixed (state : AppState) (event : FlowUpdated) (t : Int)
    (applied : 0 < event.flowRate ∨ ∃ flow ∈ state.flows, isFlowEqual flow event = true) :
    ∃ flowIndex flow, (updateFlows state event t).findIdx? (isFlowEqual · event) = some flowIndex ∧
      (updateFlows state event t)[flowIndex]? = some flow ∧ changedFlow event t flow = flow := by
  cases found : state.flows.findIdx? (isFlowEqual · event) with
  | none =>
      -- the create branch ran, with a positive rate: updating the new record at once
      -- banks nothing
      have unmatched := List.findIdx?_eq_none_iff.mp found
      have positive : 0 < event.flowRate := by
        rcases applied with positive | ⟨flow, member, matched⟩
        · exact positive
        · simp [unmatched flow member] at matched
      rw [updateFlows_of_none t found]
      refine ⟨state.flows.length, createdFlow event (addressesEqual event.receiver
        state.agentAddress) t, findIdx?_append_singleton found
        (isFlowEqual_createdFlow event _ t), by simp, ?_⟩
      simp [changedFlow, positive, updatedFlow, createdFlow, calculateNewAccumulatedAmount]
  | some flowIndex =>
      -- the update or delete branch ran on the first match, which stays first
      obtain ⟨within, -, -⟩ := List.findIdx?_eq_some_iff_getElem.mp found
      refine ⟨flowIndex, changedFlow event t state.flows[flowIndex], findIdx?_updateFlows found event t,
        ?_, changedFlow_changedFlow event t _⟩
      simp [updateFlows_of_some t found, List.getElem?_eq_getElem within]

theorem findIdx?_replayFlows {state : AppState} {event : FlowUpdated} {flowIndex : Nat}
    (found : state.flows.findIdx? (isFlowEqual · event) = some flowIndex)
    (events : List (FlowUpdated × Int)) :
    (replayFlows state events).flows.findIdx? (isFlowEqual · event) = some flowIndex := by
  induction events generalizing state with
  | nil => exact found
  | cons head rest induction =>
      obtain ⟨other, t⟩ := head
      exact induction (findIdx?_updateFlows found other t)

/-- `updateFlows` keeps no staleness guard: an event older than the record it
matches is banked like any other and moves the checkpoint back. Re-delivering the
event last applied to a record, after any later events that leave that record
alone, changes nothing, unless the event found no record and carried rate zero. -/
theorem updateFlows_redelivery_and_stale_events (state : AppState) (event : FlowUpdated)
    (t : Int) :
    (∀ rest : List (FlowUpdated × Int),
      (0 < event.flowRate ∨ ∃ flow ∈ state.flows, isFlowEqual flow event = true) →
      (∀ flowIndex flow,
        (updateFlows state event t).findIdx? (isFlowEqual · event) = some flowIndex →
        (updateFlows state event t)[flowIndex]? = some flow →
        ∀ step ∈ rest, isFlowEqual flow step.1 = false) →
      updateFlows (replayFlows { state with flows := updateFlows state event t } rest) event t =
        (replayFlows { state with flows := updateFlows state event t } rest).flows) ∧
    ∀ flowIndex flow, state.flows.findIdx? (isFlowEqual · event) = some flowIndex →
      state.flows[flowIndex]? = some flow → t < flow.lastTimestamp →
      ∃ banked, (updateFlows state event t)[flowIndex]? = some banked ∧
        banked.accumulatedAmount =
          flow.accumulatedAmount + flow.flowRate * (t - flow.lastTimestamp) ∧
        banked.lastTimestamp = t ∧ updateFlows state event t ≠ state.flows := by
  refine ⟨fun rest applied alone => ?_, fun flowIndex flow found present stale => ?_⟩
  · -- the record the event was applied to is still first, as it was, and fixed by the branch
    obtain ⟨flowIndex, flow, found, present, fixed⟩ :=
      updateFlows_first_match_fixed state event t applied
    obtain ⟨later, laterPresent, -, -, -, frame⟩ :=
      getElem?_replayFlows { state with flows := updateFlows state event t } rest present
    rw [frame (alone flowIndex flow found present)] at laterPresent
    rw [updateFlows_of_some t (findIdx?_replayFlows found rest),
      modify_eq_self_of_fixed laterPresent fixed]
  have banked : (updateFlows state event t)[flowIndex]? = some (changedFlow event t flow) := by
    rw [updateFlows_of_some t found, List.getElem?_modify_eq, present]; rfl
  refine ⟨_, banked, by simp [calculateNewAccumulatedAmount], by simp, fun unchanged => ?_⟩
  rw [unchanged, present, Option.some.injEq] at banked
  have := congrArg Flow.lastTimestamp banked
  simp only [changedFlow_lastTimestamp] at this
  omega

/-- A stream's opening, re-delivered after another stream of the agent opened, changes
nothing. -/
example :
    let opening : FlowUpdated := ⟨⟨1⟩, ⟨0⟩, ⟨2⟩, 10, -10, 10⟩
    let later := replayFlows ⟨⟨0⟩, [], []⟩ [(opening, 0), (⟨⟨1⟩, ⟨0⟩, ⟨3⟩, 5, -15, 5⟩, 10)]
    updateFlows later opening 0 = later.flows := by
  decide

/-- An update older than the record's checkpoint is not discarded. -/
theorem stale_update_is_banked :
    let state : AppState := ⟨⟨0⟩, [], [⟨false, false, ⟨2⟩, ⟨1⟩, 500, 0, 50, 5⟩]⟩
    updateFlows state ⟨⟨1⟩, ⟨0⟩, ⟨2⟩, 7, -7, 7⟩ 40 = [⟨false, false, ⟨2⟩, ⟨1⟩, 450, 0, 40, 7⟩] ∧
      updateFlows state ⟨⟨1⟩, ⟨0⟩, ⟨2⟩, 7, -7, 7⟩ 40 ≠ state.flows := by
  decide

end SuperfluidAragon
