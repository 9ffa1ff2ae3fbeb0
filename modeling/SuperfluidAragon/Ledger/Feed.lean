import SuperfluidAragon.Ledger.History
import SuperfluidAragon.Store.Registry

/-! A ledger and the store that follows its feed: each operation the ledger
admits emits its event, and the store handles it at the operation's block
time. `Consistent` is what ties the two together after every such run. -/

namespace SuperfluidAragon

open Ledger

structure World where
  ledger : Ledger
  history : List (Int × Operation)
  app : AppState

namespace World

def initial (agentAddress : Address) : World :=
  ⟨Ledger.empty, [], ⟨agentAddress, [], []⟩⟩

/-- The ledger executes `operation` in a block at `t`, and the store handles the
event it emits, the chain answering `balance` and `metadata`. -/
def step (world : World) (t : Int) (operation : Operation) (balance : Int)
    (metadata : TokenMetadata) : World :=
  let after := (world.ledger.settle world.app.agentAddress t).execute operation
  { ledger := after
    history := world.history ++ [(t, operation)]
    app := match operation.event after with
      | .flowUpdated event => handleFlowUpdated world.app event ⟨t, balance, metadata⟩
      | .vault event => handleVaultEvent world.app event ⟨t, balance, metadata⟩
      | .setAgent _ => world.app }

end World

/-- The worlds a complete, in-order feed reaches: operations the flow agreement
admits, at block times that never go back, whatever the chain answers. -/
inductive Reachable (agentAddress : Address) : World → Prop
  | initial : Reachable agentAddress (World.initial agentAddress)
  | step {world : World} {t : Int} {operation : Operation} (balance : Int)
      (metadata : TokenMetadata) :
      Reachable agentAddress world → world.ledger.time ≤ t →
      world.ledger.Admissible operation →
      Reachable agentAddress (world.step t operation balance metadata)

namespace World

variable (world : World) (t : Int) (balance : Int) (metadata : TokenMetadata)

@[simp] theorem step_ledger (operation : Operation) :
    (world.step t operation balance metadata).ledger =
      (world.ledger.settle world.app.agentAddress t).execute operation := rfl

@[simp] theorem step_history (operation : Operation) :
    (world.step t operation balance metadata).history = world.history ++ [(t, operation)] := rfl

theorem step_app_of_flow {operation : Operation} {flow : FlowId}
    (about : operation.flow? = some flow) :
    (world.step t operation balance metadata).app =
      handleFlowUpdated world.app
        (((world.ledger.settle world.app.agentAddress t).execute operation).flowUpdated flow)
        ⟨t, balance, metadata⟩ := by
  cases operation <;> simp_all [Operation.flow?, step, Operation.event]

theorem step_app_transfer (token : Address) (amount : Int) :
    (world.step t (.transfer token amount) balance metadata).app =
      handleVaultEvent world.app ⟨token⟩ ⟨t, balance, metadata⟩ := rfl

@[simp] theorem step_agentAddress (operation : Operation) :
    (world.step t operation balance metadata).app.agentAddress = world.app.agentAddress := by
  cases operation <;> simp [step, Operation.event]

theorem step_of_flow {operation : Operation} {flow : FlowId} (about : operation.flow? = some flow) :
    world.step t operation balance metadata =
      ⟨(world.ledger.settle world.app.agentAddress t).execute operation,
        world.history ++ [(t, operation)],
        handleFlowUpdated world.app
          (((world.ledger.settle world.app.agentAddress t).execute operation).flowUpdated flow)
          ⟨t, balance, metadata⟩⟩ := by
  cases operation <;> cases about <;> rfl

end World

/-! ## What ties the store to the ledger -/

/-- How the record of `flow` follows the ledger: open exactly while the stream
runs and was never deleted, then at the ledger's rate; there only once the
stream was opened; and showing what was streamed unless the stream was created
again after a deletion. -/
structure RecordTracks (ledger : Ledger) (history : List (Int × Operation)) (flow : FlowId)
    (record : Flow) : Prop where
  openIff : record.isCancelled = false ↔ 0 < ledger.rate flow ∧ deleted history flow = false
  rateOfOpen : record.isCancelled = false → record.flowRate = ledger.rate flow
  opened : 0 < ledger.rate flow ∨ deleted history flow = true
  totals : recreated flow history = false → ∀ t, record.totalSoFar t = streamed history flow t

/-- A flow the store has no record of: never opened, so nothing streamed. -/
structure Untouched (ledger : Ledger) (history : List (Int × Operation)) (flow : FlowId) :
    Prop where
  closed : ledger.rate flow = 0
  neverDeleted : deleted history flow = false
  nothingStreamed : ∀ t, streamed history flow t = 0

/-- What holds of every world a complete, in-order feed reaches. -/
structure Consistent (world : World) : Prop where
  history : HistoryTracks world.ledger world.history
  keyed : Keyed world.app
  registry : RegistryConsistent world.app
  recordTracks : ∀ record ∈ world.app.flows,
    RecordTracks world.ledger world.history (record.identity world.app.agentAddress) record
  unrecorded : ∀ flow, involves world.app.agentAddress flow →
    flow ∉ world.app.flows.map (Flow.identity world.app.agentAddress) →
    Untouched world.ledger world.history flow
  netFlows : ∀ token ∈ world.app.superTokens,
    token.netFlow = netFlowOf world.ledger.flows token.address world.app.agentAddress
  tokensListed : ∀ entry ∈ world.ledger.flows, involves world.app.agentAddress entry.1 →
    entry.1.token ∈ world.app.superTokens.map SuperToken.address

theorem consistent_initial (agentAddress : Address) : Consistent (World.initial agentAddress) where
  history := historyTracks_empty
  keyed := ⟨List.nodup_nil, fun _ member => absurd member (List.not_mem_nil _)⟩
  registry := registryConsistent_empty agentAddress
  recordTracks _ member := absurd member (List.not_mem_nil _)
  unrecorded _ _ _ := ⟨rfl, rfl, fun t => by simp [streamed, streamedFrom, World.initial]⟩
  netFlows _ member := absurd member (List.not_mem_nil _)
  tokensListed _ member := absurd member (List.not_mem_nil _)

/-- The total an open record shows once its branch has run at `t`: what it
showed at `t`, then the event's rate from `t` on. -/
theorem totalSoFar_changedFlow (event : FlowUpdated) (t t' : Int) {record : Flow}
    (isOpen : record.isCancelled = false) (nonneg : 0 ≤ event.flowRate) :
    (changedFlow event t record).totalSoFar t' = record.totalSoFar t + event.flowRate * (t' - t) := by
  unfold changedFlow
  split
  · simp only [Flow.totalSoFar, updatedFlow_isCancelled, isOpen, updatedFlow_accumulatedAmount,
      updatedFlow_flowRate, updatedFlow_lastTimestamp, calculateNewAccumulatedAmount]
    simp
  · have stopped : event.flowRate = 0 := by omega
    simp [Flow.totalSoFar, isOpen, calculateNewAccumulatedAmount, stopped]

theorem RecordTracks.deleted_of_cancelled {ledger : Ledger} {history : List (Int × Operation)}
    {flow : FlowId} {record : Flow} (tracks : RecordTracks ledger history flow record)
    (cancelled : record.isCancelled = true) : deleted history flow = true := by
  rcases tracks.opened with positive | deletedBefore
  · by_contra notDeleted
    have := tracks.openIff.mpr ⟨positive, by simpa using notDeleted⟩
    simp [cancelled] at this
  · exact deletedBefore

section Tracking

variable {ledger : Ledger} {history : List (Int × Operation)}
  (historyTracks : HistoryTracks ledger history) {operation : Operation}
  (admissible : ledger.Admissible operation) (agentAddress : Address) (t : Int) {flow : FlowId}
include historyTracks admissible

/-- A record's tracking is kept by an operation on another flow. -/
theorem RecordTracks.frame {record : Flow} (tracks : RecordTracks ledger history flow record)
    (other : operation.flow? ≠ some flow) :
    RecordTracks ((ledger.settle agentAddress t).execute operation)
      (history ++ [(t, operation)]) flow record := by
  have rate := historyTracks.rate_step_of_ne admissible agentAddress t other
  refine ⟨?_, ?_, ?_, ?_⟩ <;>
    simp only [rate, deleted_append_of_ne other, recreated_append_of_ne other,
      streamed_append_of_ne other]
  exacts [tracks.openIff, tracks.rateOfOpen, tracks.opened, tracks.totals]

theorem Untouched.frame (untouched : Untouched ledger history flow)
    (other : operation.flow? ≠ some flow) :
    Untouched ((ledger.settle agentAddress t).execute operation) (history ++ [(t, operation)]) flow :=
  ⟨by rw [historyTracks.rate_step_of_ne admissible agentAddress t other]; exact untouched.closed,
    by rw [deleted_append_of_ne other]; exact untouched.neverDeleted,
    fun t' => by rw [streamed_append_of_ne other]; exact untouched.nothingStreamed t'⟩

/-- The record of the operated flow, rewritten by its branch, keeps tracking
the flow: an open record banks up to the block and takes the new rate or is
cancelled; a cancelled one stays cancelled, its flow deleted before. -/
theorem RecordTracks.step_own {record : Flow} (tracks : RecordTracks ledger history flow record)
    (about : operation.flow? = some flow) :
    RecordTracks ((ledger.settle agentAddress t).execute operation) (history ++ [(t, operation)])
      flow (changedFlow (((ledger.settle agentAddress t).execute operation).flowUpdated flow) t
        record) := by
  have rate := historyTracks.rate_step admissible agentAddress t flow
  cases cancelled : record.isCancelled
  · obtain ⟨positive, notDeleted⟩ := tracks.openIff.mp cancelled
    have nonneg := (historyTracks.step admissible agentAddress t).wellFormed.rate_nonneg flow
    have totals : recreated flow (history ++ [(t, operation)]) = false → ∀ t',
        (changedFlow (((ledger.settle agentAddress t).execute operation).flowUpdated flow) t
          record).totalSoFar t' = streamed (history ++ [(t, operation)]) flow t' := by
      intro notRecreated t'
      rw [recreated_append, notDeleted, Bool.false_and, Bool.or_false] at notRecreated
      rw [totalSoFar_changedFlow _ _ _ cancelled nonneg,
        historyTracks.streamed_step admissible agentAddress t,
        tracks.totals notRecreated t, flowUpdated_flowRate]
    cases operation with
    | create target flowRate =>
        cases about
        exact absurd admissible.2.1 (by omega)
    | update target flowRate =>
        cases about
        have positiveNew : 0 < flowRate := admissible.2
        simp only [Operation.rateAfter, if_true] at rate
        refine ⟨?_, fun _ => ?_, .inl (by rw [rate]; exact positiveNew), totals⟩
        · simp [rate, cancelled, deleted_append, notDeleted, Int.not_le.mpr positiveNew, positiveNew]
        · simp [rate, positiveNew]
    | delete target =>
        cases about
        simp only [Operation.rateAfter, if_true] at rate
        refine ⟨?_, fun isOpen => ?_, .inr (by simp [deleted_append]), totals⟩
        · simp [rate]
        · simp [rate] at isOpen
    | transfer _ _ => cases about
  · have deletedBefore := tracks.deleted_of_cancelled cancelled
    have recreatedAfter := historyTracks.recreated_step admissible t about deletedBefore
    have deletedAfter : deleted (history ++ [(t, operation)]) flow = true := by
      simp [deleted_append, deletedBefore]
    refine ⟨?_, fun isOpen => ?_, .inr deletedAfter, fun notRecreated => ?_⟩
    · simp [cancelled, deletedAfter]
    · simp [cancelled] at isOpen
    · simp [recreatedAfter] at notRecreated

/-- The record created for a flow the store had no record of tracks it. -/
theorem Untouched.created (untouched : Untouched ledger history flow)
    (about : operation.flow? = some flow) (isIncoming : Bool) :
    RecordTracks ((ledger.settle agentAddress t).execute operation) (history ++ [(t, operation)])
      flow (createdFlow (((ledger.settle agentAddress t).execute operation).flowUpdated flow)
        isIncoming t) := by
  obtain ⟨flowRate, rfl, positive⟩ :=
    HistoryTracks.create_of_closed admissible about untouched.closed
  have rate := historyTracks.rate_step admissible agentAddress t flow
  simp only [Operation.rateAfter, if_true] at rate
  have deletedAfter : deleted (history ++ [(t, .create flow flowRate)]) flow = false := by
    simp [deleted_append, untouched.neverDeleted]
  refine ⟨?_, fun _ => ?_, .inl (by rw [rate]; exact positive), fun _ t' => ?_⟩
  · simp [rate, positive, deletedAfter]
  · simp [rate]
  · rw [historyTracks.streamed_step admissible agentAddress t, untouched.nothingStreamed]
    simp [Flow.totalSoFar, rate]

end Tracking

/-! ## Every step keeps the store consistent with the ledger -/

namespace Consistent

variable {world : World} (consistent : Consistent world) {operation : Operation}
  (admissible : world.ledger.Admissible operation) (t balance : Int) (metadata : TokenMetadata)
include consistent admissible

/-- An operation on a stream the agent is not a party of: the store ignores its
event. -/
theorem step_outside {flow : FlowId} (about : operation.flow? = some flow)
    (outside : ¬involves world.app.agentAddress flow) :
    Consistent (world.step t operation balance metadata) := by
  have other : ∀ flow', involves world.app.agentAddress flow' → operation.flow? ≠ some flow' :=
    fun flow' inside same => outside (Option.some.inj (about.symm.trans same) ▸ inside)
  have quiet : ∀ flow', operation.flow? = some flow' → ¬involves world.app.agentAddress flow' :=
    fun flow' hit inside => other flow' inside hit
  rw [World.step_of_flow _ _ _ _ about, handleFlowUpdated_of_not_involved _
    (Bool.eq_false_iff.mpr fun inside => outside ((isAgentSender_eq_true_iff _ _ _).mp inside))]
  refine ⟨consistent.history.step admissible _ t, consistent.keyed, consistent.registry,
    fun record member => (consistent.recordTracks record member).frame consistent.history admissible
      _ t (other _ (involves_identity _ record)),
    fun flow' inside absent => (consistent.unrecorded flow' inside absent).frame consistent.history
      admissible _ t (other flow' inside),
    fun token member => ?_, fun entry member inside => ?_⟩
  · rw [consistent.netFlows token member]
    exact (netFlowOf_step_of_quiet quiet t token.address).symm
  · rw [execute_settle_flows] at member
    rcases mem_execute_flows member with old | hit
    · obtain ⟨known, inFlows, same⟩ := List.mem_map.mp old
      exact same ▸ consistent.tokensListed known inFlows (same ▸ inside)
    · exact absurd hit (other _ inside)

/-- A vault deposit or withdrawal: the store refreshes the token's entry. -/
theorem step_transfer (about : operation.flow? = none) :
    Consistent (world.step t operation balance metadata) := by
  cases operation with
  | transfer token amount =>
      have other : ∀ flow, (Operation.transfer token amount).flow? ≠ some flow :=
        fun _ hit => by cases hit
      have distinct := consistent.registry.addressesDistinct
      refine ⟨consistent.history.step admissible _ t, ⟨consistent.keyed.1, consistent.keyed.2⟩,
        (consistent.registry.reduce (show SuperfluidAragon.reduce (some world.app)
          (.vault ⟨token⟩) ⟨t, balance, metadata⟩ = some _ from rfl)).1,
        fun record member => (consistent.recordTracks record member).frame consistent.history
          admissible _ t (other _),
        fun flow inside absent => (consistent.unrecorded flow inside absent).frame
          consistent.history admissible _ t (other flow),
        fun entry member => ?_, fun entry member inside => ?_⟩
      · show entry.netFlow = netFlowOf world.ledger.flows entry.address world.app.agentAddress
        rcases mem_updateSuperTokens distinct member with ⟨old, -⟩ | ⟨base, rfl, ⟨old, same⟩ | ⟨absent, rfl⟩⟩
        · exact consistent.netFlows entry old
        · simpa [same] using consistent.netFlows base old
        · have absent : token ∉ world.app.superTokens.map SuperToken.address := absent
          have zero : netFlowOf world.ledger.flows token world.app.agentAddress = 0 :=
            netFlowOf_eq_zero fun entry inFlows inside same =>
              absent (same ▸ consistent.tokensListed entry inFlows inside)
          simpa using zero.symm
      · exact (addresses_prefix_updateSuperTokens _ _ _ _ _).subset
          (consistent.tokensListed entry member inside)
  | _ => cases about

/-- An operation on one of the agent's streams: the store rewrites or creates
the flow's record and refreshes the token's net flow from the event. -/
theorem step_involved {flow : FlowId} (about : operation.flow? = some flow)
    (inside : involves world.app.agentAddress flow) :
    Consistent (world.step t operation balance metadata) := by
  set after := (world.ledger.settle world.app.agentAddress t).execute operation with afterEq
  have regular : (after.flowUpdated flow).Regular world.app.agentAddress :=
    ⟨consistent.history.wellFormed.selfFree admissible about, inside⟩
  have other : ∀ flow', flow' ≠ flow → operation.flow? ≠ some flow' :=
    fun flow' different hit => different (Option.some.inj (hit.symm.trans about))
  have handled : handleFlowUpdated world.app (after.flowUpdated flow) ⟨t, balance, metadata⟩ =
      { world.app with
        superTokens := updateSuperTokens world.app ⟨t, balance, metadata⟩ flow.token t
          (some (netFlowOf after.flows flow.token world.app.agentAddress))
        flows := updateFlows world.app (after.flowUpdated flow) t } := by
    rw [handleFlowUpdated_of_involved _ ((isAgentSender_eq_true_iff world.app.agentAddress flow.sender flow.receiver).mpr inside),
      agentTotal_flowUpdated after inside]
    rfl
  rw [World.step_of_flow _ _ _ _ about, handled]
  have keyed := consistent.keyed.step regular t
  refine ⟨consistent.history.step admissible _ t, ⟨keyed.1, keyed.2⟩,
    (consistent.registry.reduce (show SuperfluidAragon.reduce (some world.app)
      (.flowUpdated (after.flowUpdated flow)) ⟨t, balance, metadata⟩ = some _ from
        congrArg some handled)).1, fun record member => ?_,
    fun flow' inside' absent => ?_, fun entry member => ?_, fun entry member inside' => ?_⟩
  · rcases consistent.keyed.mem_updateFlows regular t member with
      ⟨old, different⟩ | ⟨old, inOld, same, rfl⟩ | ⟨absent, rfl⟩
    · exact (consistent.recordTracks record old).frame consistent.history admissible _ t
        (other _ different)
    · have tracks := consistent.recordTracks old inOld
      rw [same] at tracks
      show RecordTracks after _ ((changedFlow _ t old).identity world.app.agentAddress) _
      rw [changedFlow_identity, same]
      exact tracks.step_own consistent.history admissible _ t about
    · show RecordTracks after _ ((createdFlow _ _ t).identity world.app.agentAddress) _
      rw [(Keyed.createdFlow_identity regular t).1]
      exact (consistent.unrecorded flow inside absent).created consistent.history admissible _ t
        about _
  · have unknown := (consistent.keyed.mem_identities_updateFlows regular t flow').not.mp absent
    rw [not_or] at unknown
    exact (consistent.unrecorded flow' inside' unknown.1).frame consistent.history admissible _ t
      (other _ unknown.2)
  · rcases mem_updateSuperTokens consistent.registry.addressesDistinct member with
      ⟨old, different⟩ | ⟨base, rfl, -⟩
    · show entry.netFlow = netFlowOf after.flows entry.address world.app.agentAddress
      rw [consistent.netFlows entry old, afterEq, execute_settle_flows, netFlowOf_execute
        fun flow' hit value => contribution_of_token_ne
          (Option.some.inj (hit.symm.trans about) ▸ Ne.symm different) _ value]
    · simp [afterEq]
  · rw [execute_settle_flows] at member
    rcases mem_execute_flows member with old | hit
    · obtain ⟨known, inFlows, same⟩ := List.mem_map.mp old
      exact (addresses_prefix_updateSuperTokens _ _ _ _ _).subset
        (same ▸ consistent.tokensListed known inFlows (same ▸ inside'))
    · rw [Option.some.inj (hit.symm.trans about)]
      exact mem_updateSuperTokens_addresses _ _ _ _ _

/-- Every admitted operation, its event handled by the store, keeps the store
consistent with the ledger. -/
theorem step : Consistent (world.step t operation balance metadata) := by
  cases about : operation.flow? with
  | none => exact consistent.step_transfer admissible t balance metadata about
  | some flow =>
      by_cases inside : involves world.app.agentAddress flow
      · exact consistent.step_involved admissible t balance metadata about inside
      · exact consistent.step_outside admissible t balance metadata about inside

end Consistent

/-- Every world a complete, in-order feed reaches is consistent, for the
store's agent. -/
theorem Reachable.consistent {agentAddress : Address} {world : World}
    (reachable : Reachable agentAddress world) :
    Consistent world ∧ world.app.agentAddress = agentAddress := by
  induction reachable with
  | initial => exact ⟨consistent_initial agentAddress, rfl⟩
  | step balance metadata _ _ admissible induction =>
      exact ⟨induction.1.step admissible _ balance metadata, by simp [induction.2]⟩

end SuperfluidAragon
