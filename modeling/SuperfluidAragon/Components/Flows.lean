import SuperfluidAragon.Store.Types

/-! What the Flows list and the UpdateFlow panel read of the store: the total a
row shows, the token details it looks up, and the open flow that a new stream
to the same recipient would add to. -/

namespace SuperfluidAragon

/-- The total a Flows row shows at time `t`: the banked amount of a cancelled
flow (`TotalSoFar`), and for an open one the amount `DynamicFlowAmount`
projects from the record's checkpoint. Modelled from the spec for
`DynamicFlowAmount`, which is not among the sources (§4.4). -/
def Flow.totalSoFar (flow : Flow) (t : Int) : Int :=
  if flow.isCancelled then flow.accumulatedAmount
  else flow.accumulatedAmount + flow.flowRate * (t - flow.lastTimestamp)

/-- `tokenDetails` of the Flows view read at one address: the decimals and
symbol of the token entry with that (checksummed) address, the last such entry
winning as in the `reduce` that builds the table. -/
def tokenDetails (tokens : List SuperToken) (address : Address) : Option (Nat × String) :=
  (tokens.reverse.find? fun token => addressesEqual token.address address).map
    fun token => (token.decimals, token.symbol)

/-- `existingFlow` of the UpdateFlow panel: outside an update of a given flow,
the first open outgoing record to `recipient` in `token`. -/
def existingFlow (flows : List Flow) (isFlowUpdateOperation : Bool)
    (recipient token : Address) : Option Flow :=
  if isFlowUpdateOperation then none
  else flows.find? fun flow =>
    !flow.isCancelled && !flow.isIncoming && addressesEqual flow.entity recipient &&
      addressesEqual flow.superTokenAddress token

theorem tokenDetails_isSome_iff (tokens : List SuperToken) (address : Address) :
    (tokenDetails tokens address).isSome ↔ ∃ token ∈ tokens, token.address = address := by
  simp [tokenDetails, List.find?_isSome]

theorem existingFlow_spec {flows : List Flow} {isFlowUpdateOperation : Bool}
    {recipient token : Address} {found : Flow}
    (lookup : existingFlow flows isFlowUpdateOperation recipient token = some found) :
    found ∈ flows ∧ found.isCancelled = false ∧ found.isIncoming = false ∧
      found.entity = recipient ∧ found.superTokenAddress = token := by
  unfold existingFlow at lookup
  split at lookup
  · cases lookup
  · have selected := List.find?_some lookup
    simp only [Bool.and_eq_true, Bool.not_eq_true', addressesEqual_iff] at selected
    exact ⟨List.mem_of_find?_eq_some lookup, selected.1.1.1, selected.1.1.2, selected.1.2,
      selected.2⟩

theorem existingFlow_isSome {flows : List Flow} {recipient token : Address} {record : Flow}
    (member : record ∈ flows) (isOpen : record.isCancelled = false)
    (outgoing : record.isIncoming = false) (entity : record.entity = recipient)
    (sameToken : record.superTokenAddress = token) :
    (existingFlow flows false recipient token).isSome := by
  simp only [existingFlow, Bool.false_eq_true, if_false]
  exact List.find?_isSome.mpr ⟨record, member, by simp [isOpen, outgoing, entity, sameToken]⟩

/-! ## The order of the rows -/

/-- `compareDesc` of date-fns: positive when the first date is before the second, negative
when it is after, zero when they are the same instant. -/
def compareDesc (dateLeft dateRight : Int) : Int :=
  if dateLeft < dateRight then 1 else if dateRight < dateLeft then -1 else 0

/-- The comparison `sortedFlows` hands to `sort`: open flows before cancelled ones, two
cancelled flows tied, two open ones by creation date, newest first. A record's
`creationDate` is its `creationTimestamp` as a date (the mapping is not among the
sources), so the two compare alike. -/
def compareFlows (left right : Flow) : Int :=
  if !left.isCancelled && right.isCancelled then -1
  else if left.isCancelled && !right.isCancelled then 1
  else if left.isCancelled && right.isCancelled then 0
  else compareDesc left.creationTimestamp right.creationTimestamp

/-- `filteredFlows.sort(...)` with `compareFlows`. `Array.prototype.sort` is stable, and
for a consistent comparison (`compareFlows_nonpos_iff`) its result is the stable sort by
`compareFlows left right ≤ 0`, which `List.mergeSort` computes. -/
def sortedFlows (filteredFlows : List Flow) : List Flow :=
  filteredFlows.mergeSort fun left right => compareFlows left right ≤ 0

theorem compareDesc_nonpos_iff (dateLeft dateRight : Int) :
    compareDesc dateLeft dateRight ≤ 0 ↔ dateRight ≤ dateLeft := by
  unfold compareDesc
  split_ifs <;> omega

/-- The comparison is a total preorder: `left` may come first exactly when it is not a
cancelled flow before an open one, nor an open flow created before another open one. -/
theorem compareFlows_nonpos_iff (left right : Flow) :
    compareFlows left right ≤ 0 ↔
      (left.isCancelled = true → right.isCancelled = true) ∧
        (left.isCancelled = false → right.isCancelled = false →
          right.creationTimestamp ≤ left.creationTimestamp) := by
  unfold compareFlows
  cases left.isCancelled <;> cases right.isCancelled <;> simp [compareDesc_nonpos_iff]

/-- Swapping the flows negates the comparison, as `sort` requires of a consistent one. -/
theorem compareFlows_swap (left right : Flow) :
    compareFlows right left = -compareFlows left right := by
  unfold compareFlows compareDesc
  cases left.isCancelled <;> cases right.isCancelled <;> simp
  -- two open flows: `compareDesc` is antisymmetric
  split_ifs <;> omega

theorem compareFlows_trans (first second third : Flow) :
    decide (compareFlows first second ≤ 0) = true → decide (compareFlows second third ≤ 0) = true →
      decide (compareFlows first third ≤ 0) = true := by
  simp only [decide_eq_true_eq, compareFlows_nonpos_iff]
  cases first.isCancelled <;> cases second.isCancelled <;> cases third.isCancelled <;> simp
  -- three open flows: creation dates never increase along the chain
  omega

theorem compareFlows_total (left right : Flow) :
    (decide (compareFlows left right ≤ 0) || decide (compareFlows right left ≤ 0)) = true := by
  simp only [Bool.or_eq_true, decide_eq_true_eq, compareFlows_nonpos_iff]
  cases left.isCancelled <;> cases right.isCancelled <;> simp
  -- two open flows: one was created no later than the other
  omega

/-- The Flows view lists each of the filtered flows once: every open flow before every
cancelled one, the open flows from the newest creation date to the oldest, and two rows the
comparison ties (two cancelled flows, or two open ones created at the same time) in the
order they came in. -/
theorem sortedFlows_order (filteredFlows : List Flow) :
    (sortedFlows filteredFlows).Perm filteredFlows ∧
      (∀ left right, [left, right].Sublist (sortedFlows filteredFlows) →
        (left.isCancelled = true → right.isCancelled = true) ∧
          (left.isCancelled = false → right.isCancelled = false →
            right.creationTimestamp ≤ left.creationTimestamp)) ∧
      ∀ left right, [left, right].Sublist filteredFlows →
        (left.isCancelled = true ∧ right.isCancelled = true ∨
          left.isCancelled = false ∧ right.isCancelled = false ∧
            left.creationTimestamp = right.creationTimestamp) →
        [left, right].Sublist (sortedFlows filteredFlows) := by
  refine ⟨List.mergeSort_perm _ _, fun left right pair => ?_, fun left right pair tied => ?_⟩
  · have sorted := List.sorted_mergeSort compareFlows_trans compareFlows_total filteredFlows
    exact (compareFlows_nonpos_iff left right).mp
      (by simpa using List.pairwise_pair.mp (sorted.sublist pair))
  · refine List.pair_sublist_mergeSort compareFlows_trans compareFlows_total ?_ pair
    simp only [decide_eq_true_eq, compareFlows_nonpos_iff]
    rcases tied with ⟨cancelled, cancelled'⟩ | ⟨open', open'', same⟩
    · simp [cancelled, cancelled']
    · simp [open', open'', same]

/-! ## The row menu -/

/-- What the Update action of a row opens the UpdateFlow panel with. The row's
`description`, also passed on, is not part of the store record. -/
structure UpdatePreset where
  presetSuperTokenAddress : Address
  presetRecipient : Address
  presetSender : Address
  presetFlowTypeIndex : Nat
deriving DecidableEq, Repr

/-- The arguments the Delete action of a row passes to `onDeleteFlow`: the token,
the counterparty, whether the agent sends, and whether the connected account is
the counterparty. -/
structure DeleteRequest where
  superTokenAddress : Address
  entity : Address
  isOutgoing : Bool
  isConnectedEntity : Bool
deriving DecidableEq, Repr

/-- The context menu of a row: its Update and Delete actions. -/
structure EntryActions where
  update : UpdatePreset
  delete : DeleteRequest
deriving DecidableEq, Repr

/-- `renderEntryActions` of the Flows view: no menu on a cancelled row, nor on an
incoming row that the connected account does not send. -/
def renderEntryActions (agentAddress connectedAccount : Address) (flow : Flow) :
    Option EntryActions :=
  if flow.isCancelled || (flow.isIncoming && !addressesEqual flow.entity connectedAccount) then
    none
  else
    some
      { update :=
          { presetSuperTokenAddress := flow.superTokenAddress
            presetRecipient := if flow.isIncoming then agentAddress else flow.entity
            presetSender := if flow.isIncoming then flow.entity else agentAddress
            presetFlowTypeIndex := if flow.isIncoming then 0 else 1 }
        delete :=
          { superTokenAddress := flow.superTokenAddress, entity := flow.entity,
            isOutgoing := !flow.isIncoming,
            isConnectedEntity := decide (connectedAccount = flow.entity) } }

/-- The stream an Update preset names: its token, from its sender to its recipient. -/
def UpdatePreset.flow (preset : UpdatePreset) : FlowId :=
  ⟨preset.presetSuperTokenAddress, preset.presetSender, preset.presetRecipient⟩

/-- A row has a menu exactly when it is open and, if incoming, sent by the
connected account. -/
theorem renderEntryActions_isSome_iff (agentAddress connectedAccount : Address) (flow : Flow) :
    (renderEntryActions agentAddress connectedAccount flow).isSome ↔
      flow.isCancelled = false ∧ (flow.isIncoming = true → flow.entity = connectedAccount) := by
  unfold renderEntryActions
  cases flow.isCancelled <;> cases flow.isIncoming <;> simp

/-- The menu of a row acts on the row's own stream: the Update preset names it,
with the agent's side fixed by the row's direction, and Delete names its token
and counterparty, outgoing exactly when the agent sends. -/
theorem renderEntryActions_spec {agentAddress connectedAccount : Address} {flow : Flow}
    {actions : EntryActions}
    (offered : renderEntryActions agentAddress connectedAccount flow = some actions) :
    actions.update.flow = flow.identity agentAddress ∧
      actions.update.presetFlowTypeIndex = (if flow.isIncoming then 0 else 1) ∧
      actions.delete = ⟨flow.superTokenAddress, flow.entity, !flow.isIncoming,
        decide (connectedAccount = flow.entity)⟩ := by
  unfold renderEntryActions at offered
  split at offered
  · cases offered
  · cases offered
    refine ⟨?_, rfl, rfl⟩
    unfold UpdatePreset.flow Flow.identity
    split <;> simp_all

/-- The stream of a row with a menu is sent by the agent or the connected account. -/
theorem renderEntryActions_sender {agentAddress connectedAccount : Address} {flow : Flow}
    {actions : EntryActions}
    (offered : renderEntryActions agentAddress connectedAccount flow = some actions) :
    actions.update.flow.sender = agentAddress ∨ actions.update.flow.sender = connectedAccount := by
  unfold renderEntryActions at offered
  split at offered
  · cases offered
  · cases offered
    cases incoming : flow.isIncoming <;> simp_all [UpdatePreset.flow]

/-- An open row of a stream the agent or the connected account sends has a
menu, when its counterparty is not the agent. -/
theorem renderEntryActions_isSome_of_sender {agentAddress connectedAccount : Address} {flow : Flow}
    (isOpen : flow.isCancelled = false) (notAgent : flow.entity ≠ agentAddress)
    (sender : (flow.identity agentAddress).sender = agentAddress ∨
      (flow.identity agentAddress).sender = connectedAccount) :
    (renderEntryActions agentAddress connectedAccount flow).isSome := by
  refine (renderEntryActions_isSome_iff agentAddress connectedAccount flow).mpr
    ⟨isOpen, fun incoming => ?_⟩
  simp only [Flow.identity, incoming, if_true] at sender
  exact sender.resolve_left notAgent

end SuperfluidAragon
