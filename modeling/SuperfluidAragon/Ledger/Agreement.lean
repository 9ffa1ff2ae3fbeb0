import SuperfluidAragon.Ledger.Feed

/-! What the store shows agrees with the ledger in every world a complete,
in-order feed reaches: the totals of the Flows rows, the open records, and the
net flow of each token. Each holds of the streams that were never deleted and
then created again; for those the store reuses the cancelled record. Last, what
changes when two events of one block are handled in the other order. -/

namespace SuperfluidAragon

open Foundation Ledger

/-- A record whose counterparty is not the agent has the fields its flow
dictates: the flow's token, incoming exactly when the agent receives, and the
other party as counterparty. -/
theorem Flow.fields_of_identity {agentAddress : Address} {record : Flow} {flow : FlowId}
    (same : record.identity agentAddress = flow) (notAgent : record.entity ≠ agentAddress) :
    record.superTokenAddress = flow.token ∧ record.isIncoming = decide (flow.receiver = agentAddress) ∧
      record.entity = if flow.receiver = agentAddress then flow.sender else flow.receiver := by
  subst same
  cases incoming : record.isIncoming <;> simp [Flow.identity, incoming, notAgent]

namespace Consistent

variable {world : World} (consistent : Consistent world)
include consistent

/-- A running stream of the agent has a record. -/
theorem recorded_of_running {flow : FlowId} (inside : involves world.app.agentAddress flow)
    (positive : 0 < world.ledger.rate flow) :
    flow ∈ world.app.flows.map (Flow.identity world.app.agentAddress) := by
  by_contra absent
  have closed := (consistent.unrecorded flow inside absent).closed
  omega

/-- The record of a running stream never deleted and created again is open. -/
theorem open_of_running {record : Flow} (member : record ∈ world.app.flows)
    (positive : 0 < world.ledger.rate (record.identity world.app.agentAddress))
    (notRecreated : recreated (record.identity world.app.agentAddress) world.history = false) :
    record.isCancelled = false := by
  refine (consistent.recordTracks record member).openIff.mpr ⟨positive, ?_⟩
  refine Bool.eq_false_iff.mpr fun deletedBefore => ?_
  simp [consistent.history.reopenedRecreated _ deletedBefore positive] at notRecreated

end Consistent

/-- The totals the Flows view shows for the records of a stream the agent is a
party of add up to the amount streamed on it (for a time from the last block
on, the sum over its rate segments of rate times duration), unless the stream
was deleted and then created again. -/
theorem shown_totals_match_streamed {agentAddress : Address} {world : World}
    (reachable : Reachable agentAddress world) {flow : FlowId} (inside : involves agentAddress flow)
    (notRecreated : recreated flow world.history = false) (t : Int) :
    ((world.app.flows.filter fun record => record.identity agentAddress = flow).map
      (Flow.totalSoFar · t)).sum = streamed world.history flow t := by
  obtain ⟨consistent, agent⟩ := reachable.consistent
  subst agent
  by_cases recorded : flow ∈ world.app.flows.map (Flow.identity world.app.agentAddress)
  · obtain ⟨record, member, rfl⟩ := List.mem_map.mp recorded
    rw [filter_key_eq_singleton consistent.keyed.identitiesDistinct member]
    simpa using (consistent.recordTracks record member).totals notRecreated t
  · rw [List.filter_eq_nil_iff.mpr fun record member same =>
      recorded (List.mem_map.mpr ⟨record, member, of_decide_eq_true same⟩)]
    exact ((consistent.unrecorded flow inside recorded).nothingStreamed t).symm

/-- A feed that opens one stream of the agent. -/
def openedRun : World :=
  (World.initial ⟨0⟩).step 0 (.create ⟨⟨1⟩, ⟨0⟩, ⟨2⟩⟩ 10) 0 ⟨18, "Super DAI", "DAIx"⟩

theorem openedRun_reachable : Reachable ⟨0⟩ openedRun :=
  .step _ _ .initial (by decide) (by decide)

theorem shown_totals_match_streamed_after_opening :
    involves ⟨0⟩ ⟨⟨1⟩, ⟨0⟩, ⟨2⟩⟩ ∧ recreated ⟨⟨1⟩, ⟨0⟩, ⟨2⟩⟩ openedRun.history = false ∧
      ((openedRun.app.flows.filter fun record => record.identity ⟨0⟩ = ⟨⟨1⟩, ⟨0⟩, ⟨2⟩⟩).map
        (Flow.totalSoFar · 30)).sum = streamed openedRun.history ⟨⟨1⟩, ⟨0⟩, ⟨2⟩⟩ 30 :=
  ⟨.inl rfl, rfl, shown_totals_match_streamed openedRun_reachable (.inl rfl) rfl 30⟩

/-- A stream of the agent at rate 10 from 0, deleted at 50, and created again
at rate 5 at 100. -/
def recreatedRun : World :=
  (((World.initial ⟨0⟩).step 0 (.create ⟨⟨1⟩, ⟨0⟩, ⟨2⟩⟩ 10) 0 ⟨18, "Super DAI", "DAIx"⟩).step 50
    (.delete ⟨⟨1⟩, ⟨0⟩, ⟨2⟩⟩) 0 ⟨18, "Super DAI", "DAIx"⟩).step 100
    (.create ⟨⟨1⟩, ⟨0⟩, ⟨2⟩⟩ 5) 0 ⟨18, "Super DAI", "DAIx"⟩

theorem recreatedRun_reachable : Reachable ⟨0⟩ recreatedRun :=
  .step _ _ (.step _ _ (.step _ _ .initial (by decide) (by decide)) (by decide) (by decide))
    (by decide) (by decide)

/-- Created again, the stream's cancelled record banks the deleted span at the
old rate and shows 1000 at 100, where 500 was streamed. -/
theorem recreated_flow_shows_more_than_streamed :
    Reachable ⟨0⟩ recreatedRun ∧
      ((recreatedRun.app.flows.filter fun record => record.identity ⟨0⟩ = ⟨⟨1⟩, ⟨0⟩, ⟨2⟩⟩).map
        (Flow.totalSoFar · 100)).sum = 1000 ∧
      streamed recreatedRun.history ⟨⟨1⟩, ⟨0⟩, ⟨2⟩⟩ 100 = 500 :=
  ⟨recreatedRun_reachable, by decide, by decide⟩

/-- The open records are the agent's running streams: every open record stands
for a stream running at the record's rate, and a running stream of the agent
never deleted and created again has exactly one open record, with its token,
direction, counterparty and rate. -/
theorem open_records_match_running_flows {agentAddress : Address} {world : World}
    (reachable : Reachable agentAddress world) :
    (∀ record ∈ world.app.flows, record.isCancelled = false →
      0 < world.ledger.rate (record.identity agentAddress) ∧
        record.flowRate = world.ledger.rate (record.identity agentAddress)) ∧
    ∀ flow, involves agentAddress flow → 0 < world.ledger.rate flow →
      recreated flow world.history = false →
      ∃ record, (world.app.flows.filter fun record =>
          !record.isCancelled && record.identity agentAddress = flow) = [record] ∧
        record.superTokenAddress = flow.token ∧
        record.isIncoming = decide (flow.receiver = agentAddress) ∧
        record.entity = (if flow.receiver = agentAddress then flow.sender else flow.receiver) ∧
        record.flowRate = world.ledger.rate flow := by
  obtain ⟨consistent, agent⟩ := reachable.consistent
  subst agent
  refine ⟨fun record member isOpen => ⟨((consistent.recordTracks record member).openIff.mp isOpen).1,
    (consistent.recordTracks record member).rateOfOpen isOpen⟩,
    fun flow inside positive notRecreated => ?_⟩
  obtain ⟨record, member, rfl⟩ :=
    List.mem_map.mp (consistent.recorded_of_running inside positive)
  have isOpen := consistent.open_of_running member positive notRecreated
  obtain ⟨token, incoming, entity⟩ :=
    Flow.fields_of_identity rfl (consistent.keyed.counterpartyNotAgent record member)
  refine ⟨record, ?_, token, incoming, entity, (consistent.recordTracks record member).rateOfOpen isOpen⟩
  rw [← List.filter_filter, filter_key_eq_singleton consistent.keyed.identitiesDistinct member]
  simp [isOpen]

theorem open_records_match_running_flows_after_opening :
    Reachable ⟨0⟩ openedRun ∧
      (∀ record ∈ openedRun.app.flows, record.isCancelled = false →
        0 < openedRun.ledger.rate (record.identity ⟨0⟩) ∧
          record.flowRate = openedRun.ledger.rate (record.identity ⟨0⟩)) ∧
      ∀ flow, involves ⟨0⟩ flow → 0 < openedRun.ledger.rate flow →
        recreated flow openedRun.history = false →
        ∃ record, (openedRun.app.flows.filter fun record =>
            !record.isCancelled && record.identity ⟨0⟩ = flow) = [record] ∧
          record.superTokenAddress = flow.token ∧
          record.isIncoming = decide (flow.receiver = ⟨0⟩) ∧
          record.entity = (if flow.receiver = ⟨0⟩ then flow.sender else flow.receiver) ∧
          record.flowRate = openedRun.ledger.rate flow :=
  ⟨openedRun_reachable, open_records_match_running_flows openedRun_reachable⟩

/-- Created again, the stream runs at 5 but its only record stays cancelled:
no record is open, and the UpdateFlow panel finds no open flow to the receiver. -/
theorem recreated_flow_has_no_open_record :
    Reachable ⟨0⟩ recreatedRun ∧ recreatedRun.ledger.rate ⟨⟨1⟩, ⟨0⟩, ⟨2⟩⟩ = 5 ∧
      recreatedRun.app.flows.map Flow.isCancelled = [true] ∧
      existingFlow recreatedRun.app.flows false ⟨2⟩ ⟨1⟩ = none :=
  ⟨recreatedRun_reachable, by decide, by decide, by decide⟩

/-- In every reached world, a stream deleted and then created again has no open record,
whether it runs again or not: the record it had stays cancelled. -/
theorem recreated_stream_has_no_open_record {agentAddress : Address} {world : World}
    (reachable : Reachable agentAddress world) {flow : FlowId}
    (again : recreated flow world.history = true) :
    (world.app.flows.filter fun record =>
      !record.isCancelled && record.identity agentAddress = flow) = [] := by
  obtain ⟨consistent, rfl⟩ := reachable.consistent
  refine List.filter_eq_nil_iff.mpr fun record member selected => ?_
  simp only [Bool.and_eq_true, Bool.not_eq_true', decide_eq_true_eq] at selected
  obtain ⟨isOpen, rfl⟩ := selected
  have neverDeleted := ((consistent.recordTracks record member).openIff.mp isOpen).2
  simp [deleted_of_recreated again] at neverDeleted

theorem recreated_stream_has_no_open_record_in_recreated_run :
    Reachable ⟨0⟩ recreatedRun ∧ recreated ⟨⟨1⟩, ⟨0⟩, ⟨2⟩⟩ recreatedRun.history = true ∧
      (recreatedRun.app.flows.filter fun record =>
        !record.isCancelled && record.identity ⟨0⟩ = ⟨⟨1⟩, ⟨0⟩, ⟨2⟩⟩) = [] :=
  ⟨recreatedRun_reachable, by decide,
    recreated_stream_has_no_open_record recreatedRun_reachable (by decide)⟩

/-- The UpdateFlow panel's lookup of an open flow to a recipient in a token
finds the record of the agent's running stream to it, at the stream's rate,
when that stream was never deleted and created again. -/
theorem existingFlow_finds_running_stream {agentAddress : Address} {world : World}
    (reachable : Reachable agentAddress world) {flow : FlowId} (sender : flow.sender = agentAddress)
    (positive : 0 < world.ledger.rate flow) (notRecreated : recreated flow world.history = false) :
    ∃ record, existingFlow world.app.flows false flow.receiver flow.token = some record ∧
      record.flowRate = world.ledger.rate flow := by
  obtain ⟨consistent, agent⟩ := reachable.consistent
  subst agent
  have receiverNotAgent : flow.receiver ≠ world.app.agentAddress := fun same =>
    consistent.history.wellFormed.noSelfFlow _ (mem_of_rateOf_ne_zero (ne_of_gt positive))
      (sender.trans same.symm)
  obtain ⟨record, member, same⟩ :=
    List.mem_map.mp (consistent.recorded_of_running (.inl sender) positive)
  have isOpen := consistent.open_of_running member (same ▸ positive) (same ▸ notRecreated)
  obtain ⟨token, incoming, entity⟩ :=
    Flow.fields_of_identity same (consistent.keyed.counterpartyNotAgent record member)
  have found : (existingFlow world.app.flows false flow.receiver flow.token).isSome :=
    existingFlow_isSome member isOpen (by simp [incoming, receiverNotAgent])
      (by simp [entity, receiverNotAgent]) token
  obtain ⟨found, lookup⟩ := Option.isSome_iff_exists.mp found
  obtain ⟨foundMember, foundOpen, outgoing, foundEntity, foundToken⟩ := existingFlow_spec lookup
  have identity : found.identity world.app.agentAddress = flow := by
    rw [Flow.identity, if_neg (by simp [outgoing]), foundEntity, foundToken, ← sender]
  exact ⟨found, lookup,
    identity ▸ (consistent.recordTracks found foundMember).rateOfOpen foundOpen⟩

theorem existingFlow_finds_running_stream_after_opening :
    (⟨⟨1⟩, ⟨0⟩, ⟨2⟩⟩ : FlowId).sender = ⟨0⟩ ∧ 0 < openedRun.ledger.rate ⟨⟨1⟩, ⟨0⟩, ⟨2⟩⟩ ∧
      recreated ⟨⟨1⟩, ⟨0⟩, ⟨2⟩⟩ openedRun.history = false ∧
      ∃ record, existingFlow openedRun.app.flows false ⟨2⟩ ⟨1⟩ = some record ∧
        record.flowRate = openedRun.ledger.rate ⟨⟨1⟩, ⟨0⟩, ⟨2⟩⟩ :=
  ⟨rfl, by decide, rfl, @existingFlow_finds_running_stream ⟨0⟩ openedRun openedRun_reachable
    ⟨⟨1⟩, ⟨0⟩, ⟨2⟩⟩ rfl (by decide) rfl⟩

/-- The Flows list offers its menu on the rows of running streams only, and on a
row of every such stream the agent or the connected account sends: in every
world a complete, in-order feed reaches, the Update preset of a row with a menu
names a stream of the agent running at the row's rate, sent by the agent or the
connected account; and each such stream, never deleted and created again, has
a row whose menu names it. -/
theorem entry_actions_target_running_streams {agentAddress connectedAccount : Address}
    {world : World} (reachable : Reachable agentAddress world) :
    (∀ record ∈ world.app.flows, ∀ actions,
      renderEntryActions agentAddress connectedAccount record = some actions →
        involves agentAddress actions.update.flow ∧ 0 < world.ledger.rate actions.update.flow ∧
          record.flowRate = world.ledger.rate actions.update.flow ∧
          (actions.update.flow.sender = agentAddress ∨
            actions.update.flow.sender = connectedAccount)) ∧
    ∀ flow, involves agentAddress flow → 0 < world.ledger.rate flow →
      recreated flow world.history = false →
      (flow.sender = agentAddress ∨ flow.sender = connectedAccount) →
      ∃ record ∈ world.app.flows, ∃ actions,
        renderEntryActions agentAddress connectedAccount record = some actions ∧
          actions.update.flow = flow := by
  obtain ⟨consistent, agent⟩ := reachable.consistent
  subst agent
  refine ⟨fun record member actions offered => ?_,
    fun flow inside positive notRecreated sender => ?_⟩
  · have isOpen := ((renderEntryActions_isSome_iff world.app.agentAddress connectedAccount
      record).mp (by rw [offered]; rfl)).1
    have tracks := consistent.recordTracks record member
    have named := (renderEntryActions_spec offered).1
    exact ⟨named ▸ involves_identity _ record, named ▸ (tracks.openIff.mp isOpen).1,
      named ▸ tracks.rateOfOpen isOpen, renderEntryActions_sender offered⟩
  · obtain ⟨record, member, same⟩ :=
      List.mem_map.mp (consistent.recorded_of_running inside positive)
    have isOpen := consistent.open_of_running member (same ▸ positive) (same ▸ notRecreated)
    obtain ⟨actions, offered⟩ := Option.isSome_iff_exists.mp (renderEntryActions_isSome_of_sender
      isOpen (consistent.keyed.counterpartyNotAgent record member) (same ▸ sender))
    exact ⟨record, member, actions, offered, (renderEntryActions_spec offered).1.trans same⟩

theorem entry_actions_target_running_streams_after_opening :
    Reachable ⟨0⟩ openedRun ∧
      (∀ record ∈ openedRun.app.flows, ∀ actions,
        renderEntryActions ⟨0⟩ ⟨5⟩ record = some actions →
          involves ⟨0⟩ actions.update.flow ∧ 0 < openedRun.ledger.rate actions.update.flow ∧
            record.flowRate = openedRun.ledger.rate actions.update.flow ∧
            (actions.update.flow.sender = ⟨0⟩ ∨ actions.update.flow.sender = ⟨5⟩)) ∧
      ∀ flow, involves ⟨0⟩ flow → 0 < openedRun.ledger.rate flow →
        recreated flow openedRun.history = false →
        (flow.sender = ⟨0⟩ ∨ flow.sender = ⟨5⟩) →
        ∃ record ∈ openedRun.app.flows, ∃ actions,
          renderEntryActions ⟨0⟩ ⟨5⟩ record = some actions ∧ actions.update.flow = flow :=
  ⟨openedRun_reachable, @entry_actions_target_running_streams ⟨0⟩ ⟨5⟩ openedRun openedRun_reachable⟩

/-- Created again, the stream runs at 5, yet its only row, cancelled, offers no menu. -/
example : recreatedRun.ledger.rate ⟨⟨1⟩, ⟨0⟩, ⟨2⟩⟩ = 5 ∧
    recreatedRun.app.flows.filterMap (renderEntryActions ⟨0⟩ ⟨0⟩) = [] := by
  decide

/-- Every token entry's net flow is the agent's net rate in that token on the ledger, what
its running streams bring in minus what they send out, also when a stream was deleted and
created again; and every token the agent has a running stream in has an entry. -/
theorem netFlow_matches_ledger {agentAddress : Address} {world : World}
    (reachable : Reachable agentAddress world) :
    (∀ token ∈ world.app.superTokens,
      token.netFlow = netFlowOf world.ledger.flows token.address agentAddress) ∧
    ∀ entry ∈ world.ledger.flows, involves agentAddress entry.1 →
      entry.1.token ∈ world.app.superTokens.map SuperToken.address := by
  obtain ⟨consistent, rfl⟩ := reachable.consistent
  exact ⟨consistent.netFlows, consistent.tokensListed⟩

/-- The agent receives 7 a second from one party and sends 3 to another, in one token. -/
def inAndOutRun : World :=
  ((World.initial ⟨0⟩).step 0 (.create ⟨⟨1⟩, ⟨2⟩, ⟨0⟩⟩ 7) 0 ⟨18, "Super DAI", "DAIx"⟩).step 10
    (.create ⟨⟨1⟩, ⟨0⟩, ⟨3⟩⟩ 3) 70 ⟨18, "Super DAI", "DAIx"⟩

example : inAndOutRun.app.superTokens.map SuperToken.netFlow = [4] := by decide

theorem netFlow_matches_ledger_in_and_out :
    Reachable ⟨0⟩ inAndOutRun ∧
      (∀ token ∈ inAndOutRun.app.superTokens,
        token.netFlow = netFlowOf inAndOutRun.ledger.flows token.address ⟨0⟩) ∧
      ∀ entry ∈ inAndOutRun.ledger.flows, involves ⟨0⟩ entry.1 →
        entry.1.token ∈ inAndOutRun.app.superTokens.map SuperToken.address :=
  have reachable : Reachable ⟨0⟩ inAndOutRun :=
    .step _ _ (.step _ _ .initial (by decide) (by decide)) (by decide) (by decide)
  ⟨reachable, netFlow_matches_ledger reachable⟩

/-! ## Two events in either order -/

/-- In every reached world, two `FlowUpdated` events of different flows, each
between two parties, handled in either order with their own chain answers,
leave the same flows up to order, and the same token entries up to order when
their tokens differ; when one event is not the agent's, the two orders reach the
same state; on one token, when both events are the agent's, the entry is the one
the event handled last writes, but for its metadata when the chain answered
different metadata. -/
theorem flow_events_reorder {agentAddress : Address} {world : World}
    (reachable : Reachable agentAddress world) {first second : FlowUpdated}
    (firstSelfFree : first.sender ≠ first.receiver) (secondSelfFree : second.sender ≠ second.receiver)
    (different : first.identity ≠ second.identity) (firstAnswers secondAnswers : ChainAnswers) :
    let firstThenSecond :=
      handleFlowUpdated (handleFlowUpdated world.app first firstAnswers) second secondAnswers
    let secondThenFirst :=
      handleFlowUpdated (handleFlowUpdated world.app second secondAnswers) first firstAnswers
    firstThenSecond.flows.Perm secondThenFirst.flows ∧
      (first.token ≠ second.token → firstThenSecond.superTokens.Perm secondThenFirst.superTokens) ∧
      (isAgentSender agentAddress first.sender first.receiver = false ∨
        isAgentSender agentAddress second.sender second.receiver = false →
        firstThenSecond = secondThenFirst) ∧
      (first.token = second.token →
        isAgentSender agentAddress first.sender first.receiver = true →
        isAgentSender agentAddress second.sender second.receiver = true →
        firstThenSecond.superTokens.map SuperToken.refreshedFields =
            (handleFlowUpdated world.app second secondAnswers).superTokens.map
              SuperToken.refreshedFields ∧
          secondThenFirst.superTokens.map SuperToken.refreshedFields =
            (handleFlowUpdated world.app first firstAnswers).superTokens.map
              SuperToken.refreshedFields ∧
          (firstAnswers.metadata = secondAnswers.metadata →
            firstThenSecond.superTokens =
                (handleFlowUpdated world.app second secondAnswers).superTokens ∧
              secondThenFirst.superTokens =
                (handleFlowUpdated world.app first firstAnswers).superTokens)) := by
  obtain ⟨consistent, agent⟩ := reachable.consistent
  subst agent
  exact consistent.keyed.handleFlowUpdated_reorder consistent.registry.addressesDistinct
    firstSelfFree secondSelfFree different firstAnswers secondAnswers

theorem flow_events_reorder_after_opening :
    let first : FlowUpdated := ⟨⟨1⟩, ⟨0⟩, ⟨3⟩, 20, -30, 20⟩
    let second : FlowUpdated := ⟨⟨4⟩, ⟨5⟩, ⟨0⟩, 7, -7, 7⟩
    let firstAnswers : ChainAnswers := ⟨5, 0, ⟨18, "Super DAI", "DAIx"⟩⟩
    let secondAnswers : ChainAnswers := ⟨6, 0, ⟨18, "Super USDC", "USDCx"⟩⟩
    let firstThenSecond :=
      handleFlowUpdated (handleFlowUpdated openedRun.app first firstAnswers) second secondAnswers
    let secondThenFirst :=
      handleFlowUpdated (handleFlowUpdated openedRun.app second secondAnswers) first firstAnswers
    first.sender ≠ first.receiver ∧ second.sender ≠ second.receiver ∧
      first.identity ≠ second.identity ∧
      firstThenSecond.flows.Perm secondThenFirst.flows ∧
      (first.token ≠ second.token → firstThenSecond.superTokens.Perm secondThenFirst.superTokens) ∧
      (isAgentSender ⟨0⟩ first.sender first.receiver = false ∨
        isAgentSender ⟨0⟩ second.sender second.receiver = false →
        firstThenSecond = secondThenFirst) ∧
      (first.token = second.token →
        isAgentSender ⟨0⟩ first.sender first.receiver = true →
        isAgentSender ⟨0⟩ second.sender second.receiver = true →
        firstThenSecond.superTokens.map SuperToken.refreshedFields =
            (handleFlowUpdated openedRun.app second secondAnswers).superTokens.map
              SuperToken.refreshedFields ∧
          secondThenFirst.superTokens.map SuperToken.refreshedFields =
            (handleFlowUpdated openedRun.app first firstAnswers).superTokens.map
              SuperToken.refreshedFields ∧
          (firstAnswers.metadata = secondAnswers.metadata →
            firstThenSecond.superTokens =
                (handleFlowUpdated openedRun.app second secondAnswers).superTokens ∧
              secondThenFirst.superTokens =
                (handleFlowUpdated openedRun.app first firstAnswers).superTokens)) :=
  ⟨by decide, by decide, by decide,
    flow_events_reorder openedRun_reachable (by decide) (by decide) (by decide) _ _⟩

/-- Two streams of the agent in one token opened in one block at 5: rate 10 to
2, then rate 20 to 3. -/
def sameBlockRun : World :=
  ((World.initial ⟨0⟩).step 5 (.create ⟨⟨1⟩, ⟨0⟩, ⟨2⟩⟩ 10) 0 ⟨18, "Super DAI", "DAIx"⟩).step 5
    (.create ⟨⟨1⟩, ⟨0⟩, ⟨3⟩⟩ 20) 0 ⟨18, "Super DAI", "DAIx"⟩

/-- The two events the ledger emits for `sameBlockRun`, handled in the other
order, leave the token's net flow at -10 where the ledger's is -30. -/
theorem same_token_events_do_not_commute :
    let first : FlowUpdated := ⟨⟨1⟩, ⟨0⟩, ⟨2⟩, 10, -10, 10⟩
    let second : FlowUpdated := ⟨⟨1⟩, ⟨0⟩, ⟨3⟩, 20, -30, 20⟩
    let answers : ChainAnswers := ⟨5, 0, ⟨18, "Super DAI", "DAIx"⟩⟩
    Reachable ⟨0⟩ sameBlockRun ∧
      sameBlockRun.app =
        handleFlowUpdated (handleFlowUpdated (World.initial ⟨0⟩).app first answers) second answers ∧
      (handleFlowUpdated (handleFlowUpdated (World.initial ⟨0⟩).app first answers) second
        answers).superTokens.map SuperToken.netFlow = [-30] ∧
      (handleFlowUpdated (handleFlowUpdated (World.initial ⟨0⟩).app second answers) first
        answers).superTokens.map SuperToken.netFlow = [-10] :=
  ⟨.step _ _ (.step _ _ .initial (by decide) (by decide)) (by decide) (by decide), rfl,
    by decide, by decide⟩

end SuperfluidAragon
