import SuperfluidAragon.Ledger.Agreement

/-! The balance a token entry keeps. Processed without delay, the feed leaves
each entry a checkpoint: its balance at its timestamp, projected at its net
flow, is the agent's balance on the ledger until the next operation. A balance
lookup answered later than the event's block breaks that. -/

namespace SuperfluidAragon

open Ledger

/-- The worlds a feed processed without delay reaches: each balance lookup is
answered with the agent's balance on the ledger at the event's block. -/
inductive Synced (agentAddress : Address) : World → Prop
  | initial : Synced agentAddress (World.initial agentAddress)
  | step {world : World} {t : Int} {operation : Operation} (metadata : TokenMetadata) :
      Synced agentAddress world → world.ledger.time ≤ t → world.ledger.Admissible operation →
      Synced agentAddress (world.step t operation
        (((world.ledger.settle world.app.agentAddress t).execute operation).balance operation.token)
        metadata)

theorem Synced.reachable {agentAddress : Address} {world : World}
    (synced : Synced agentAddress world) : Reachable agentAddress world := by
  induction synced with
  | initial => exact .initial
  | step metadata _ timely admissible induction => exact .step _ metadata induction timely admissible

/-- Every token entry is a checkpoint of the agent's balance: projected at its
net flow from its timestamp to the ledger's time, it is the ledger's balance. -/
def Checkpointed (world : World) : Prop :=
  ∀ token ∈ world.app.superTokens,
    token.balance + token.netFlow * (world.ledger.time - token.lastUpdateTimestamp) =
      world.ledger.balance token.address

/-- A checkpoint at the agent's net rate stays one as the balance settles. -/
theorem checkpoint_settle {ledger : Ledger} {agentAddress : Address} {token : SuperToken}
    (netFlow : token.netFlow = netFlowOf ledger.flows token.address agentAddress)
    (checkpoint : token.balance + token.netFlow * (ledger.time - token.lastUpdateTimestamp) =
      ledger.balance token.address) (t : Int) :
    token.balance + token.netFlow * (t - token.lastUpdateTimestamp) =
      (ledger.settle agentAddress t).balance token.address := by
  rw [settle_balance, ← checkpoint, ← netFlow]
  ring

/-- A step of a feed processed without delay keeps every entry a checkpoint:
an entry it leaves alone settles at its net flow, and the entry it refreshes is
read at the block. -/
theorem Consistent.checkpointed_step {world : World} (consistent : Consistent world)
    (checkpointed : Checkpointed world) {operation : Operation}
    (admissible : world.ledger.Admissible operation) (t : Int) (metadata : TokenMetadata) :
    Checkpointed (world.step t operation
      (((world.ledger.settle world.app.agentAddress t).execute operation).balance operation.token)
      metadata) := by
  have kept : ∀ token ∈ world.app.superTokens,
      ((world.ledger.settle world.app.agentAddress t).execute operation).balance token.address =
        (world.ledger.settle world.app.agentAddress t).balance token.address →
      token.balance + token.netFlow * (t - token.lastUpdateTimestamp) =
        ((world.ledger.settle world.app.agentAddress t).execute operation).balance token.address :=
    fun token member same =>
      same ▸ checkpoint_settle (consistent.netFlows token member) (checkpointed token member) t
  have distinct := consistent.registry.addressesDistinct
  cases about : operation.flow? with
  | none =>
      cases operation with
      | transfer token amount =>
          intro entry member
          rcases mem_updateSuperTokens distinct member with ⟨old, other⟩ | ⟨base, rfl, -⟩
          · simpa using kept entry old (execute_balance_of_ne _ (Ne.symm other))
          · simp [Operation.token]
      | _ => cases about
  | some flow =>
      have unmoved := execute_balance_of_flow (world.ledger.settle world.app.agentAddress t) about
      rw [World.step_of_flow _ _ _ _ about]
      by_cases inside : involves world.app.agentAddress flow
      · rw [handleFlowUpdated_of_involved _
          ((isAgentSender_eq_true_iff _ flow.sender flow.receiver).mpr inside)]
        intro entry member
        rcases mem_updateSuperTokens distinct member with ⟨old, -⟩ | ⟨base, rfl, -⟩
        · simpa using kept entry old (by rw [unmoved])
        · simp [Operation.token_of_flow? about]
      · rw [handleFlowUpdated_of_not_involved _ (Bool.eq_false_iff.mpr fun involved =>
          inside ((isAgentSender_eq_true_iff _ _ _).mp involved))]
        intro entry member
        simpa using kept entry member (by rw [unmoved])

theorem Synced.checkpointed {agentAddress : Address} {world : World}
    (synced : Synced agentAddress world) : Checkpointed world := by
  induction synced with
  | initial => exact fun _ member => absurd member (List.not_mem_nil _)
  | step metadata reached _ admissible induction =>
      exact (reached.reachable.consistent.1).checkpointed_step induction admissible _ metadata

/-- With each balance lookup answered at the event's block, every token entry
projects the agent's balance exactly: its balance plus its net flow times the
time since its timestamp is the agent's balance on the ledger at any time from
the last operation until the next. -/
theorem balance_projection_matches_ledger {agentAddress : Address} {world : World}
    (synced : Synced agentAddress world) {token : SuperToken}
    (member : token ∈ world.app.superTokens) (t : Int) :
    token.balance + token.netFlow * (t - token.lastUpdateTimestamp) =
      (world.ledger.settle agentAddress t).balance token.address := by
  obtain ⟨consistent, agent⟩ := synced.reachable.consistent
  subst agent
  exact checkpoint_settle (consistent.netFlows token member) (synced.checkpointed token member) t

/-- A deposit of 1000 at 0, then an incoming stream at rate 10 from 20, each
processed at its block. -/
def syncedRun : World :=
  ((World.initial ⟨0⟩).step 0 (.transfer ⟨1⟩ 1000) 1000 ⟨18, "Super DAI", "DAIx"⟩).step 20
    (.create ⟨⟨1⟩, ⟨2⟩, ⟨0⟩⟩ 10) 1000 ⟨18, "Super DAI", "DAIx"⟩

theorem balance_projection_matches_ledger_after_deposit :
    Synced ⟨0⟩ syncedRun ∧
      (⟨⟨1⟩, 18, "Super DAI", "DAIx", 10, 1000, 20⟩ : SuperToken) ∈ syncedRun.app.superTokens ∧
      (1000 : Int) + 10 * (50 - 20) = (syncedRun.ledger.settle ⟨0⟩ 50).balance ⟨1⟩ := by
  have synced : Synced ⟨0⟩ syncedRun :=
    .step _ (.step _ .initial (by decide) (by decide)) (by decide) (by decide)
  exact ⟨synced, List.mem_singleton.mpr rfl,
    balance_projection_matches_ledger synced (List.mem_singleton.mpr rfl) 50⟩

/-- An incoming stream at rate 10 opened at 0 whose event is processed at 100,
the lookup answering the balance of 1000 the agent then has: the entry projects
2000 at 100, where the agent has 1000. -/
def delayedRun : World :=
  (World.initial ⟨0⟩).step 0 (.create ⟨⟨1⟩, ⟨2⟩, ⟨0⟩⟩ 10) 1000 ⟨18, "Super DAI", "DAIx"⟩

theorem delayed_balance_lookup_breaks_checkpoint :
    Reachable ⟨0⟩ delayedRun ∧ (delayedRun.ledger.settle ⟨0⟩ 100).balance ⟨1⟩ = 1000 ∧
      delayedRun.app.superTokens.map
        (fun token => token.balance + token.netFlow * (100 - token.lastUpdateTimestamp)) = [2000] :=
  ⟨.step _ _ .initial (by decide) (by decide), by decide, by decide⟩

end SuperfluidAragon
