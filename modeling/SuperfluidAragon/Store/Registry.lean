import SuperfluidAragon.Store.Reducer
import SuperfluidAragon.Components.Flows
import Mathlib.Logic.Relation
import Mathlib.Data.List.Infix

/-! The token registry the handlers keep beside the flows: one entry per token
address, an entry for every flow's token, and nothing ever removed. -/

namespace SuperfluidAragon

open Foundation

theorem updateSuperTokens_addresses (state : AppState) (answers : ChainAnswers)
    (tokenAddress : Address) (updateTimestamp : Int) (netFlow : Option Int) :
    (updateSuperTokens state answers tokenAddress updateTimestamp netFlow).map SuperToken.address =
      if tokenAddress ∈ state.superTokens.map SuperToken.address then
        state.superTokens.map SuperToken.address
      else state.superTokens.map SuperToken.address ++ [tokenAddress] := by
  unfold updateSuperTokens
  cases found : state.superTokens.findIdx? (fun token => addressesEqual tokenAddress token.address)
    with
  | none =>
      have absent : tokenAddress ∉ state.superTokens.map SuperToken.address := by
        intro member
        obtain ⟨token, inTokens, same⟩ := List.mem_map.mp member
        have := List.findIdx?_eq_none_iff.mp found token inTokens
        simp [same, addressesEqual] at this
      simp [absent, refreshSuperToken, newSuperToken]
  | some superTokenIndex =>
      have listed := List.findIdx?_eq_some_iff_getElem.mp found
      obtain ⟨inBounds, hit, -⟩ := listed
      have present : tokenAddress ∈ state.superTokens.map SuperToken.address :=
        List.mem_map.mpr ⟨_, List.getElem_mem inBounds, ((addressesEqual_iff _ _).mp hit).symm⟩
      simp only [present, if_true]
      apply map_modify_of_getElem?
      intro token entry
      rw [List.getElem?_eq_getElem inBounds, Option.some.injEq] at entry
      subst entry
      simpa [refreshSuperToken] using (addressesEqual_iff _ _).mp hit

/-- With distinct addresses, `updateSuperTokens` refreshes the token's entry,
or appends a new one. -/
theorem updateSuperTokens_eq_upsert (state : AppState)
    (distinct : (state.superTokens.map SuperToken.address).Nodup) (answers : ChainAnswers)
    (tokenAddress : Address) (updateTimestamp : Int) (netFlow : Option Int) :
    updateSuperTokens state answers tokenAddress updateTimestamp netFlow =
      upsert SuperToken.address tokenAddress
        (refreshSuperToken · tokenAddress updateTimestamp answers.balance netFlow)
        (refreshSuperToken (newSuperToken tokenAddress answers.metadata) tokenAddress
          updateTimestamp answers.balance netFlow) state.superTokens := by
  unfold updateSuperTokens upsert
  cases found : state.superTokens.findIdx? (fun token => addressesEqual tokenAddress token.address)
    with
  | none =>
      have missing := List.findIdx?_eq_none_iff.mp found
      rw [if_neg fun listed => by
        obtain ⟨token, member, same⟩ := List.mem_map.mp listed
        simpa [same, addressesEqual] using missing token member]
  | some superTokenIndex =>
      obtain ⟨inBounds, hit, -⟩ := List.findIdx?_eq_some_iff_getElem.mp found
      have unique : AtMostOne (fun token => addressesEqual tokenAddress token.address)
          state.superTokens :=
        atMostOne_of_pairwise (List.pairwise_map.mp distinct) fun x _ y _ hitX hitY =>
          ((addressesEqual_iff _ _).mp hitX).symm.trans ((addressesEqual_iff _ _).mp hitY)
      rw [if_pos (List.mem_map.mpr ⟨_, List.getElem_mem inBounds,
        ((addressesEqual_iff _ _).mp hit).symm⟩)]
      simp only [modify_findIdx?_eq_map _ found unique, addressesEqual_iff, @eq_comm _ tokenAddress]

/-- An entry after `updateSuperTokens`, the addresses being distinct: one of
another token as it was, or the token's entry refreshed, from the one it had
or from a new one when it had none. -/
theorem mem_updateSuperTokens {state : AppState}
    (distinct : (state.superTokens.map SuperToken.address).Nodup) {answers : ChainAnswers}
    {tokenAddress : Address} {updateTimestamp : Int} {netFlow : Option Int} {token : SuperToken}
    (member : token ∈ updateSuperTokens state answers tokenAddress updateTimestamp netFlow) :
    (token ∈ state.superTokens ∧ token.address ≠ tokenAddress) ∨
      ∃ base, token = refreshSuperToken base tokenAddress updateTimestamp answers.balance netFlow ∧
        (base ∈ state.superTokens ∧ base.address = tokenAddress ∨
          tokenAddress ∉ state.superTokens.map SuperToken.address ∧
            base = newSuperToken tokenAddress answers.metadata) := by
  unfold updateSuperTokens at member
  cases found : state.superTokens.findIdx? (fun token => addressesEqual tokenAddress token.address)
    with
  | none =>
      have missing := List.findIdx?_eq_none_iff.mp found
      simp only [found, List.mem_append, List.mem_singleton] at member
      rcases member with old | rfl
      · exact .inl ⟨old, fun same => by simpa [same, addressesEqual] using missing token old⟩
      · refine .inr ⟨_, rfl, .inr ⟨fun listed => ?_, rfl⟩⟩
        obtain ⟨old, inOld, same⟩ := List.mem_map.mp listed
        simpa [same, addressesEqual] using missing old inOld
  | some superTokenIndex =>
      have unique : AtMostOne (fun token => addressesEqual tokenAddress token.address)
          state.superTokens :=
        atMostOne_of_pairwise (List.pairwise_map.mp distinct) fun x _ y _ hitX hitY =>
          ((addressesEqual_iff _ _).mp hitX).symm.trans ((addressesEqual_iff _ _).mp hitY)
      simp only [found] at member
      rw [modify_findIdx?_eq_map _ found unique] at member
      obtain ⟨old, inOld, rfl⟩ := List.mem_map.mp member
      split
      · exact .inr ⟨old, rfl, .inl ⟨inOld, ((addressesEqual_iff _ _).mp ‹_›).symm⟩⟩
      · exact .inl ⟨inOld, fun same => by simp_all [addressesEqual]⟩

/-- The token registry is consistent with the flows: one entry per address,
and an entry for the token of every flow, so the Flows view finds its details. -/
structure RegistryConsistent (state : AppState) : Prop where
  addressesDistinct : (state.superTokens.map SuperToken.address).Nodup
  flowTokensListed : ∀ flow ∈ state.flows,
    flow.superTokenAddress ∈ state.superTokens.map SuperToken.address

/-- Nothing the store knew of is lost: the token addresses and the flows'
keys of `state` are prefixes of those of `next`. -/
def Persists (state next : AppState) : Prop :=
  state.superTokens.map SuperToken.address <+: next.superTokens.map SuperToken.address ∧
    state.flows.map Flow.matchKey <+: next.flows.map Flow.matchKey

theorem persists_refl (state : AppState) : Persists state state :=
  ⟨List.prefix_refl _, List.prefix_refl _⟩

theorem Persists.trans {first second third : AppState} (early : Persists first second)
    (late : Persists second third) : Persists first third :=
  ⟨early.1.trans late.1, early.2.trans late.2⟩

theorem addresses_prefix_updateSuperTokens (state : AppState) (answers : ChainAnswers)
    (tokenAddress : Address) (updateTimestamp : Int) (netFlow : Option Int) :
    state.superTokens.map SuperToken.address <+:
      (updateSuperTokens state answers tokenAddress updateTimestamp netFlow).map
        SuperToken.address := by
  rw [updateSuperTokens_addresses]
  split
  · exact List.prefix_refl _
  · exact List.prefix_append _ _

theorem addresses_nodup_updateSuperTokens {state : AppState}
    (distinct : (state.superTokens.map SuperToken.address).Nodup) (answers : ChainAnswers)
    (tokenAddress : Address) (updateTimestamp : Int) (netFlow : Option Int) :
    ((updateSuperTokens state answers tokenAddress updateTimestamp netFlow).map
      SuperToken.address).Nodup := by
  rw [updateSuperTokens_addresses]
  split
  · exact distinct
  · rename_i absent
    exact distinct.append (List.nodup_singleton _) (List.disjoint_singleton.mpr absent)

theorem mem_updateSuperTokens_addresses (state : AppState) (answers : ChainAnswers)
    (tokenAddress : Address) (updateTimestamp : Int) (netFlow : Option Int) :
    tokenAddress ∈
      (updateSuperTokens state answers tokenAddress updateTimestamp netFlow).map
        SuperToken.address := by
  rw [updateSuperTokens_addresses]
  split
  · assumption
  · exact List.mem_append_right _ (List.mem_singleton_self _)

theorem keys_prefix_updateFlows (state : AppState) (event : FlowUpdated) (t : Int) :
    state.flows.map Flow.matchKey <+: (updateFlows state event t).map Flow.matchKey := by
  cases found : state.flows.findIdx? (isFlowEqual · event) with
  | none =>
      rw [updateFlows_of_none t found, List.map_append]
      exact List.prefix_append _ _
  | some flowIndex =>
      rw [updateFlows_of_some t found, map_modify_of_comp (changedFlow_matchKey event t)]

theorem flowTokensListed_updateFlows {state : AppState} (event : FlowUpdated) (t : Int)
    {tokens : List SuperToken}
    (listed : ∀ flow ∈ state.flows, flow.superTokenAddress ∈ tokens.map SuperToken.address)
    (eventToken : event.token ∈ tokens.map SuperToken.address) :
    ∀ flow ∈ updateFlows state event t, flow.superTokenAddress ∈ tokens.map SuperToken.address := by
  intro flow member
  rcases mem_updateFlows member with old | ⟨old, inOld, rfl⟩ | ⟨rfl, -⟩
  · exact listed flow old
  · have sameKey := changedFlow_matchKey event t old
    simp only [Flow.matchKey, Prod.mk.injEq] at sameKey
    exact sameKey.1 ▸ listed old inOld
  · exact eventToken

/-- One handled event keeps the registry consistent and loses nothing. -/
theorem RegistryConsistent.reduce {state next : AppState} (consistent : RegistryConsistent state)
    {event : StoreEvent} {answers : ChainAnswers}
    (handled : SuperfluidAragon.reduce (some state) event answers = some next) :
    RegistryConsistent next ∧ Persists state next := by
  cases event with
  | flowUpdated event =>
      simp only [SuperfluidAragon.reduce, Option.some.injEq] at handled
      subst handled
      cases involved : isAgentSender state.agentAddress event.sender event.receiver
      · rw [handleFlowUpdated_of_not_involved answers involved]
        exact ⟨consistent, persists_refl state⟩
      · rw [handleFlowUpdated_of_involved answers involved]
        refine ⟨⟨addresses_nodup_updateSuperTokens consistent.addressesDistinct _ _ _ _,
          flowTokensListed_updateFlows event _ (fun flow member =>
            (addresses_prefix_updateSuperTokens _ _ _ _ _).subset
              (consistent.flowTokensListed flow member))
            (mem_updateSuperTokens_addresses _ _ _ _ _)⟩,
          addresses_prefix_updateSuperTokens _ _ _ _ _, keys_prefix_updateFlows _ _ _⟩
  | vault event =>
      simp only [SuperfluidAragon.reduce, Option.some.injEq] at handled
      subst handled
      exact ⟨⟨addresses_nodup_updateSuperTokens consistent.addressesDistinct _ _ _ _,
        fun flow member => (addresses_prefix_updateSuperTokens _ _ _ _ _).subset
          (consistent.flowTokensListed flow member)⟩,
        addresses_prefix_updateSuperTokens _ _ _ _ _, List.prefix_refl _⟩
  | setAgent event => simp [SuperfluidAragon.reduce, handleSetAgent] at handled

/-! ## Two events in either order -/

/-- Two token updates of different tokens leave the same entries, in either
order, up to the order of the entries they append. -/
theorem updateSuperTokens_comm {state : AppState}
    (distinct : (state.superTokens.map SuperToken.address).Nodup) {first second : Address}
    (different : first ≠ second) (firstAnswers secondAnswers : ChainAnswers) (t t' : Int)
    (netFlow netFlow' : Option Int) :
    (updateSuperTokens
        { state with superTokens := updateSuperTokens state firstAnswers first t netFlow }
        secondAnswers second t' netFlow').Perm
      (updateSuperTokens
        { state with superTokens := updateSuperTokens state secondAnswers second t' netFlow' }
        firstAnswers first t netFlow) := by
  rw [updateSuperTokens_eq_upsert
      { state with superTokens := updateSuperTokens state firstAnswers first t netFlow }
      (addresses_nodup_updateSuperTokens distinct firstAnswers first t netFlow),
    updateSuperTokens_eq_upsert
      { state with superTokens := updateSuperTokens state secondAnswers second t' netFlow' }
      (addresses_nodup_updateSuperTokens distinct secondAnswers second t' netFlow'),
    updateSuperTokens_eq_upsert _ distinct, updateSuperTokens_eq_upsert _ distinct]
  refine upsert_comm different (fun _ _ => ?_) (fun _ _ => ?_) ?_ ?_ _ <;> rfl

/-- Of two updates of one token with a net flow, the last one wins: the entry is
what the last update alone would have written, the token's metadata being the
same both times. -/
theorem updateSuperTokens_last_wins {state : AppState}
    (distinct : (state.superTokens.map SuperToken.address).Nodup) {firstAnswers secondAnswers : ChainAnswers}
    (sameMetadata : firstAnswers.metadata = secondAnswers.metadata) (tokenAddress : Address)
    (t t' : Int) (netFlow : Option Int) (netFlow' : Int) :
    updateSuperTokens
        { state with superTokens := updateSuperTokens state firstAnswers tokenAddress t netFlow }
        secondAnswers tokenAddress t' (some netFlow') =
      updateSuperTokens state secondAnswers tokenAddress t' (some netFlow') := by
  rw [updateSuperTokens_eq_upsert
      { state with superTokens := updateSuperTokens state firstAnswers tokenAddress t netFlow }
      (addresses_nodup_updateSuperTokens distinct firstAnswers tokenAddress t netFlow),
    updateSuperTokens_eq_upsert _ distinct, updateSuperTokens_eq_upsert _ distinct]
  have keep : ∀ token : SuperToken, token.address = tokenAddress →
      (refreshSuperToken token tokenAddress t firstAnswers.balance netFlow).address = tokenAddress :=
    fun _ _ => rfl
  have freshKey : (refreshSuperToken (newSuperToken tokenAddress firstAnswers.metadata) tokenAddress t
      firstAnswers.balance netFlow).address = tokenAddress := rfl
  dsimp only
  rw [upsert_upsert keep freshKey, sameMetadata]
  rfl

/-- An entry but for its metadata: the fields every `updateSuperTokens` with a net flow
writes. -/
def SuperToken.refreshedFields (token : SuperToken) : Address × Int × Int × Int :=
  (token.address, token.netFlow, token.balance, token.lastUpdateTimestamp)

/-- Of two updates of one token with a net flow, the last one writes the entry but for its
metadata, whatever metadata the chain answered either time. -/
theorem updateSuperTokens_last_wins_fields {state : AppState}
    (distinct : (state.superTokens.map SuperToken.address).Nodup)
    (firstAnswers secondAnswers : ChainAnswers) (tokenAddress : Address) (t t' : Int)
    (netFlow : Option Int) (netFlow' : Int) :
    (updateSuperTokens
        { state with superTokens := updateSuperTokens state firstAnswers tokenAddress t netFlow }
        secondAnswers tokenAddress t' (some netFlow')).map SuperToken.refreshedFields =
      (updateSuperTokens state secondAnswers tokenAddress t' (some netFlow')).map
        SuperToken.refreshedFields := by
  rw [updateSuperTokens_eq_upsert
      { state with superTokens := updateSuperTokens state firstAnswers tokenAddress t netFlow }
      (addresses_nodup_updateSuperTokens distinct firstAnswers tokenAddress t netFlow),
    updateSuperTokens_eq_upsert _ distinct, updateSuperTokens_eq_upsert _ distinct]
  have keep : ∀ token : SuperToken, token.address = tokenAddress →
      (refreshSuperToken token tokenAddress t firstAnswers.balance netFlow).address = tokenAddress :=
    fun _ _ => rfl
  have freshKey : (refreshSuperToken (newSuperToken tokenAddress firstAnswers.metadata) tokenAddress t
      firstAnswers.balance netFlow).address = tokenAddress := rfl
  rw [upsert_upsert keep freshKey]
  apply map_upsert_congr <;> intros <;> rfl

/-- An event that does not involve the agent is skipped whenever it comes. -/
theorem handleFlowUpdated_swap_of_not_involved {state : AppState} {skipped other : FlowUpdated}
    (notInvolved : isAgentSender state.agentAddress skipped.sender skipped.receiver = false)
    (skippedAnswers otherAnswers : ChainAnswers) :
    handleFlowUpdated (handleFlowUpdated state skipped skippedAnswers) other otherAnswers =
      handleFlowUpdated (handleFlowUpdated state other otherAnswers) skipped skippedAnswers := by
  have later : isAgentSender (handleFlowUpdated state other otherAnswers).agentAddress
      skipped.sender skipped.receiver = false := by
    rwa [handleFlowUpdated_agentAddress]
  rw [@handleFlowUpdated_of_not_involved state skipped skippedAnswers notInvolved,
    handleFlowUpdated_of_not_involved skippedAnswers later]

/-- Two `FlowUpdated` events of different flows handled in either order, each
with its own chain answers: the flows come out the same up to order, and so do
the token entries when the tokens differ; when one event is not the agent's, the
two orders give the same state; on one token, when both events are the agent's,
the entry is the one the event handled last writes, but for its metadata when
the chain answered different metadata. -/
theorem Keyed.handleFlowUpdated_reorder {state : AppState} (keyed : Keyed state)
    (distinct : (state.superTokens.map SuperToken.address).Nodup) {first second : FlowUpdated}
    (firstSelfFree : first.sender ≠ first.receiver) (secondSelfFree : second.sender ≠ second.receiver)
    (different : first.identity ≠ second.identity) (firstAnswers secondAnswers : ChainAnswers) :
    let firstThenSecond :=
      handleFlowUpdated (handleFlowUpdated state first firstAnswers) second secondAnswers
    let secondThenFirst :=
      handleFlowUpdated (handleFlowUpdated state second secondAnswers) first firstAnswers
    firstThenSecond.flows.Perm secondThenFirst.flows ∧
      (first.token ≠ second.token → firstThenSecond.superTokens.Perm secondThenFirst.superTokens) ∧
      (isAgentSender state.agentAddress first.sender first.receiver = false ∨
        isAgentSender state.agentAddress second.sender second.receiver = false →
        firstThenSecond = secondThenFirst) ∧
      (first.token = second.token →
        isAgentSender state.agentAddress first.sender first.receiver = true →
        isAgentSender state.agentAddress second.sender second.receiver = true →
        firstThenSecond.superTokens.map SuperToken.refreshedFields =
            (handleFlowUpdated state second secondAnswers).superTokens.map
              SuperToken.refreshedFields ∧
          secondThenFirst.superTokens.map SuperToken.refreshedFields =
            (handleFlowUpdated state first firstAnswers).superTokens.map
              SuperToken.refreshedFields ∧
          (firstAnswers.metadata = secondAnswers.metadata →
            firstThenSecond.superTokens = (handleFlowUpdated state second secondAnswers).superTokens ∧
              secondThenFirst.superTokens =
                (handleFlowUpdated state first firstAnswers).superTokens)) := by
  intro firstThenSecond secondThenFirst
  have swap : isAgentSender state.agentAddress first.sender first.receiver = false ∨
      isAgentSender state.agentAddress second.sender second.receiver = false →
      firstThenSecond = secondThenFirst
    | .inl skipped => handleFlowUpdated_swap_of_not_involved skipped _ _
    | .inr skipped => (handleFlowUpdated_swap_of_not_involved skipped _ _).symm
  by_cases both : isAgentSender state.agentAddress first.sender first.receiver = true ∧
      isAgentSender state.agentAddress second.sender second.receiver = true
  case neg =>
    have same := swap (by simpa only [Bool.not_eq_true, not_and_or] using both)
    exact ⟨same ▸ .refl _, fun _ => same ▸ .refl _, swap, fun _ h h' => absurd ⟨h, h'⟩ both⟩
  obtain ⟨firstInvolved, secondInvolved⟩ := both
  have regularFirst : first.Regular state.agentAddress :=
    ⟨firstSelfFree, (isAgentSender_eq_true_iff _ _ _).mp firstInvolved⟩
  have regularSecond : second.Regular state.agentAddress :=
    ⟨secondSelfFree, (isAgentSender_eq_true_iff _ _ _).mp secondInvolved⟩
  refine ⟨?_, fun differentToken => ?_, swap, fun sameToken _ _ => ⟨?_, ?_, fun sameMetadata => ⟨?_, ?_⟩⟩⟩ <;>
    simp only [firstThenSecond, secondThenFirst, handleFlowUpdated_of_involved, firstInvolved,
      secondInvolved]
  · exact keyed.updateFlows_comm regularFirst regularSecond different _ _
  · exact updateSuperTokens_comm distinct differentToken _ _ _ _ _ _
  · exact sameToken ▸ updateSuperTokens_last_wins_fields distinct _ _ _ _ _ _ _
  · exact sameToken ▸ updateSuperTokens_last_wins_fields distinct _ _ _ _ _ _ _
  · exact sameToken ▸ updateSuperTokens_last_wins distinct sameMetadata _ _ _ _ _
  · exact sameToken ▸ updateSuperTokens_last_wins distinct sameMetadata.symm _ _ _ _ _

/-- The store moves from one state object to the next by handling one event. -/
def StoreStep (state next : AppState) : Prop :=
  ∃ event answers, SuperfluidAragon.reduce (some state) event answers = some next

theorem registryConsistent_empty (agentAddress : Address) :
    RegistryConsistent ⟨agentAddress, [], []⟩ :=
  ⟨List.nodup_nil, fun _ member => absurd member (List.not_mem_nil _)⟩

theorem RegistryConsistent.steps {state later : AppState} (consistent : RegistryConsistent state)
    (continued : Relation.ReflTransGen StoreStep state later) :
    RegistryConsistent later ∧ Persists state later := by
  induction continued with
  | refl => exact ⟨consistent, persists_refl state⟩
  | tail _ step induction =>
      obtain ⟨_, _, handled⟩ := step
      obtain ⟨next, persists⟩ := induction.1.reduce handled
      exact ⟨next, induction.2.trans persists⟩

/-- From a state with no flows and no tokens, every state object the store
reaches has distinct token addresses and a token entry for every flow, so the
Flows view finds the details of every row; and every later state object still
holds every token address and every flow of the earlier one. -/
theorem registry_consistent_and_persistent {agentAddress : Address} {state later : AppState}
    (reached : Relation.ReflTransGen StoreStep ⟨agentAddress, [], []⟩ state)
    (continued : Relation.ReflTransGen StoreStep state later) :
    (state.superTokens.map SuperToken.address).Nodup ∧
      (∀ flow ∈ state.flows, (tokenDetails state.superTokens flow.superTokenAddress).isSome) ∧
      Persists state later := by
  obtain ⟨consistent, -⟩ := (registryConsistent_empty agentAddress).steps reached
  refine ⟨consistent.addressesDistinct, fun flow member => ?_,
    (consistent.steps continued).2⟩
  obtain ⟨token, listed, same⟩ := List.mem_map.mp (consistent.flowTokensListed flow member)
  exact (tokenDetails_isSome_iff _ _).mpr ⟨token, listed, same⟩

theorem registry_consistent_after_first_flow :
    let start : AppState := ⟨⟨0⟩, [], []⟩
    let answers : ChainAnswers := ⟨10, 0, ⟨18, "Super DAI", "DAIx"⟩⟩
    let next := handleFlowUpdated start ⟨⟨1⟩, ⟨0⟩, ⟨2⟩, 5, -5, 5⟩ answers
    Relation.ReflTransGen StoreStep ⟨⟨0⟩, [], []⟩ next ∧ Relation.ReflTransGen StoreStep next next ∧
      (next.superTokens.map SuperToken.address).Nodup ∧
      (∀ flow ∈ next.flows, (tokenDetails next.superTokens flow.superTokenAddress).isSome) ∧
      Persists next next := by
  intro start answers next
  have reached : Relation.ReflTransGen StoreStep ⟨⟨0⟩, [], []⟩ next :=
    .single ⟨.flowUpdated _, answers, rfl⟩
  exact ⟨reached, .refl, registry_consistent_and_persistent reached .refl⟩

/-! ## Each entry over a run -/

/-- The store's events handled one after another, each with the chain's answers. -/
def replay (state : Option AppState) (events : List (StoreEvent × ChainAnswers)) :
    Option AppState :=
  events.foldl (fun state handled => SuperfluidAragon.reduce state handled.1 handled.2) state

@[simp] theorem replay_append (state : Option AppState) (events : List (StoreEvent × ChainAnswers))
    (handled : StoreEvent × ChainAnswers) :
    replay state (events ++ [handled]) =
      SuperfluidAragon.reduce (replay state events) handled.1 handled.2 := by
  simp [replay]

/-- Whether handling an event refreshes the registry entry of `token`. -/
def StoreEvent.touches (agentAddress token : Address) : StoreEvent → Bool
  | .flowUpdated event =>
    isAgentSender agentAddress event.sender event.receiver && addressesEqual event.token token
  | .vault event => addressesEqual event.token token
  | .setAgent _ => false

/-- The first event of a run that touches `token`, with the chain's answers to it. -/
def firstTouch (agentAddress token : Address) (events : List (StoreEvent × ChainAnswers)) :
    Option (StoreEvent × ChainAnswers) :=
  events.find? (·.1.touches agentAddress token)

/-- The last event of a run that touches `token`, with the chain's answers to it. -/
def lastTouch (agentAddress token : Address) (events : List (StoreEvent × ChainAnswers)) :
    Option (StoreEvent × ChainAnswers) :=
  events.reverse.find? (·.1.touches agentAddress token)

@[simp] theorem firstTouch_append (agentAddress token : Address)
    (events : List (StoreEvent × ChainAnswers)) (handled : StoreEvent × ChainAnswers) :
    firstTouch agentAddress token (events ++ [handled]) =
      (firstTouch agentAddress token events).or
        (if handled.1.touches agentAddress token then some handled else none) := by
  simp only [firstTouch, List.find?_append, List.find?_singleton]

@[simp] theorem lastTouch_append (agentAddress token : Address)
    (events : List (StoreEvent × ChainAnswers)) (handled : StoreEvent × ChainAnswers) :
    lastTouch agentAddress token (events ++ [handled]) =
      if handled.1.touches agentAddress token then some handled
      else lastTouch agentAddress token events := by
  simp only [lastTouch, List.reverse_append, List.reverse_singleton, List.singleton_append,
    List.find?_cons]
  split <;> simp_all

/-- The net flow a handled event writes into the entry it refreshes: the agent's side of the
total rates a `FlowUpdated` carries; a vault event writes none (`netFlow` is `undefined`). -/
def StoreEvent.netFlow (agentAddress : Address) : StoreEvent → Option Int
  | .flowUpdated event => some (if addressesEqual agentAddress event.sender then
      event.totalSenderFlowRate else event.totalReceiverFlowRate)
  | .vault _ | .setAgent _ => none

/-- The net flow written by the last event of a run that touches `token` and writes one, or
the `0` of a new entry when there is none. -/
def lastNetFlow (agentAddress token : Address) (events : List (StoreEvent × ChainAnswers)) :
    Int :=
  ((events.filterMap fun handled =>
    if handled.1.touches agentAddress token then handled.1.netFlow agentAddress
    else none).getLast?).getD 0

@[simp] theorem lastNetFlow_append (agentAddress token : Address)
    (events : List (StoreEvent × ChainAnswers)) (handled : StoreEvent × ChainAnswers) :
    lastNetFlow agentAddress token (events ++ [handled]) =
      if handled.1.touches agentAddress token then
        (handled.1.netFlow agentAddress).getD (lastNetFlow agentAddress token events)
      else lastNetFlow agentAddress token events := by
  unfold lastNetFlow
  split <;> rename_i touching
  · cases written : handled.1.netFlow agentAddress <;> simp [touching, written]
  · simp [touching]

theorem lastNetFlow_eq_zero {agentAddress token : Address}
    {events : List (StoreEvent × ChainAnswers)}
    (untouched : firstTouch agentAddress token events = none) :
    lastNetFlow agentAddress token events = 0 := by
  have none := List.find?_eq_none.mp untouched
  rw [lastNetFlow, List.filterMap_eq_nil_iff.mpr fun handled member => by
    simp [none handled member]]
  rfl

/-- What `newSuperToken` loaded into an entry. -/
def SuperToken.metadata (token : SuperToken) : TokenMetadata :=
  ⟨token.decimals, token.name, token.symbol⟩

@[simp] theorem refreshSuperToken_metadata (token : SuperToken) (tokenAddress : Address)
    (updateTimestamp balance : Int) (netFlow : Option Int) :
    (refreshSuperToken token tokenAddress updateTimestamp balance netFlow).metadata =
      token.metadata := rfl

@[simp] theorem newSuperToken_metadata (tokenAddress : Address) (metadata : TokenMetadata) :
    (newSuperToken tokenAddress metadata).metadata = metadata := rfl

/-- The entry of `token` after `updateSuperTokens`: the refreshed entry of `tokenAddress`,
built on the one it had or on a new one, and any other token's entry as it was. -/
theorem find?_updateSuperTokens {state : AppState}
    (distinct : (state.superTokens.map SuperToken.address).Nodup) (answers : ChainAnswers)
    (tokenAddress : Address) (updateTimestamp : Int) (netFlow : Option Int) (token : Address) :
    (updateSuperTokens state answers tokenAddress updateTimestamp netFlow).find?
        (·.address = token) =
      if tokenAddress = token then
        some (refreshSuperToken ((state.superTokens.find? (·.address = tokenAddress)).getD
          (newSuperToken tokenAddress answers.metadata)) tokenAddress updateTimestamp
          answers.balance netFlow)
      else state.superTokens.find? (·.address = token) := by
  rw [updateSuperTokens_eq_upsert state distinct, @find?_upsert _ _ _ SuperToken.address
    tokenAddress (refreshSuperToken · tokenAddress updateTimestamp answers.balance netFlow) _
    (fun _ _ => rfl) rfl]
  split
  · cases state.superTokens.find? (·.address = tokenAddress) <;> rfl
  · rfl

/-- What a state a run reaches holds token by token: each entry carries the metadata
answered at the first event touching its token, and the balance and block time answered at
the last; a token no event touched has no entry. -/
structure EntriesTrack (agentAddress : Address) (events : List (StoreEvent × ChainAnswers))
    (state : AppState) : Prop where
  agent : state.agentAddress = agentAddress
  consistent : RegistryConsistent state
  metadata : ∀ token, (state.superTokens.find? (·.address = token)).map SuperToken.metadata =
    (firstTouch agentAddress token events).map (·.2.metadata)
  refreshed : ∀ token, (state.superTokens.find? (·.address = token)).map
      (fun entry => (entry.balance, entry.lastUpdateTimestamp)) =
    (lastTouch agentAddress token events).map fun last => (last.2.balance, last.2.timestamp)
  netFlow : ∀ token, (state.superTokens.find? (·.address = token)).map SuperToken.netFlow =
    (firstTouch agentAddress token events).map fun _ => lastNetFlow agentAddress token events

section Entries

variable {agentAddress : Address} {events : List (StoreEvent × ChainAnswers)} {state : AppState}

/-- An event that leaves the registry as it was touches no token. -/
theorem EntriesTrack.skip (tracks : EntriesTrack agentAddress events state) {event : StoreEvent}
    (answers : ChainAnswers) (untouched : ∀ token, event.touches agentAddress token = false) :
    EntriesTrack agentAddress (events ++ [(event, answers)]) state :=
  ⟨tracks.agent, tracks.consistent, fun token => by simp [untouched, tracks.metadata],
    fun token => by simp [untouched, tracks.refreshed],
    fun token => by simp [untouched, tracks.netFlow]⟩

/-- An event whose handler refreshes the entry of `tokenAddress` touches that token only. -/
theorem EntriesTrack.refresh (tracks : EntriesTrack agentAddress events state) {event : StoreEvent}
    {answers : ChainAnswers} {tokenAddress : Address} {netFlow : Option Int} {next : AppState}
    (touching : ∀ token, event.touches agentAddress token = decide (tokenAddress = token))
    (written : netFlow = event.netFlow agentAddress)
    (agent : next.agentAddress = agentAddress) (consistent : RegistryConsistent next)
    (refreshed : next.superTokens =
      updateSuperTokens state answers tokenAddress answers.timestamp netFlow) :
    EntriesTrack agentAddress (events ++ [(event, answers)]) next := by
  have distinct := tracks.consistent.addressesDistinct
  refine ⟨agent, consistent, fun token => ?_, fun token => ?_, fun token => ?_⟩ <;>
    rw [refreshed, find?_updateSuperTokens distinct] <;> by_cases same : tokenAddress = token
  · -- the entry keeps what it had, or takes the metadata answered now
    subst same
    have before := tracks.metadata tokenAddress
    cases old : state.superTokens.find? (·.address = tokenAddress) <;>
      cases first : firstTouch agentAddress tokenAddress events <;> simp_all
  · simpa [touching, same] using tracks.metadata token
  · simp [touching, same]
  · simpa [touching, same] using tracks.refreshed token
  · -- the net flow written now, or the one the entry had, `0` for a new one
    subst same
    have before := tracks.netFlow tokenAddress
    cases old : state.superTokens.find? (·.address = tokenAddress) <;>
      cases first : firstTouch agentAddress tokenAddress events <;>
      simp_all [lastNetFlow_eq_zero]
  · simpa [touching, same] using tracks.netFlow token

theorem EntriesTrack.step (tracks : EntriesTrack agentAddress events state) {event : StoreEvent}
    {answers : ChainAnswers} {next : AppState}
    (handled : SuperfluidAragon.reduce (some state) event answers = some next) :
    EntriesTrack agentAddress (events ++ [(event, answers)]) next := by
  have consistent := (tracks.consistent.reduce handled).1
  cases event with
  | flowUpdated event =>
    simp only [SuperfluidAragon.reduce, Option.some.injEq] at handled
    subst handled
    cases involved : isAgentSender state.agentAddress event.sender event.receiver
    · rw [handleFlowUpdated_of_not_involved answers involved]
      exact tracks.skip answers fun token => by simp [StoreEvent.touches, ← tracks.agent, involved]
    · rw [handleFlowUpdated_of_involved answers involved] at consistent ⊢
      exact tracks.refresh (fun token => by
          simp [StoreEvent.touches, ← tracks.agent, involved, addressesEqual])
        (by simp [StoreEvent.netFlow, tracks.agent]) tracks.agent consistent rfl
  | vault event =>
    simp only [SuperfluidAragon.reduce, Option.some.injEq] at handled
    subst handled
    exact tracks.refresh (fun token => by simp [StoreEvent.touches, addressesEqual]) rfl
      tracks.agent consistent rfl
  | setAgent event => simp [SuperfluidAragon.reduce, handleSetAgent] at handled

theorem EntriesTrack.replay (ran : replay (some ⟨agentAddress, [], []⟩) events = some state) :
    EntriesTrack agentAddress events state := by
  induction events using List.reverseRecOn generalizing state with
  | nil =>
    obtain rfl := Option.some.inj ran
    exact ⟨rfl, registryConsistent_empty agentAddress, by simp [firstTouch],
      by simp [lastTouch], by simp [firstTouch]⟩
  | append_singleton events handled induction =>
    rw [replay_append] at ran
    cases before : SuperfluidAragon.replay (some ⟨agentAddress, [], []⟩) events with
    | none => simp [before, SuperfluidAragon.reduce] at ran
    | some previous =>
      rw [before] at ran
      exact (induction before).step ran

end Entries

/-- Over every run of the store from a state with no flows and no tokens, the registry has
an entry for exactly the tokens the run's events touched. Each entry carries the decimals,
name and symbol the chain answered at the first event that touched its token, loaded once
and never refreshed; the balance and block time answered at the last one; and the agent's
total rate carried by the last `FlowUpdated` among them, kept through later vault events,
and `0` when there is none. -/
theorem token_entries_follow_events {agentAddress : Address}
    {events : List (StoreEvent × ChainAnswers)} {state : AppState}
    (ran : replay (some ⟨agentAddress, [], []⟩) events = some state) (token : Address) :
    (state.superTokens.find? (·.address = token)).map SuperToken.metadata =
        (firstTouch agentAddress token events).map (·.2.metadata) ∧
      (state.superTokens.find? (·.address = token)).map
          (fun entry => (entry.balance, entry.lastUpdateTimestamp)) =
        (lastTouch agentAddress token events).map (fun last => (last.2.balance, last.2.timestamp)) ∧
      (state.superTokens.find? (·.address = token)).map SuperToken.netFlow =
        (firstTouch agentAddress token events).map fun _ => lastNetFlow agentAddress token events :=
  have tracks := EntriesTrack.replay ran
  ⟨tracks.metadata token, tracks.refreshed token, tracks.netFlow token⟩

/-- A deposit of a new token, then a stream to the agent in it, the chain answering other
metadata the second time. -/
def depositThenStream : List (StoreEvent × ChainAnswers) :=
  [(.vault ⟨⟨1⟩⟩, ⟨5, 100, ⟨18, "Super DAI", "DAIx"⟩⟩),
    (.flowUpdated ⟨⟨1⟩, ⟨2⟩, ⟨0⟩, 3, -3, 3⟩, ⟨9, 73, ⟨6, "Other", "OTHx"⟩⟩)]

def afterDepositThenStream : AppState :=
  handleFlowUpdated (handleVaultEvent ⟨⟨0⟩, [], []⟩ ⟨⟨1⟩⟩ ⟨5, 100, ⟨18, "Super DAI", "DAIx"⟩⟩)
    ⟨⟨1⟩, ⟨2⟩, ⟨0⟩, 3, -3, 3⟩ ⟨9, 73, ⟨6, "Other", "OTHx"⟩⟩

theorem token_entries_follow_events_after_deposit :
    replay (some ⟨⟨0⟩, [], []⟩) depositThenStream = some afterDepositThenStream ∧
      (afterDepositThenStream.superTokens.find? (·.address = ⟨1⟩)).map SuperToken.metadata =
        (firstTouch ⟨0⟩ ⟨1⟩ depositThenStream).map (·.2.metadata) ∧
      (afterDepositThenStream.superTokens.find? (·.address = ⟨1⟩)).map
          (fun entry => (entry.balance, entry.lastUpdateTimestamp)) =
        (lastTouch ⟨0⟩ ⟨1⟩ depositThenStream).map (fun last => (last.2.balance, last.2.timestamp)) ∧
      (afterDepositThenStream.superTokens.find? (·.address = ⟨1⟩)).map SuperToken.netFlow =
        (firstTouch ⟨0⟩ ⟨1⟩ depositThenStream).map fun _ => lastNetFlow ⟨0⟩ ⟨1⟩ depositThenStream :=
  have ran : replay (some ⟨⟨0⟩, [], []⟩) depositThenStream = some afterDepositThenStream := rfl
  ⟨ran, token_entries_follow_events ran ⟨1⟩⟩

example : (afterDepositThenStream.superTokens.find? (·.address = ⟨1⟩)).map
    (fun entry => (entry.symbol, entry.balance, entry.netFlow)) = some ("DAIx", 73, 3) := by
  decide

/-- A `SetAgent` event leaves the store without a state object. -/
theorem setAgent_leaves_no_state :
    SuperfluidAragon.reduce (some ⟨⟨0⟩, [], []⟩) (.setAgent ⟨⟨7⟩⟩) ⟨0, 0, ⟨18, "", ""⟩⟩ = none :=
  rfl

end SuperfluidAragon
