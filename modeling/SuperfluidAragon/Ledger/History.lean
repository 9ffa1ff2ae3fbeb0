import SuperfluidAragon.Ledger.Basic
import Mathlib.Tactic.Ring

/-! What a ledger history says of one stream: the amount streamed on it up to a
time, segment by segment, its rate at the end, and whether it was deleted and
then created again. -/

namespace SuperfluidAragon

namespace Ledger

/-! ## Streamed amounts -/

/-- The amount streamed on `flow` up to `t` when it runs at `rate` from `start`
until the first operation of `history`, and from then on at the rates the
operations set, each segment contributing its rate times its duration. -/
def streamedFrom (flow : FlowId) (rate start : Int) : List (Int × Operation) → Int → Int
  | [], t => rate * (t - start)
  | (time, operation) :: rest, t =>
      rate * (time - start) + streamedFrom flow (operation.rateAfter flow rate) time rest t

/-- The amount streamed on `flow` up to `t` over a ledger history. -/
def streamed (history : List (Int × Operation)) (flow : FlowId) (t : Int) : Int :=
  streamedFrom flow 0 0 history t

/-- The rate of `flow` after a history. -/
def finalRate (flow : FlowId) (rate : Int) (history : List (Int × Operation)) : Int :=
  history.foldl (fun rate step => step.2.rateAfter flow rate) rate

def Operation.creates (flow : FlowId) : Operation → Bool
  | .create target _ => target = flow
  | _ => false

/-- Whether `flow` was deleted somewhere in `history`. -/
def deleted (history : List (Int × Operation)) (flow : FlowId) : Bool :=
  history.any fun step => step.2 = .delete flow

/-- Whether `flow` was created again after a deletion somewhere in `history`. -/
def recreated (flow : FlowId) : List (Int × Operation) → Bool
  | [] => false
  | (_, operation) :: rest =>
      (operation = .delete flow && rest.any fun step => step.2.creates flow) || recreated flow rest

/-- A flow created again after a deletion was deleted. -/
theorem deleted_of_recreated {flow : FlowId} {history : List (Int × Operation)}
    (again : recreated flow history = true) : deleted history flow = true := by
  induction history with
  | nil => simp [recreated] at again
  | cons step rest induction =>
    obtain ⟨t, operation⟩ := step
    simp only [recreated, Bool.or_eq_true, Bool.and_eq_true, decide_eq_true_eq] at again
    simp only [deleted, List.any_cons, Bool.or_eq_true, decide_eq_true_eq] at induction ⊢
    rcases again with ⟨rfl, -⟩ | later
    · exact .inl rfl
    · exact .inr (induction later)

theorem streamedFrom_eq_add (flow : FlowId) (rate start : Int) :
    ∀ (history : List (Int × Operation)) (t t' : Int),
      streamedFrom flow rate start history t =
        streamedFrom flow rate start history t' + finalRate flow rate history * (t - t')
  | [], t, t' => by simp only [streamedFrom, finalRate, List.foldl_nil]; ring
  | (time, operation) :: rest, t, t' => by
      simp only [streamedFrom, finalRate, List.foldl_cons]
      rw [streamedFrom_eq_add flow _ time rest t t', finalRate]
      ring

theorem streamedFrom_append (flow : FlowId) (time : Int) (operation : Operation) :
    ∀ (rate start : Int) (history : List (Int × Operation)) (t : Int),
      streamedFrom flow rate start (history ++ [(time, operation)]) t =
        streamedFrom flow rate start history time +
          operation.rateAfter flow (finalRate flow rate history) * (t - time)
  | rate, start, [], t => by simp [streamedFrom, finalRate]
  | rate, start, (time', operation') :: rest, t => by
      rw [List.cons_append, streamedFrom, streamedFrom,
        streamedFrom_append flow time operation _ time' rest t]
      simp only [finalRate, List.foldl_cons]
      ring

/-- Streaming is additive over segments: the amount up to `t` after one more
operation at `time` is the amount up to `time` plus the new rate over the rest. -/
theorem streamed_append (history : List (Int × Operation)) (flow : FlowId) (time t : Int)
    (operation : Operation) :
    streamed (history ++ [(time, operation)]) flow t =
      streamed history flow time + operation.rateAfter flow (finalRate flow 0 history) * (t - time) :=
  streamedFrom_append flow time operation 0 0 history t

theorem streamed_eq_add (history : List (Int × Operation)) (flow : FlowId) (t t' : Int) :
    streamed history flow t = streamed history flow t' + finalRate flow 0 history * (t - t') :=
  streamedFrom_eq_add flow 0 0 history t t'

theorem finalRate_append (flow : FlowId) (rate : Int) (history : List (Int × Operation))
    (time : Int) (operation : Operation) :
    finalRate flow rate (history ++ [(time, operation)]) =
      operation.rateAfter flow (finalRate flow rate history) := by
  simp [finalRate]

theorem deleted_append (history : List (Int × Operation)) (flow : FlowId) (time : Int)
    (operation : Operation) :
    deleted (history ++ [(time, operation)]) flow =
      (deleted history flow || decide (operation = .delete flow)) := by
  simp [deleted]

theorem recreated_append (flow : FlowId) (time : Int) (operation : Operation) :
    ∀ history : List (Int × Operation),
      recreated flow (history ++ [(time, operation)]) =
        (recreated flow history || deleted history flow && operation.creates flow)
  | [] => by simp [recreated, deleted]
  | (time', operation') :: rest => by
      rw [List.cons_append, recreated, recreated, recreated_append flow time operation rest]
      simp only [deleted, List.any_cons, List.any_append, List.any_nil, Bool.or_false]
      generalize decide (operation' = .delete flow) = deletes
      generalize rest.any (fun step => step.2.creates flow) = createdLater
      generalize rest.any (fun step => decide (step.2 = .delete flow)) = deletedBefore
      generalize operation.creates flow = createsNow
      generalize recreated flow rest = recreatedBefore
      cases deletes <;> cases createdLater <;> cases deletedBefore <;> cases createsNow <;>
        cases recreatedBefore <;> rfl

/-! ## Operations on other flows -/

section Other

variable {flow : FlowId} {operation : Operation} (other : operation.flow? ≠ some flow)
include other

theorem creates_of_ne : operation.creates flow = false := by
  cases operation <;> simp_all [Operation.creates, Operation.flow?]

theorem deleted_append_of_ne (history : List (Int × Operation)) (time : Int) :
    deleted (history ++ [(time, operation)]) flow = deleted history flow := by
  rw [deleted_append]
  cases operation <;> simp_all [Operation.flow?]

theorem recreated_append_of_ne (history : List (Int × Operation)) (time : Int) :
    recreated flow (history ++ [(time, operation)]) = recreated flow history := by
  rw [recreated_append, creates_of_ne other]; simp

/-- An operation on another flow does not change what was streamed on `flow`. -/
theorem streamed_append_of_ne (history : List (Int × Operation)) (time t : Int) :
    streamed (history ++ [(time, operation)]) flow t = streamed history flow t := by
  rw [streamed_append, rateAfter_of_ne other, streamed_eq_add history flow t time]

end Other

/-! ## What the ledger keeps of its history -/

/-- What a ledger reached by `history` keeps of it: its streams well formed,
each rate the last one the history set, and a stream that runs after a
deletion created again since. -/
structure HistoryTracks (ledger : Ledger) (history : List (Int × Operation)) : Prop where
  wellFormed : ledger.WellFormed
  rateFollowsHistory : ∀ flow, ledger.rate flow = finalRate flow 0 history
  reopenedRecreated : ∀ flow, deleted history flow = true → 0 < ledger.rate flow →
    recreated flow history = true

theorem historyTracks_empty : HistoryTracks empty [] where
  wellFormed := ⟨List.nodup_nil, fun _ member => absurd member (List.not_mem_nil _),
    fun _ member => absurd member (List.not_mem_nil _)⟩
  rateFollowsHistory _ := rfl
  reopenedRecreated _ deletedBefore _ := absurd deletedBefore (by simp [deleted])

namespace HistoryTracks

variable {ledger : Ledger} {history : List (Int × Operation)} (tracks : HistoryTracks ledger history)
  {operation : Operation} (admissible : ledger.Admissible operation) (agentAddress : Address) (t : Int)
include tracks admissible

theorem rate_step (flow : FlowId) :
    ((ledger.settle agentAddress t).execute operation).rate flow =
      operation.rateAfter flow (ledger.rate flow) := by
  rw [(tracks.wellFormed.settle agentAddress t).rate_execute
    ((settle_admissible _ _ _ _).mpr admissible), settle_rate]

/-- One more admitted operation, settled at its block, keeps what the ledger
keeps of its history. -/
theorem step : HistoryTracks ((ledger.settle agentAddress t).execute operation)
    (history ++ [(t, operation)]) where
  wellFormed := (tracks.wellFormed.settle agentAddress t).execute
    ((settle_admissible _ _ _ _).mpr admissible)
  rateFollowsHistory flow := by
    rw [tracks.rate_step admissible, finalRate_append, tracks.rateFollowsHistory]
  reopenedRecreated flow deletedAfter positive := by
    rw [tracks.rate_step admissible] at positive
    by_cases about : operation.flow? = some flow
    · rw [deleted_append] at deletedAfter
      rw [recreated_append]
      cases operation with
      | create target flowRate =>
          cases Option.some.inj about
          simp_all [Operation.creates]
      | update target flowRate =>
          cases Option.some.inj about
          simp [tracks.reopenedRecreated flow (by simpa using deletedAfter) admissible.1]
      | delete target =>
          cases Option.some.inj about
          simp [Operation.rateAfter] at positive
      | transfer _ _ => cases about
    · rw [deleted_append_of_ne about] at deletedAfter
      rw [rateAfter_of_ne about] at positive
      rw [recreated_append_of_ne about]
      exact tracks.reopenedRecreated flow deletedAfter positive

theorem rate_step_of_ne {flow : FlowId} (other : operation.flow? ≠ some flow) :
    ((ledger.settle agentAddress t).execute operation).rate flow = ledger.rate flow := by
  rw [tracks.rate_step admissible, rateAfter_of_ne other]

/-- What was streamed on a flow grows from the operation's block at the rate the
operation leaves. -/
theorem streamed_step (flow : FlowId) (t' : Int) :
    streamed (history ++ [(t, operation)]) flow t' =
      streamed history flow t + ((ledger.settle agentAddress t).execute operation).rate flow * (t' - t) := by
  rw [streamed_append, ← tracks.rateFollowsHistory, tracks.rate_step admissible]

omit tracks in
/-- The only operation the flow agreement admits on a closed flow creates it. -/
theorem create_of_closed {flow : FlowId} (about : operation.flow? = some flow)
    (closed : ledger.rate flow = 0) : ∃ flowRate, operation = .create flow flowRate ∧ 0 < flowRate := by
  cases operation <;> cases about
  · exact ⟨_, rfl, admissible.2.2⟩
  all_goals simp [Admissible, closed] at admissible

/-- A deleted flow that an operation touches again counts as created again. -/
theorem recreated_step {flow : FlowId} (about : operation.flow? = some flow)
    (deletedBefore : deleted history flow = true) :
    recreated flow (history ++ [(t, operation)]) = true := by
  rw [recreated_append]
  cases operation <;> cases about
  · simp [deletedBefore, Operation.creates]
  · simp [tracks.reopenedRecreated _ deletedBefore admissible.1]
  · simp [tracks.reopenedRecreated _ deletedBefore admissible]

end HistoryTracks

end Ledger

end SuperfluidAragon
