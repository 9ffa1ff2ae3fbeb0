import SuperfluidAragon.Hooks.ConvertRates
import Mathlib.Algebra.Order.Field.Rat
import Mathlib.Tactic.NormNum

/-! The retry delays of the convert-rates poller. `retryDelay` is a ref shared by every
effect instance; a failed fetch multiplies it by `1.2` up to `CONVERT_API_RETRY_DELAY_MAX`
and schedules the retry with it, a success or a cleanup puts it back to the floor. The
delay of a retry is thus `min(2000 · (6/5)^n, 60000)`, with `n` the failures of the
retrying instance since it started or last succeeded, read off the run's own events. -/

namespace SuperfluidAragon.ConvertRates

open Foundation

/-- The runs of the runtime: the events in the order they happened, and the state they
reach from the mounted hook. -/
inductive Run : List Event → Hook → Prop
  | initial : Run [] Hook.initial
  | step {events : List Event} {hook next : Hook} {event : Event} {writes : List Write} :
      Run events hook → step hook event = some (next, writes) → Run (events ++ [event]) next

theorem Run.reachable {events : List Event} {hook : Hook} (ran : Run events hook) :
    Reachable hook := by
  induction ran with
  | initial => exact .initial
  | step _ stepped reachable => exact .step reachable stepped

/-- How one event moves the count of instance `i`'s consecutive failed fetches. -/
def countFailures (i n : Nat) : Event → Nat
  | .settle owner outcome => if owner = i then (if outcome.failed then n + 1 else 0) else n
  | _ => n

/-- The fetches of instance `i` that failed in a run since it started or last succeeded. -/
def failuresSinceSuccess (i : Nat) (events : List Event) : Nat :=
  events.foldl (countFailures i) 0

@[simp] theorem failuresSinceSuccess_append (i : Nat) (events : List Event) (event : Event) :
    failuresSinceSuccess i (events ++ [event]) =
      countFailures i (failuresSinceSuccess i events) event := by
  simp [failuresSinceSuccess]

/-- `min(2000 · (6/5)^n, 60000)`: the delay after `n` consecutive failures. -/
def backoffDelay (n : Nat) : ℚ :=
  min (convertApiRetryDelay * (6 / 5) ^ n) convertApiRetryDelayMax

theorem backoffDelay_zero : backoffDelay 0 = convertApiRetryDelay := by
  norm_num [backoffDelay, convertApiRetryDelay, convertApiRetryDelayMax]

/-- One more failure: `Math.min(MAX, retryDelay * 1.2)` takes the delay after `n` failures
to the delay after `n + 1`, capped or not. -/
theorem backoffDelay_succ (n : Nat) :
    min convertApiRetryDelayMax (backoffDelay n * (6 / 5)) = backoffDelay (n + 1) := by
  have grows : convertApiRetryDelayMax ≤ convertApiRetryDelayMax * (6 / 5) := by
    norm_num [convertApiRetryDelayMax]
  calc min convertApiRetryDelayMax (backoffDelay n * (6 / 5))
      = min convertApiRetryDelayMax (min (convertApiRetryDelay * (6 / 5) ^ (n + 1))
          (convertApiRetryDelayMax * (6 / 5))) := by
        rw [backoffDelay, min_mul_of_nonneg _ _ (by norm_num), pow_succ, mul_assoc]
    _ = backoffDelay (n + 1) := by
        rw [min_comm, min_assoc, min_eq_right grows, backoffDelay]

/-! ## The shared delay and the run's failures -/

/-- The shared `retryDelay` is where the live instance's failures have taken it, and the
floor when no instance is live. -/
structure DelayTracks (hook : Hook) : Prop where
  live : ∀ (i : Nat) (effect : Effect), hook.effects[i]? = some effect →
    effect.cancelled = false → hook.retryDelay = backoffDelay effect.failures
  idle : (∀ effect ∈ hook.effects, effect.cancelled = true) → hook.retryDelay = convertApiRetryDelay

/-- A live instance's failure count is the run's count of its failures since it started or
last succeeded; an instance not started yet has none in the run. -/
structure FailuresCounted (events : List Event) (hook : Hook) : Prop where
  live : ∀ (i : Nat) (effect : Effect), hook.effects[i]? = some effect →
    effect.cancelled = false → effect.failures = failuresSinceSuccess i events
  notStarted : ∀ i, hook.effects.length ≤ i → failuresSinceSuccess i events = 0

section Steps

variable {hook : Hook} {event : Event} {result : Hook × List Write}

theorem DelayTracks.step (good : Good hook) (delays : DelayTracks hook)
    (stepped : step hook event = some result) : DelayTracks result.1 := by
  rcases step_eq_some good stepped with ⟨key, -, allCancelled, rfl⟩ | ⟨effect, -, found, live, rfl⟩ |
    ⟨owner, outcome, -, -, rfl⟩ | ⟨timer, -, -, rfl⟩
  · -- the new instance starts from the floor the cleanups left
    refine ⟨fun i updated found' live' => ?_, fun cancelled => ?_⟩
    · rw [runEffect_effects] at found'
      rcases getElem?_append_singleton found' with old | ⟨-, rfl⟩
      · simp [allCancelled updated (List.getElem?_mem old)] at live'
      · rw [runEffect_retryDelay, delays.idle allCancelled, backoffDelay_zero]
    · simpa using cancelled ⟨key, false, none, 0⟩ (by simp)
  · -- the cleanup puts the floor back and leaves no instance live
    refine ⟨fun i cleaned found' live' => ?_, fun _ => rfl⟩
    rw [runCleanup_effects] at found'
    obtain ⟨old, oldFound, rfl⟩ := getElem?_modify_some found'
    split at live'
    · simp at live'
    · exact absurd (good.live_unique found live oldFound live') ‹_›
  · rcases settle_cases hook owner outcome with ⟨dropped, -⟩ | ⟨effect, found, live, handled⟩
    · rw [dropped]
      exact ⟨delays.live, delays.idle⟩
    · -- the live instance's outcome moves the delay one step, or back to the floor
      rw [handled]
      have current := good.newestLive owner effect found live
      have within : owner < (handleOutcome { hook with fetches := hook.fetches.erase owner }
          owner outcome).1.effects.length := by
        simp
        omega
      refine ⟨fun i updated found' live' => ?_, fun cancelled => ?_⟩
      · obtain ⟨old, oldFound, sameCancelled, failures⟩ :=
          handleOutcome_failures _ _ outcome found'
        obtain rfl := good.live_unique oldFound (sameCancelled ▸ live') found live
        obtain rfl := Option.some.inj (oldFound.symm.trans found)
        rw [handleOutcome_retryDelay, failures, if_pos rfl]
        cases outcome.failed
        · simp [backoffDelay_zero]
        · simp [delays.live _ old found live, backoffDelay_succ]
      · obtain ⟨old, oldFound, sameCancelled, -⟩ :=
          handleOutcome_failures _ _ outcome (List.getElem?_eq_getElem within)
        obtain rfl := Option.some.inj (oldFound.symm.trans found)
        have := cancelled _ (List.getElem_mem within)
        simp [sameCancelled, live] at this
  · exact ⟨by simpa using delays.live, by simpa using delays.idle⟩

theorem FailuresCounted.step {events : List Event} (good : Good hook)
    (counted : FailuresCounted events hook) (stepped : step hook event = some result) :
    FailuresCounted (events ++ [event]) result.1 := by
  rcases step_eq_some good stepped with ⟨key, rfl, allCancelled, rfl⟩ | ⟨effect, rfl, -, -, rfl⟩ |
    ⟨owner, outcome, rfl, inFlight, rfl⟩ | ⟨timer, rfl, -, rfl⟩
  · -- a new instance has no failure in the run yet
    refine ⟨fun i updated found' live' => ?_, fun i beyond => ?_⟩
    · rw [runEffect_effects] at found'
      rcases getElem?_append_singleton found' with old | ⟨rfl, rfl⟩
      · simp [allCancelled updated (List.getElem?_mem old)] at live'
      · simp [countFailures, counted.notStarted _ le_rfl]
    · simp only [runEffect_effects, List.length_append, List.length_singleton] at beyond
      simp [countFailures, counted.notStarted i (by omega)]
  · refine ⟨fun i cleaned found' live' => ?_, fun i beyond => ?_⟩
    · rw [runCleanup_effects] at found'
      obtain ⟨old, oldFound, rfl⟩ := getElem?_modify_some found'
      by_cases same : hook.effects.length - 1 = i
      · simp [same] at live'
      · rw [if_neg same] at live' ⊢
        simpa [countFailures] using counted.live i old oldFound live'
    · simpa [countFailures] using counted.notStarted i (by simpa using beyond)
  · -- only the settled fetch's instance counts the event
    refine ⟨fun i updated found' live' => ?_, fun i beyond => ?_⟩
    · rcases settle_cases hook owner outcome with ⟨dropped, idle⟩ | ⟨-, -, -, handled⟩
      · rw [dropped] at found'
        have other : owner ≠ i := by
          rintro rfl
          simp [idle updated found'] at live'
        simpa [countFailures, other] using counted.live i updated found' live'
      · rw [handled] at found'
        obtain ⟨old, oldFound, sameCancelled, failures⟩ :=
          handleOutcome_failures _ _ outcome found'
        simp only [failures, failuresSinceSuccess_append, countFailures,
          counted.live i old oldFound (sameCancelled ▸ live')]
    · rw [settle_effects_length] at beyond
      have := good.fetchOwners owner inFlight
      simpa [countFailures, show owner ≠ i by omega] using counted.notStarted i beyond
  · exact ⟨fun i effect found' live' => by
      simpa [countFailures] using counted.live i effect (by simpa using found') live',
      fun i beyond => by simpa [countFailures] using counted.notStarted i (by simpa using beyond)⟩

end Steps

theorem Run.invariants {events : List Event} {hook : Hook} (ran : Run events hook) :
    Good hook ∧ DelayTracks hook ∧ FailuresCounted events hook := by
  induction ran with
  | initial =>
    exact ⟨Good.initial, ⟨by simp [Hook.initial], fun _ => rfl⟩,
      ⟨by simp [Hook.initial], fun _ _ => rfl⟩⟩
  | step _ stepped invariants =>
    obtain ⟨good, delays, counted⟩ := invariants
    exact ⟨step_good good stepped, delays.step good stepped, counted.step good stepped⟩

/-! ## The delay of every retry -/

/-- Only a live instance's failed fetch schedules a timer: for that instance, with the delay
`Math.min(MAX, retryDelay * 1.2)`. -/
theorem step_schedules {hook : Hook} {event : Event} {result : Hook × List Write} {timer : Timer}
    (good : Good hook) (stepped : step hook event = some result) (scheduled : timer ∈ result.1.timers)
    (fresh : timer ∉ hook.timers) :
    ∃ outcome effect, event = .settle timer.owner outcome ∧ outcome.failed = true ∧
      hook.effects[timer.owner]? = some effect ∧ effect.cancelled = false ∧
      timer.delay = min convertApiRetryDelayMax (hook.retryDelay * (6 / 5)) ∧
      result.1.effects.length = hook.effects.length := by
  rcases step_eq_some good stepped with ⟨key, -, -, rfl⟩ | ⟨effect, -, -, -, rfl⟩ |
    ⟨owner, outcome, rfl, -, rfl⟩ | ⟨other, -, -, rfl⟩
  · exact absurd (by simpa using scheduled) fresh
  · exact absurd ((clearTimeout_sublist _ _).subset scheduled) fresh
  · rcases settle_cases hook owner outcome with ⟨dropped, -⟩ | ⟨effect, found, live, handled⟩
    · rw [dropped] at scheduled
      exact absurd scheduled fresh
    · rw [handled, handleOutcome_timers, List.mem_append] at scheduled
      rcases scheduled with old | new
      · exact absurd old fresh
      · cases failed : outcome.failed
        · simp [failed] at new
        · rw [failed, if_pos rfl, List.mem_singleton] at new
          subst new
          exact ⟨outcome, effect, rfl, failed, found, live, rfl, by simp [handled]⟩
  · rw [fire_timers] at scheduled
    exact absurd (List.mem_of_mem_filter scheduled) fresh

/-- In every run, a retry is scheduled by the current instance with the delay
`min(2000 · (6/5)^n, 60000)`, where `n ≥ 1` counts that instance's failed fetches in the
run since it started or last succeeded. -/
theorem retry_delay_follows_backoff {events : List Event} {hook next : Hook} {event : Event}
    {writes : List Write} {timer : Timer} (ran : Run events hook)
    (stepped : step hook event = some (next, writes)) (scheduled : timer ∈ next.timers)
    (fresh : timer ∉ hook.timers) :
    timer.owner + 1 = next.effects.length ∧
      0 < failuresSinceSuccess timer.owner (events ++ [event]) ∧
      timer.delay = min (2000 * (6 / 5) ^ failuresSinceSuccess timer.owner (events ++ [event]))
        60000 := by
  obtain ⟨good, delays, counted⟩ := ran.invariants
  obtain ⟨outcome, effect, rfl, failed, found, live, delay, length⟩ :=
    step_schedules good stepped scheduled fresh
  have count : failuresSinceSuccess timer.owner (events ++ [.settle timer.owner outcome]) =
      effect.failures + 1 := by
    simp [countFailures, failed, counted.live _ effect found live]
  have current := good.newestLive _ effect found live
  refine ⟨by simpa [length] using current, by omega, ?_⟩
  rw [count, delay, delays.live _ effect found live, backoffDelay_succ, backoffDelay]
  norm_num [convertApiRetryDelay, convertApiRetryDelayMax]

/-- The retry that `daiInUsd`'s instance schedules after its first failed fetch. -/
def firstRetry : Timer := ⟨0, 0, min convertApiRetryDelayMax (convertApiRetryDelay * (6 / 5))⟩

theorem retry_delay_follows_backoff_after_first_failure :
    Run [.effect daiInUsd] (runEffect Hook.initial daiInUsd).1 ∧
      step (runEffect Hook.initial daiInUsd).1 (.settle 0 .networkFailure) =
        some (afterFirstFailure, (settle (runEffect Hook.initial daiInUsd).1 0 .networkFailure).2) ∧
      firstRetry ∈ afterFirstFailure.timers ∧ firstRetry ∉ (runEffect Hook.initial daiInUsd).1.timers ∧
      firstRetry.owner + 1 = afterFirstFailure.effects.length ∧
      0 < failuresSinceSuccess firstRetry.owner [.effect daiInUsd, .settle 0 .networkFailure] ∧
      firstRetry.delay = min (2000 * (6 / 5) ^ failuresSinceSuccess firstRetry.owner
        [.effect daiInUsd, .settle 0 .networkFailure]) 60000 :=
  have ran : Run [.effect daiInUsd] (runEffect Hook.initial daiInUsd).1 :=
    .step .initial (show step Hook.initial (.effect daiInUsd) =
      some ((runEffect Hook.initial daiInUsd).1, (runEffect Hook.initial daiInUsd).2) from rfl)
  have stepped : step (runEffect Hook.initial daiInUsd).1 (.settle 0 .networkFailure) =
      some (afterFirstFailure, (settle (runEffect Hook.initial daiInUsd).1 0 .networkFailure).2) :=
    rfl
  have scheduled : firstRetry ∈ afterFirstFailure.timers := by
    simp [afterFirstFailure, firstRetry, settle, handleOutcome, daiInUsd, Key.ofArguments,
      Key.enabled, Hook.initial]
  have fresh : firstRetry ∉ (runEffect Hook.initial daiInUsd).1.timers := by simp [Hook.initial]
  ⟨ran, stepped, scheduled, fresh, retry_delay_follows_backoff ran stepped scheduled fresh⟩

end SuperfluidAragon.ConvertRates
