import SuperfluidAragon.Hooks.Backoff

/-! The convert-rates hook over a run, read off the run's own events: the rates it returns
(`observe` folds the events into them, and every run refines that fold), one successful
fetch per instance, and the poller's guarantees, among them that a live instance whose
last fetch failed has its retry pending. -/

namespace SuperfluidAragon.ConvertRates

open Foundation

/-! ## The rates a run's events determine -/

/-- What a run's events say about the hook: how many instances were cleaned up, and the
rates the hook returns. -/
structure Observed where
  cleanups : Nat
  rates : Rates
  deriving DecidableEq, Repr

/-- One event as the hook's output sees it. The fetch of instance `owner` settles while
the instance is live exactly when at most `owner` instances were cleaned up. -/
def observe (seen : Observed) : Event → Observed
  | .effect key => if key.enabled then seen else { seen with rates := ⟨[]⟩ }
  | .cleanup => { seen with cleanups := seen.cleanups + 1 }
  | .settle owner (.success rates) =>
    if seen.cleanups ≤ owner then { seen with rates := normalizeRates rates } else seen
  | .settle _ .networkFailure | .settle _ .undecodableBody | .fire _ => seen

/-- The rates a run's events determine, from the mounted hook's `{}`. -/
def observed (events : List Event) : Observed :=
  events.foldl observe ⟨0, ⟨[]⟩⟩

@[simp] theorem observed_append (events : List Event) (event : Event) :
    observed (events ++ [event]) = observe (observed events) event := by
  simp [observed]

/-- Only a cleanup counts. -/
theorem observe_cleanups (seen : Observed) (event : Event) :
    (observe seen event).cleanups = seen.cleanups + if event = .cleanup then 1 else 0 := by
  unfold observe
  split <;> (try split) <;> simp_all

/-- The cleanups of a run are its cleanup events. -/
theorem observed_cleanups (events : List Event) :
    (observed events).cleanups = events.count .cleanup := by
  induction events using List.reverseRecOn with
  | nil => rfl
  | append_singleton events event induction =>
    rw [observed_append, observe_cleanups, induction, List.count_append, List.count_singleton']

/-- The hook agrees with what its run's events say: the same rates, and the instances
cleaned up are exactly those below the number of cleanups, which is the number of
instances or one less. -/
structure ObservedBy (seen : Observed) (hook : Hook) : Prop where
  rates : hook.rates = seen.rates
  cleanupsLe : seen.cleanups ≤ hook.effects.length
  lengthLe : hook.effects.length ≤ seen.cleanups + 1
  cancelledIff : ∀ i effect, hook.effects[i]? = some effect →
    (effect.cancelled = true ↔ i < seen.cleanups)

section Steps

variable {seen : Observed} {hook : Hook}

/-- When every instance is cleaned up, so many cleanups were counted. -/
theorem ObservedBy.length_le_of_cancelled (agrees : ObservedBy seen hook)
    (allCancelled : ∀ effect ∈ hook.effects, effect.cancelled = true) :
    hook.effects.length ≤ seen.cleanups := by
  rcases Nat.eq_zero_or_pos hook.effects.length with empty | nonempty
  · omega
  · have last := (agrees.cancelledIff _ _ (List.getElem?_eq_getElem (Nat.sub_lt nonempty
      Nat.one_pos))).mp (allCancelled _ (List.getElem_mem _))
    omega

/-- The outcome of a cleaned-up instance's fetch leaves the observation as it was. -/
theorem observe_settle_of_cleaned {owner : Nat} (cleaned : owner < seen.cleanups)
    (outcome : Outcome) : observe seen (.settle owner outcome) = seen := by
  cases outcome <;> simp [observe, Nat.not_le.mpr cleaned]

/-- A step of the hook is the step of `observe` on its event. -/
theorem ObservedBy.step {event : Event} {result : Hook × List Write} (good : Good hook)
    (agrees : ObservedBy seen hook) (stepped : step hook event = some result) :
    ObservedBy (observe seen event) result.1 := by
  rcases step_eq_some good stepped with ⟨key, rfl, allCancelled, rfl⟩ | ⟨effect, rfl, found, live, rfl⟩ |
    ⟨owner, outcome, rfl, inFlight, rfl⟩ | ⟨timer, rfl, pending, rfl⟩
  · -- every instance so far was cleaned up, and the new one is live
    have cleaned := agrees.length_le_of_cancelled allCancelled
    have := agrees.cleanupsLe
    refine ⟨?_, by simp [observe_cleanups]; omega, by simp [observe_cleanups]; omega,
      fun i effect found' => ?_⟩
    · cases enabled : key.enabled <;> simp [observe, enabled, agrees.rates]
    · rw [runEffect_effects] at found'
      rw [observe_cleanups, if_neg (by simp)]
      rcases getElem?_append_singleton found' with old | ⟨rfl, rfl⟩
      · simpa using agrees.cancelledIff i effect old
      · simpa using agrees.cleanupsLe
  · -- the cleanup cancels the current instance, the one the count had not reached
    have nonempty := (List.getElem?_eq_some_iff.mp found).1
    have current : hook.effects.length - 1 = seen.cleanups := by
      have := (agrees.cancelledIff _ effect found).not.mp (by simp [live])
      have := agrees.lengthLe
      omega
    refine ⟨agrees.rates, by simp [observe]; omega, by simp [observe]; omega,
      fun i cleaned found' => ?_⟩
    rw [runCleanup_effects] at found'
    obtain ⟨old, oldFound, rfl⟩ := getElem?_modify_some found'
    by_cases same : hook.effects.length - 1 = i
    · simp only [if_pos same, observe, true_iff]
      omega
    · rw [if_neg same, agrees.cancelledIff i old oldFound]
      simp only [observe]
      omega
  · have within := good.fetchOwners owner inFlight
    rcases settle_cases hook owner outcome with ⟨dropped, idle⟩ | ⟨effect, found, live, handled⟩
    · -- a cleaned-up instance's outcome is dropped, and the count had reached it
      have cleaned := (agrees.cancelledIff owner _ (List.getElem?_eq_getElem within)).mp
        (idle _ (List.getElem?_eq_getElem within))
      rw [dropped, observe_settle_of_cleaned cleaned]
      exact ⟨agrees.rates, agrees.cleanupsLe, agrees.lengthLe, agrees.cancelledIff⟩
    · -- the live instance handles it: a success sets the normalized body
      have notCleaned : seen.cleanups ≤ owner :=
        Nat.not_lt.mp ((agrees.cancelledIff owner effect found).not.mp (by simp [live]))
      rw [handled]
      refine ⟨?_, by simp [observe_cleanups, agrees.cleanupsLe],
        by simp [observe_cleanups, agrees.lengthLe], fun i updated found' => ?_⟩
      · cases outcome <;> simp [handleOutcome_rates, observe, notCleaned, agrees.rates]
      · obtain ⟨old, oldFound, sameCancelled, -⟩ := handleOutcome_failures _ _ outcome found'
        rw [sameCancelled, observe_cleanups, if_neg (by simp)]
        exact agrees.cancelledIff i old oldFound
  · -- a firing timer's instance has an enabled key, so `update` only fetches
    obtain ⟨effect, found, -, -, enabled, -⟩ := good.timer pending
    exact ⟨(fire_rates_of_enabled hook found enabled).trans agrees.rates,
      by simpa using agrees.cleanupsLe, by simpa using agrees.lengthLe,
      by simpa [observe] using agrees.cancelledIff⟩

end Steps

theorem Run.observedBy {events : List Event} {hook : Hook} (ran : Run events hook) :
    ObservedBy (observed events) hook := by
  induction ran with
  | initial => exact ⟨rfl, le_rfl, by simp [Hook.initial], by simp [Hook.initial]⟩
  | step ran stepped agrees =>
    rw [observed_append]
    exact agrees.step ran.reachable.good stepped

/-- In every run, the hook returns the rates its events determine: the normalized body of
the last successful fetch of an instance not yet cleaned up when it settled, unless an
effect with a disabled key ran after it, and `{}` when there is none; failed fetches,
cleanups and key changes leave the rates as they were. An instance is cleaned up exactly
when the run has more cleanups than its index. -/
theorem rates_follow_events {events : List Event} {hook : Hook} (ran : Run events hook) :
    hook.rates = (observed events).rates ∧
      ∀ i effect, hook.effects[i]? = some effect →
        (effect.cancelled = true ↔ i < events.count .cleanup) := by
  have agrees := ran.observedBy
  exact ⟨agrees.rates, fun i effect found => observed_cleanups events ▸ agrees.cancelledIff i effect found⟩

/-- Rates of USDC in euros on mainnet. -/
def usdcInEur : Key :=
  Key.ofArguments (some ["0xA0b86991c6218b36c1d19D4a2e9Eb0cE3606eB48"]) ["eur"] (some 1)

/-- A response pricing USDC, its key spelled in checksum case. -/
def usdcPrice : Rates := ⟨[("0xA0b86991c6218b36c1d19D4a2e9Eb0cE3606eB48", "0.92")]⟩

/-- The mounted hook's first fetch for `usdcInEur` succeeds. -/
def pricedEvents : List Event := [.effect usdcInEur, .settle 0 (.success usdcPrice)]

def priced : Hook := (settle (runEffect Hook.initial usdcInEur).1 0 (.success usdcPrice)).1

example : (observed pricedEvents).rates = normalizeRates usdcPrice := rfl

theorem priced_run : Run pricedEvents priced :=
  .step (.step .initial (show step Hook.initial (.effect usdcInEur) =
      some ((runEffect Hook.initial usdcInEur).1, (runEffect Hook.initial usdcInEur).2) from rfl))
    (show step (runEffect Hook.initial usdcInEur).1 (.settle 0 (.success usdcPrice)) =
      some (priced, (settle (runEffect Hook.initial usdcInEur).1 0 (.success usdcPrice)).2)
      from rfl)

theorem rates_follow_events_after_first_success :
    Run pricedEvents priced ∧ priced.rates = (observed pricedEvents).rates ∧
      ∀ i effect, priced.effects[i]? = some effect →
        (effect.cancelled = true ↔ i < pricedEvents.count .cleanup) :=
  ⟨priced_run, rates_follow_events priced_run⟩

/-! ## One successful fetch per instance -/

/-- Whether an event is a successful fetch of instance `i`. -/
def Event.succeeds (i : Nat) : Event → Bool
  | .settle owner (.success _) => owner == i
  | _ => false

/-- The successful fetches of instance `i` in a run. -/
def successes (i : Nat) (events : List Event) : Nat :=
  events.countP (Event.succeeds i)

@[simp] theorem succeeds_settle (i owner : Nat) (outcome : Outcome) :
    (Event.settle owner outcome).succeeds i = (owner == i && !outcome.failed) := by
  cases outcome <;> simp [Event.succeeds, Outcome.failed]

@[simp] theorem successes_append (i : Nat) (events : List Event) (event : Event) :
    successes i (events ++ [event]) = successes i events + if event.succeeds i then 1 else 0 := by
  simp [successes, List.countP_append, List.countP_cons]

/-- A successful fetch adds no timer, whether its instance handles it or not. -/
theorem settle_success_timers (hook : Hook) (owner : Nat) (rates : Rates) :
    (settle hook owner (.success rates)).1.timers = hook.timers := by
  rcases settle_cases hook owner (.success rates) with ⟨dropped, -⟩ | ⟨-, -, -, handled⟩
  · rw [dropped]
  · simp [handled, handleOutcome_timers, Outcome.failed]

/-- An instance whose fetch succeeded has nothing in flight and nothing pending; no
instance succeeded twice, and none not started yet succeeded. -/
structure SucceededIdle (events : List Event) (hook : Hook) : Prop where
  idle : ∀ i, 0 < successes i events → i ∉ hook.fetches ∧ timersOf hook.timers i = []
  atMostOnce : ∀ i, successes i events ≤ 1
  notStarted : ∀ i, hook.effects.length ≤ i → successes i events = 0

section Steps

variable {events : List Event} {hook : Hook}

/-- An instance with a fetch in flight or a timer pending has not succeeded yet. -/
theorem SucceededIdle.fresh (idle : SucceededIdle events hook) {i : Nat}
    (busy : i ∈ hook.fetches ∨ timersOf hook.timers i ≠ []) : successes i events = 0 :=
  Nat.eq_zero_of_not_pos fun succeeded => by
    have := idle.idle i succeeded
    tauto

/-- A step that is no success keeps the invariant when every fetch it leaves in flight was
in flight or is of an instance that has not succeeded, it adds no timer, and it removes no
instance. -/
theorem SucceededIdle.of_quiet {event : Event} {next : Hook} (idle : SucceededIdle events hook)
    (quiet : ∀ i, event.succeeds i = false)
    (started : ∀ i ∈ next.fetches, i ∈ hook.fetches ∨ successes i events = 0)
    (fewerTimers : ∀ i, (timersOf next.timers i).Sublist (timersOf hook.timers i))
    (grows : hook.effects.length ≤ next.effects.length) :
    SucceededIdle (events ++ [event]) next := by
  have same : ∀ i, successes i (events ++ [event]) = successes i events := by simp [quiet]
  refine ⟨fun i succeeded => ⟨fun fetching => ?_, ?_⟩, fun i => same i ▸ idle.atMostOnce i,
    fun i beyond => same i ▸ idle.notStarted i (by omega)⟩ <;> rw [same] at succeeded
  · rcases started i fetching with old | fresh
    · exact (idle.idle i succeeded).1 old
    · omega
  · exact List.eq_nil_of_sublist_nil ((idle.idle i succeeded).2 ▸ fewerTimers i)

theorem SucceededIdle.step {event : Event} {result : Hook × List Write} (good : Good hook)
    (idle : SucceededIdle events hook) (stepped : step hook event = some result) :
    SucceededIdle (events ++ [event]) result.1 := by
  rcases step_eq_some good stepped with ⟨key, rfl, -, rfl⟩ | ⟨effect, rfl, -, -, rfl⟩ |
    ⟨owner, outcome, rfl, inFlight, rfl⟩ | ⟨timer, rfl, pending, rfl⟩
  · -- the new instance starts its fetch, and it has not succeeded
    refine idle.of_quiet (fun _ => rfl) (fun i fetching => ?_) (fun _ => by simp) (by simp)
    rcases List.mem_append.mp (runEffect_fetches hook key ▸ fetching) with old | new
    · exact .inl old
    · exact .inr (idle.notStarted i (by split at new <;> simp_all))
  · -- a cleanup starts nothing and cancels a timer at most
    exact idle.of_quiet (fun _ => rfl) (fun _ fetching => .inl (by simpa using fetching))
      (timersOf_sublist (clearTimeout_sublist _ _)) (by simp)
  · -- the settled instance had not succeeded, and a success leaves it idle
    have fresh := idle.fresh (.inl inFlight)
    have within := good.fetchOwners owner inFlight
    obtain ⟨one, noTimer, -⟩ := good.fetching (List.getElem?_eq_getElem within) inFlight
    have gone : owner ∉ hook.fetches.erase owner := by
      rw [← List.count_eq_zero, List.count_erase_self, one]
    refine ⟨fun i succeeded => ?_, fun i => ?_, fun i beyond => ?_⟩
    · by_cases same : owner = i
      · subst same
        cases outcome with
        | success rates =>
          exact ⟨by simpa using gone, by rw [settle_success_timers, noTimer]⟩
        | networkFailure | undecodableBody => simp [Outcome.failed, fresh] at succeeded
      · obtain ⟨notFetching, noTimer'⟩ :=
          idle.idle i (by simpa [same] using succeeded)
        refine ⟨fun fetching => notFetching ((List.erase_sublist _ _).subset
          (by simpa using fetching)), ?_⟩
        rw [timersOf_settle hook owner outcome (fun _ _ _ => same), noTimer']
    · by_cases same : owner = i
      · subst same
        cases outcome <;> simp [Outcome.failed, fresh]
      · simpa [same] using idle.atMostOnce i
    · rw [settle_effects_length] at beyond
      simpa [show owner ≠ i by omega] using idle.notStarted i beyond
  · -- a firing timer's instance had not succeeded, and it fetches again
    obtain ⟨effect, found, -, -, enabled, -⟩ := good.timer pending
    have fresh := idle.fresh (.inr (List.ne_nil_of_mem (show timer ∈ timersOf hook.timers
      timer.owner by simp [timersOf, pending])))
    refine idle.of_quiet (fun _ => rfl) (fun i fetching => ?_)
      (fun i => by rw [fire_timers, timersOf_filter]; exact List.filter_sublist _) (by simp)
    rw [(fire_of_enabled hook found enabled).1, List.mem_append, List.mem_singleton] at fetching
    rcases fetching with old | rfl
    exacts [.inl old, .inr fresh]

end Steps

theorem Run.succeededIdle {events : List Event} {hook : Hook} (ran : Run events hook) :
    SucceededIdle events hook := by
  induction ran with
  | initial => exact ⟨fun _ none => by simp [successes] at none, fun _ => by simp [successes],
      fun _ _ => rfl⟩
  | step ran stepped idle => exact idle.step ran.reachable.good stepped

/-- Until its first success, the live instance with an enabled key is never idle: it has a
fetch in flight or a retry pending. -/
def KeepsTrying (events : List Event) (hook : Hook) : Prop :=
  ∀ i effect, hook.effects[i]? = some effect → effect.cancelled = false →
    effect.key.enabled = true → successes i events = 0 →
    i ∈ hook.fetches ∨ timersOf hook.timers i ≠ []

theorem KeepsTrying.step {events : List Event} {hook : Hook} {event : Event}
    {result : Hook × List Write} (good : Good hook) (trying : KeepsTrying events hook)
    (stepped : step hook event = some result) : KeepsTrying (events ++ [event]) result.1 := by
  intro i updated found' live' enabled' none'
  rcases step_eq_some good stepped with ⟨key, rfl, allCancelled, rfl⟩ | ⟨effect, rfl, found, live, rfl⟩ |
    ⟨owner, outcome, rfl, inFlight, rfl⟩ | ⟨timer, rfl, pending, rfl⟩
  · -- only the new instance is live, and it starts its fetch
    rw [runEffect_effects] at found'
    rcases getElem?_append_singleton found' with old | ⟨rfl, rfl⟩
    · simp [allCancelled updated (List.getElem?_mem old)] at live'
    · exact .inl (by simp_all)
  · -- after a cleanup no instance is live
    rw [runCleanup_effects] at found'
    obtain ⟨old, oldFound, rfl⟩ := getElem?_modify_some found'
    split at live'
    · simp at live'
    · exact absurd (good.live_unique found live oldFound live') ‹_›
  · rcases settle_cases hook owner outcome with ⟨dropped, idle⟩ | ⟨effect, found, live, handled⟩
    · -- another instance's fetch is gone, and this one is as it was
      rw [dropped] at found' ⊢
      have other : owner ≠ i := by rintro rfl; simp [idle updated found'] at live'
      rcases trying i updated found' live' enabled' (by simpa [other] using none') with
        fetching | pending
      · exact .inl ((List.mem_erase_of_ne (Ne.symm other)).mpr fetching)
      · exact .inr pending
    · -- the live instance is the settled one: a failure schedules its retry
      rw [handled] at found' ⊢
      obtain ⟨old, oldFound, sameCancelled, -⟩ := handleOutcome_failures _ _ outcome found'
      obtain rfl := good.live_unique oldFound (sameCancelled ▸ live') found live
      cases outcome with
      | success rates => simp [Outcome.failed] at none'
      | networkFailure | undecodableBody =>
        exact .inr (by simp [handleOutcome_timers, timersOf, Outcome.failed])
  · -- a firing timer's instance is the live one, and it fetches again
    obtain ⟨effect, found, -, live, enabled, -⟩ := good.timer pending
    rw [fire_effects] at found'
    obtain rfl := good.live_unique found' live' found live
    exact .inl (by simp [(fire_of_enabled hook found enabled).1])

theorem Run.keepsTrying {events : List Event} {hook : Hook} (ran : Run events hook) :
    KeepsTrying events hook := by
  induction ran with
  | initial => intro i effect found; simp [Hook.initial] at found
  | step ran stepped trying => exact trying.step ran.reachable.good stepped

/-- In every run, each effect instance fetches until its first success and never again.
While it is live with an enabled key and none of its fetches has succeeded, it has exactly
one fetch in flight or one retry pending, so it never stops retrying of itself; it has at
most one successful fetch, and once it has had it, it has no fetch in flight and no retry
pending, so the hook does not refresh the rates of a key it has. -/
theorem fetches_until_first_success {events : List Event} {hook : Hook} (ran : Run events hook)
    (i : Nat) :
    (∀ effect, hook.effects[i]? = some effect → effect.cancelled = false →
        effect.key.enabled = true → successes i events = 0 →
        hook.fetches.count i + (timersOf hook.timers i).length = 1) ∧
      successes i events ≤ 1 ∧
      (0 < successes i events → i ∉ hook.fetches ∧ timersOf hook.timers i = []) := by
  refine ⟨fun effect found live enabled none => ?_, ran.succeededIdle.atMostOnce i,
    ran.succeededIdle.idle i⟩
  have bound := (ran.reachable.good.effects i effect found).atMostOne
  rcases ran.keepsTrying i effect found live enabled none with fetching | pending
  · have := List.count_pos_iff.mpr fetching
    omega
  · have := List.length_pos.mpr pending
    omega

theorem fetches_until_first_success_after_first_success :
    Run pricedEvents priced ∧
      (∀ effect, priced.effects[0]? = some effect → effect.cancelled = false →
        effect.key.enabled = true → successes 0 pricedEvents = 0 →
        priced.fetches.count 0 + (timersOf priced.timers 0).length = 1) ∧
      successes 0 pricedEvents ≤ 1 ∧
      (0 < successes 0 pricedEvents → 0 ∉ priced.fetches ∧ timersOf priced.timers 0 = []) :=
  ⟨priced_run, fetches_until_first_success priced_run 0⟩

/-! ## The poller's guarantees -/

/-- The outcome with which an event settles a fetch of instance `i`. -/
def Event.settledOutcome (i : Nat) : Event → Option Outcome
  | .settle owner outcome => if owner = i then some outcome else none
  | _ => none

/-- Whether the last fetch of instance `i` to settle in a run failed. -/
def lastFetchFailed (i : Nat) (events : List Event) : Bool :=
  ((events.filterMap (Event.settledOutcome i)).getLast?).any Outcome.failed

theorem lastFetchFailed_append_of_none {i : Nat} {event : Event}
    (other : event.settledOutcome i = none) (events : List Event) :
    lastFetchFailed i (events ++ [event]) = lastFetchFailed i events := by
  simp [lastFetchFailed, List.filterMap_append, other]

@[simp] theorem lastFetchFailed_append_settle (i : Nat) (events : List Event) (outcome : Outcome) :
    lastFetchFailed i (events ++ [.settle i outcome]) = outcome.failed := by
  simp [lastFetchFailed, Event.settledOutcome]

theorem eq_settle_of_settledOutcome {i : Nat} {event : Event} {outcome : Outcome}
    (settles : event.settledOutcome i = some outcome) : event = .settle i outcome := by
  cases event <;> simp [Event.settledOutcome] at settles
  obtain ⟨rfl, rfl⟩ := settles
  rfl

/-- An event that settles no fetch of instance `i` is no success of it. -/
theorem succeeds_of_settledOutcome {i : Nat} {event : Event}
    (settles : event.settledOutcome i = none) : event.succeeds i = false := by
  cases event with
  | settle owner outcome => simp_all [Event.settledOutcome]
  | effect _ | cleanup | fire _ => rfl

/-- Only a fetch in flight settles. -/
theorem step_settle_inFlight {hook : Hook} {owner : Nat} {outcome : Outcome}
    {result : Hook × List Write} (stepped : step hook (.settle owner outcome) = some result) :
    owner ∈ hook.fetches := by
  simp only [step] at stepped
  split at stepped
  · assumption
  · cases stepped

/-- Once a fetch of an instance has succeeded, the last of its fetches to settle is that
success: a succeeded instance has no fetch left to fail. -/
theorem Run.lastFetchFailed_of_succeeded {events : List Event} {hook : Hook}
    (ran : Run events hook) (i : Nat) (succeeded : 0 < successes i events) :
    lastFetchFailed i events = false := by
  induction ran with
  | initial => simp [successes] at succeeded
  | @step events hook next event writes ran stepped induction =>
    cases settles : event.settledOutcome i with
    | none =>
      rw [lastFetchFailed_append_of_none settles]
      exact induction (by simpa [succeeds_of_settledOutcome settles] using succeeded)
    | some outcome =>
      obtain rfl := eq_settle_of_settledOutcome settles
      cases failed : outcome.failed
      · simp [failed]
      · have before : 0 < successes i events := by simpa [failed] using succeeded
        exact absurd (step_settle_inFlight stepped) (ran.succeededIdle.idle i before).1

/-- A live instance with an enabled key whose last fetch to settle failed, and that has
no fetch in flight, has its retry pending. -/
def RetriesAfterFailure (events : List Event) (hook : Hook) : Prop :=
  ∀ (i : Nat) (effect : Effect), hook.effects[i]? = some effect → effect.cancelled = false →
    effect.key.enabled = true → lastFetchFailed i events = true → i ∉ hook.fetches →
      timersOf hook.timers i ≠ []

theorem Run.retriesAfterFailure {events : List Event} {hook : Hook} (ran : Run events hook) :
    RetriesAfterFailure events hook := by
  intro i effect found live enabled failed idle
  have none : successes i events = 0 := Nat.eq_zero_of_not_pos fun succeeded => by
    simp [ran.lastFetchFailed_of_succeeded i succeeded] at failed
  exact (ran.keepsTrying i effect found live enabled none).resolve_left idle

/-- In every run of the poller, every write is the current instance's and a cleaned-up
instance's outcome is dropped; no instance has more than one fetch in flight or retry
pending, and a cleaned-up one starts nothing; and a live instance with an enabled key whose
last fetch failed, read off the run's events, has its retry pending. -/
theorem poller_safe {events : List Event} {hook : Hook} (ran : Run events hook) :
    WritesByCurrent hook ∧ StaleOutcomesDropped hook ∧ AtMostOnePending hook ∧
      CleanedUpStaysIdle hook ∧ RetriesAfterFailure events hook :=
  have good := ran.reachable.good
  ⟨good.writesByCurrent, staleOutcomesDropped hook, good.atMostOnePending,
    good.cleanedUpStaysIdle, ran.retriesAfterFailure⟩

example : lastFetchFailed 0 [.effect daiInUsd, .settle 0 .networkFailure] = true ∧
    (timersOf afterFirstFailure.timers 0).length = 1 := by
  decide

theorem poller_safe_after_first_failure :
    Run [.effect daiInUsd, .settle 0 .networkFailure] afterFirstFailure ∧
      WritesByCurrent afterFirstFailure ∧ StaleOutcomesDropped afterFirstFailure ∧
      AtMostOnePending afterFirstFailure ∧ CleanedUpStaysIdle afterFirstFailure ∧
      RetriesAfterFailure [.effect daiInUsd, .settle 0 .networkFailure] afterFirstFailure :=
  have ran : Run [.effect daiInUsd, .settle 0 .networkFailure] afterFirstFailure :=
    .step (.step .initial (show step Hook.initial (.effect daiInUsd) =
        some ((runEffect Hook.initial daiInUsd).1, (runEffect Hook.initial daiInUsd).2) from rfl))
      (show step (runEffect Hook.initial daiInUsd).1 (.settle 0 .networkFailure) =
        some (afterFirstFailure, (settle (runEffect Hook.initial daiInUsd).1 0 .networkFailure).2)
        from rfl)
  ⟨ran, poller_safe ran⟩

end SuperfluidAragon.ConvertRates
