import SuperfluidAragon.Hooks.Rates
import Mathlib.Algebra.Order.Ring.Unbundled.Rat
import Mathlib.Data.List.Nodup

/-! The convert-rates poller, `useConvertRates` in src/app/src/hooks/useConvertRates.js.

Every value of the effect's dependency key starts an effect instance, and React runs the
previous instance's cleanup before the next instance's effect. The instances share the
`rates` state and the `retryDelay` ref; their fetches settle and their retry timers fire
in any order. The model keeps every instance ever started, by index, with the closure
variables `cancelled` and `retryTimer`, the fetches in flight and the timers pending.
React's own record of whether it owes the current instance's cleanup is kept apart from
the `cancelled` flags, which only the code sets. A step returns the next state and the writes it made to `rates` and to `retryDelay`,
each tagged with the instance that made it. The code's floating-point delays are exact
rationals here, its `* 1.2` is `* (6 / 5)`. -/

namespace SuperfluidAragon.ConvertRates

open Foundation

/-- `CONVERT_API_RETRY_DELAY`, in milliseconds. -/
def convertApiRetryDelay : ℚ := 2 * 1000

/-- `CONVERT_API_RETRY_DELAY_MAX`, in milliseconds. -/
def convertApiRetryDelayMax : ℚ := 60 * 1000

/-- The effect's dependency key. -/
structure Key where
  tokenAddressesQueryValues : Option String
  currenciesQueryValues : String
  chainId : Option Nat
  deriving DecidableEq, Repr

/-- The key the hook computes from its arguments: no token addresses give `null`. -/
def Key.ofArguments (tokenAddresses : Option (List String)) (currencies : List String)
    (chainId : Option Nat) : Key :=
  ⟨tokenAddresses.map (String.intercalate ","), String.intercalate "," currencies, chainId⟩

/-- `update` fetches only when no part of the key is falsy (`null`, the empty string, `0`). -/
def Key.enabled (key : Key) : Bool :=
  key.tokenAddressesQueryValues.any (· != "") && key.currenciesQueryValues != "" &&
    key.chainId.any (· != 0)

example : (Key.ofArguments (some []) ["usd"] (some 100)).enabled = false := by decide

/-- How a fetch settles: a decoded body, or a throw from `fetch` or from
`response.json()`, which both take the `catch` branch. -/
inductive Outcome where
  | success (rates : Rates)
  | networkFailure
  | undecodableBody
  deriving DecidableEq, Repr

/-- Whether a settled fetch takes the `catch` branch. -/
def Outcome.failed : Outcome → Bool
  | .success _ => false
  | .networkFailure | .undecodableBody => true

/-- One effect instance: its key and its closure variables. `failures` is ghost state:
the fetches of this instance that failed since it started or last succeeded. -/
structure Effect where
  key : Key
  cancelled : Bool
  retryTimer : Option Nat
  failures : Nat
  deriving DecidableEq, Repr

/-- A pending `setTimeout(update, delay)` of instance `owner`. -/
structure Timer where
  id : Nat
  owner : Nat
  delay : ℚ
  deriving DecidableEq, Repr

/-- The hook's state: the instances by index (the last is the current key's), the
`retryDelay` ref, the `rates` state, the owners of the fetches in flight, the pending
timers, the next timer id, and whether React holds the last effect's cleanup, not yet
run. -/
structure Hook where
  effects : List Effect
  retryDelay : ℚ
  rates : Rates
  fetches : List Nat
  timers : List Timer
  nextTimer : Nat
  cleanupOwed : Bool
  deriving DecidableEq, Repr

/-- A write to the shared state, with the instance that made it. -/
inductive Write where
  | setRates (writer : Nat) (rates : Rates)
  | setRetryDelay (writer : Nat) (delay : ℚ)
  deriving DecidableEq, Repr

def Write.writer : Write → Nat
  | .setRates writer _ | .setRetryDelay writer _ => writer

/-- What the runtime can do next: run an effect for a key, run the current instance's
cleanup (a key change or an unmount), settle a fetch, or fire a timer. -/
inductive Event where
  | effect (key : Key)
  | cleanup
  | settle (owner : Nat) (outcome : Outcome)
  | fire (id : Nat)
  deriving DecidableEq, Repr

/-- The mounted hook: `useState({})` and `useRef(CONVERT_API_RETRY_DELAY)`. -/
def Hook.initial : Hook := ⟨[], convertApiRetryDelay, ⟨[]⟩, [], [], 0, false⟩

/-- The timers pending for instance `owner`. -/
def timersOf (timers : List Timer) (owner : Nat) : List Timer :=
  timers.filter (·.owner = owner)

/-! ## The handlers -/

/-- `update` run by instance `owner`: a falsy key part clears the rates, otherwise a
fetch starts. -/
def update (hook : Hook) (owner : Nat) (key : Key) : Hook × List Write :=
  if key.enabled then ({ hook with fetches := hook.fetches ++ [owner] }, [])
  else ({ hook with rates := ⟨[]⟩ }, [.setRates owner ⟨[]⟩])

/-- React runs the effect and now owes its cleanup; the body makes a new instance with
`cancelled = false` and `retryTimer = null`, then runs `update()`. -/
def runEffect (hook : Hook) (key : Key) : Hook × List Write :=
  update { hook with effects := hook.effects ++ [⟨key, false, none, 0⟩], cleanupOwed := true }
    hook.effects.length key

/-- `clearTimeout(retryTimer)`: removes the pending timer with that id; `null` clears
nothing. -/
def clearTimeout (retryTimer : Option Nat) (timers : List Timer) : List Timer :=
  match retryTimer with
  | some id => timers.filter (·.id ≠ id)
  | none => timers

/-- React runs the cleanup of instance `owner` and owes none any more; the body sets
`cancelled`, clears the retry timer and puts `retryDelay` back. -/
def runCleanup (hook : Hook) (owner : Nat) (effect : Effect) : Hook × List Write :=
  ({ hook with
      cleanupOwed := false
      effects := hook.effects.modify (fun effect => { effect with cancelled := true }) owner
      timers := clearTimeout effect.retryTimer hook.timers
      retryDelay := convertApiRetryDelay },
    [.setRetryDelay owner convertApiRetryDelay])

/-- The `try` branch of a live instance after the body decoded. -/
def succeed (hook : Hook) (owner : Nat) (rates : Rates) : Hook × List Write :=
  ({ hook with
      rates := normalizeRates rates
      retryDelay := convertApiRetryDelay
      effects := hook.effects.modify (fun effect => { effect with failures := 0 }) owner },
    [.setRates owner (normalizeRates rates), .setRetryDelay owner convertApiRetryDelay])

/-- The `catch` branch of a live instance: a longer delay, and a retry timer with it. -/
def retry (hook : Hook) (owner : Nat) : Hook × List Write :=
  let delay := min convertApiRetryDelayMax (hook.retryDelay * (6 / 5))
  let failed := fun (effect : Effect) =>
    { effect with retryTimer := some hook.nextTimer, failures := effect.failures + 1 }
  ({ hook with
      retryDelay := delay
      timers := hook.timers ++ [⟨hook.nextTimer, owner, delay⟩]
      nextTimer := hook.nextTimer + 1
      effects := hook.effects.modify failed owner },
    [.setRetryDelay owner delay])

/-- The rest of `update` once a live instance's fetch settles: the `try` branch on a
decoded body, the `catch` branch on a throw. -/
def handleOutcome (hook : Hook) (owner : Nat) : Outcome → Hook × List Write
  | .success rates => succeed hook owner rates
  | .networkFailure | .undecodableBody => retry hook owner

/-- A fetch of instance `owner` settles; the `!cancelled` checks drop the outcome of a
cleaned-up instance. -/
def settle (hook : Hook) (owner : Nat) (outcome : Outcome) : Hook × List Write :=
  let hook := { hook with fetches := hook.fetches.erase owner }
  match hook.effects[owner]? with
  | some effect => if effect.cancelled then (hook, []) else handleOutcome hook owner outcome
  | none => (hook, [])

/-- A retry timer fires and runs its instance's `update`. -/
def fire (hook : Hook) (timer : Timer) : Hook × List Write :=
  let hook := { hook with timers := hook.timers.filter (·.id ≠ timer.id) }
  match hook.effects[timer.owner]? with
  | some effect => update hook timer.owner effect.key
  | none => (hook, [])

/-- One step of the runtime. React runs an effect only when it owes no cleanup, and runs
the cleanup it owes, the current instance's; only a fetch in flight settles and only a
pending timer fires. -/
def step (hook : Hook) : Event → Option (Hook × List Write)
  | .effect key => if hook.cleanupOwed then none else some (runEffect hook key)
  | .cleanup =>
    if hook.cleanupOwed then
      match hook.effects[hook.effects.length - 1]? with
      | some effect => some (runCleanup hook (hook.effects.length - 1) effect)
      | none => none
    else none
  | .settle owner outcome => if owner ∈ hook.fetches then some (settle hook owner outcome) else none
  | .fire id => (hook.timers.find? (·.id = id)).map (fire hook)

/-- The states the runtime can reach from the mounted hook. -/
inductive Reachable : Hook → Prop
  | initial : Reachable Hook.initial
  | step {hook next : Hook} {event : Event} {writes : List Write} :
      Reachable hook → step hook event = some (next, writes) → Reachable next

/-! ## What each handler changes -/

section Handlers

variable (hook : Hook) (owner : Nat)

@[simp] theorem update_effects (key : Key) : (update hook owner key).1.effects = hook.effects := by
  unfold update; split <;> rfl

@[simp] theorem update_fetches (key : Key) :
    (update hook owner key).1.fetches = hook.fetches ++ if key.enabled then [owner] else [] := by
  unfold update; split <;> simp [*]

@[simp] theorem update_timers (key : Key) : (update hook owner key).1.timers = hook.timers := by
  unfold update; split <;> rfl

@[simp] theorem update_nextTimer (key : Key) :
    (update hook owner key).1.nextTimer = hook.nextTimer := by
  unfold update; split <;> rfl

@[simp] theorem update_rates (key : Key) :
    (update hook owner key).1.rates = if key.enabled then hook.rates else ⟨[]⟩ := by
  unfold update; split <;> rfl

@[simp] theorem update_retryDelay (key : Key) :
    (update hook owner key).1.retryDelay = hook.retryDelay := by
  unfold update; split <;> rfl

@[simp] theorem update_cleanupOwed (key : Key) :
    (update hook owner key).1.cleanupOwed = hook.cleanupOwed := by
  unfold update; split <;> rfl

@[simp] theorem update_writes (key : Key) :
    (update hook owner key).2 = if key.enabled then [] else [.setRates owner ⟨[]⟩] := by
  unfold update; split <;> rfl

@[simp] theorem runCleanup_effects (effect : Effect) : (runCleanup hook owner effect).1.effects =
    hook.effects.modify (fun effect => { effect with cancelled := true }) owner := rfl

@[simp] theorem runCleanup_fetches (effect : Effect) :
    (runCleanup hook owner effect).1.fetches = hook.fetches := rfl

@[simp] theorem runCleanup_timers (effect : Effect) :
    (runCleanup hook owner effect).1.timers = clearTimeout effect.retryTimer hook.timers := rfl

@[simp] theorem runCleanup_nextTimer (effect : Effect) :
    (runCleanup hook owner effect).1.nextTimer = hook.nextTimer := rfl

@[simp] theorem runCleanup_retryDelay (effect : Effect) :
    (runCleanup hook owner effect).1.retryDelay = convertApiRetryDelay := rfl

@[simp] theorem runCleanup_rates (effect : Effect) :
    (runCleanup hook owner effect).1.rates = hook.rates := rfl

@[simp] theorem runCleanup_cleanupOwed (effect : Effect) :
    (runCleanup hook owner effect).1.cleanupOwed = false := rfl

@[simp] theorem runCleanup_writes (effect : Effect) :
    (runCleanup hook owner effect).2 = [.setRetryDelay owner convertApiRetryDelay] := rfl

@[simp] theorem runEffect_effects (key : Key) :
    (runEffect hook key).1.effects = hook.effects ++ [⟨key, false, none, 0⟩] := by
  simp [runEffect]

@[simp] theorem runEffect_fetches (key : Key) : (runEffect hook key).1.fetches =
    hook.fetches ++ if key.enabled then [hook.effects.length] else [] := by
  simp [runEffect]

@[simp] theorem runEffect_timers (key : Key) : (runEffect hook key).1.timers = hook.timers := by
  simp [runEffect]

@[simp] theorem runEffect_nextTimer (key : Key) :
    (runEffect hook key).1.nextTimer = hook.nextTimer := by
  simp [runEffect]

@[simp] theorem runEffect_rates (key : Key) :
    (runEffect hook key).1.rates = if key.enabled then hook.rates else ⟨[]⟩ := by
  simp [runEffect]

@[simp] theorem runEffect_retryDelay (key : Key) :
    (runEffect hook key).1.retryDelay = hook.retryDelay := by
  simp [runEffect]

@[simp] theorem runEffect_cleanupOwed (key : Key) : (runEffect hook key).1.cleanupOwed = true := by
  simp [runEffect]

@[simp] theorem runEffect_writes (key : Key) : (runEffect hook key).2 =
    if key.enabled then [] else [.setRates hook.effects.length ⟨[]⟩] := by
  simp [runEffect]

end Handlers

theorem clearTimeout_sublist (retryTimer : Option Nat) (timers : List Timer) :
    (clearTimeout retryTimer timers).Sublist timers := by
  cases retryTimer <;> simp [clearTimeout, List.filter_sublist]

theorem timersOf_append (timers : List Timer) (timer : Timer) (owner : Nat) :
    timersOf (timers ++ [timer]) owner =
      timersOf timers owner ++ if timer.owner = owner then [timer] else [] := by
  by_cases same : timer.owner = owner <;> simp [timersOf, same]

theorem timersOf_filter (timers : List Timer) (p : Timer → Bool) (owner : Nat) :
    timersOf (timers.filter p) owner = (timersOf timers owner).filter p := by
  simp only [timersOf, List.filter_filter, Bool.and_comm]

/-- The cleanup's `clearTimeout` removes every timer of an instance whose timers all carry
its `retryTimer`. -/
theorem timersOf_clearTimeout {retryTimer : Option Nat} {timers : List Timer} {owner : Nat}
    (carried : ∀ timer ∈ timersOf timers owner, retryTimer = some timer.id) :
    timersOf (clearTimeout retryTimer timers) owner = [] := by
  cases retryTimer with
  | none => simpa [clearTimeout, List.eq_nil_iff_forall_not_mem] using carried
  | some id =>
    rw [clearTimeout, timersOf_filter, List.filter_eq_nil_iff]
    intro timer pending
    simpa using (Option.some.inj (carried timer pending)).symm

/-! ## The invariant

Each instance has at most one fetch in flight or timer pending; only the newest instance
is live, and React owes a cleanup exactly while it is; only a live instance with an
enabled key has a timer, whose id its `retryTimer` holds. -/

/-- What holds of an instance with `fetching` fetches in flight and `timers` pending. -/
structure EffectGood (fetching : Nat) (timers : List Timer) (effect : Effect) : Prop where
  atMostOne : fetching + timers.length ≤ 1
  cancelledIdle : effect.cancelled = true → timers = []
  disabledIdle : effect.key.enabled = false → fetching = 0 ∧ timers = []
  retryTimer : ∀ timer ∈ timers, effect.retryTimer = some timer.id

/-- The poller's invariant: the newest instance is the only live one, and React owes a
cleanup exactly while it is; every fetch and timer belongs to an instance, timer ids are
fresh and distinct, and each instance is good. -/
structure Good (hook : Hook) : Prop where
  newestLive : ∀ i effect, hook.effects[i]? = some effect → effect.cancelled = false →
    i + 1 = hook.effects.length
  liveOwed : ∀ (i : Nat) (effect : Effect), hook.effects[i]? = some effect →
    effect.cancelled = false → hook.cleanupOwed = true
  owedLive : hook.cleanupOwed = true →
    ∃ effect, hook.effects[hook.effects.length - 1]? = some effect ∧ effect.cancelled = false
  fetchOwners : ∀ owner ∈ hook.fetches, owner < hook.effects.length
  timerOwners : ∀ timer ∈ hook.timers, timer.owner < hook.effects.length
  timerIdsFresh : ∀ timer ∈ hook.timers, timer.id < hook.nextTimer
  timerIdsDistinct : (hook.timers.map Timer.id).Nodup
  effects : ∀ i effect, hook.effects[i]? = some effect →
    EffectGood (hook.fetches.count i) (timersOf hook.timers i) effect

/-- An instance keeps its invariant with fewer fetches in flight. -/
theorem EffectGood.fewer {fetching fetching' : Nat} {timers : List Timer} {effect : Effect}
    (good : EffectGood fetching timers effect) (fewer : fetching' ≤ fetching) : EffectGood fetching' timers effect where
  atMostOne := by have := good.atMostOne; omega
  cancelledIdle := good.cancelledIdle
  disabledIdle disabled := ⟨by have := (good.disabledIdle disabled).1; omega,
    (good.disabledIdle disabled).2⟩
  retryTimer := good.retryTimer

theorem Good.initial : Good Hook.initial := by
  constructor <;> simp [Hook.initial]

namespace Good

variable {hook : Hook}

theorem count_eq_zero (good : Good hook) {i : Nat} (beyond : hook.effects.length ≤ i) :
    hook.fetches.count i = 0 :=
  List.count_eq_zero.mpr fun fetching => by have := good.fetchOwners i fetching; omega

theorem timersOf_eq_nil (good : Good hook) {i : Nat} (beyond : hook.effects.length ≤ i) :
    timersOf hook.timers i = [] :=
  List.filter_eq_nil_iff.mpr fun timer pending same => by
    have := good.timerOwners timer pending
    simp at same
    omega

/-- An instance with a fetch in flight has exactly that one, no timer, and an enabled key. -/
theorem fetching (good : Good hook) {owner : Nat} {effect : Effect}
    (found : hook.effects[owner]? = some effect) (inFlight : owner ∈ hook.fetches) :
    hook.fetches.count owner = 1 ∧ timersOf hook.timers owner = [] ∧ effect.key.enabled = true := by
  have effectGood := good.effects owner effect found
  have one := effectGood.atMostOne
  have some := List.count_pos_iff.mpr inFlight
  exact ⟨by omega, List.length_eq_zero.mp (by omega),
    eq_true_of_ne_false fun disabled => by have := (effectGood.disabledIdle disabled).1; omega⟩

/-- A pending timer's instance exists, is live, has an enabled key and no fetch in flight,
and all its timers carry the pending one's id. -/
theorem timer (good : Good hook) {timer : Timer} (pending : timer ∈ hook.timers) :
    ∃ effect, hook.effects[timer.owner]? = some effect ∧ hook.fetches.count timer.owner = 0 ∧
      effect.cancelled = false ∧ effect.key.enabled = true ∧
      ∀ other ∈ timersOf hook.timers timer.owner, other.id = timer.id := by
  have found := List.getElem?_eq_getElem (good.timerOwners timer pending)
  have effectGood := good.effects timer.owner _ found
  have own : timer ∈ timersOf hook.timers timer.owner := by simp [timersOf, pending]
  have nonempty : timersOf hook.timers timer.owner ≠ [] := List.ne_nil_of_mem own
  have one := effectGood.atMostOne
  have := List.length_pos_of_mem own
  refine ⟨_, found, by omega, Bool.eq_false_iff.mpr fun cancelled => ?_,
    eq_true_of_ne_false fun disabled => ?_, fun other mine => ?_⟩
  · exact nonempty (effectGood.cancelledIdle cancelled)
  · exact nonempty (effectGood.disabledIdle disabled).2
  · simpa [effectGood.retryTimer timer own] using (effectGood.retryTimer other mine).symm

/-- At most one instance is live. -/
theorem live_unique (good : Good hook) {i j : Nat} {first second : Effect}
    (firstFound : hook.effects[i]? = some first) (firstLive : first.cancelled = false)
    (secondFound : hook.effects[j]? = some second) (secondLive : second.cancelled = false) :
    i = j := by
  have := good.newestLive i first firstFound firstLive
  have := good.newestLive j second secondFound secondLive
  omega

/-- Changing one instance without touching `cancelled` keeps the newest instance the only
live one. -/
theorem newestLive_modify (good : Good hook) {f : Effect → Effect} {owner : Nat}
    (keeps : ∀ effect, (f effect).cancelled = effect.cancelled) :
    ∀ i effect, (hook.effects.modify f owner)[i]? = some effect → effect.cancelled = false →
      i + 1 = (hook.effects.modify f owner).length := by
  intro i updated found live
  obtain ⟨old, oldFound, rfl⟩ := getElem?_modify_some found
  have liveOld : old.cancelled = false := by split at live <;> simpa [keeps] using live
  simpa using good.newestLive i old oldFound liveOld

/-- Changing one instance without touching `cancelled` keeps React's record in step. -/
theorem liveOwed_modify (good : Good hook) {f : Effect → Effect} {owner : Nat}
    (keeps : ∀ effect, (f effect).cancelled = effect.cancelled) :
    ∀ (i : Nat) (effect : Effect), (hook.effects.modify f owner)[i]? = some effect →
      effect.cancelled = false → hook.cleanupOwed = true := by
  intro i updated found live
  obtain ⟨old, oldFound, rfl⟩ := getElem?_modify_some found
  exact good.liveOwed i old oldFound (by split at live <;> simpa [keeps] using live)

theorem owedLive_modify (good : Good hook) {f : Effect → Effect} {owner : Nat}
    (keeps : ∀ effect, (f effect).cancelled = effect.cancelled) (owed : hook.cleanupOwed = true) :
    ∃ effect, (hook.effects.modify f owner)[(hook.effects.modify f owner).length - 1]? =
      some effect ∧ effect.cancelled = false := by
  obtain ⟨current, found, live⟩ := good.owedLive owed
  rw [List.length_modify]
  by_cases same : owner = hook.effects.length - 1
  · subst same
    exact ⟨f current, by simp [List.getElem?_modify_eq, found], by simpa [keeps] using live⟩
  · exact ⟨current, by rw [List.getElem?_modify_ne _ _ same, found], live⟩

end Good

/-! ## What the fetch and timer handlers change -/

section Settling

variable (hook : Hook) (owner : Nat)

@[simp] theorem succeed_effects (rates : Rates) : (succeed hook owner rates).1.effects =
    hook.effects.modify (fun effect => { effect with failures := 0 }) owner := rfl

@[simp] theorem succeed_fetches (rates : Rates) :
    (succeed hook owner rates).1.fetches = hook.fetches := rfl

@[simp] theorem succeed_timers (rates : Rates) :
    (succeed hook owner rates).1.timers = hook.timers := rfl

@[simp] theorem succeed_nextTimer (rates : Rates) :
    (succeed hook owner rates).1.nextTimer = hook.nextTimer := rfl

@[simp] theorem succeed_writes (rates : Rates) : (succeed hook owner rates).2 =
    [.setRates owner (normalizeRates rates), .setRetryDelay owner convertApiRetryDelay] := rfl

@[simp] theorem retry_effects : (retry hook owner).1.effects = hook.effects.modify
    (fun effect => { effect with retryTimer := some hook.nextTimer, failures := effect.failures + 1 })
    owner := rfl

@[simp] theorem retry_fetches : (retry hook owner).1.fetches = hook.fetches := rfl

@[simp] theorem retry_timers : (retry hook owner).1.timers = hook.timers ++
    [⟨hook.nextTimer, owner, min convertApiRetryDelayMax (hook.retryDelay * (6 / 5))⟩] := rfl

@[simp] theorem retry_nextTimer : (retry hook owner).1.nextTimer = hook.nextTimer + 1 := rfl

@[simp] theorem retry_writes : (retry hook owner).2 =
    [.setRetryDelay owner (min convertApiRetryDelayMax (hook.retryDelay * (6 / 5)))] := rfl

@[simp] theorem handleOutcome_fetches (outcome : Outcome) :
    (handleOutcome hook owner outcome).1.fetches = hook.fetches := by
  cases outcome <;> rfl

@[simp] theorem handleOutcome_effects_length (outcome : Outcome) :
    (handleOutcome hook owner outcome).1.effects.length = hook.effects.length := by
  cases outcome <;> simp [handleOutcome]

theorem timersOf_handleOutcome (outcome : Outcome) {i : Nat} (other : owner ≠ i) :
    timersOf (handleOutcome hook owner outcome).1.timers i = timersOf hook.timers i := by
  cases outcome <;> simp [handleOutcome, timersOf_append, other]

theorem handleOutcome_writer (outcome : Outcome) :
    ∀ write ∈ (handleOutcome hook owner outcome).2, write.writer = owner := by
  cases outcome <;> simp [handleOutcome, Write.writer]

theorem handleOutcome_retryDelay (outcome : Outcome) :
    (handleOutcome hook owner outcome).1.retryDelay = if outcome.failed
      then min convertApiRetryDelayMax (hook.retryDelay * (6 / 5)) else convertApiRetryDelay := by
  cases outcome <;> rfl

/-- A handled outcome sets the normalized body on a success and leaves the rates on a
failure. -/
theorem handleOutcome_rates (outcome : Outcome) :
    (handleOutcome hook owner outcome).1.rates = match outcome with
      | .success rates => normalizeRates rates
      | .networkFailure | .undecodableBody => hook.rates := by
  cases outcome <;> rfl

theorem handleOutcome_timers (outcome : Outcome) :
    (handleOutcome hook owner outcome).1.timers = hook.timers ++ if outcome.failed
      then [⟨hook.nextTimer, owner, min convertApiRetryDelayMax (hook.retryDelay * (6 / 5))⟩]
      else [] := by
  cases outcome <;> simp [handleOutcome, Outcome.failed]

/-- A handled outcome resets its instance's failures or adds one, and changes nothing else
of any instance's `cancelled` or failures. -/
theorem handleOutcome_failures (outcome : Outcome) {i : Nat} {updated : Effect}
    (found : (handleOutcome hook owner outcome).1.effects[i]? = some updated) :
    ∃ effect, hook.effects[i]? = some effect ∧ updated.cancelled = effect.cancelled ∧
      updated.failures = if owner = i then (if outcome.failed then effect.failures + 1 else 0)
        else effect.failures := by
  cases outcome <;>
  · simp only [handleOutcome, succeed_effects, retry_effects] at found
    obtain ⟨effect, old, rfl⟩ := getElem?_modify_some found
    refine ⟨effect, old, ?_, ?_⟩ <;> split <;> simp [Outcome.failed]

theorem handleOutcome_keys (outcome : Outcome) :
    (handleOutcome hook owner outcome).1.effects.map Effect.key = hook.effects.map Effect.key := by
  cases outcome <;> simp only [handleOutcome, succeed_effects, retry_effects] <;>
    refine map_modify_of_comp (fun _ => ?_) _ _ <;> rfl

/-- A settled fetch is dropped, unless its instance is live and handles the outcome. -/
theorem settle_cases (outcome : Outcome) :
    (settle hook owner outcome = ({ hook with fetches := hook.fetches.erase owner }, []) ∧
        ∀ effect, hook.effects[owner]? = some effect → effect.cancelled = true) ∨
      ∃ effect, hook.effects[owner]? = some effect ∧ effect.cancelled = false ∧
        settle hook owner outcome =
          handleOutcome { hook with fetches := hook.fetches.erase owner } owner outcome := by
  cases found : hook.effects[owner]? with
  | none => exact .inl ⟨by simp [settle, found], by simp⟩
  | some effect =>
    cases cancelled : effect.cancelled
    · exact .inr ⟨effect, rfl, cancelled, by simp [settle, found, cancelled]⟩
    · exact .inl ⟨by simp [settle, found, cancelled], by simp [cancelled]⟩

@[simp] theorem settle_fetches (outcome : Outcome) :
    (settle hook owner outcome).1.fetches = hook.fetches.erase owner := by
  rcases settle_cases hook owner outcome with ⟨dropped, -⟩ | ⟨-, -, -, handled⟩
  · simp [dropped]
  · simp [handled]

@[simp] theorem settle_effects_length (outcome : Outcome) :
    (settle hook owner outcome).1.effects.length = hook.effects.length := by
  rcases settle_cases hook owner outcome with ⟨dropped, -⟩ | ⟨-, -, -, handled⟩
  · simp [dropped]
  · simp [handled]

/-- Only a live instance's failed fetch adds a timer, and it is that instance's. -/
theorem timersOf_settle (outcome : Outcome) {i : Nat}
    (other : ∀ effect, hook.effects[owner]? = some effect → effect.cancelled = false → owner ≠ i) :
    timersOf (settle hook owner outcome).1.timers i = timersOf hook.timers i := by
  rcases settle_cases hook owner outcome with ⟨dropped, -⟩ | ⟨effect, found, live, handled⟩
  · rw [dropped]
  · rw [handled]
    exact timersOf_handleOutcome _ _ outcome (other effect found live)

/-- The writes of a settled fetch are its live instance's. -/
theorem settle_writes (outcome : Outcome) {write : Write}
    (written : write ∈ (settle hook owner outcome).2) :
    write.writer = owner ∧ ∃ effect, hook.effects[owner]? = some effect ∧ effect.cancelled = false := by
  rcases settle_cases hook owner outcome with ⟨dropped, -⟩ | ⟨effect, found, live, handled⟩
  · simp [dropped] at written
  · rw [handled] at written
    exact ⟨handleOutcome_writer _ _ outcome write written, effect, found, live⟩

@[simp] theorem fire_effects (timer : Timer) : (fire hook timer).1.effects = hook.effects := by
  unfold fire; dsimp only; split <;> simp

@[simp] theorem fire_timers (timer : Timer) :
    (fire hook timer).1.timers = hook.timers.filter (·.id ≠ timer.id) := by
  unfold fire; dsimp only; split <;> simp

@[simp] theorem fire_retryDelay (timer : Timer) :
    (fire hook timer).1.retryDelay = hook.retryDelay := by
  unfold fire; dsimp only; split <;> simp

@[simp] theorem fire_nextTimer (timer : Timer) : (fire hook timer).1.nextTimer = hook.nextTimer := by
  unfold fire; dsimp only; split <;> simp

@[simp] theorem fire_cleanupOwed (timer : Timer) :
    (fire hook timer).1.cleanupOwed = hook.cleanupOwed := by
  unfold fire; dsimp only; split <;> simp

/-- A firing timer whose instance has an enabled key starts that instance's fetch and writes
nothing. -/
theorem fire_of_enabled {timer : Timer} {effect : Effect}
    (found : hook.effects[timer.owner]? = some effect) (enabled : effect.key.enabled = true) :
    (fire hook timer).1.fetches = hook.fetches ++ [timer.owner] ∧ (fire hook timer).2 = [] := by
  simp [fire, found, enabled]

theorem fire_rates_of_enabled {timer : Timer} {effect : Effect}
    (found : hook.effects[timer.owner]? = some effect) (enabled : effect.key.enabled = true) :
    (fire hook timer).1.rates = hook.rates := by
  simp [fire, found, enabled]

end Settling

theorem timersOf_sublist {timers timers' : List Timer} (sublist : timers.Sublist timers')
    (owner : Nat) : (timersOf timers owner).Sublist (timersOf timers' owner) :=
  sublist.filter _

/-! ## Each handler keeps the invariant -/

section Preservation

variable {hook : Hook}

theorem runEffect_good (good : Good hook)
    (allCancelled : ∀ effect ∈ hook.effects, effect.cancelled = true) (key : Key) :
    Good (runEffect hook key).1 where
  newestLive i effect found live := by
    rw [runEffect_effects] at found
    rcases getElem?_append_singleton found with old | ⟨rfl, -⟩
    · simp [allCancelled effect (List.getElem?_mem old)] at live
    · simp
  fetchOwners owner inFlight := by
    simp only [runEffect_fetches, List.mem_append] at inFlight
    rcases inFlight with old | new
    · simpa using Nat.lt_succ_of_lt (good.fetchOwners owner old)
    · split at new <;> simp_all
  timerOwners timer pending := by
    simpa using Nat.lt_succ_of_lt (good.timerOwners timer (by simpa using pending))
  timerIdsFresh := by simpa using good.timerIdsFresh
  timerIdsDistinct := by simpa using good.timerIdsDistinct
  effects i effect found := by
    rw [runEffect_effects] at found
    rw [runEffect_fetches, runEffect_timers, List.count_append]
    rcases getElem?_append_singleton found with old | ⟨rfl, rfl⟩
    · have within : i < hook.effects.length := (List.getElem?_eq_some_iff.mp old).fst
      have notNew : (if key.enabled then [hook.effects.length] else []).count i = 0 := by
        split <;> simp [List.count_singleton']
        omega
      simpa [notNew] using good.effects i effect old
    · rw [good.count_eq_zero le_rfl, good.timersOf_eq_nil le_rfl]
      cases enabled : key.enabled <;> constructor <;> simp [enabled]
  liveOwed _ _ _ _ := runEffect_cleanupOwed hook key
  owedLive _ := ⟨⟨key, false, none, 0⟩, by simp, rfl⟩

theorem runCleanup_good (good : Good hook) {owner : Nat} {effect : Effect}
    (found : hook.effects[owner]? = some effect) (live : effect.cancelled = false) :
    Good (runCleanup hook owner effect).1 where
  newestLive i cleaned found' live' := by
    rw [runCleanup_effects] at found'
    rw [runCleanup_effects, List.length_modify]
    obtain ⟨old, oldFound, rfl⟩ := getElem?_modify_some found'
    split at live'
    · simp at live'
    · exact good.newestLive i old oldFound live'
  liveOwed i cleaned found' live' := by
    rw [runCleanup_effects] at found'
    obtain ⟨old, oldFound, rfl⟩ := getElem?_modify_some found'
    split at live'
    · simp at live'
    · exact absurd (good.live_unique found live oldFound live') ‹_›
  owedLive owed := absurd owed (by simp)
  fetchOwners owner' inFlight := by simpa using good.fetchOwners owner' inFlight
  timerOwners timer pending := by
    simpa using good.timerOwners timer ((clearTimeout_sublist _ _).subset pending)
  timerIdsFresh timer pending :=
    good.timerIdsFresh timer ((clearTimeout_sublist _ _).subset pending)
  timerIdsDistinct := good.timerIdsDistinct.sublist ((clearTimeout_sublist _ _).map _)
  effects i cleaned found' := by
    rw [runCleanup_effects] at found'
    rw [runCleanup_fetches, runCleanup_timers]
    obtain ⟨old, oldFound, rfl⟩ := getElem?_modify_some found'
    have oldGood := good.effects i old oldFound
    split
    · -- the instance cleaned up: `clearTimeout` removes its one timer
      rename_i same
      subst same
      obtain rfl := Option.some.inj (oldFound.symm.trans found)
      rw [timersOf_clearTimeout oldGood.retryTimer]
      exact ⟨by have := oldGood.atMostOne; simp; omega, fun _ => rfl,
        fun disabled => ⟨(oldGood.disabledIdle disabled).1, rfl⟩, by simp⟩
    · -- an earlier instance: already cancelled, so it has no timer to lose
      rename_i other
      have cancelled : old.cancelled = true :=
        eq_true_of_ne_false fun liveOld => other (good.live_unique found live oldFound liveOld)
      have idle := oldGood.cancelledIdle cancelled
      have cleared : timersOf (clearTimeout effect.retryTimer hook.timers) i = [] :=
        List.eq_nil_of_sublist_nil (idle ▸ timersOf_sublist (clearTimeout_sublist _ _) i)
      rw [cleared]
      exact idle ▸ oldGood

/-- Dropping a fetch keeps the invariant. -/
theorem erase_good (good : Good hook) (owner : Nat) :
    Good { hook with fetches := hook.fetches.erase owner } where
  newestLive := good.newestLive
  liveOwed := good.liveOwed
  owedLive := good.owedLive
  fetchOwners owner' inFlight := good.fetchOwners owner' (List.mem_of_mem_erase inFlight)
  timerOwners := good.timerOwners
  timerIdsFresh := good.timerIdsFresh
  timerIdsDistinct := good.timerIdsDistinct
  effects i effect found := by
    by_cases same : owner = i
    · subst same
      exact (good.effects owner effect found).fewer ((List.erase_sublist _ _).count_le _)
    · simpa [List.count_erase_of_ne (Ne.symm same)] using good.effects i effect found

theorem succeed_good (good : Good hook) {owner : Nat} {effect : Effect}
    (found : hook.effects[owner]? = some effect) (live : effect.cancelled = false)
    (inFlight : owner ∈ hook.fetches) (rates : Rates) :
    Good (succeed { hook with fetches := hook.fetches.erase owner } owner rates).1 where
  newestLive := good.newestLive_modify fun _ => rfl
  liveOwed := good.liveOwed_modify fun _ => rfl
  owedLive := good.owedLive_modify fun _ => rfl
  fetchOwners owner' inFlight' := by
    simpa using good.fetchOwners owner' (List.mem_of_mem_erase (by simpa using inFlight'))
  timerOwners timer pending := by simpa using good.timerOwners timer (by simpa using pending)
  timerIdsFresh := good.timerIdsFresh
  timerIdsDistinct := good.timerIdsDistinct
  effects i updated found' := by
    rw [succeed_effects] at found'
    rw [succeed_fetches, succeed_timers]
    obtain ⟨old, oldFound, rfl⟩ := getElem?_modify_some found'
    split
    · -- the settled instance: no fetch, no timer, no failure left
      rename_i same
      subst same
      obtain rfl := Option.some.inj (oldFound.symm.trans found)
      obtain ⟨one, noTimer, enabled⟩ := good.fetching found inFlight
      rw [List.count_erase_self, one, noTimer]
      exact ⟨by simp, by simp, by simp [enabled], by simp⟩
    · rename_i other
      simpa [List.count_erase_of_ne (Ne.symm other)] using good.effects i old oldFound

theorem retry_good (good : Good hook) {owner : Nat} {effect : Effect}
    (found : hook.effects[owner]? = some effect) (live : effect.cancelled = false)
    (inFlight : owner ∈ hook.fetches) :
    Good (retry { hook with fetches := hook.fetches.erase owner } owner).1 where
  newestLive := good.newestLive_modify fun _ => rfl
  liveOwed := good.liveOwed_modify fun _ => rfl
  owedLive := good.owedLive_modify fun _ => rfl
  fetchOwners owner' inFlight' := by
    simpa using good.fetchOwners owner' (List.mem_of_mem_erase (by simpa using inFlight'))
  timerOwners timer pending := by
    simp only [retry_timers, List.mem_append, List.mem_singleton] at pending
    rcases pending with old | rfl
    · simpa using good.timerOwners timer old
    · simpa using good.fetchOwners owner inFlight
  timerIdsFresh timer pending := by
    simp only [retry_timers, List.mem_append, List.mem_singleton] at pending
    rcases pending with old | rfl
    · simpa using Nat.lt_succ_of_lt (good.timerIdsFresh timer old)
    · simp
  timerIdsDistinct := by
    simp only [retry_timers, List.map_append, List.map_singleton]
    refine good.timerIdsDistinct.append (List.nodup_singleton _) (List.disjoint_singleton.mpr ?_)
    intro used
    obtain ⟨timer, pending, same⟩ := List.mem_map.mp used
    have := good.timerIdsFresh timer pending
    omega
  effects i updated found' := by
    rw [retry_effects] at found'
    rw [retry_fetches, retry_timers, timersOf_append]
    obtain ⟨old, oldFound, rfl⟩ := getElem?_modify_some found'
    split
    · -- the settled instance: its one pending thing is now the new timer
      rename_i same
      subst same
      obtain rfl := Option.some.inj (oldFound.symm.trans found)
      obtain ⟨one, noTimer, enabled⟩ := good.fetching found inFlight
      rw [List.count_erase_self, one, noTimer]
      exact ⟨by simp, by simp [live], by simp [enabled], by simp⟩
    · rename_i other
      simpa [List.count_erase_of_ne (Ne.symm other), other] using good.effects i old oldFound

theorem handleOutcome_good (good : Good hook) {owner : Nat} {effect : Effect}
    (found : hook.effects[owner]? = some effect) (live : effect.cancelled = false)
    (inFlight : owner ∈ hook.fetches) (outcome : Outcome) :
    Good (handleOutcome { hook with fetches := hook.fetches.erase owner } owner outcome).1 := by
  cases outcome with
  | success rates => exact succeed_good good found live inFlight rates
  | networkFailure | undecodableBody => exact retry_good good found live inFlight

theorem settle_good (good : Good hook) {owner : Nat} (inFlight : owner ∈ hook.fetches)
    (outcome : Outcome) : Good (settle hook owner outcome).1 := by
  rcases settle_cases hook owner outcome with ⟨dropped, -⟩ | ⟨effect, found, live, handled⟩
  · rw [dropped]
    exact erase_good good owner
  · rw [handled]
    exact handleOutcome_good good found live inFlight outcome

theorem fire_good (good : Good hook) {timer : Timer} (pending : timer ∈ hook.timers) :
    Good (fire hook timer).1 := by
  obtain ⟨effect, found, idle, live, enabled, carried⟩ := good.timer pending
  obtain ⟨fetches, -⟩ := fire_of_enabled hook found enabled
  have distinct := List.inj_on_of_nodup_map good.timerIdsDistinct
  constructor
  case newestLive => simpa using good.newestLive
  case liveOwed => simpa using good.liveOwed
  case owedLive => simpa using good.owedLive
  case fetchOwners =>
    intro owner inFlight
    simp only [fetches, fire_effects, List.mem_append, List.mem_singleton] at inFlight ⊢
    rcases inFlight with old | rfl
    · exact good.fetchOwners owner old
    · exact good.timerOwners timer pending
  case timerOwners =>
    intro other remaining
    rw [fire_timers] at remaining
    simpa using good.timerOwners other (List.mem_of_mem_filter remaining)
  case timerIdsFresh =>
    intro other remaining
    rw [fire_timers] at remaining
    simpa using good.timerIdsFresh other (List.mem_of_mem_filter remaining)
  case timerIdsDistinct =>
    simpa using good.timerIdsDistinct.sublist ((List.filter_sublist _).map _)
  case effects =>
    intro i updated found'
    rw [fire_effects] at found'
    rw [fetches, fire_timers, List.count_append, timersOf_filter]
    by_cases same : timer.owner = i
    · -- the timer's instance: its timer gone, its fetch in flight
      subst same
      obtain rfl := Option.some.inj (found'.symm.trans found)
      rw [idle, List.filter_eq_nil_iff.mpr fun other mine => by simpa using carried other mine]
      exact ⟨by simp, by simp [live], by simp [enabled], by simp⟩
    · -- another instance: no timer of it carries the fired id
      have keep : (timersOf hook.timers i).filter (·.id ≠ timer.id) = timersOf hook.timers i := by
        refine List.filter_eq_self.mpr fun other mine => ?_
        simp only [timersOf, List.mem_filter, decide_eq_true_eq] at mine
        simp only [ne_eq, decide_eq_true_eq]
        intro sameId
        exact same (distinct pending mine.1 sameId.symm ▸ mine.2)
      rw [keep]
      simpa [List.count_singleton', same] using good.effects i updated found'

end Preservation

/-! ## Every reachable state is good -/

/-- What one step of a good state can be, with its guard: React runs an effect once every
instance is cleaned up, and cleans up the live current instance. -/
theorem step_eq_some {hook : Hook} {event : Event} {result : Hook × List Write}
    (good : Good hook) (stepped : step hook event = some result) :
    (∃ key, event = .effect key ∧ (∀ effect ∈ hook.effects, effect.cancelled = true) ∧
        result = runEffect hook key) ∨
      (∃ effect, event = .cleanup ∧ hook.effects[hook.effects.length - 1]? = some effect ∧
        effect.cancelled = false ∧ result = runCleanup hook (hook.effects.length - 1) effect) ∨
      (∃ owner outcome, event = .settle owner outcome ∧ owner ∈ hook.fetches ∧
        result = settle hook owner outcome) ∨
      (∃ timer, event = .fire timer.id ∧ timer ∈ hook.timers ∧ result = fire hook timer) := by
  cases event with
  | effect key =>
    simp only [step] at stepped
    split at stepped
    · cases stepped
    · rename_i notOwed
      refine .inl ⟨key, rfl, fun effect member => ?_, (Option.some.inj stepped).symm⟩
      obtain ⟨i, within, rfl⟩ := List.getElem_of_mem member
      exact Bool.eq_true_of_not_eq_false fun live =>
        notOwed (good.liveOwed i _ (List.getElem?_eq_getElem within) live)
  | cleanup =>
    simp only [step] at stepped
    split at stepped
    · rename_i owed
      split at stepped
      · rename_i effect found
        obtain ⟨current, found', live⟩ := good.owedLive owed
        obtain rfl := Option.some.inj (found'.symm.trans found)
        exact .inr (.inl ⟨current, rfl, found, live, (Option.some.inj stepped).symm⟩)
      · cases stepped
    · cases stepped
  | settle owner outcome =>
    simp only [step] at stepped
    split at stepped
    · exact .inr (.inr (.inl ⟨owner, outcome, rfl, ‹_›, (Option.some.inj stepped).symm⟩))
    · cases stepped
  | fire id =>
    simp only [step, Option.map_eq_some'] at stepped
    obtain ⟨timer, found, rfl⟩ := stepped
    have sameId : timer.id = id := by simpa using List.find?_some found
    exact .inr (.inr (.inr ⟨timer, by rw [sameId], List.mem_of_find?_eq_some found, rfl⟩))

theorem step_good {hook : Hook} {event : Event} {result : Hook × List Write} (good : Good hook)
    (stepped : step hook event = some result) : Good result.1 := by
  rcases step_eq_some good stepped with ⟨key, -, allCancelled, rfl⟩ | ⟨effect, -, found, live, rfl⟩ |
    ⟨owner, outcome, -, inFlight, rfl⟩ | ⟨timer, -, pending, rfl⟩
  · exact runEffect_good good allCancelled key
  · exact runCleanup_good good found live
  · exact settle_good good inFlight outcome
  · exact fire_good good pending

theorem Reachable.good {hook : Hook} (reachable : Reachable hook) : Good hook := by
  induction reachable with
  | initial => exact Good.initial
  | step _ stepped good => exact step_good good stepped

/-! ## What the poller guarantees -/

/-- Every write of a step is made by the current instance after the step, which had not
been cleaned up before it; a cleanup's own write counts, as it runs while its instance is
still the current one. -/
def WritesByCurrent (hook : Hook) : Prop :=
  ∀ event result, step hook event = some result → ∀ write ∈ result.2,
    write.writer + 1 = result.1.effects.length ∧
      ∀ effect, hook.effects[write.writer]? = some effect → effect.cancelled = false

/-- The fetch of a cleaned-up instance settles without a trace: nothing is written, and
only the fetch is gone from the state. -/
def StaleOutcomesDropped (hook : Hook) : Prop :=
  ∀ owner effect outcome result, hook.effects[owner]? = some effect → effect.cancelled = true →
    step hook (.settle owner outcome) = some result →
      result = ({ hook with fetches := hook.fetches.erase owner }, [])

/-- No instance has two fetches in flight, two timers pending, or one of each. -/
def AtMostOnePending (hook : Hook) : Prop :=
  ∀ i, hook.fetches.count i + (timersOf hook.timers i).length ≤ 1

/-- In no step does a cleaned-up instance start a fetch or have a retry pending. -/
def CleanedUpStaysIdle (hook : Hook) : Prop :=
  ∀ i effect event result, hook.effects[i]? = some effect → effect.cancelled = true →
    step hook event = some result →
      result.1.fetches.count i ≤ hook.fetches.count i ∧ timersOf result.1.timers i = []

section Guarantees

variable {hook : Hook}

theorem Good.writesByCurrent (good : Good hook) : WritesByCurrent hook := by
  intro event result stepped write written
  rcases step_eq_some good stepped with ⟨key, -, -, rfl⟩ | ⟨effect, -, found, live, rfl⟩ |
    ⟨owner, outcome, -, inFlight, rfl⟩ | ⟨timer, -, pending, rfl⟩
  · -- a new instance writes only when its key is disabled, as the current one
    rw [runEffect_writes] at written
    split at written
    · simp at written
    · obtain rfl := List.mem_singleton.mp written
      simp [Write.writer]
  · -- the cleanup writes as the current instance
    obtain rfl := List.mem_singleton.mp written
    have within := (List.getElem?_eq_some_iff.mp found).fst
    refine ⟨by simp [Write.writer]; omega, fun other found' => ?_⟩
    obtain rfl := Option.some.inj (found'.symm.trans found)
    exact live
  · -- a settled fetch writes only for its live instance, the newest one
    obtain ⟨writer, effect, found, live⟩ := settle_writes hook owner outcome written
    rw [writer, settle_effects_length]
    refine ⟨good.newestLive owner effect found live, fun other found' => ?_⟩
    obtain rfl := Option.some.inj (found'.symm.trans found)
    exact live
  · -- a fired timer's instance has an enabled key, so `update` only fetches
    obtain ⟨effect, found, -, -, enabled, -⟩ := good.timer pending
    simp [(fire_of_enabled hook found enabled).2] at written

theorem staleOutcomesDropped (hook : Hook) : StaleOutcomesDropped hook := by
  intro owner effect outcome result found cancelled stepped
  simp only [step] at stepped
  split at stepped
  · cases stepped
    simp [settle, found, cancelled]
  · cases stepped

theorem Good.atMostOnePending (good : Good hook) : AtMostOnePending hook := by
  intro i
  cases found : hook.effects[i]? with
  | some effect => exact (good.effects i effect found).atMostOne
  | none =>
    have beyond : hook.effects.length ≤ i := List.getElem?_eq_none_iff.mp found
    simp [good.count_eq_zero beyond, good.timersOf_eq_nil beyond]

theorem Good.cleanedUpStaysIdle (good : Good hook) : CleanedUpStaysIdle hook := by
  intro i effect event result found cancelled stepped
  have idle := (good.effects i effect found).cancelledIdle cancelled
  have within := (List.getElem?_eq_some_iff.mp found).fst
  /- The only instance that may fetch or get a timer in a step is live or new. -/
  have notLive : ∀ owner other, hook.effects[owner]? = some other → other.cancelled = false →
      owner ≠ i := by
    rintro owner other found' live rfl
    obtain rfl := Option.some.inj (found'.symm.trans found)
    simp [cancelled] at live
  rcases step_eq_some good stepped with ⟨key, -, -, rfl⟩ | ⟨last, -, -, -, rfl⟩ |
    ⟨owner, outcome, -, -, rfl⟩ | ⟨timer, -, pending, rfl⟩
  · have fresh : hook.effects.length ≠ i := by omega
    refine ⟨?_, by simpa using idle⟩
    simp only [runEffect_fetches, List.count_append]
    split <;> simp [List.count_singleton', fresh]
  · exact ⟨by simp, List.eq_nil_of_sublist_nil
      (idle ▸ timersOf_sublist (clearTimeout_sublist _ _) i)⟩
  · refine ⟨by simpa using (List.erase_sublist _ _).count_le i, ?_⟩
    rw [timersOf_settle hook owner outcome (notLive owner), idle]
  · obtain ⟨owner, found', -, live, enabled, -⟩ := good.timer pending
    have other := notLive _ _ found' live
    refine ⟨?_, ?_⟩
    · simp [(fire_of_enabled hook found' enabled).1, List.count_singleton', other]
    · rw [fire_timers, timersOf_filter, idle]
      rfl

end Guarantees

/-- Rates of DAI in US dollars on mainnet. -/
def daiInUsd : Key := Key.ofArguments (some ["0x6B175474E89094C44Da98b954EedeAC495271d0F"])
  ["usd"] (some 1)

/-- The hook after its first fetch failed: one live instance with a retry pending. -/
def afterFirstFailure : Hook := (settle (runEffect Hook.initial daiInUsd).1 0 .networkFailure).1

example : afterFirstFailure.fetches = [] ∧ (timersOf afterFirstFailure.timers 0).length = 1 := by
  decide

/-! ## A disabled key

With no token address, no currency or no chain, `update` clears the rates and starts no
fetch; while that instance stays current, no step brings rates back. -/

/-- The current instance, when live with a disabled key, has the rates cleared. -/
def RatesCleared (hook : Hook) : Prop :=
  ∀ effect, hook.effects[hook.effects.length - 1]? = some effect → effect.cancelled = false →
    effect.key.enabled = false → hook.rates = ⟨[]⟩

theorem step_ratesCleared {hook : Hook} {event : Event} {result : Hook × List Write}
    (good : Good hook) (cleared : RatesCleared hook) (stepped : step hook event = some result) :
    RatesCleared result.1 := by
  intro newest found live disabled
  rcases step_eq_some good stepped with ⟨key, -, -, rfl⟩ | ⟨effect, -, -, -, rfl⟩ |
    ⟨owner, outcome, -, inFlight, rfl⟩ | ⟨timer, -, pending, rfl⟩
  · -- the new instance is the current one, and cleared the rates itself
    simp only [runEffect_effects, List.length_append, List.length_singleton, Nat.add_sub_cancel,
      List.getElem?_concat_length, Option.some.injEq] at found
    subst found
    simp [disabled]
  · -- the cleanup cancels the current instance
    rw [runCleanup_effects, List.length_modify] at found
    obtain ⟨old, -, rfl⟩ := getElem?_modify_some found
    simp at live
  · rcases settle_cases hook owner outcome with ⟨dropped, -⟩ | ⟨effect, ownerFound, ownerLive, handled⟩
    · -- a dropped outcome changes nothing the invariant reads
      rw [dropped] at found ⊢
      exact cleared newest found live disabled
    · -- a handled outcome is the current instance's, whose key is enabled
      rw [handled] at found
      have current := good.newestLive owner effect ownerFound ownerLive
      have enabled := (good.fetching ownerFound inFlight).2.2
      have sameKeys := congrArg (·[owner]?)
        (handleOutcome_keys { hook with fetches := hook.fetches.erase owner } owner outcome)
      rw [handleOutcome_effects_length, show hook.effects.length - 1 = owner by omega] at found
      simp only [List.getElem?_map, found, ownerFound, Option.map_some', Option.some.injEq]
        at sameKeys
      simp [sameKeys, enabled] at disabled
  · -- a firing timer's instance is the current one, and its key is enabled
    obtain ⟨effect, ownerFound, -, ownerLive, enabled, -⟩ := good.timer pending
    have current := good.newestLive _ effect ownerFound ownerLive
    rw [fire_effects, show hook.effects.length - 1 = timer.owner by omega, ownerFound] at found
    obtain rfl := Option.some.inj found
    simp [enabled] at disabled

theorem Reachable.ratesCleared {hook : Hook} (reachable : Reachable hook) : RatesCleared hook := by
  induction reachable with
  | initial => intro effect found; simp [Hook.initial] at found
  | step reach stepped cleared => exact step_ratesCleared reach.good cleared stepped

theorem Reachable.disabled_key_idles {hook : Hook} (reachable : Reachable hook) {effect : Effect}
    (current : hook.effects[hook.effects.length - 1]? = some effect)
    (live : effect.cancelled = false) (disabled : effect.key.enabled = false) :
    hook.rates = ⟨[]⟩ ∧ hook.effects.length - 1 ∉ hook.fetches ∧
      timersOf hook.timers (hook.effects.length - 1) = [] := by
  obtain ⟨noFetch, noTimer⟩ := (reachable.good.effects _ effect current).disabledIdle disabled
  exact ⟨reachable.ratesCleared effect current live disabled, List.count_eq_zero.mp noFetch,
    noTimer⟩

/-- Rates in US dollars for an empty token list. -/
def noTokensInUsd : Key := Key.ofArguments (some []) ["usd"] (some 1)

/-- The hook mounted with no token to price. -/
def mountedWithoutTokens : Hook := (runEffect Hook.initial noTokensInUsd).1

theorem mountedWithoutTokens_reachable : Reachable mountedWithoutTokens :=
  .step .initial (show step Hook.initial (.effect noTokensInUsd) =
    some (mountedWithoutTokens, (runEffect Hook.initial noTokensInUsd).2) from rfl)

theorem disabled_key_idles_without_tokens :
    mountedWithoutTokens.rates = ⟨[]⟩ ∧
      mountedWithoutTokens.effects.length - 1 ∉ mountedWithoutTokens.fetches ∧
      timersOf mountedWithoutTokens.timers (mountedWithoutTokens.effects.length - 1) = [] :=
  Reachable.disabled_key_idles mountedWithoutTokens_reachable rfl rfl (by decide)

end SuperfluidAragon.ConvertRates
