import AwsCrt.Browser.Mqtt5Utils

/-!
# The browser MQTT5 reconnection scheduler (`ReconnectionScheduler`, `src/lib/browser/mqtt5.ts`)

The scheduler keeps a failure count, the last delay it chose and two timers: the reset task, which
`onSuccessfulConnection()` arms and which zeroes the count and forgets the last delay when it
fires, and the reconnection task, which `onConnectionFailureOrDisconnection()` arms with the delay
of `calculateNextReconnectDelay()`. Both methods clear both timers first.

* `step`: one call on the scheduler, or one of its timers firing, with the timeouts it sets.
  `Math.random()` is an input of the failure call, a `RandomDraw` in `[0, 1)`.
* `DelayInv`: the last delay is undefined or within the bounds. Every call keeps it
  (`delayInv_step`), and from it every chosen delay is within the bounds
  (`calculateNextReconnectDelay_mem`), also the decorrelated one, which is drawn up to three times
  the last delay.
* `scheduledDelays_run_jitter_none`: without jitter the delays are the exponential sequence from
  the failure count, capped at the upper bound; the count is zeroed by a reset task that fires,
  and a timer fires only while it is armed (`TimersFire`).
* `reconnect_delays_within_bounds`: the bounds are ordered, every delay of every run is within them,
  without jitter the delays after a reset are the capped exponential sequence, and every delay is
  shorter than the `reconnectPeriod` that mqtt-js is given.
-/

namespace AwsCrt

/-- A value of `Math.random()`. -/
structure RandomDraw where
  value : ℚ
  nonneg : 0 ≤ value
  lt_one : value < 1

/-- A `ReconnectionScheduler`, each of its timers by whether it is armed: set, and neither fired
nor cleared. -/
structure ReconnectionScheduler where
  connectionFailureCount : Nat
  lastReconnectDelay : Option ℚ
  resetConnectionFailureCountTask : Bool
  reconnectionTask : Bool
  deriving DecidableEq, Repr

/-- What happens to a scheduler: a call of one of its methods, or one of its timers firing. -/
inductive SchedulerCall
  | onSuccessfulConnection
  | onConnectionFailureOrDisconnection (random : RandomDraw)
  | clearTasks
  | resetConnectionFailureCountFires
  | reconnectionFires

/-- What the scheduler does outside itself: the timeouts it sets, and `browserClient.reconnect()`. -/
inductive SchedulerEffect
  | setResetTimeout (delayMs : ℚ)
  | setReconnectTimeout (delayMs : ℚ)
  | reconnect
  deriving DecidableEq, Repr

def SchedulerEffect.reconnectDelay : SchedulerEffect → Option ℚ
  | .setReconnectTimeout delayMs => some delayMs
  | .setResetTimeout _ | .reconnect => none

/-- The reconnect delays among the effects of a run, in order. -/
def scheduledDelays (effects : List SchedulerEffect) : List ℚ :=
  effects.filterMap SchedulerEffect.reconnectDelay

theorem scheduledDelays_append (effects effects' : List SchedulerEffect) :
    scheduledDelays (effects ++ effects') = scheduledDelays effects ++ scheduledDelays effects' :=
  List.filterMap_append

def SchedulerCall.isFailure : SchedulerCall → Bool
  | .onConnectionFailureOrDisconnection _ => true
  | .onSuccessfulConnection | .clearTasks | .resetConnectionFailureCountFires
  | .reconnectionFires => false

/-- The number of failure calls. -/
def failures (calls : List SchedulerCall) : Nat := calls.countP SchedulerCall.isFailure

theorem failures_cons_of_isFailure_false {c : SchedulerCall} (hc : c.isFailure = false)
    (calls : List SchedulerCall) : failures (c :: calls) = failures calls :=
  List.countP_cons_of_neg (by simp [hc])

theorem failures_cons_failure (random : RandomDraw) (calls : List SchedulerCall) :
    failures (.onConnectionFailureOrDisconnection random :: calls) = failures calls + 1 :=
  List.countP_cons_of_pos rfl

namespace ReconnectionScheduler

/-- `new ReconnectionScheduler(browserClient, clientConfig)`. -/
def init : ReconnectionScheduler := ⟨0, none, false, false⟩

def clearTasks (s : ReconnectionScheduler) : ReconnectionScheduler :=
  { s with resetConnectionFailureCountTask := false, reconnectionTask := false }

def randomInRange (min max random : ℚ) : ℚ := min + (max - min) * random

variable (clientConfig : Mqtt5ClientConfig)

def calculateNextReconnectDelay (s : ReconnectionScheduler) (random : ℚ) :
    ℚ × ReconnectionScheduler :=
  let jitterType := clientConfig.retryJitterMode.getD .Default
  let bounds :=
    getOrderedReconnectDelayBounds clientConfig.minReconnectDelayMs clientConfig.maxReconnectDelayMs
  let minDelay := bounds.1
  let maxDelay := bounds.2
  let clampedFailureCount := min 52 s.connectionFailureCount
  let delay :=
    if jitterType = .None then minDelay * 2 ^ clampedFailureCount
    -- `this.lastReconnectDelay` is truthy: defined and not zero
    else if jitterType = .Decorrelated ∧ s.lastReconnectDelay.getD 0 ≠ 0 then
      randomInRange minDelay (3 * s.lastReconnectDelay.getD 0) random
    else randomInRange minDelay (min maxDelay (minDelay * 2 ^ clampedFailureCount)) random
  let delay := min maxDelay delay
  (delay, { s with lastReconnectDelay := some delay })

def onSuccessfulConnection (s : ReconnectionScheduler) :
    ReconnectionScheduler × List SchedulerEffect :=
  let s := s.clearTasks
  ({ s with resetConnectionFailureCountTask := true },
    [.setResetTimeout (clientConfig.minConnectedTimeToResetReconnectDelayMs.getD
      DEFAULT_MIN_CONNECTED_TIME_TO_RESET_RECONNECT_DELAY_MS)])

def onConnectionFailureOrDisconnection (s : ReconnectionScheduler) (random : ℚ) :
    ReconnectionScheduler × List SchedulerEffect :=
  let s := s.clearTasks
  let r := calculateNextReconnectDelay clientConfig s random
  let nextDelay := r.1
  let s := r.2
  ({ s with
      lastReconnectDelay := some nextDelay
      connectionFailureCount := s.connectionFailureCount + 1
      reconnectionTask := true },
    [.setReconnectTimeout nextDelay])

/-- One call on the scheduler, or the firing of one of its timers; a timer that is not armed does
nothing when it fires. -/
def step (s : ReconnectionScheduler) : SchedulerCall → ReconnectionScheduler × List SchedulerEffect
  | .onSuccessfulConnection => onSuccessfulConnection clientConfig s
  | .onConnectionFailureOrDisconnection random =>
    onConnectionFailureOrDisconnection clientConfig s random.value
  | .clearTasks => (s.clearTasks, [])
  | .resetConnectionFailureCountFires =>
    if s.resetConnectionFailureCountTask then
      ({ s with
          connectionFailureCount := 0
          lastReconnectDelay := none
          resetConnectionFailureCountTask := false }, [])
    else (s, [])
  | .reconnectionFires =>
    if s.reconnectionTask then ({ s with reconnectionTask := false }, [.reconnect]) else (s, [])

/-- The environment of real timers: a timer fires only while it is armed. -/
def TimersFire (s : ReconnectionScheduler) : SchedulerCall → Prop
  | .resetConnectionFailureCountFires => s.resetConnectionFailureCountTask = true
  | .reconnectionFires => s.reconnectionTask = true
  | .onSuccessfulConnection | .onConnectionFailureOrDisconnection _ | .clearTasks => True

/-! ## What each call does -/

@[simp] theorem clearTasks_connectionFailureCount (s : ReconnectionScheduler) :
    s.clearTasks.connectionFailureCount = s.connectionFailureCount := rfl

@[simp] theorem clearTasks_lastReconnectDelay (s : ReconnectionScheduler) :
    s.clearTasks.lastReconnectDelay = s.lastReconnectDelay := rfl

theorem step_failure (s : ReconnectionScheduler) (random : RandomDraw) :
    step clientConfig s (.onConnectionFailureOrDisconnection random) =
      ({ s with
          lastReconnectDelay := some (calculateNextReconnectDelay clientConfig s random.value).1
          connectionFailureCount := s.connectionFailureCount + 1
          resetConnectionFailureCountTask := false
          reconnectionTask := true },
        [.setReconnectTimeout (calculateNextReconnectDelay clientConfig s random.value).1]) := rfl

/-- Every call but a failure and a firing reset task keeps the count and the last delay, and
schedules no reconnect. -/
theorem step_keeps (s : ReconnectionScheduler) {c : SchedulerCall} (hc : c.isFailure = false)
    (hr : c ≠ .resetConnectionFailureCountFires) :
    (step clientConfig s c).1.connectionFailureCount = s.connectionFailureCount ∧
      (step clientConfig s c).1.lastReconnectDelay = s.lastReconnectDelay ∧
      scheduledDelays (step clientConfig s c).2 = [] := by
  cases c with
  | onSuccessfulConnection => exact ⟨rfl, rfl, rfl⟩
  | onConnectionFailureOrDisconnection random => cases hc
  | clearTasks => exact ⟨rfl, rfl, rfl⟩
  | resetConnectionFailureCountFires => exact absurd rfl hr
  | reconnectionFires =>
    simp only [step]
    split <;> exact ⟨rfl, rfl, rfl⟩

/-! ## The delays are within the bounds -/

theorem le_randomInRange {min max random : ℚ} (h : min ≤ max) (hr : 0 ≤ random) :
    min ≤ randomInRange min max random :=
  le_add_of_nonneg_right (mul_nonneg (sub_nonneg.mpr h) hr)

/-- The last delay is undefined, or within the bounds. -/
def DelayInv (s : ReconnectionScheduler) : Prop :=
  ∀ d ∈ s.lastReconnectDelay, clientConfig.delayBounds.lo ≤ d ∧ d ≤ clientConfig.delayBounds.hi

variable {clientConfig}

theorem calculateNextReconnectDelay_mem {s : ReconnectionScheduler} (hs : DelayInv clientConfig s)
    {random : ℚ} (hr : 0 ≤ random) :
    clientConfig.delayBounds.lo ≤ (calculateNextReconnectDelay clientConfig s random).1 ∧
      (calculateNextReconnectDelay clientConfig s random).1 ≤ clientConfig.delayBounds.hi := by
  have hlo := clientConfig.delayBounds.one_le_lo
  have hle := clientConfig.delayBounds.lo_le_hi
  -- the exponential term is never below the lower bound
  have hexp : clientConfig.delayBounds.lo ≤
      clientConfig.delayBounds.lo * 2 ^ min 52 s.connectionFailureCount :=
    le_mul_of_one_le_right (by linarith) (one_le_pow₀ (by norm_num))
  simp only [calculateNextReconnectDelay, Mqtt5ClientConfig.delayBounds_eq]
  refine ⟨le_min hle ?_, min_le_left _ _⟩
  split_ifs with hnone hdec
  · exact hexp
  · -- a decorrelated draw: the last delay is defined, so at least the lower bound
    cases hl : s.lastReconnectDelay with
    | none => simp [hl] at hdec
    | some last =>
      have hlast := (hs last hl).1
      simp only [Option.getD_some]
      exact le_randomInRange (by linarith) hr
  · exact le_randomInRange (le_min hle hexp) hr

theorem delayInv_init : DelayInv clientConfig init := by
  simp [DelayInv, init]

theorem delayInv_step {s : ReconnectionScheduler} (hs : DelayInv clientConfig s) (c : SchedulerCall) :
    DelayInv clientConfig (step clientConfig s c).1 ∧
      ∀ d ∈ scheduledDelays (step clientConfig s c).2,
        clientConfig.delayBounds.lo ≤ d ∧ d ≤ clientConfig.delayBounds.hi := by
  by_cases hr : c = .resetConnectionFailureCountFires
  · subst hr
    simp only [step]
    split
    · exact ⟨by simp [DelayInv], by simp [scheduledDelays]⟩
    · exact ⟨hs, by simp [scheduledDelays]⟩
  cases hc : c.isFailure with
  | false =>
    obtain ⟨-, hlast, hnone⟩ := step_keeps clientConfig s hc hr
    refine ⟨?_, by simp [hnone]⟩
    intro d hd
    rw [hlast] at hd
    exact hs d hd
  | true =>
    obtain _ | random | _ | _ | _ := c <;> cases hc
    have hmem := calculateNextReconnectDelay_mem hs random.nonneg
    rw [step_failure]
    refine ⟨?_, ?_⟩
    · intro d hd
      cases hd
      exact hmem
    · simp only [scheduledDelays, List.filterMap_cons, SchedulerEffect.reconnectDelay,
        List.filterMap_nil, List.mem_singleton]
      rintro d rfl
      exact hmem

/-- Every delay of every run is within the bounds. -/
theorem scheduledDelays_run_mem (calls : List SchedulerCall) :
    ∀ d ∈ scheduledDelays (Machine.run (step clientConfig) init calls).2,
      clientConfig.delayBounds.lo ≤ d ∧ d ≤ clientConfig.delayBounds.hi := by
  intro d hd
  obtain ⟨e, he, hed⟩ := List.mem_filterMap.mp hd
  refine Machine.run_outputs_allowed (step clientConfig) (DelayInv clientConfig) (fun _ _ => True)
    (fun e => ∀ d, e.reconnectDelay = some d →
      clientConfig.delayBounds.lo ≤ d ∧ d ≤ clientConfig.delayBounds.hi)
    ?_ delayInv_init (Machine.allowed_of_forall _ (fun _ _ => trivial) _ _) e he d hed
  intro s c hs _
  obtain ⟨hs', hd'⟩ := delayInv_step hs c
  exact ⟨hs', fun e he d hed => hd' d (List.mem_filterMap.mpr ⟨e, he, hed⟩)⟩

/-! ## Without jitter -/

theorem calculateNextReconnectDelay_jitter_none (h : clientConfig.retryJitterMode = some .None)
    (s : ReconnectionScheduler) (random : ℚ) :
    (calculateNextReconnectDelay clientConfig s random).1 =
      min clientConfig.delayBounds.hi
        (clientConfig.delayBounds.lo * 2 ^ min 52 s.connectionFailureCount) := by
  simp [calculateNextReconnectDelay, h, Mqtt5ClientConfig.delayBounds_eq]

/-- Without a firing reset task, the delays follow the exponential sequence from the count. -/
theorem scheduledDelays_run_jitter_none (h : clientConfig.retryJitterMode = some .None)
    (s : ReconnectionScheduler) {calls : List SchedulerCall}
    (hcalls : ∀ c ∈ calls, c ≠ .resetConnectionFailureCountFires) :
    scheduledDelays (Machine.run (step clientConfig) s calls).2 =
      (List.range' s.connectionFailureCount (failures calls)).map fun k =>
        min clientConfig.delayBounds.hi (clientConfig.delayBounds.lo * 2 ^ min 52 k) := by
  induction calls generalizing s with
  | nil => rfl
  | cons c calls ih =>
    have hr : c ≠ .resetConnectionFailureCountFires := hcalls c (by simp)
    have ih' := ih (step clientConfig s c).1 (fun c hc => hcalls c (List.mem_cons_of_mem _ hc))
    rw [Machine.run_cons, scheduledDelays_append, ih']
    cases hc : c.isFailure with
    | false =>
      obtain ⟨hcount, -, hnone⟩ := step_keeps clientConfig s hc hr
      rw [hnone, List.nil_append, hcount, failures_cons_of_isFailure_false hc]
    | true =>
      obtain _ | random | _ | _ | _ := c <;> cases hc
      -- a failure schedules the delay of the current count, and counts itself
      rw [step_failure, failures_cons_failure, List.range'_succ, List.map_cons,
        calculateNextReconnectDelay_jitter_none h]
      rfl

/-- A reset task that fires zeroes the count: so does every run that ends with one, under real
timers. -/
theorem connectionFailureCount_after_reset {pre : List SchedulerCall}
    (hpre : Machine.Allowed (step clientConfig) TimersFire init pre)
    (hlast : pre = [] ∨ pre.getLast? = some .resetConnectionFailureCountFires) :
    (Machine.run (step clientConfig) init pre).1.connectionFailureCount = 0 := by
  rcases hlast with rfl | hlast
  · rfl
  obtain ⟨pre', rfl⟩ := List.getLast?_eq_some_iff.mp hlast
  have hfires := ((Machine.allowed_append _ _ _ _ _).mp hpre).2.1
  rw [Machine.run_append, Machine.run_singleton]
  simp only [TimersFire] at hfires
  simp [step, hfires]

end ReconnectionScheduler

open ReconnectionScheduler in
theorem reconnect_delays_within_bounds (clientConfig : Mqtt5ClientConfig) :
    let lo := (getOrderedReconnectDelayBounds clientConfig.minReconnectDelayMs
      clientConfig.maxReconnectDelayMs).1
    let hi := (getOrderedReconnectDelayBounds clientConfig.minReconnectDelayMs
      clientConfig.maxReconnectDelayMs).2
    (1 ≤ lo ∧ lo ≤ hi) ∧
    (∀ calls, ∀ d ∈ scheduledDelays (Machine.run (step clientConfig) init calls).2,
      lo ≤ d ∧ d ≤ hi) ∧
    (clientConfig.retryJitterMode = some .None → ∀ pre post,
      Machine.Allowed (step clientConfig) TimersFire init pre →
      (pre = [] ∨ pre.getLast? = some .resetConnectionFailureCountFires) →
      (∀ c ∈ post, c ≠ .resetConnectionFailureCountFires) →
      scheduledDelays
          (Machine.run (step clientConfig) (Machine.run (step clientConfig) init pre).1 post).2 =
        (List.range (failures post)).map fun k => min hi (lo * 2 ^ min k 52)) ∧
    (∀ options, create_mqtt_js_client_config_from_crt_client_config clientConfig = .ok options →
      ∀ calls, ∀ d ∈ scheduledDelays (Machine.run (step clientConfig) init calls).2,
        d < options.reconnectPeriod) := by
  simp only [Mqtt5ClientConfig.delayBounds_eq]
  refine ⟨⟨clientConfig.delayBounds.one_le_lo, clientConfig.delayBounds.lo_le_hi⟩,
    scheduledDelays_run_mem, ?_, ?_⟩
  · intro h pre post hpre hlast hpost
    rw [scheduledDelays_run_jitter_none h _ hpost, connectionFailureCount_after_reset hpre hlast,
      ← List.range_eq_range']
    simp only [min_comm 52]
  · intro options hoptions calls d hd
    have hle := (scheduledDelays_run_mem calls d hd).2
    have hlo := clientConfig.delayBounds.one_le_lo
    have hlohi := clientConfig.delayBounds.lo_le_hi
    rw [reconnectPeriod_of_create hoptions, compute_mqtt_js_reconnect_delay_from_crt_max_delay]
    linarith

open ReconnectionScheduler in
/-- Without jitter, the failures after a new scheduler wait one and then two seconds, with a
success between them, and mqtt-js is given five minutes. -/
theorem reconnect_delays_within_bounds_jitter_none :
    let clientConfig : Mqtt5ClientConfig :=
      { hostName := "localhost", port := 1883, retryJitterMode := some .None }
    let draw : RandomDraw := ⟨0, le_refl 0, by norm_num⟩
    let calls : List SchedulerCall := [.onConnectionFailureOrDisconnection draw,
      .onSuccessfulConnection, .onConnectionFailureOrDisconnection draw]
    scheduledDelays
        (Machine.run (step clientConfig) (Machine.run (step clientConfig) init []).1 calls).2 =
      [1000, 2000] ∧
    ∀ d ∈ scheduledDelays (Machine.run (step clientConfig) init calls).2, d < 300000 := by
  intro clientConfig draw calls
  have h := reconnect_delays_within_bounds clientConfig
  refine ⟨?_, ?_⟩
  · rw [h.2.2.1 rfl [] calls trivial (.inl rfl) (by simp [calls])]
    norm_num [calls, failures, List.countP_cons, SchedulerCall.isFailure, clientConfig,
      getOrderedReconnectDelayBounds, DEFAULT_MIN_RECONNECT_DELAY_MS, DEFAULT_MAX_RECONNECT_DELAY_MS,
      List.range_succ]
  · have hoptions : create_mqtt_js_client_config_from_crt_client_config clientConfig =
        .ok
          { protocolVersion := 5, keepalive := 1200, connectTimeout := 30000, clean := true,
            reconnectPeriod := 300000, autoUseTopicAlias := false, autoAssignTopicAlias := false,
            queueQoSZero := false, resubscribe := false, clientId := "", username := none,
            properties := none } := by
      simp only [clientConfig]
      with_unfolding_all rfl
    exact h.2.2.2 _ hoptions calls

end AwsCrt
