import AwsCrt.Browser.Ws
import AwsCrt.Browser.ReconnectionScheduler

/-!
# The MQTT 3.1.1 reconnect bounds, browser and native (`src/lib/browser/mqtt.ts`, `src/lib/native/mqtt.ts`)

Both `MqttClientConnection` constructors start from `DEFAULT_RECONNECT_MIN_SEC` and
`DEFAULT_RECONNECT_MAX_SEC`; a configured `reconnect_min_sec` replaces the minimum and raises the
maximum to it, then a configured `reconnect_max_sec` replaces the maximum and lowers the minimum to
it. They differ in what counts as configured: the browser tests `!== undefined`, the native code
tests truthiness, so a zero is configured in the browser and ignored natively
(`clampReconnectBounds`, one definition for both, with the test as a parameter).

* `clampReconnectBounds_le`: either way the minimum is at most the maximum.
* `reconnectBounds_eq_iff`: for non-negative values the two agree exactly when neither value is
  zero.
* `get_reconnect_time_sec_mem`: the browser's full-jitter wait lies within its bounds, for every
  reconnect count and every draw of `Math.random()`; `get_reconnect_time_sec_le`: it is at most
  the minimum plus `max(min, 1) · 2 ^ reconnect_count`.
* `reconnect_min_zero_bounds_differ`: a configured minimum of zero gives the browser `(0, 128)`,
  and a first wait of zero seconds, where the native connection has `(1, 128)`.
-/

namespace AwsCrt

def DEFAULT_RECONNECT_MAX_SEC : ℚ := 128

def DEFAULT_RECONNECT_MIN_SEC : ℚ := 1

/-- `if (config.reconnect_min_sec ...) { min_sec = config.reconnect_min_sec; max_sec =
Math.max(min_sec, max_sec); }`, a value being configured when `isSet` holds of it. -/
def clampReconnectMin (isSet : ℚ → Bool) (reconnect_min_sec : Option ℚ) (bounds : ℚ × ℚ) :
    ℚ × ℚ :=
  match reconnect_min_sec with
  | some v => if isSet v then (v, max v bounds.2) else bounds
  | none => bounds

/-- `if (config.reconnect_max_sec ...) { max_sec = config.reconnect_max_sec; min_sec =
Math.min(min_sec, max_sec); }`. -/
def clampReconnectMax (isSet : ℚ → Bool) (reconnect_max_sec : Option ℚ) (bounds : ℚ × ℚ) :
    ℚ × ℚ :=
  match reconnect_max_sec with
  | some v => if isSet v then (min bounds.1 v, v) else bounds
  | none => bounds

/-- The reconnect bounds a constructor derives. -/
def clampReconnectBounds (isSet : ℚ → Bool) (reconnect_min_sec reconnect_max_sec : Option ℚ) :
    ℚ × ℚ :=
  clampReconnectMax isSet reconnect_max_sec
    (clampReconnectMin isSet reconnect_min_sec (DEFAULT_RECONNECT_MIN_SEC, DEFAULT_RECONNECT_MAX_SEC))

/-- The browser constructor: `config.reconnect_min_sec !== undefined`. -/
def MqttConnectionConfig.reconnectBounds (config : MqttConnectionConfig) : ℚ × ℚ :=
  clampReconnectBounds (fun _ => true) config.reconnect_min_sec config.reconnect_max_sec

/-- The fields of the native `MqttConnectionConfig` that its constructor's clamp reads. -/
structure NativeMqttConnectionConfig where
  reconnect_min_sec : Option ℚ := none
  reconnect_max_sec : Option ℚ := none

/-- The native constructor: `if (config.reconnect_min_sec)`, a number being truthy when it is not
zero. -/
def NativeMqttConnectionConfig.reconnectBounds (config : NativeMqttConnectionConfig) : ℚ × ℚ :=
  clampReconnectBounds (fun v => v != 0) config.reconnect_min_sec config.reconnect_max_sec

/-- The reconnect fields of the browser `MqttClientConnection`. -/
structure MqttClientConnection where
  reconnect_count : Nat
  reconnect_min_sec : ℚ
  reconnect_max_sec : ℚ

/-- The reconnect fields as the constructor leaves them. -/
def MqttClientConnection.ofConfig (config : MqttConnectionConfig) : MqttClientConnection :=
  ⟨0, config.reconnectBounds.1, config.reconnectBounds.2⟩

/-- `get_reconnect_time_sec()`, with `Math.random()` given. -/
def MqttClientConnection.get_reconnect_time_sec (c : MqttClientConnection) (random : ℚ) : ℚ :=
  if c.reconnect_min_sec = 0 ∧ c.reconnect_max_sec = 0 then 0
  else
    let cap := c.reconnect_max_sec - c.reconnect_min_sec
    let base := max c.reconnect_min_sec 1
    let sleep := random * min cap (base * 2 ^ c.reconnect_count)
    c.reconnect_min_sec + sleep

/-! ## The bounds are ordered -/

theorem clampReconnectMin_le {isSet : ℚ → Bool} (reconnect_min_sec : Option ℚ) {bounds : ℚ × ℚ}
    (h : bounds.1 ≤ bounds.2) :
    (clampReconnectMin isSet reconnect_min_sec bounds).1 ≤
      (clampReconnectMin isSet reconnect_min_sec bounds).2 := by
  unfold clampReconnectMin
  split
  · split
    · exact le_max_left _ _
    · exact h
  · exact h

theorem clampReconnectMax_le {isSet : ℚ → Bool} (reconnect_max_sec : Option ℚ) {bounds : ℚ × ℚ}
    (h : bounds.1 ≤ bounds.2) :
    (clampReconnectMax isSet reconnect_max_sec bounds).1 ≤
      (clampReconnectMax isSet reconnect_max_sec bounds).2 := by
  unfold clampReconnectMax
  split
  · split
    · exact min_le_right _ _
    · exact h
  · exact h

theorem clampReconnectBounds_le (isSet : ℚ → Bool) (reconnect_min_sec reconnect_max_sec : Option ℚ) :
    (clampReconnectBounds isSet reconnect_min_sec reconnect_max_sec).1 ≤
      (clampReconnectBounds isSet reconnect_min_sec reconnect_max_sec).2 :=
  clampReconnectMax_le _ (clampReconnectMin_le _ (by norm_num [DEFAULT_RECONNECT_MIN_SEC,
    DEFAULT_RECONNECT_MAX_SEC]))

/-! ## Browser and native -/

/-- Two presence tests that agree on the configured values give the same bounds. -/
theorem clampReconnectBounds_congr {isSet isSet' : ℚ → Bool} {reconnect_min_sec reconnect_max_sec : Option ℚ}
    (hmin : ∀ v ∈ reconnect_min_sec, isSet v = isSet' v)
    (hmax : ∀ v ∈ reconnect_max_sec, isSet v = isSet' v) :
    clampReconnectBounds isSet reconnect_min_sec reconnect_max_sec =
      clampReconnectBounds isSet' reconnect_min_sec reconnect_max_sec := by
  have hmin' : clampReconnectMin isSet reconnect_min_sec (DEFAULT_RECONNECT_MIN_SEC, DEFAULT_RECONNECT_MAX_SEC) =
      clampReconnectMin isSet' reconnect_min_sec (DEFAULT_RECONNECT_MIN_SEC, DEFAULT_RECONNECT_MAX_SEC) := by
    cases reconnect_min_sec with
    | none => rfl
    | some v => simp only [clampReconnectMin, hmin v rfl]
  unfold clampReconnectBounds
  rw [hmin']
  cases reconnect_max_sec with
  | none => rfl
  | some v => simp only [clampReconnectMax, hmax v rfl]

theorem le_clampReconnectMin_snd (isSet : ℚ → Bool) (reconnect_min_sec : Option ℚ) (bounds : ℚ × ℚ) :
    bounds.2 ≤ (clampReconnectMin isSet reconnect_min_sec bounds).2 := by
  unfold clampReconnectMin
  split
  · split
    · exact le_max_right _ _
    · exact le_refl _
  · exact le_refl _

/-- A zero minimum is configured in the browser: its minimum stays zero under a non-negative
maximum. -/
theorem browser_min_zero {reconnect_max_sec : Option ℚ} (hmax : ∀ v ∈ reconnect_max_sec, 0 ≤ v) :
    (clampReconnectBounds (fun _ => true) (some 0) reconnect_max_sec).1 = 0 := by
  cases reconnect_max_sec with
  | none => rfl
  | some w => simpa [clampReconnectBounds, clampReconnectMin, clampReconnectMax] using hmax w rfl

/-- A zero minimum is ignored natively: the minimum stays positive under a non-negative maximum. -/
theorem native_min_zero_pos {reconnect_max_sec : Option ℚ} (hmax : ∀ v ∈ reconnect_max_sec, 0 ≤ v) :
    0 < (clampReconnectBounds (fun v => v != 0) (some 0) reconnect_max_sec).1 := by
  cases reconnect_max_sec with
  | none => simp [clampReconnectBounds, clampReconnectMin, clampReconnectMax, DEFAULT_RECONNECT_MIN_SEC]
  | some w =>
    have hw := hmax w rfl
    by_cases h0 : w = 0
    · simp [clampReconnectBounds, clampReconnectMin, clampReconnectMax, h0, DEFAULT_RECONNECT_MIN_SEC]
    · have hpos : 0 < w := lt_of_le_of_ne hw (Ne.symm h0)
      simp [clampReconnectBounds, clampReconnectMin, clampReconnectMax, h0, DEFAULT_RECONNECT_MIN_SEC,
        hpos]

/-- For non-negative values, the browser and the native constructor derive the same bounds exactly
when neither value is zero. -/
theorem reconnectBounds_eq_iff {reconnect_min_sec reconnect_max_sec : Option ℚ}
    (hmin : ∀ v ∈ reconnect_min_sec, 0 ≤ v) (hmax : ∀ v ∈ reconnect_max_sec, 0 ≤ v) :
    clampReconnectBounds (fun _ => true) reconnect_min_sec reconnect_max_sec =
        clampReconnectBounds (fun v => v != 0) reconnect_min_sec reconnect_max_sec ↔
      reconnect_min_sec ≠ some 0 ∧ reconnect_max_sec ≠ some 0 := by
  constructor
  · intro h
    refine ⟨?_, ?_⟩
    · rintro rfl
      have hb := browser_min_zero hmax
      have hn := native_min_zero_pos hmax
      rw [h] at hb
      linarith
    · rintro rfl
      -- a zero maximum: the browser's maximum is zero, the native one at least the default
      have hb : (clampReconnectBounds (fun _ => true) reconnect_min_sec (some 0)).2 = 0 := rfl
      have hn : DEFAULT_RECONNECT_MAX_SEC ≤
          (clampReconnectBounds (fun v => v != 0) reconnect_min_sec (some 0)).2 :=
        le_clampReconnectMin_snd _ _ (DEFAULT_RECONNECT_MIN_SEC, DEFAULT_RECONNECT_MAX_SEC)
      rw [h] at hb
      rw [hb] at hn
      norm_num [DEFAULT_RECONNECT_MAX_SEC] at hn
  · rintro ⟨hmin0, hmax0⟩
    apply clampReconnectBounds_congr
    · rintro v rfl
      simp [show v ≠ 0 from fun h => hmin0 (h ▸ rfl)]
    · rintro v rfl
      simp [show v ≠ 0 from fun h => hmax0 (h ▸ rfl)]

theorem reconnectBounds_eq_iff_configured :
    (∀ v ∈ some (2 : ℚ), 0 ≤ v) ∧ (∀ v ∈ some (10 : ℚ), 0 ≤ v) ∧
      (clampReconnectBounds (fun _ => true) (some 2) (some 10) =
          clampReconnectBounds (fun v => v != 0) (some 2) (some 10) ↔
        some (2 : ℚ) ≠ some 0 ∧ some (10 : ℚ) ≠ some 0) :=
  have hmin : ∀ v ∈ some (2 : ℚ), 0 ≤ v := by simp
  have hmax : ∀ v ∈ some (10 : ℚ), 0 ≤ v := by simp
  ⟨hmin, hmax, reconnectBounds_eq_iff hmin hmax⟩

/-! ## The browser's wait -/

theorem get_reconnect_time_sec_mem (c : MqttClientConnection)
    (h : c.reconnect_min_sec ≤ c.reconnect_max_sec) (random : RandomDraw) :
    c.reconnect_min_sec ≤ c.get_reconnect_time_sec random.value ∧
      c.get_reconnect_time_sec random.value ≤ c.reconnect_max_sec := by
  unfold MqttClientConnection.get_reconnect_time_sec
  split_ifs with hzero
  · obtain ⟨hmin, hmax⟩ := hzero
    rw [hmin, hmax]
    exact ⟨le_refl _, le_refl _⟩
  · dsimp only
    -- the jitter is drawn below the exponential term, capped at the width of the bounds
    have hexp : 0 < max c.reconnect_min_sec 1 * 2 ^ c.reconnect_count :=
      mul_pos (lt_max_of_lt_right one_pos) (pow_pos two_pos _)
    have hm0 : 0 ≤ min (c.reconnect_max_sec - c.reconnect_min_sec)
        (max c.reconnect_min_sec 1 * 2 ^ c.reconnect_count) :=
      le_min (sub_nonneg.mpr h) hexp.le
    have hmcap : min (c.reconnect_max_sec - c.reconnect_min_sec)
        (max c.reconnect_min_sec 1 * 2 ^ c.reconnect_count) ≤
          c.reconnect_max_sec - c.reconnect_min_sec := min_le_left _ _
    have hsleep0 := mul_nonneg random.nonneg hm0
    have hsleep := mul_le_of_le_one_left hm0 random.lt_one.le
    constructor <;> linarith

/-- The browser's wait is at most the minimum plus the exponential term of its reconnect count,
whatever the bounds. -/
theorem get_reconnect_time_sec_le (c : MqttClientConnection) (random : RandomDraw) :
    c.get_reconnect_time_sec random.value ≤
      c.reconnect_min_sec + max c.reconnect_min_sec 1 * 2 ^ c.reconnect_count := by
  unfold MqttClientConnection.get_reconnect_time_sec
  split_ifs with hzero
  · rw [hzero.1]
    positivity
  · dsimp only
    have hexp : 0 < max c.reconnect_min_sec 1 * 2 ^ c.reconnect_count :=
      mul_pos (lt_max_of_lt_right one_pos) (pow_pos two_pos _)
    -- the jitter is drawn below the capped term, which is below the exponential one
    have hjitter : random.value * min (c.reconnect_max_sec - c.reconnect_min_sec)
        (max c.reconnect_min_sec 1 * 2 ^ c.reconnect_count) ≤
          max c.reconnect_min_sec 1 * 2 ^ c.reconnect_count := by
      rcases le_or_gt 0 (min (c.reconnect_max_sec - c.reconnect_min_sec)
          (max c.reconnect_min_sec 1 * 2 ^ c.reconnect_count)) with hm | hm
      · exact (mul_le_of_le_one_left hm random.lt_one.le).trans (min_le_right _ _)
      · have := mul_nonpos_of_nonneg_of_nonpos random.nonneg hm.le
        linarith
    linarith

/-- Whatever the configuration, the browser waits within its bounds, for every reconnect count
and every draw. -/
theorem browser_reconnect_wait_mem (config : MqttConnectionConfig) (reconnect_count : Nat)
    (random : RandomDraw) :
    config.reconnectBounds.1 ≤
        { MqttClientConnection.ofConfig config with reconnect_count }.get_reconnect_time_sec
          random.value ∧
      { MqttClientConnection.ofConfig config with reconnect_count }.get_reconnect_time_sec
          random.value ≤ config.reconnectBounds.2 :=
  get_reconnect_time_sec_mem _ (clampReconnectBounds_le _ _ _) random

/-- A configured minimum of zero: the browser waits between zero and 128 seconds, and its first
wait can be zero, where the native connection waits at least a second. -/
theorem reconnect_min_zero_bounds_differ :
    ({ host_name := "a1b2c3-ats.iot.us-east-1.amazonaws.com", port := 443,
        reconnect_min_sec := some 0 } : MqttConnectionConfig).reconnectBounds = (0, 128) ∧
    ({ reconnect_min_sec := some 0 } : NativeMqttConnectionConfig).reconnectBounds = (1, 128) ∧
    (MqttClientConnection.ofConfig
        { host_name := "a1b2c3-ats.iot.us-east-1.amazonaws.com", port := 443,
          reconnect_min_sec := some 0 }).get_reconnect_time_sec 0 = 0 := by
  refine ⟨by decide, by decide, ?_⟩
  -- the draw is zero, so the wait is the browser's minimum
  simp [MqttClientConnection.get_reconnect_time_sec, MqttClientConnection.ofConfig,
    MqttConnectionConfig.reconnectBounds, clampReconnectBounds, clampReconnectMin, clampReconnectMax]

end AwsCrt
