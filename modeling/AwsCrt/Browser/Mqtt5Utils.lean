import AwsCrt.Lib.Machine
import AwsCrt.Lib.JsCollections

/-!
# The MQTT5 client configuration and its translation for mqtt-js (`src/lib/browser/mqtt5_utils.ts`)

The browser `Mqtt5Client` hands mqtt-js the options that
`create_mqtt_js_client_config_from_crt_client_config` builds from its `Mqtt5ClientConfig`, and user
properties cross between the CRT packets and the mqtt-js packets through
`transform_crt_user_properties_to_mqtt_js_user_properties` and
`transform_mqtt_js_user_properties_to_crt_user_properties`. Numbers are rationals.

* `getOrderedReconnectDelayBounds`: the bounds are at least one and in order, which
  `Mqtt5ClientConfig.delayBounds` packs as a `ReconnectDelayBounds`.
* The five range checks are one definition, `validateRequired`, at three pairs of limits; the
  `nonnegative` one also refuses zero (`validate_required_nonnegative_uint32_zero`).
  `validate_mqtt5_client_config_ok_iff`: a configuration passes exactly when its five fields are in
  range; `validate_mqtt5_client_config_error`: a failure names a field with its value.
* `reconnectPeriod_of_create`: the translation gives mqtt-js a `reconnectPeriod` of twice the upper
  delay bound plus a minute.
* The user-property transforms: the CRT list is grouped by name into an object literal, testing
  `key in mqttJsProperties`, which also holds of the members of `Object.prototype`.
  `user_properties_round_trip`: a non-empty list whose names are not such members comes back as a
  permutation of itself that keeps the order of each name's values; `user_property_round_trips_break`:
  the name `toString` makes the first transform throw, and an empty mqtt-js object comes back
  undefined.
-/

namespace AwsCrt

open JsObject

/-! ## Configuration -/

/-- `AWSCredentials`. -/
structure AWSCredentials where
  aws_region : Option String := none
  aws_access_id : String
  aws_secret_key : String
  aws_sts_token : Option String := none
  deriving DecidableEq, Repr

/-- `Mqtt5WebsocketUrlFactoryOptions`, with what the `Sigv4` variant reads: its `region` and what
`credentialsProvider.getCredentials()` returns; `Custom` by the url its factory returns. -/
inductive Mqtt5WebsocketUrlFactoryOptions
  | Ws
  | Wss
  | Sigv4 (region : Option String) (credentials : Option AWSCredentials)
  | Custom (url : String)

/-- `RetryJitterType`. -/
inductive RetryJitterType
  | Default
  | None
  | Full
  | Decorrelated
  deriving DecidableEq, Repr

/-- `ClientSessionBehavior`. -/
inductive ClientSessionBehavior
  | Default
  | Clean
  | RejoinPostSuccess
  | RejoinAlways
  deriving DecidableEq, Repr

/-- `OutboundTopicAliasBehaviorType`. -/
inductive OutboundTopicAliasBehaviorType
  | Default
  | Manual
  | LRU
  | Disabled
  deriving DecidableEq, Repr

/-- The field of `TopicAliasingOptions` that the translation reads. -/
structure TopicAliasingOptions where
  outboundBehavior : Option OutboundTopicAliasBehaviorType := none

/-- `UserProperty`. -/
structure UserProperty where
  name : String
  value : String
  deriving DecidableEq, Repr

/-- The fields of `ConnectPacket` that the validation and the translation read (`password` and
`will` apart). -/
structure ConnectPacket where
  keepAliveIntervalSeconds : ℚ
  clientId : Option String := none
  username : Option String := none
  sessionExpiryIntervalSeconds : Option ℚ := none
  requestResponseInformation : Option Bool := none
  requestProblemInformation : Option Bool := none
  receiveMaximum : Option ℚ := none
  maximumPacketSizeBytes : Option ℚ := none
  willDelayIntervalSeconds : Option ℚ := none
  userProperties : Option (List UserProperty) := none

/-- The fields of `Mqtt5ClientConfig` that the modelled code reads; `websocketOptions` stands for
its `urlFactoryOptions`. -/
structure Mqtt5ClientConfig where
  hostName : String
  port : Nat
  sessionBehavior : Option ClientSessionBehavior := none
  retryJitterMode : Option RetryJitterType := none
  minReconnectDelayMs : Option ℚ := none
  maxReconnectDelayMs : Option ℚ := none
  minConnectedTimeToResetReconnectDelayMs : Option ℚ := none
  connectProperties : Option ConnectPacket := none
  connectTimeoutMs : Option ℚ := none
  topicAliasingOptions : Option TopicAliasingOptions := none
  websocketOptions : Option Mqtt5WebsocketUrlFactoryOptions := none

def DEFAULT_CONNECT_TIMEOUT_MS : ℚ := 30000

def DEFAULT_MIN_RECONNECT_DELAY_MS : ℚ := 1000

def DEFAULT_MAX_RECONNECT_DELAY_MS : ℚ := 120000

def DEFAULT_MIN_CONNECTED_TIME_TO_RESET_RECONNECT_DELAY_MS : ℚ := 30000

/-- `mqtt_shared.DEFAULT_KEEP_ALIVE`. -/
def DEFAULT_KEEP_ALIVE : ℚ := 1200

/-! ## Reconnect delay bounds -/

def getOrderedReconnectDelayBounds (configMin configMax : Option ℚ) : ℚ × ℚ :=
  let minDelay := max 1 (configMin.getD DEFAULT_MIN_RECONNECT_DELAY_MS)
  let maxDelay := max 1 (configMax.getD DEFAULT_MAX_RECONNECT_DELAY_MS)
  if minDelay > maxDelay then (maxDelay, minDelay) else (minDelay, maxDelay)

example : getOrderedReconnectDelayBounds (some 5000) (some 0) = (1, 5000) := by decide

/-- Reconnect delay bounds as the scheduler uses them: at least one millisecond, and in order. -/
structure ReconnectDelayBounds where
  lo : ℚ
  hi : ℚ
  one_le_lo : 1 ≤ lo
  lo_le_hi : lo ≤ hi

theorem getOrderedReconnectDelayBounds_ordered (configMin configMax : Option ℚ) :
    1 ≤ (getOrderedReconnectDelayBounds configMin configMax).1 ∧
      (getOrderedReconnectDelayBounds configMin configMax).1 ≤
        (getOrderedReconnectDelayBounds configMin configMax).2 := by
  unfold getOrderedReconnectDelayBounds
  dsimp only
  split
  · rename_i h
    exact ⟨le_max_left _ _, le_of_lt h⟩
  · rename_i h
    exact ⟨le_max_left _ _, not_lt.mp h⟩

/-- The bounds `getOrderedReconnectDelayBounds` gives a configuration. -/
def Mqtt5ClientConfig.delayBounds (config : Mqtt5ClientConfig) : ReconnectDelayBounds :=
  let b := getOrderedReconnectDelayBounds config.minReconnectDelayMs config.maxReconnectDelayMs
  ⟨b.1, b.2, (getOrderedReconnectDelayBounds_ordered _ _).1,
    (getOrderedReconnectDelayBounds_ordered _ _).2⟩

theorem Mqtt5ClientConfig.delayBounds_eq (config : Mqtt5ClientConfig) :
    getOrderedReconnectDelayBounds config.minReconnectDelayMs config.maxReconnectDelayMs =
      (config.delayBounds.lo, config.delayBounds.hi) :=
  Prod.ext rfl rfl

/-! ## Validation -/

/-- What the translation throws: the `CrtError` of a property out of range, whose message is
`Invalid value for property {propertyName}: {value}`, or the `TypeError` of a user property. -/
inductive ConfigError
  | invalidValue (propertyName : String) (value : ℚ)
  | typeError (message : String)
  deriving DecidableEq, Repr

/-- The range checks: a value is refused when it is below the range (`tooLow`) or above it
(`tooHigh`). -/
def validateRequired (tooLow tooHigh : ℚ → Bool) (propertyName : String) (value : ℚ) :
    Except ConfigError Unit :=
  if tooLow value || tooHigh value then .error (.invalidValue propertyName value) else .ok ()

/-- The optional checks: an undefined value passes. -/
def validateOptional (validate : String → ℚ → Except ConfigError Unit) (propertyName : String) :
    Option ℚ → Except ConfigError Unit
  | none => .ok ()
  | some value => validate propertyName value

def validate_required_uint16 : String → ℚ → Except ConfigError Unit :=
  validateRequired (fun value => value < 0) (fun value => value > 65535)

def validate_optional_uint16 : String → Option ℚ → Except ConfigError Unit :=
  validateOptional validate_required_uint16

def validate_required_uint32 : String → ℚ → Except ConfigError Unit :=
  validateRequired (fun value => value < 0) (fun value => value ≥ 4294967296)

def validate_optional_uint32 : String → Option ℚ → Except ConfigError Unit :=
  validateOptional validate_required_uint32

def validate_required_nonnegative_uint32 : String → ℚ → Except ConfigError Unit :=
  validateRequired (fun value => value ≤ 0) (fun value => value ≥ 4294967296)

def validate_optional_nonnegative_uint32 : String → Option ℚ → Except ConfigError Unit :=
  validateOptional validate_required_nonnegative_uint32

def validate_mqtt5_client_config (crtConfig : Mqtt5ClientConfig) : Except ConfigError Unit := do
  let connectProperties := crtConfig.connectProperties
  validate_required_uint16 "keepAliveIntervalSeconds"
    ((connectProperties.map (·.keepAliveIntervalSeconds)).getD 0)
  validate_optional_uint32 "sessionExpiryIntervalSeconds"
    (connectProperties.bind (·.sessionExpiryIntervalSeconds))
  validate_optional_uint16 "receiveMaximum" (connectProperties.bind (·.receiveMaximum))
  validate_optional_nonnegative_uint32 "maximumPacketSizeBytes"
    (connectProperties.bind (·.maximumPacketSizeBytes))
  validate_optional_uint32 "willDelayIntervalSeconds"
    (connectProperties.bind (·.willDelayIntervalSeconds))

section Validation

variable {tooLow tooHigh : ℚ → Bool} {propertyName : String}

@[simp] theorem validateRequired_eq_ok (value : ℚ) :
    validateRequired tooLow tooHigh propertyName value = .ok () ↔
      tooLow value = false ∧ tooHigh value = false := by
  cases hl : tooLow value <;> cases hh : tooHigh value <;> simp [validateRequired, hl, hh]

theorem validateRequired_error {value : ℚ} {e : ConfigError}
    (h : validateRequired tooLow tooHigh propertyName value = .error e) :
    e = .invalidValue propertyName value ∧ (tooLow value ∨ tooHigh value) := by
  unfold validateRequired at h
  split at h
  · cases h
    simp_all
  · cases h

@[simp] theorem validateOptional_eq_ok (value : Option ℚ) :
    validateOptional (validateRequired tooLow tooHigh) propertyName value = .ok () ↔
      ∀ x ∈ value, tooLow x = false ∧ tooHigh x = false := by
  cases value <;> simp [validateOptional]

theorem validateOptional_error {value : Option ℚ} {e : ConfigError}
    (h : validateOptional (validateRequired tooLow tooHigh) propertyName value = .error e) :
    ∃ x ∈ value, e = .invalidValue propertyName x ∧ (tooLow x ∨ tooHigh x) := by
  cases value with
  | none => cases h
  | some x => exact ⟨x, rfl, validateRequired_error h⟩

end Validation

/-- The `nonnegative` check is the one that refuses zero. -/
theorem validate_required_nonnegative_uint32_zero (propertyName : String) :
    validate_required_nonnegative_uint32 propertyName 0 = .error (.invalidValue propertyName 0) ∧
      validate_required_uint32 propertyName 0 = .ok () ∧
      validate_required_uint16 propertyName 0 = .ok () := by
  refine ⟨?_, ?_, ?_⟩ <;> simp [validate_required_nonnegative_uint32, validate_required_uint32,
    validate_required_uint16, validateRequired]

/-- The fields that `validate_mqtt5_client_config` checks are in range. -/
def ConnectPacket.InRange (connectProperties : ConnectPacket) : Prop :=
  (0 ≤ connectProperties.keepAliveIntervalSeconds ∧
      connectProperties.keepAliveIntervalSeconds ≤ 65535) ∧
    (∀ x ∈ connectProperties.sessionExpiryIntervalSeconds, 0 ≤ x ∧ x < 4294967296) ∧
    (∀ x ∈ connectProperties.receiveMaximum, 0 ≤ x ∧ x ≤ 65535) ∧
    (∀ x ∈ connectProperties.maximumPacketSizeBytes, 0 < x ∧ x < 4294967296) ∧
    (∀ x ∈ connectProperties.willDelayIntervalSeconds, 0 ≤ x ∧ x < 4294967296)

theorem validate_mqtt5_client_config_ok_iff (crtConfig : Mqtt5ClientConfig) :
    validate_mqtt5_client_config crtConfig = .ok () ↔
      ∀ connectProperties ∈ crtConfig.connectProperties, connectProperties.InRange := by
  cases h : crtConfig.connectProperties with
  | none => simp [validate_mqtt5_client_config, h, validate_required_uint16, validate_optional_uint32,
      validate_optional_uint16, validate_optional_nonnegative_uint32, validateOptional]
  | some cp =>
    simp [validate_mqtt5_client_config, h, Machine.bind_unit_eq_ok, validate_required_uint16,
      validate_optional_uint32, validate_optional_uint16, validate_optional_nonnegative_uint32,
      validate_required_uint32, validate_required_nonnegative_uint32, ConnectPacket.InRange]

/-- The fields that `validate_mqtt5_client_config` checks, by the names its errors give them. -/
def ConnectPacket.checkedFields (connectProperties : ConnectPacket) : List (String × Option ℚ) :=
  [("keepAliveIntervalSeconds", some connectProperties.keepAliveIntervalSeconds),
    ("sessionExpiryIntervalSeconds", connectProperties.sessionExpiryIntervalSeconds),
    ("receiveMaximum", connectProperties.receiveMaximum),
    ("maximumPacketSizeBytes", connectProperties.maximumPacketSizeBytes),
    ("willDelayIntervalSeconds", connectProperties.willDelayIntervalSeconds)]

/-- A refused configuration is refused with the name of one of its fields and that field's value. -/
theorem validate_mqtt5_client_config_error {crtConfig : Mqtt5ClientConfig} {e : ConfigError}
    (h : validate_mqtt5_client_config crtConfig = .error e) :
    ∃ connectProperties ∈ crtConfig.connectProperties, ∃ propertyName value,
      (propertyName, some value) ∈ connectProperties.checkedFields ∧
        e = .invalidValue propertyName value := by
  cases hc : crtConfig.connectProperties with
  | none =>
    have : validate_mqtt5_client_config crtConfig = .ok () :=
      (validate_mqtt5_client_config_ok_iff crtConfig).mpr (by simp [hc])
    rw [this] at h
    cases h
  | some cp =>
    simp only [validate_mqtt5_client_config, hc, Option.map_some, Option.getD_some,
      Option.bind_some] at h
    refine ⟨cp, rfl, ?_⟩
    -- the five checks in turn: either this one fails, or it passes and a later one fails
    rcases Machine.bind_eq_error h with h | ⟨_, -, h⟩
    · obtain ⟨rfl, -⟩ := validateRequired_error h
      exact ⟨_, _, by simp [ConnectPacket.checkedFields], rfl⟩
    rcases Machine.bind_eq_error h with h | ⟨_, -, h⟩
    · obtain ⟨x, hx, rfl, -⟩ := validateOptional_error h
      exact ⟨_, _, by simp [ConnectPacket.checkedFields, Option.mem_def.mp hx], rfl⟩
    rcases Machine.bind_eq_error h with h | ⟨_, -, h⟩
    · obtain ⟨x, hx, rfl, -⟩ := validateOptional_error h
      exact ⟨_, _, by simp [ConnectPacket.checkedFields, Option.mem_def.mp hx], rfl⟩
    rcases Machine.bind_eq_error h with h | ⟨_, -, h⟩
    · obtain ⟨x, hx, rfl, -⟩ := validateOptional_error h
      exact ⟨_, _, by simp [ConnectPacket.checkedFields, Option.mem_def.mp hx], rfl⟩
    · obtain ⟨x, hx, rfl, -⟩ := validateOptional_error h
      exact ⟨_, _, by simp [ConnectPacket.checkedFields, Option.mem_def.mp hx], rfl⟩

/-! ## User properties -/

/-- A value of mqtt-js's `UserProperties`: `string | string[]`. -/
inductive UserPropertyValue
  | single (value : String)
  | array (values : List String)
  deriving DecidableEq, Repr

/-- `typeof propValue === 'string' ? [propValue] : propValue`. -/
def UserPropertyValue.values : UserPropertyValue → List String
  | .single value => [value]
  | .array values => values

/-- The `TypeError` of pushing onto a member of `Object.prototype`. -/
def pushTypeError : String := "TypeError: mqttJsProperties[key].push is not a function"

def transform_crt_user_properties_to_mqtt_js_user_properties
    (userProperties : Option (List UserProperty)) : Except String (Option (Obj (List String))) :=
  match userProperties with
  | none => .ok none
  | some userProperties => some <$> userProperties.foldlM pushProperty Obj.empty
where
  /-- One iteration of the loop: a name that is not `in` the object gets an empty array, and the
  value is pushed onto what the object then has under the name. -/
  pushProperty (mqttJsProperties : Obj (List String)) (property : UserProperty) :
      Except String (Obj (List String)) :=
    let key := property.name
    let mqttJsProperties :=
      if mqttJsProperties.hasProperty key then mqttJsProperties else mqttJsProperties.set key []
    match mqttJsProperties.get key with
    | some values => .ok (mqttJsProperties.set key (values ++ [property.value]))
    -- `key in mqttJsProperties` through the prototype: the inherited member has no `push`
    | none => .error pushTypeError

def transform_mqtt_js_user_properties_to_crt_user_properties
    (userProperties : Option (Obj UserPropertyValue)) : Option (List UserProperty) :=
  match userProperties with
  | none => none
  | some userProperties =>
    let crtProperties := userProperties.entries.flatMap fun (propName, propValue) =>
      propValue.values.map fun valueIter => ⟨propName, valueIter⟩
    -- `crtProperties` stays `undefined` until the first value is pushed
    if crtProperties = [] then none else some crtProperties

/-! ## The mqtt-js options -/

/-- The connect `properties` of mqtt-js's `IClientOptions`. -/
structure MqttJsConnectProperties where
  sessionExpiryInterval : Option ℚ := none
  receiveMaximum : Option ℚ := none
  maximumPacketSize : Option ℚ := none
  requestResponseInformation : Option Bool := none
  requestProblemInformation : Option Bool := none
  userProperties : Option (Obj (List String)) := none

/-- The fields of mqtt-js's `IClientOptions` that the translation sets (`password`, `will` and
`transformWsUrl` apart). -/
structure MqttJsClientOptions where
  protocolVersion : Nat
  keepalive : ℚ
  connectTimeout : ℚ
  clean : Bool
  reconnectPeriod : ℚ
  autoUseTopicAlias : Bool
  autoAssignTopicAlias : Bool
  queueQoSZero : Bool
  resubscribe : Bool
  clientId : String
  username : Option String
  properties : Option MqttJsConnectProperties

def should_mqtt_js_use_clean_start (session_behavior : Option ClientSessionBehavior) : Bool :=
  session_behavior != some .RejoinPostSuccess && session_behavior != some .RejoinAlways

def compute_mqtt_js_reconnect_delay_from_crt_max_delay (maxReconnectDelayMs : ℚ) : ℚ :=
  maxReconnectDelayMs * 2 + 60000

/-- `autoUseTopicAlias` and `autoAssignTopicAlias` after the switch on the outbound behaviour. -/
def topicAliasFlags (topic_aliasing_options : Option TopicAliasingOptions) : Bool × Bool :=
  match topic_aliasing_options.map fun o => o.outboundBehavior.getD .Default with
  | some OutboundTopicAliasBehaviorType.LRU => (true, true)
  | some OutboundTopicAliasBehaviorType.Manual => (true, false)
  | _ => (false, false)

/-- The `properties` object, set when one of its properties is defined (`hasProperties`). -/
def connectPropertiesOf (connectProperties : Option ConnectPacket)
    (userProperties : Option (Obj (List String))) : Option MqttJsConnectProperties :=
  let properties : MqttJsConnectProperties :=
    { sessionExpiryInterval := connectProperties.bind (·.sessionExpiryIntervalSeconds)
      receiveMaximum := connectProperties.bind (·.receiveMaximum)
      maximumPacketSize := connectProperties.bind (·.maximumPacketSizeBytes)
      requestResponseInformation := connectProperties.bind (·.requestResponseInformation)
      requestProblemInformation := connectProperties.bind (·.requestProblemInformation)
      userProperties }
  if properties.sessionExpiryInterval.isSome || properties.receiveMaximum.isSome ||
      properties.maximumPacketSize.isSome || properties.requestResponseInformation.isSome ||
      properties.requestProblemInformation.isSome || properties.userProperties.isSome then
    some properties
  else none

def create_mqtt_js_client_config_from_crt_client_config (crtConfig : Mqtt5ClientConfig) :
    Except ConfigError MqttJsClientOptions := do
  validate_mqtt5_client_config crtConfig
  let maxDelay :=
    (getOrderedReconnectDelayBounds crtConfig.minReconnectDelayMs crtConfig.maxReconnectDelayMs).2
  let maxDelay := compute_mqtt_js_reconnect_delay_from_crt_max_delay maxDelay
  let connectProperties := crtConfig.connectProperties
  let topicAlias := topicAliasFlags crtConfig.topicAliasingOptions
  let userProperties ← (transform_crt_user_properties_to_mqtt_js_user_properties
    (connectProperties.bind (·.userProperties))).mapError .typeError
  pure
    { protocolVersion := 5
      keepalive := (connectProperties.map (·.keepAliveIntervalSeconds)).getD DEFAULT_KEEP_ALIVE
      connectTimeout := crtConfig.connectTimeoutMs.getD DEFAULT_CONNECT_TIMEOUT_MS
      clean := should_mqtt_js_use_clean_start crtConfig.sessionBehavior
      reconnectPeriod := maxDelay
      autoUseTopicAlias := topicAlias.1
      autoAssignTopicAlias := topicAlias.2
      queueQoSZero := false
      resubscribe := false
      clientId := (connectProperties.bind (·.clientId)).getD ""
      username := connectProperties.bind (·.username)
      properties := connectPropertiesOf connectProperties userProperties }

/-- mqtt-js waits twice the upper delay bound plus a minute before it reconnects on its own. -/
theorem reconnectPeriod_of_create {crtConfig : Mqtt5ClientConfig} {options : MqttJsClientOptions}
    (h : create_mqtt_js_client_config_from_crt_client_config crtConfig = .ok options) :
    options.reconnectPeriod =
      compute_mqtt_js_reconnect_delay_from_crt_max_delay crtConfig.delayBounds.hi := by
  obtain ⟨_, -, h⟩ := Machine.bind_eq_ok h
  obtain ⟨_, -, h⟩ := Machine.bind_eq_ok h
  cases h
  rfl

/-! ## Round trips of user properties -/

/-- The values of the properties with a name, in order. -/
def groupValues (userProperties : List UserProperty) (name : String) : List String :=
  (userProperties.filter (·.name = name)).map (·.value)

theorem groupValues_cons (p : UserProperty) (userProperties : List UserProperty) (name : String) :
    groupValues (p :: userProperties) name =
      if p.name = name then p.value :: groupValues userProperties name
      else groupValues userProperties name := by
  by_cases h : p.name = name <;> simp [groupValues, h]

/-- One iteration of the grouping loop, for a name that is not a member of `Object.prototype`. -/
def groupStep (mqttJsProperties : Obj (List String)) (property : UserProperty) :
    Obj (List String) :=
  mqttJsProperties.set property.name
    ((mqttJsProperties.get property.name).getD [] ++ [property.value])

theorem pushProperty_eq {property : UserProperty} (h : property.name ∉ objectPrototypeKeys)
    (mqttJsProperties : Obj (List String)) :
    transform_crt_user_properties_to_mqtt_js_user_properties.pushProperty mqttJsProperties
      property = .ok (groupStep mqttJsProperties property) := by
  unfold transform_crt_user_properties_to_mqtt_js_user_properties.pushProperty groupStep
  cases hk : mqttJsProperties.get property.name with
  | none => simp [Obj.hasProperty, hk, h]
  | some values => simp [Obj.hasProperty, hk]

theorem foldlM_pushProperty {userProperties : List UserProperty}
    (h : ∀ p ∈ userProperties, p.name ∉ objectPrototypeKeys) (mqttJsProperties : Obj (List String)) :
    userProperties.foldlM transform_crt_user_properties_to_mqtt_js_user_properties.pushProperty
        mqttJsProperties = .ok (userProperties.foldl groupStep mqttJsProperties) := by
  induction userProperties generalizing mqttJsProperties with
  | nil => rfl
  | cons p userProperties ih =>
    rw [List.foldlM_cons, pushProperty_eq (h p (by simp)), List.foldl_cons]
    exact ih (fun q hq => h q (List.mem_cons_of_mem _ hq)) _

/-- After the loop, each name holds the values of its properties, in order. -/
theorem get_foldl_groupStep (userProperties : List UserProperty)
    (mqttJsProperties : Obj (List String)) (name : String) :
    (userProperties.foldl groupStep mqttJsProperties).get name =
      if name ∈ userProperties.map (·.name) then
        some ((mqttJsProperties.get name).getD [] ++ groupValues userProperties name)
      else mqttJsProperties.get name := by
  induction userProperties generalizing mqttJsProperties with
  | nil => simp
  | cons p userProperties ih =>
    rw [List.foldl_cons, ih]
    by_cases hp : p.name = name
    · subst hp
      by_cases hmem : p.name ∈ userProperties.map (·.name)
      · simp [hmem, groupStep, groupValues_cons]
      · -- no later property has the name, so its group ends with this value
        have hnil : groupValues userProperties p.name = [] := by
          simp only [groupValues, List.map_eq_nil_iff, List.filter_eq_nil_iff, decide_eq_true_eq]
          exact fun q hq hqn => hmem (List.mem_map.mpr ⟨q, hq, hqn⟩)
        simp [hmem, groupStep, groupValues_cons, hnil]
    · simp [groupStep, get_set_of_ne _ _ hp, groupValues_cons, hp, Ne.symm hp]

/-- The grouped properties, read back name after name, are the properties. -/
theorem flatMap_entries_groupStep (userProperties : List UserProperty) :
    ((userProperties.foldl groupStep Obj.empty).map UserPropertyValue.array).entries.flatMap
        (fun entry => entry.2.values.map fun value => (⟨entry.1, value⟩ : UserProperty)) =
      (userProperties.foldl groupStep Obj.empty).keys.flatMap
        (fun name => userProperties.filter (·.name = name)) := by
  -- every key of the grouped object holds its group
  have hget : ∀ name ∈ (userProperties.foldl groupStep Obj.empty).keys,
      (userProperties.foldl groupStep Obj.empty).get name = some (groupValues userProperties name) := by
    intro name hname
    rw [mem_keys, get_foldl_groupStep] at hname
    rw [get_foldl_groupStep]
    split
    · simp
    · rename_i hnot
      rw [if_neg hnot] at hname
      simp at hname
  have hentries : ((userProperties.foldl groupStep Obj.empty).map UserPropertyValue.array).entries =
      (userProperties.foldl groupStep Obj.empty).keys.map
        (fun name => (name, UserPropertyValue.array (groupValues userProperties name))) := by
    rw [Obj.entries, keys_map, ← List.filterMap_eq_map]
    refine List.filterMap_congr fun name hname => ?_
    simp [hget name hname]
  rw [hentries, List.flatMap_map]
  refine List.flatMap_congr fun name _ => ?_
  simp only [UserPropertyValue.values, groupValues, List.map_map]
  -- a property of the group of `name` is rebuilt as itself
  refine (List.map_congr_left fun p hp => ?_).trans (List.map_id _)
  simp only [List.mem_filter, decide_eq_true_eq] at hp
  simp [← hp.2]

theorem user_properties_round_trip {userProperties : List UserProperty} (hne : userProperties ≠ [])
    (hproto : ∀ p ∈ userProperties, p.name ∉ objectPrototypeKeys) :
    ∃ mqttJsProperties,
      transform_crt_user_properties_to_mqtt_js_user_properties (some userProperties) =
        .ok (some mqttJsProperties) ∧
      ∃ roundTrip, transform_mqtt_js_user_properties_to_crt_user_properties
          (some (mqttJsProperties.map UserPropertyValue.array)) = some roundTrip ∧
        roundTrip.Perm userProperties ∧
        ∀ name, roundTrip.filter (·.name = name) = userProperties.filter (·.name = name) := by
  have hnames : ∀ p ∈ userProperties, p.name ∈ (userProperties.foldl groupStep Obj.empty).keys := by
    intro p hp
    rw [mem_keys, get_foldl_groupStep, if_pos (List.mem_map.mpr ⟨p, hp, rfl⟩)]
    rfl
  have hperm := perm_flatMap_filter UserProperty.name (nodup_keys _) userProperties hnames
  refine ⟨userProperties.foldl groupStep Obj.empty, ?_, _, ?_, hperm, fun name =>
    filter_flatMap_filter UserProperty.name (nodup_keys _) userProperties hnames name⟩
  · simp only [transform_crt_user_properties_to_mqtt_js_user_properties, foldlM_pushProperty hproto]
    rfl
  · -- the properties are not all lost, so the result is defined
    have hne' : (userProperties.foldl groupStep Obj.empty).keys.flatMap
        (fun name => userProperties.filter (·.name = name)) ≠ [] := fun h =>
      hne (List.eq_nil_of_length_eq_zero (h ▸ hperm.length_eq).symm)
    simp only [transform_mqtt_js_user_properties_to_crt_user_properties, flatMap_entries_groupStep]
    rw [if_neg hne']

/-- A property named after a member of `Object.prototype` makes the grouping throw a `TypeError`,
and an empty mqtt-js object comes back undefined rather than empty. -/
theorem user_property_round_trips_break :
    transform_crt_user_properties_to_mqtt_js_user_properties (some [⟨"toString", "v"⟩]) =
      .error pushTypeError ∧
    transform_mqtt_js_user_properties_to_crt_user_properties (some Obj.empty) = none ∧
    transform_crt_user_properties_to_mqtt_js_user_properties none = .ok none :=
  ⟨rfl, rfl, rfl⟩

end AwsCrt
