import AwsCrt.Browser.Mqtt5Utils

/-!
# DISCONNECT and PUBLISH between the browser client and mqtt-js (`src/lib/browser/mqtt5_utils.ts`)

The browser `Mqtt5Client` hands mqtt-js a DISCONNECT made by
`transform_crt_disconnect_to_mqtt_js_disconnect` when it stops, turns the one mqtt-js receives back
into a `DisconnectPacket` with `transform_mqtt_js_disconnect_to_crt_disconnect`, and publishes with
the options of `transform_crt_publish_to_mqtt_js_publish_options`. The CRT packets' fields cross
with `utils.set_defined_property`, which copies only a value that is neither `undefined` nor
`null`, and the mqtt-js packet gets a `properties` object only when one was copied.

* `disconnect_round_trip`: a DISCONNECT whose session expiry is a `uint32` and whose user
  properties, if any, are not empty and avoid the names of `Object.prototype`, comes back with
  every field as it was, its user properties in an order that keeps each name's values in order
  (`UserPropertiesAgree`). The server reference is handed to mqtt-js, which the native client
  leaves out on purpose (`AwsCrt.stop_disconnect_round_trip`).
* `publish_options_topicAlias`: the options of a publish carry the packet's topic alias, and
  nothing else sets one.
-/

namespace AwsCrt

open JsObject

/-- `QoS`. -/
inductive QoS
  | AtMostOnce
  | AtLeastOnce
  | ExactlyOnce
  deriving DecidableEq, Repr

/-- `PayloadFormatIndicator`. -/
inductive PayloadFormatIndicator
  | Bytes
  | Utf8
  deriving DecidableEq, Repr

/-- `DisconnectReasonCode.NormalDisconnection`. -/
def DisconnectReasonCode.NormalDisconnection : ℚ := 0

/-- `DisconnectPacket`, its reason code by its number. -/
structure DisconnectPacket where
  reasonCode : ℚ
  sessionExpiryIntervalSeconds : Option ℚ := none
  reasonString : Option String := none
  userProperties : Option (List UserProperty) := none
  serverReference : Option String := none
  deriving DecidableEq

/-- The `properties` of mqtt-js's `IDisconnectPacket`. -/
structure MqttJsDisconnectProperties where
  sessionExpiryInterval : Option ℚ := none
  reasonString : Option String := none
  userProperties : Option (Obj UserPropertyValue) := none
  serverReference : Option String := none

/-- mqtt-js's `IDisconnectPacket`. -/
structure MqttJsDisconnectPacket where
  reasonCode : Option ℚ := none
  properties : Option MqttJsDisconnectProperties := none

/-- `propertiesValid`: one of the properties was set. -/
def MqttJsDisconnectProperties.anyDefined (properties : MqttJsDisconnectProperties) : Bool :=
  properties.sessionExpiryInterval.isSome || properties.reasonString.isSome ||
    properties.userProperties.isSome || properties.serverReference.isSome

/-- `transform_crt_disconnect_to_mqtt_js_disconnect`: `validate_crt_disconnect` first; the user
properties' grouping may throw a `TypeError`. -/
def transform_crt_disconnect_to_mqtt_js_disconnect (disconnect : DisconnectPacket) :
    Except ConfigError MqttJsDisconnectPacket := do
  validate_optional_uint32 "sessionExpiryIntervalSeconds" disconnect.sessionExpiryIntervalSeconds
  let userProperties ← (transform_crt_user_properties_to_mqtt_js_user_properties
    disconnect.userProperties).mapError .typeError
  let properties : MqttJsDisconnectProperties :=
    { sessionExpiryInterval := disconnect.sessionExpiryIntervalSeconds
      reasonString := disconnect.reasonString
      userProperties := userProperties.map (Obj.map .array)
      serverReference := disconnect.serverReference }
  pure
    { reasonCode := some disconnect.reasonCode
      properties := if properties.anyDefined then some properties else none }

/-- `transform_mqtt_js_disconnect_to_crt_disconnect`. -/
def transform_mqtt_js_disconnect_to_crt_disconnect (disconnect : MqttJsDisconnectPacket) :
    DisconnectPacket :=
  { reasonCode := disconnect.reasonCode.getD DisconnectReasonCode.NormalDisconnection
    sessionExpiryIntervalSeconds := disconnect.properties.bind (·.sessionExpiryInterval)
    reasonString := disconnect.properties.bind (·.reasonString)
    userProperties := transform_mqtt_js_user_properties_to_crt_user_properties
      (disconnect.properties.bind (·.userProperties))
    serverReference := disconnect.properties.bind (·.serverReference) }

/-- The fields of `PublishPacket` that `publish` and the transform read (`payload` apart). -/
structure PublishPacket where
  topicName : String
  qos : QoS
  retain : Option Bool := none
  payloadFormat : Option PayloadFormatIndicator := none
  messageExpiryIntervalSeconds : Option ℚ := none
  topicAlias : Option ℚ := none
  responseTopic : Option String := none
  correlationData : Option (List UInt8) := none
  contentType : Option String := none
  userProperties : Option (List UserProperty) := none

/-- The `properties` of mqtt-js's `IClientPublishOptions`. -/
structure MqttJsPublishProperties where
  payloadFormatIndicator : Option Bool := none
  messageExpiryInterval : Option ℚ := none
  responseTopic : Option String := none
  correlationData : Option (List UInt8) := none
  userProperties : Option (Obj UserPropertyValue) := none
  contentType : Option String := none
  topicAlias : Option ℚ := none

/-- mqtt-js's `IClientPublishOptions`. -/
structure MqttJsPublishOptions where
  qos : QoS
  retain : Bool
  properties : Option MqttJsPublishProperties := none

/-- `propertiesValid`: one of the properties was set. -/
def MqttJsPublishProperties.anyDefined (properties : MqttJsPublishProperties) : Bool :=
  properties.payloadFormatIndicator.isSome || properties.messageExpiryInterval.isSome ||
    properties.responseTopic.isSome || properties.correlationData.isSome ||
    properties.userProperties.isSome || properties.contentType.isSome ||
    properties.topicAlias.isSome

/-- `transform_crt_publish_to_mqtt_js_publish_options`: `validate_crt_publish` first; the user
properties' grouping may throw a `TypeError`. -/
def transform_crt_publish_to_mqtt_js_publish_options (publish : PublishPacket) :
    Except ConfigError MqttJsPublishOptions := do
  validate_optional_uint32 "messageExpiryIntervalSeconds" publish.messageExpiryIntervalSeconds
  let userProperties ← (transform_crt_user_properties_to_mqtt_js_user_properties
    publish.userProperties).mapError .typeError
  let properties : MqttJsPublishProperties :=
    { payloadFormatIndicator := publish.payloadFormat.map (· == .Utf8)
      messageExpiryInterval := publish.messageExpiryIntervalSeconds
      responseTopic := publish.responseTopic
      correlationData := publish.correlationData
      userProperties := userProperties.map (Obj.map .array)
      contentType := publish.contentType
      topicAlias := publish.topicAlias }
  pure
    { qos := publish.qos
      retain := publish.retain.getD false
      properties := if properties.anyDefined then some properties else none }

/-! ## Reading the properties back -/

/-- A property object kept only when one of its fields is set reads back as every field: an
unset field reads as unset either way. -/
theorem bind_properties {P α : Type} (properties : P) (defined : Bool) (field : P → Option α)
    (h : (field properties).isSome → defined = true) :
    (if defined then some properties else none).bind field = field properties := by
  cases hd : defined
  · cases hf : field properties with
    | none => rfl
    | some _ => simp [hf, hd] at h
  · rfl

/-- Two optional lists of user properties that a round trip through mqtt-js relates: both absent,
or the same properties in an order that keeps each name's values in order. -/
def UserPropertiesAgree : Option (List UserProperty) → Option (List UserProperty) → Prop
  | none, none => True
  | some ps, some qs => ps.Perm qs ∧ ∀ name, ps.filter (·.name = name) = qs.filter (·.name = name)
  | _, _ => False

/-- User properties that are absent, or not empty and named apart from `Object.prototype`, go to
mqtt-js and come back in agreement. -/
theorem user_properties_agree {userProperties : Option (List UserProperty)}
    (h : ∀ ps ∈ userProperties, ps ≠ [] ∧ ∀ p ∈ ps, p.name ∉ objectPrototypeKeys) :
    ∃ mqttJsProperties, transform_crt_user_properties_to_mqtt_js_user_properties userProperties =
        .ok mqttJsProperties ∧
      UserPropertiesAgree
        (transform_mqtt_js_user_properties_to_crt_user_properties
          (mqttJsProperties.map (Obj.map .array)))
        userProperties := by
  cases userProperties with
  | none => exact ⟨none, rfl, trivial⟩
  | some ps =>
    obtain ⟨hne, hproto⟩ := h ps rfl
    obtain ⟨mqttJsProperties, hto, roundTrip, hback, hperm, hfilter⟩ :=
      user_properties_round_trip hne hproto
    refine ⟨some mqttJsProperties, hto, ?_⟩
    rw [Option.map_some, hback]
    exact ⟨hperm, hfilter⟩

/-! ## DISCONNECT -/

/-- A DISCONNECT whose session expiry is a `uint32` and whose user properties are absent or not
empty and named apart from `Object.prototype` goes to mqtt-js and comes back as it was, its user
properties in agreement. -/
theorem disconnect_round_trip (disconnect : DisconnectPacket)
    (hexpiry : ∀ seconds ∈ disconnect.sessionExpiryIntervalSeconds,
      0 ≤ seconds ∧ seconds < 4294967296)
    (hprops : ∀ ps ∈ disconnect.userProperties,
      ps ≠ [] ∧ ∀ p ∈ ps, p.name ∉ objectPrototypeKeys) :
    ∃ mqttJsDisconnect,
      transform_crt_disconnect_to_mqtt_js_disconnect disconnect = .ok mqttJsDisconnect ∧
      let roundTrip := transform_mqtt_js_disconnect_to_crt_disconnect mqttJsDisconnect
      roundTrip = { disconnect with userProperties := roundTrip.userProperties } ∧
        UserPropertiesAgree roundTrip.userProperties disconnect.userProperties := by
  have hvalid : validate_optional_uint32 "sessionExpiryIntervalSeconds"
      disconnect.sessionExpiryIntervalSeconds = .ok () := by
    cases hs : disconnect.sessionExpiryIntervalSeconds with
    | none => rfl
    | some seconds =>
      obtain ⟨hlow, hhigh⟩ := hexpiry seconds hs
      have hlow' : ¬seconds < 0 := not_lt.mpr hlow
      have hhigh' : ¬seconds ≥ 4294967296 := not_le.mpr hhigh
      simp [validate_optional_uint32, validateOptional, validate_required_uint32, validateRequired,
        hlow', hhigh']
  obtain ⟨mqttJsProperties, hto, hagree⟩ := user_properties_agree hprops
  let properties : MqttJsDisconnectProperties :=
    { sessionExpiryInterval := disconnect.sessionExpiryIntervalSeconds
      reasonString := disconnect.reasonString
      userProperties := mqttJsProperties.map (Obj.map .array)
      serverReference := disconnect.serverReference }
  -- each field reads back whether or not the properties object was attached
  have hsession := bind_properties properties properties.anyDefined (·.sessionExpiryInterval)
    fun h => by simp [MqttJsDisconnectProperties.anyDefined, h]
  have hreason := bind_properties properties properties.anyDefined (·.reasonString)
    fun h => by simp [MqttJsDisconnectProperties.anyDefined, h]
  have huser := bind_properties properties properties.anyDefined (·.userProperties)
    fun h => by simp [MqttJsDisconnectProperties.anyDefined, h]
  have hserver := bind_properties properties properties.anyDefined (·.serverReference)
    fun h => by simp [MqttJsDisconnectProperties.anyDefined, h]
  refine ⟨⟨some disconnect.reasonCode, if properties.anyDefined then some properties else none⟩,
    ?_, ?_, ?_⟩
  · simp only [transform_crt_disconnect_to_mqtt_js_disconnect, hvalid, hto, Machine.ok_bind,
      Except.mapError]
    rfl
  · simp only [transform_mqtt_js_disconnect_to_crt_disconnect, hsession, hreason, huser, hserver,
      Option.getD_some]
    rfl
  · simpa only [transform_mqtt_js_disconnect_to_crt_disconnect, huser] using hagree

theorem disconnect_round_trip_server_disconnect :
    ∃ mqttJsDisconnect, transform_crt_disconnect_to_mqtt_js_disconnect
        ⟨4, some 60, some "bye", some [⟨"a", "1"⟩, ⟨"b", "2"⟩, ⟨"a", "3"⟩], some "other"⟩ =
          .ok mqttJsDisconnect ∧
      let roundTrip := transform_mqtt_js_disconnect_to_crt_disconnect mqttJsDisconnect
      roundTrip = { (⟨4, some 60, some "bye", some [⟨"a", "1"⟩, ⟨"b", "2"⟩, ⟨"a", "3"⟩],
          some "other"⟩ : DisconnectPacket) with userProperties := roundTrip.userProperties } ∧
        UserPropertiesAgree roundTrip.userProperties
          (some [⟨"a", "1"⟩, ⟨"b", "2"⟩, ⟨"a", "3"⟩]) :=
  disconnect_round_trip _ (by rintro _ ⟨⟩; norm_num)
    (by rintro _ ⟨⟩; exact ⟨by simp, by decide⟩)

/-! ## PUBLISH -/

/-- The options of a publish carry the packet's topic alias, and no alias when it has none. -/
theorem publish_options_topicAlias {publish : PublishPacket} {options : MqttJsPublishOptions}
    (h : transform_crt_publish_to_mqtt_js_publish_options publish = .ok options) :
    options.properties.bind (·.topicAlias) = publish.topicAlias := by
  unfold transform_crt_publish_to_mqtt_js_publish_options at h
  obtain ⟨_, -, h⟩ := Machine.bind_eq_ok h
  obtain ⟨userProperties, -, h⟩ := Machine.bind_eq_ok h
  cases h
  exact bind_properties _ _ MqttJsPublishProperties.topicAlias fun h => by
    simp [MqttJsPublishProperties.anyDefined, h]

end AwsCrt
