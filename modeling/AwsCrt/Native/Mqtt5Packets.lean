import AwsCrt.Native.PacketStorage

/-!
# PUBLISH and DISCONNECT between the native MQTT5 client and JavaScript (`src/source/mqtt5_client.c`)

A PUBLISH the native client receives reaches JavaScript as the object `s_create_napi_publish_packet`
builds, and a PUBLISH JavaScript sends is read into a packet view by
`s_init_publish_options_from_napi`. A DISCONNECT from the server is built by
`s_create_napi_disconnect_packet` (`null` when there was none), and the one passed to `stop` is
read by `s_aws_napi_mqtt5_packet_disconnect_storage_initialize_from_js_object`.

* `PublishView`, `DisconnectView`: `aws_mqtt5_packet_publish_view` and
  `aws_mqtt5_packet_disconnect_view`, with the bytes their cursors designate; an enumeration is
  the `uint32_t` the code casts it to, an optional field is `none` where the pointer is `NULL`.
* `s_on_message_received_user_data_new`: the payload and correlation data are split out of the
  received packet into buffers of their own before it is copied, by aws-c-mqtt's
  `aws_mqtt5_packet_publish_storage_init`, a parameter (`PublishStorageLib`) whose contract is that
  the copy's view is the view given. The appends of the user properties read back are those of
  `AppendAndUpdateLib`.
* `s_attach_object_property_user_properties` builds the `{name, value}` array that
  `s_aws_mqtt5_user_properties_extract_from_js_object` reads back (`UserPropertyStorage.view`).
* `publish_packet_round_trip`: a received PUBLISH whose strings are UTF-8, sent again, is the same
  packet without its subscription identifiers, which the reader does not take;
  `stop_disconnect_round_trip`: a DISCONNECT from the server, passed to `stop`, is the same packet
  without its server reference, which the builder drops and the reader ignores on purpose.
-/

namespace AwsCrt

open JsString JsObject Packing

/-- `AWS_MQTT5_PT_PUBLISH` (`PacketType.Publish`). -/
def AWS_MQTT5_PT_PUBLISH : UInt32 := 3

/-- `AWS_MQTT5_PT_DISCONNECT` (`PacketType.Disconnect`). -/
def AWS_MQTT5_PT_DISCONNECT : UInt32 := 14

/-- `struct aws_mqtt5_packet_publish_view`. -/
structure PublishView where
  payload : List UInt8
  qos : UInt32
  retain : Bool
  topic : List UInt8
  payload_format : Option UInt32
  message_expiry_interval_seconds : Option UInt32
  topic_alias : Option UInt16
  response_topic : Option (List UInt8)
  correlation_data : Option (List UInt8)
  subscription_identifiers : List UInt32
  content_type : Option (List UInt8)
  user_properties : List (List UInt8 × List UInt8)
  deriving DecidableEq, Repr

/-- `struct aws_mqtt5_packet_disconnect_view`. -/
structure DisconnectView where
  reason_code : UInt32
  session_expiry_interval_seconds : Option UInt32
  reason_string : Option (List UInt8)
  user_properties : List (List UInt8 × List UInt8)
  server_reference : Option (List UInt8)
  deriving DecidableEq, Repr

/-- `struct on_message_received_user_data`: the payload and correlation data in buffers of their
own, pinned for JavaScript, and a copy of the rest of the packet. -/
structure OnMessageReceivedUserData where
  payload : List UInt8
  correlation_data : Option (List UInt8)
  publish_storage : PublishView

/-- aws-c-mqtt's `aws_mqtt5_packet_publish_storage_init(storage, allocator, view)`, as its contract
states it: the storage's view is a copy of the view given, every field the same. -/
structure PublishStorageLib where
  aws_mqtt5_packet_publish_storage_init : PublishView → PublishView
  storage_view_eq : ∀ publish_view, aws_mqtt5_packet_publish_storage_init publish_view = publish_view

/-- The copy the contract describes, with which a received packet is evaluated. -/
def PublishStorageLib.copy : PublishStorageLib := ⟨id, fun _ => rfl⟩

/-- `s_on_message_received_user_data_new`: the binary fields are copied out and erased from the
packet before the packet is copied, so that they are not copied twice. -/
def s_on_message_received_user_data_new (S : PublishStorageLib) (publish_packet : PublishView) :
    OnMessageReceivedUserData :=
  { payload := publish_packet.payload
    correlation_data := publish_packet.correlation_data
    publish_storage := S.aws_mqtt5_packet_publish_storage_init
      { publish_packet with payload := [], correlation_data := none } }

/-- The name and value bytes that the cursors of a user property storage designate. -/
def UserPropertyStorage.view (storage : UserPropertyStorage) : List (List UInt8 × List UInt8) :=
  storage.user_properties.map fun property =>
    (property.1.read storage.user_property_storage, property.2.read storage.user_property_storage)

/-! ## Native to JavaScript -/

section Create

variable (napiString : List UInt8 → String)

/-- `s_attach_object_property_user_properties`: an array of `{name, value}` objects, attached
even when there are no user properties. -/
def s_attach_object_property_user_properties (napi_packet : JsValue)
    (user_properties : List (List UInt8 × List UInt8)) : JsValue :=
  let user_property_array := user_properties.map fun property =>
    let user_property_value :=
      aws_napi_attach_object_property_string napiString (.object []) "name" property.1
    aws_napi_attach_object_property_string napiString user_property_value "value" property.2
  napi_packet.setNamedProperty "userProperties" (.array user_property_array)

/-- `s_create_napi_publish_packet`. The payload format and the correlation data are tested for
`NULL` in place, as the `_optional_` helpers do. -/
def s_create_napi_publish_packet (message_received_ud : OnMessageReceivedUserData) : JsValue :=
  let publish_view := message_received_ud.publish_storage
  let packet := aws_napi_attach_object_property_u32 (.object []) "type" AWS_MQTT5_PT_PUBLISH
  let packet := aws_napi_attach_object_property_string napiString packet "topicName" publish_view.topic
  let packet := aws_napi_attach_object_property_binary_as_finalizable_external packet "payload"
    message_received_ud.payload
  let packet := aws_napi_attach_object_property_u32 packet "qos" publish_view.qos
  let packet := aws_napi_attach_object_property_boolean packet "retain" publish_view.retain
  let packet := attachOptionalObjectProperty aws_napi_attach_object_property_u32 packet
    "payloadFormat" publish_view.payload_format
  let packet := aws_napi_attach_object_property_optional_u32 packet "messageExpiryIntervalSeconds"
    publish_view.message_expiry_interval_seconds
  let packet := aws_napi_attach_object_property_optional_u16 packet "topicAlias"
    publish_view.topic_alias
  let packet := aws_napi_attach_object_property_optional_string napiString packet "responseTopic"
    publish_view.response_topic
  let packet := attachOptionalObjectProperty
    aws_napi_attach_object_property_binary_as_finalizable_external packet "correlationData"
    message_received_ud.correlation_data
  let packet :=
    if 0 < publish_view.subscription_identifiers.length then
      packet.setNamedProperty "subscriptionIdentifiers"
        (.array (publish_view.subscription_identifiers.map fun id => .number id.toNat))
    else packet
  let packet := aws_napi_attach_object_property_optional_string napiString packet "contentType"
    publish_view.content_type
  s_attach_object_property_user_properties napiString packet publish_view.user_properties

/-- `s_create_napi_disconnect_packet`, from the storage of `struct on_disconnection_user_data`:
`none` when `is_disconnect_valid` is false, which gives `null`. The server reference is not
attached. -/
def s_create_napi_disconnect_packet (disconnect : Option DisconnectView) : JsValue :=
  match disconnect with
  | none => .null
  | some disconnect_view =>
    let packet := aws_napi_attach_object_property_u32 (.object []) "type" AWS_MQTT5_PT_DISCONNECT
    let packet := aws_napi_attach_object_property_u32 packet "reasonCode" disconnect_view.reason_code
    let packet := aws_napi_attach_object_property_optional_u32 packet
      "sessionExpiryIntervalSeconds" disconnect_view.session_expiry_interval_seconds
    let packet := aws_napi_attach_object_property_optional_string napiString packet "reasonString"
      disconnect_view.reason_string
    s_attach_object_property_user_properties napiString packet disconnect_view.user_properties

end Create

/-! ## JavaScript to native -/

section Read

variable (A : AppendAndUpdateLib)

/-- The user properties a packet view points at: none when there is no storage. -/
def userPropertiesView (storage : Option UserPropertyStorage) : List (List UInt8 × List UInt8) :=
  (storage.map UserPropertyStorage.view).getD []

/-- `s_init_publish_options_from_napi`, into a zeroed view and storage. -/
def s_init_publish_options_from_napi (node_publish_config : JsValue) :
    Except String PublishView := do
  let topic ← parseRequired
    (aws_napi_get_named_property_as_bytebuf node_publish_config "topicName" .napi_string)
  let payload ← parseOptional []
    (aws_napi_get_named_property_as_bytebuf node_publish_config "payload" .napi_undefined)
  let qos ← parseRequired (aws_napi_get_named_property_as_uint32 node_publish_config "qos")
  let retain ← parseOptional false
    (aws_napi_get_named_property_as_boolean node_publish_config "retain")
  let payload_format ← parseOptional none
    ((aws_napi_get_named_property_as_uint32 node_publish_config "payloadFormat").map
      fun payload_format => some (UInt32.ofNat payload_format))
  let message_expiry_interval_seconds ← parseOptional none
    ((aws_napi_get_named_property_as_uint32 node_publish_config "messageExpiryIntervalSeconds").map
      fun seconds => some (UInt32.ofNat seconds))
  let topic_alias ← parseOptional none
    ((aws_napi_get_named_property_as_uint16 node_publish_config "topicAlias").map
      fun topic_alias => some (UInt16.ofNat topic_alias))
  let response_topic ← parseOptional none
    ((aws_napi_get_named_property_as_bytebuf node_publish_config "responseTopic" .napi_string).map
      some)
  let correlation_data ← parseOptional none
    ((aws_napi_get_named_property_as_bytebuf node_publish_config "correlationData"
      .napi_undefined).map some)
  let content_type ← parseOptional none
    ((aws_napi_get_named_property_as_bytebuf node_publish_config "contentType" .napi_string).map
      some)
  let user_properties ← s_aws_mqtt5_user_properties_extract_from_js_object A node_publish_config
  pure
    { payload, qos := UInt32.ofNat qos, retain, topic, payload_format,
      message_expiry_interval_seconds, topic_alias, response_topic, correlation_data,
      subscription_identifiers := [], content_type,
      user_properties := userPropertiesView user_properties }

/-- `s_aws_napi_mqtt5_packet_disconnect_storage_initialize_from_js_object`, into a zeroed view. -/
def s_aws_napi_mqtt5_packet_disconnect_storage_initialize_from_js_object
    (node_disconnect_packet : JsValue) : Except String DisconnectView := do
  let reason_code ← parseOptional 0
    (aws_napi_get_named_property_as_uint32 node_disconnect_packet "reasonCode")
  let session_expiry_interval_seconds ← parseOptional none
    ((aws_napi_get_named_property_as_uint32 node_disconnect_packet
      "sessionExpiryIntervalSeconds").map fun seconds => some (UInt32.ofNat seconds))
  let reason_string ← parseOptional none
    ((aws_napi_get_named_property_as_bytebuf node_disconnect_packet "reasonString"
      .napi_string).map some)
  let user_properties ← s_aws_mqtt5_user_properties_extract_from_js_object A node_disconnect_packet
  -- the server reference is ignored on purpose: a client may not send one
  pure
    { reason_code := UInt32.ofNat reason_code, session_expiry_interval_seconds, reason_string,
      user_properties := userPropertiesView user_properties, server_reference := none }

/-- The DISCONNECT that `aws_napi_mqtt5_client_stop` hands to `aws_mqtt5_client_stop`: none for a
`null` or `undefined` argument; one that does not read throws. -/
def aws_napi_mqtt5_client_stop (node_disconnect_packet : JsValue) :
    Except String (Option DisconnectView) :=
  if node_disconnect_packet.typeof = .napi_null ∨ node_disconnect_packet.typeof = .napi_undefined then
    .ok none
  else
    match s_aws_napi_mqtt5_packet_disconnect_storage_initialize_from_js_object A
        node_disconnect_packet with
    | .ok disconnect_view => .ok (some disconnect_view)
    | .error _ => .error "aws_napi_mqtt5_client_stop - could not initialize disconnect packet"

end Read

/-! ## Reading back what was attached -/

section ReadBack

variable {object : JsValue} {name : String}

/-- An optional fixed-width number, attached when present, reads back into the pointer: absent,
it leaves it `NULL`. -/
theorem parseOptional_unsigned {W : Type} {max : Int} (toNat : W → Nat) (ofNat : Nat → W)
    (hof : ∀ w, ofNat (toNat w) = w) (hmax : ∀ w, (toNat w : Int) ≤ max) {value : Option W}
    (h : object.getNamedProperty name = value.map fun w => .number (toNat w)) :
    parseOptional none ((getNamedPropertyAsUnsigned max object name).map fun n => some (ofNat n)) =
      .ok value := by
  cases value with
  | none => simp [unsigned_of_getNamedProperty_none h, NapiGetResult.map, parseOptional]
  | some w =>
    rw [unsigned_of_getNamedProperty_number h (Int.natCast_nonneg _) (hmax w)]
    simp [NapiGetResult.map, parseOptional, hof]

theorem uint32_le_max (w : UInt32) : (w.toNat : Int) ≤ UINT32_MAX := by
  have := w.toNat_lt
  simp only [UINT32_MAX]
  omega

theorem uint16_le_max (w : UInt16) : (w.toNat : Int) ≤ UINT16_MAX := by
  have := w.toNat_lt
  simp only [UINT16_MAX]
  omega

theorem uint32_of_getNamedProperty {w : UInt32}
    (h : object.getNamedProperty name = some (.number w.toNat)) :
    aws_napi_get_named_property_as_uint32 object name = .AWS_NGNPR_VALID_VALUE w.toNat := by
  rw [aws_napi_get_named_property_as_uint32_eq,
    unsigned_of_getNamedProperty_number h (Int.natCast_nonneg _) (uint32_le_max w)]
  rfl

theorem parseOptional_uint32 {value : Option UInt32}
    (h : object.getNamedProperty name = value.map fun w => .number w.toNat) :
    parseOptional none
        ((aws_napi_get_named_property_as_uint32 object name).map fun n => some (UInt32.ofNat n)) =
      .ok value := by
  rw [aws_napi_get_named_property_as_uint32_eq]
  exact parseOptional_unsigned UInt32.toNat UInt32.ofNat (fun _ => UInt32.ofNat_toNat)
    uint32_le_max h

theorem parseOptional_uint16 {value : Option UInt16}
    (h : object.getNamedProperty name = value.map fun w => .number w.toNat) :
    parseOptional none
        ((aws_napi_get_named_property_as_uint16 object name).map fun n => some (UInt16.ofNat n)) =
      .ok value :=
  parseOptional_unsigned UInt16.toNat UInt16.ofNat (fun _ => UInt16.ofNat_toNat) uint16_le_max h

/-- An optional string attached from UTF-8 bytes reads back as the bytes. -/
theorem parseOptional_bytebuf_string {decode : List UInt8 → String} {value : Option (List UInt8)}
    (h : object.getNamedProperty name = value.map fun bytes => .string (decode bytes))
    (hvalue : ∀ bytes ∈ value, utf8 (decode bytes) = bytes) :
    parseOptional none
        ((aws_napi_get_named_property_as_bytebuf object name .napi_string).map some) =
      .ok value := by
  cases value with
  | none => simp [bytebuf_of_getNamedProperty_none h, NapiGetResult.map, parseOptional]
  | some bytes =>
    rw [bytebuf_of_getNamedProperty_string h, hvalue bytes rfl]
    rfl

theorem parseOptional_bytebuf_bytes {value : Option (List UInt8)}
    (h : object.getNamedProperty name = value.map .bytes) :
    parseOptional none
        ((aws_napi_get_named_property_as_bytebuf object name .napi_undefined).map some) =
      .ok value := by
  cases value with
  | none => simp [bytebuf_of_getNamedProperty_none h, NapiGetResult.map, parseOptional]
  | some bytes =>
    rw [bytebuf_of_getNamedProperty_bytes h]
    rfl

/-- User properties attached as `{name, value}` objects of UTF-8 strings are extracted into a
storage whose cursors designate them, in order. -/
theorem extract_attached_user_properties (A : AppendAndUpdateLib) {decode : List UInt8 → String}
    {user_properties : List (List UInt8 × List UInt8)}
    (h : object.getNamedProperty "userProperties" = some (.array (user_properties.map fun p =>
      aws_napi_attach_object_property_string decode
        (aws_napi_attach_object_property_string decode (.object []) "name" p.1) "value" p.2)))
    (hvalue : ∀ p ∈ user_properties, utf8 (decode p.1) = p.1 ∧ utf8 (decode p.2) = p.2) :
    ∃ storage, s_aws_mqtt5_user_properties_extract_from_js_object A object = .ok storage ∧
      userPropertiesView storage = user_properties := by
  -- each element reads as its name and value bytes
  have hreads : List.Forall₂ ReadsUserProperty (user_properties.map fun p =>
      aws_napi_attach_object_property_string decode
        (aws_napi_attach_object_property_string decode (.object []) "name" p.1) "value" p.2)
      user_properties := by
    rw [List.forall₂_map_left_iff]
    refine List.forall₂_same.2 fun p hp => ⟨?_, ?_⟩
    · rw [bytebuf_of_getNamedProperty_string rfl, (hvalue p hp).1]
    · rw [bytebuf_of_getNamedProperty_string rfl, (hvalue p hp).2]
  obtain ⟨storage, hext, hpacks⟩ := user_properties_extract_packs A h hreads
  refine ⟨some storage, hext, flattenPairs_inj ?_⟩
  rw [userPropertiesView, Option.map_some, Option.getD_some, UserPropertyStorage.view,
    flattenPairs_map, hpacks.read_eq]

end ReadBack

/-! ## Round trips -/

/-- The strings of a PUBLISH are UTF-8: its topic, response topic, content type and user
properties. -/
def PublishView.Utf8Strings (publish_view : PublishView) : Prop :=
  IsUtf8 publish_view.topic ∧ (∀ bytes ∈ publish_view.response_topic, IsUtf8 bytes) ∧
    (∀ bytes ∈ publish_view.content_type, IsUtf8 bytes) ∧
    ∀ p ∈ publish_view.user_properties, IsUtf8 p.1 ∧ IsUtf8 p.2

/-- The strings of a DISCONNECT are UTF-8: its reason string and user properties. -/
def DisconnectView.Utf8Strings (disconnect_view : DisconnectView) : Prop :=
  (∀ bytes ∈ disconnect_view.reason_string, IsUtf8 bytes) ∧
    ∀ p ∈ disconnect_view.user_properties, IsUtf8 p.1 ∧ IsUtf8 p.2

theorem ite_object (c : Prop) [Decidable c] (a b : List (String × JsValue)) :
    (if c then JsValue.object a else JsValue.object b) = .object (if c then a else b) := by
  split <;> rfl

theorem getProp_ite_setProp {β : Type} (c : Prop) [Decidable c] (ps : List (String × β))
    (k k' : String) (v : β) :
    getProp (if c then setProp ps k v else ps) k' = if c ∧ k = k' then some v else getProp ps k' := by
  by_cases hc : c <;> simp [hc, getProp_setProp]

section RoundTrip

variable (napiString : List UInt8 → String)

/-- What a received PUBLISH, built for JavaScript, holds under each key that
`s_init_publish_options_from_napi` reads. -/
theorem publish_packet_properties (S : PublishStorageLib) (publish_packet : PublishView) :
    let packet := s_create_napi_publish_packet napiString
      (s_on_message_received_user_data_new S publish_packet)
    packet.getNamedProperty "topicName" = some (.string (napiString publish_packet.topic)) ∧
    packet.getNamedProperty "payload" = some (.bytes publish_packet.payload) ∧
    packet.getNamedProperty "qos" = some (.number publish_packet.qos.toNat) ∧
    packet.getNamedProperty "retain" = some (.boolean publish_packet.retain) ∧
    packet.getNamedProperty "payloadFormat" =
      publish_packet.payload_format.map (fun w => .number w.toNat) ∧
    packet.getNamedProperty "messageExpiryIntervalSeconds" =
      publish_packet.message_expiry_interval_seconds.map (fun w => .number w.toNat) ∧
    packet.getNamedProperty "topicAlias" =
      publish_packet.topic_alias.map (fun w => .number w.toNat) ∧
    packet.getNamedProperty "responseTopic" =
      publish_packet.response_topic.map (fun bytes => .string (napiString bytes)) ∧
    packet.getNamedProperty "correlationData" = publish_packet.correlation_data.map .bytes ∧
    packet.getNamedProperty "contentType" =
      publish_packet.content_type.map (fun bytes => .string (napiString bytes)) ∧
    packet.getNamedProperty "userProperties" = some (.array (publish_packet.user_properties.map
      fun p => aws_napi_attach_object_property_string napiString
        (aws_napi_attach_object_property_string napiString (.object []) "name" p.1) "value" p.2)) := by
  simp [s_create_napi_publish_packet, s_on_message_received_user_data_new, S.storage_view_eq,
    s_attach_object_property_user_properties, aws_napi_attach_object_property_u32,
    aws_napi_attach_object_property_string,
    aws_napi_attach_object_property_binary_as_finalizable_external,
    aws_napi_attach_object_property_boolean, aws_napi_attach_object_property_optional_u32,
    aws_napi_attach_object_property_optional_u16, aws_napi_attach_object_property_u16_eq,
    aws_napi_attach_object_property_optional_string, ite_object, getProp_ite_setProp,
    getProp_setProp, getProp]

/-- What a built DISCONNECT holds under each key that
`s_aws_napi_mqtt5_packet_disconnect_storage_initialize_from_js_object` reads. -/
theorem disconnect_packet_properties (disconnect_view : DisconnectView) :
    let packet := s_create_napi_disconnect_packet napiString (some disconnect_view)
    packet.typeof = .napi_object ∧
    packet.getNamedProperty "reasonCode" = some (.number disconnect_view.reason_code.toNat) ∧
    packet.getNamedProperty "sessionExpiryIntervalSeconds" =
      disconnect_view.session_expiry_interval_seconds.map (fun w => .number w.toNat) ∧
    packet.getNamedProperty "reasonString" =
      disconnect_view.reason_string.map (fun bytes => .string (napiString bytes)) ∧
    packet.getNamedProperty "userProperties" = some (.array (disconnect_view.user_properties.map
      fun p => aws_napi_attach_object_property_string napiString
        (aws_napi_attach_object_property_string napiString (.object []) "name" p.1) "value" p.2)) := by
  simp [s_create_napi_disconnect_packet, s_attach_object_property_user_properties,
    aws_napi_attach_object_property_u32, aws_napi_attach_object_property_string,
    aws_napi_attach_object_property_optional_u32, aws_napi_attach_object_property_optional_string,
    getProp_setProp, getProp, JsValue.typeof]

end RoundTrip

/-- A PUBLISH the client receives, with UTF-8 strings, handed to JavaScript and published again
as it is, is read into the packet it was, without its subscription identifiers: they are attached
for JavaScript but not read back, since a client does not send them. -/
theorem publish_packet_round_trip (A : AppendAndUpdateLib) (S : PublishStorageLib)
    (napiString : List UInt8 → String) (hnapi : ∀ s, napiString (utf8 s) = s)
    (publish_packet : PublishView) (hutf8 : publish_packet.Utf8Strings) :
    s_init_publish_options_from_napi A
        (s_create_napi_publish_packet napiString
          (s_on_message_received_user_data_new S publish_packet)) =
      .ok { publish_packet with subscription_identifiers := [] } := by
  obtain ⟨htopic, hpayload, hqos, hretain, hformat, hexpiry, halias, hresponse, hcorrelation,
    hcontent, huser⟩ :=
    publish_packet_properties napiString S publish_packet
  obtain ⟨htopic_utf8, hresponse_utf8, hcontent_utf8, huser_utf8⟩ := hutf8
  obtain ⟨user_properties, hextract, hview⟩ := extract_attached_user_properties A huser
    fun p hp => ⟨(huser_utf8 p hp).1.decode hnapi, (huser_utf8 p hp).2.decode hnapi⟩
  simp only [s_init_publish_options_from_napi, bytebuf_of_getNamedProperty_string htopic,
    htopic_utf8.decode hnapi, bytebuf_of_getNamedProperty_bytes hpayload,
    uint32_of_getNamedProperty hqos, boolean_of_getNamedProperty_boolean hretain,
    parseOptional_uint32 hformat, parseOptional_uint32 hexpiry, parseOptional_uint16 halias,
    parseOptional_bytebuf_string hresponse fun bytes h => (hresponse_utf8 bytes h).decode hnapi,
    parseOptional_bytebuf_bytes hcorrelation,
    parseOptional_bytebuf_string hcontent fun bytes h => (hcontent_utf8 bytes h).decode hnapi,
    hextract]
  simp only [parseRequired, parseOptional, Machine.ok_bind, UInt32.ofNat_toNat, hview]
  rfl

theorem publish_packet_round_trip_forwarded :
    s_init_publish_options_from_napi .packing
        (s_create_napi_publish_packet utf8Decode (s_on_message_received_user_data_new .copy
          ⟨[1, 2], 1, true, utf8 "a/b", some 1, none, some 3, some (utf8 "r"), some [7], [5, 6],
            none, [(utf8 "k", utf8 "v")]⟩)) =
      .ok ⟨[1, 2], 1, true, utf8 "a/b", some 1, none, some 3, some (utf8 "r"), some [7], [], none,
        [(utf8 "k", utf8 "v")]⟩ :=
  publish_packet_round_trip .packing .copy utf8Decode utf8Decode_utf8 _
    ⟨⟨"a/b", rfl⟩, by rintro _ ⟨⟩; exact ⟨"r", rfl⟩, by rintro _ ⟨⟩,
      by simpa using ⟨⟨"k", rfl⟩, ⟨"v", rfl⟩⟩⟩

/-- A DISCONNECT from the server, with UTF-8 strings, handed to JavaScript and passed to `stop`
as it is, is the DISCONNECT `stop` sends, without its server reference; and no DISCONNECT
(`null`) is none. -/
theorem stop_disconnect_round_trip (A : AppendAndUpdateLib) (napiString : List UInt8 → String)
    (hnapi : ∀ s, napiString (utf8 s) = s) (disconnect : Option DisconnectView)
    (hutf8 : ∀ disconnect_view ∈ disconnect, disconnect_view.Utf8Strings) :
    aws_napi_mqtt5_client_stop A (s_create_napi_disconnect_packet napiString disconnect) =
      .ok (disconnect.map fun disconnect_view => { disconnect_view with server_reference := none }) := by
  cases disconnect with
  | none => rfl
  | some disconnect_view =>
    obtain ⟨htype, hreason, hexpiry, hstring, huser⟩ :=
      disconnect_packet_properties napiString disconnect_view
    obtain ⟨hstring_utf8, huser_utf8⟩ := hutf8 disconnect_view rfl
    obtain ⟨user_properties, hextract, hview⟩ := extract_attached_user_properties A huser
      fun p hp => ⟨(huser_utf8 p hp).1.decode hnapi, (huser_utf8 p hp).2.decode hnapi⟩
    have hread : s_aws_napi_mqtt5_packet_disconnect_storage_initialize_from_js_object A
        (s_create_napi_disconnect_packet napiString (some disconnect_view)) =
        .ok { disconnect_view with server_reference := none } := by
      simp only [s_aws_napi_mqtt5_packet_disconnect_storage_initialize_from_js_object,
        uint32_of_getNamedProperty hreason, parseOptional_uint32 hexpiry,
        parseOptional_bytebuf_string hstring fun bytes h => (hstring_utf8 bytes h).decode hnapi,
        hextract]
      simp only [parseOptional, Machine.ok_bind, UInt32.ofNat_toNat, hview]
      rfl
    simp [aws_napi_mqtt5_client_stop, htype, hread]

theorem stop_disconnect_round_trip_forwarded :
    aws_napi_mqtt5_client_stop .packing (s_create_napi_disconnect_packet utf8Decode
        (some ⟨4, some 60, some (utf8 "bye"), [], some (utf8 "other")⟩)) =
      .ok (some ⟨4, some 60, some (utf8 "bye"), [], none⟩) :=
  stop_disconnect_round_trip .packing utf8Decode utf8Decode_utf8 _
    (by rintro _ ⟨⟩; exact ⟨by rintro _ ⟨⟩; exact ⟨"bye", rfl⟩, by simp⟩)

end AwsCrt
