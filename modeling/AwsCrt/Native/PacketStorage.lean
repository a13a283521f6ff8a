import AwsCrt.Lib.Machine
import AwsCrt.Lib.Packing
import AwsCrt.Native.Napi

/-!
# Packed storage of N-API packets (`src/source/mqtt5_client.c`)

The native MQTT5 client copies the strings of a packet it receives from JavaScript into one buffer
per packet, allocated to the exact size: a first loop over the JS array adds up the UTF-8 lengths,
the buffer is allocated with that capacity, and a second loop appends each string with
`aws_byte_buf_append_and_update`, which moves the cursor onto the copy. User properties pack a name
and a value each, SUBSCRIBE its subscriptions' topic filters, UNSUBSCRIBE its topic filters.

* The code: the property macros, the two loops of each extractor, and the extractors, over the
  readers of `AwsCrt.Native.Napi`. The allocations are assumed to succeed, and `env` to be
  defined. aws-c-common's `aws_byte_buf_append_and_update` is a parameter (`AppendAndUpdateLib`)
  with its contract: it appends as `Packing.append` does when the capacity allows and raises
  `AWS_ERROR_DEST_COPY_TOO_SMALL` otherwise.
* `userPropertiesTotal_eq`, `userPropertiesPersist_eq` and the same for the topic filters: over
  elements whose strings all read, the first loop's total is the length of the bytes the second
  appends, so every append fits, the buffer is their concatenation and the cursors are their
  `Packing.layout`; `subscriptionsPersist_eq` reads each subscription's other fields as well.
* `user_properties_extract_packs`, `subscribe_storage_packs`, `unsubscribe_storage_packs`: the
  storage an extractor builds `Packs` its strings; `user_properties_extract_error` and the same
  for the packets: the first loop refuses what the second could not pack, so the extractors
  fail only on invalid arguments, never because an append did not fit.
* `extractors_pack_exactly`: the three together, for strings.
-/

namespace AwsCrt

open JsString Packing

/-- `PARSE_REQUIRED_NAPI_PROPERTY`: a missing or invalid property raises
`AWS_ERROR_INVALID_ARGUMENT`. -/
def parseRequired {α : Type} : NapiGetResult α → Except String α
  | .AWS_NGNPR_VALID_VALUE v => .ok v
  | .AWS_NGNPR_INVALID_VALUE | .AWS_NGNPR_NO_VALUE => .error "AWS_ERROR_INVALID_ARGUMENT"

/-- `PARSE_OPTIONAL_NAPI_PROPERTY`: an invalid property raises `AWS_ERROR_INVALID_ARGUMENT`, a
missing one leaves the field as it was. -/
def parseOptional {α : Type} (default : α) : NapiGetResult α → Except String α
  | .AWS_NGNPR_VALID_VALUE v => .ok v
  | .AWS_NGNPR_INVALID_VALUE => .error "AWS_ERROR_INVALID_ARGUMENT"
  | .AWS_NGNPR_NO_VALUE => .ok default

/-- aws-c-common's `aws_byte_buf_append_and_update(to, from_and_update)` on a buffer allocated with
`capacity` bytes, as its contract states it: when `from` fits in the room left it is copied to the
end of the buffer and the cursor is moved onto the copy, as `Packing.append` does; when it does not,
the call raises `AWS_ERROR_DEST_COPY_TOO_SMALL`. -/
structure AppendAndUpdateLib where
  aws_byte_buf_append_and_update : (capacity : Nat) → (buf data : List UInt8) →
    Except String (List UInt8 × Cursor)
  append_of_fits : ∀ capacity buf data out, Packing.append capacity buf data = some out →
    aws_byte_buf_append_and_update capacity buf data = .ok out
  append_of_too_long : ∀ capacity buf data, Packing.append capacity buf data = none →
    aws_byte_buf_append_and_update capacity buf data = .error "AWS_ERROR_DEST_COPY_TOO_SMALL"

/-- The append the contract describes, with which the extractors run on given packets. -/
def AppendAndUpdateLib.packing : AppendAndUpdateLib where
  aws_byte_buf_append_and_update capacity buf data :=
    match Packing.append capacity buf data with
    | some out => .ok out
    | none => .error "AWS_ERROR_DEST_COPY_TOO_SMALL"
  append_of_fits _ _ _ _ h := by simp only [h]
  append_of_too_long _ _ _ h := by simp only [h]

/-- Appending a chunk to a buffer that holds chunks packed from its start, with room for it: the
buffer holds one more chunk, at the cursor the layout gives it. -/
theorem AppendAndUpdateLib.append_flatten (A : AppendAndUpdateLib) {capacity : Nat}
    {ds : List (List UInt8)} {d : List UInt8} (h : (ds ++ [d]).flatten.length ≤ capacity) :
    A.aws_byte_buf_append_and_update capacity ds.flatten d =
      .ok ((ds ++ [d]).flatten, ⟨ds.flatten.length, d.length⟩) :=
  A.append_of_fits _ _ _ _ (Packing.append_flatten h)

section Extractors

variable (A : AppendAndUpdateLib)

/-! ## User properties -/

/-- `struct aws_napi_mqtt5_user_property_storage` and the view it backs: the packed bytes, the
capacity they were allocated with, and the name and value cursors of each property. -/
structure UserPropertyStorage where
  user_property_storage : List UInt8
  capacity : Nat
  user_properties : List (Cursor × Cursor)

/-- One turn of the first loop of `s_aws_mqtt5_user_properties_extract_from_js_object`: the
lengths of the name and value are added, then a name or value that is not a string raises
`AWS_ERROR_INVALID_ARGUMENT`. -/
def userPropertyLength (total_property_length : Nat) (array_element : JsValue) :
    Except String Nat :=
  let name_gpr := aws_napi_get_named_property_as_bytebuf array_element "name" .napi_string
  let value_gpr := aws_napi_get_named_property_as_bytebuf array_element "value" .napi_string
  let total_property_length := total_property_length + name_gpr.buf.length + value_gpr.buf.length
  if name_gpr.isValid && value_gpr.isValid then .ok total_property_length
  else .error "AWS_ERROR_INVALID_ARGUMENT"

/-- The first loop: the total length of the names and values. -/
def userPropertiesTotal (elements : List JsValue) : Except String Nat :=
  elements.foldlM userPropertyLength 0

/-- One turn of the second loop: the name, then the value, appended to the storage, and their
cursors kept. -/
def persistUserProperty (capacity : Nat) :
    List UInt8 × List (Cursor × Cursor) → JsValue → Except String (List UInt8 × List (Cursor × Cursor))
  | (storage, user_properties), array_element =>
    let name_buf := (aws_napi_get_named_property_as_bytebuf array_element "name" .napi_string).buf
    let value_buf := (aws_napi_get_named_property_as_bytebuf array_element "value" .napi_string).buf
    -- a failed append returns `AWS_OP_ERR`, with the error it raised
    match A.aws_byte_buf_append_and_update capacity storage name_buf with
    | .error e => .error e
    | .ok (storage, name) =>
      match A.aws_byte_buf_append_and_update capacity storage value_buf with
      | .error e => .error e
      | .ok (storage, value) => .ok (storage, user_properties ++ [(name, value)])

/-- The second loop, into a storage allocated with `capacity`. -/
def userPropertiesPersist (capacity : Nat) (elements : List JsValue) :
    Except String (List UInt8 × List (Cursor × Cursor)) :=
  elements.foldlM (persistUserProperty A capacity) ([], [])

/-- `s_aws_mqtt5_user_properties_extract_from_js_object`: no `userProperties` is success with no
storage; a `userProperties` that is not an object fails without raising a new error
(`AWS_OP_ERR`). -/
def s_aws_mqtt5_user_properties_extract_from_js_object (node_container : JsValue) :
    Except String (Option UserPropertyStorage) :=
  match aws_napi_get_named_property node_container "userProperties" .napi_object with
  | .AWS_NGNPR_NO_VALUE => .ok none
  | .AWS_NGNPR_INVALID_VALUE => .error "AWS_OP_ERR"
  | .AWS_NGNPR_VALID_VALUE node_user_properties =>
    if node_user_properties.typeof = .napi_null ∨ node_user_properties.typeof = .napi_undefined then
      .ok none
    else
      match node_user_properties.arrayElements with
      | none => .error "AWS_ERROR_INVALID_ARGUMENT"
      | some elements => do
        let total_property_length ← userPropertiesTotal elements
        let (user_property_storage, user_properties) ←
          userPropertiesPersist A total_property_length elements
        pure (some ⟨user_property_storage, total_property_length, user_properties⟩)

/-! ## SUBSCRIBE -/

/-- The fields of `struct aws_mqtt5_subscription_view` other than the topic filter. -/
structure SubscriptionSettings where
  qos : Nat
  no_local : Bool
  retain_as_published : Bool
  retain_handling_type : Nat

/-- `s_aws_mqtt5_subscription_init_from_napi`: `qos` is required, the others optional. -/
def s_aws_mqtt5_subscription_init_from_napi (node_subscription : JsValue) :
    Except String SubscriptionSettings := do
  let qos ← parseRequired (aws_napi_get_named_property_as_uint32 node_subscription "qos")
  let no_local ← parseOptional false
    (aws_napi_get_named_property_as_boolean node_subscription "noLocal")
  let retain_as_published ← parseOptional false
    (aws_napi_get_named_property_as_boolean node_subscription "retainAsPublished")
  let retain_handling_type ← parseOptional 0
    (aws_napi_get_named_property_as_uint32 node_subscription "retainHandlingType")
  pure ⟨qos, no_local, retain_as_published, retain_handling_type⟩

/-- `struct aws_napi_mqtt5_subscribe_storage` and the view it backs. -/
structure SubscribeStorage where
  topics : List UInt8
  capacity : Nat
  subscriptions : List (Cursor × SubscriptionSettings)
  subscription_identifier : Option Nat
  user_properties : Option UserPropertyStorage

/-- One turn of the first loop of `s_aws_mqtt5_packet_subscribe_storage_init_from_napi`: the
length of the topic filter is added, then a topic filter that is not a string raises
`AWS_ERROR_INVALID_ARGUMENT`. -/
def subscriptionTopicLength (topic_length_sum : Nat) (napi_subscription : JsValue) :
    Except String Nat :=
  let gpr := aws_napi_get_named_property_as_bytebuf napi_subscription "topicFilter" .napi_string
  let topic_length_sum := topic_length_sum + gpr.buf.length
  if gpr.isValid then .ok topic_length_sum else .error "AWS_ERROR_INVALID_ARGUMENT"

/-- The first loop: the total length of the topic filters. -/
def subscriptionsTopicLength (subscriptions : List JsValue) : Except String Nat :=
  subscriptions.foldlM subscriptionTopicLength 0

/-- One turn of the second loop: the topic filter appended, then the rest of the subscription
read. -/
def persistSubscription (capacity : Nat) :
    List UInt8 × List (Cursor × SubscriptionSettings) → JsValue →
      Except String (List UInt8 × List (Cursor × SubscriptionSettings))
  | (topics, views), napi_subscription =>
    let topic_filter_buf :=
      (aws_napi_get_named_property_as_bytebuf napi_subscription "topicFilter" .napi_string).buf
    match A.aws_byte_buf_append_and_update capacity topics topic_filter_buf with
    | .error e => .error e
    | .ok (topics, topic_filter) => do
      let settings ← s_aws_mqtt5_subscription_init_from_napi napi_subscription
      pure (topics, views ++ [(topic_filter, settings)])

/-- The second loop, into a storage allocated with `capacity`. -/
def subscriptionsPersist (capacity : Nat) (subscriptions : List JsValue) :
    Except String (List UInt8 × List (Cursor × SubscriptionSettings)) :=
  subscriptions.foldlM (persistSubscription A capacity) ([], [])

/-- `s_aws_mqtt5_packet_subscribe_storage_init_from_napi`. -/
def s_aws_mqtt5_packet_subscribe_storage_init_from_napi (node_subscribe_packet : JsValue) :
    Except String SubscribeStorage := do
  let napi_subscriptions ←
    parseRequired (aws_napi_get_named_property node_subscribe_packet "subscriptions" .napi_object)
  let some subscriptions := napi_subscriptions.arrayElements
    | throw "AWS_ERROR_INVALID_ARGUMENT"
  let topic_length_sum ← subscriptionsTopicLength subscriptions
  let (topics, views) ← subscriptionsPersist A topic_length_sum subscriptions
  let subscription_identifier ← parseOptional none
    (match aws_napi_get_named_property_as_uint32 node_subscribe_packet "subscriptionIdentifier" with
      | .AWS_NGNPR_VALID_VALUE id => .AWS_NGNPR_VALID_VALUE (some id)
      | .AWS_NGNPR_INVALID_VALUE => .AWS_NGNPR_INVALID_VALUE
      | .AWS_NGNPR_NO_VALUE => .AWS_NGNPR_NO_VALUE)
  let user_properties ← s_aws_mqtt5_user_properties_extract_from_js_object A node_subscribe_packet
  pure ⟨topics, topic_length_sum, views, subscription_identifier, user_properties⟩

/-! ## UNSUBSCRIBE -/

/-- `struct aws_napi_mqtt5_unsubscribe_storage` and the view it backs. -/
structure UnsubscribeStorage where
  topic_filters : List UInt8
  capacity : Nat
  topic_filter_cursors : List Cursor
  user_properties : Option UserPropertyStorage

/-- One turn of the first loop of `s_aws_mqtt5_packet_unsubscribe_storage_init_from_napi`: a
topic filter that is neither a string nor a buffer raises `AWS_ERROR_INVALID_ARGUMENT`. -/
def topicFilterLength (topic_filter_length_sum : Nat) (napi_topic_filter : JsValue) :
    Except String Nat :=
  match aws_byte_buf_init_from_napi napi_topic_filter with
  | none => .error "AWS_ERROR_INVALID_ARGUMENT"
  | some topic_filter_buf => .ok (topic_filter_length_sum + topic_filter_buf.length)

/-- The first loop: the total length of the topic filters. -/
def topicFiltersLength (topic_filters : List JsValue) : Except String Nat :=
  topic_filters.foldlM topicFilterLength 0

/-- One turn of the second loop: the topic filter read again and appended, with its cursor. -/
def persistTopicFilter (capacity : Nat) :
    List UInt8 × List Cursor → JsValue → Except String (List UInt8 × List Cursor)
  | (buf, cursors), napi_topic_filter =>
    match aws_byte_buf_init_from_napi napi_topic_filter with
    | none => .error "AWS_ERROR_INVALID_ARGUMENT"
    | some topic_filter_buf =>
      match A.aws_byte_buf_append_and_update capacity buf topic_filter_buf with
      | .error e => .error e
      | .ok (buf, topic_filter) => .ok (buf, cursors ++ [topic_filter])

/-- The second loop, into a storage allocated with `capacity`. -/
def topicFiltersPersist (capacity : Nat) (topic_filters : List JsValue) :
    Except String (List UInt8 × List Cursor) :=
  topic_filters.foldlM (persistTopicFilter A capacity) ([], [])

/-- `s_aws_mqtt5_packet_unsubscribe_storage_init_from_napi`. -/
def s_aws_mqtt5_packet_unsubscribe_storage_init_from_napi (node_unsubscribe_packet : JsValue) :
    Except String UnsubscribeStorage := do
  let napi_topic_filters ←
    parseRequired (aws_napi_get_named_property node_unsubscribe_packet "topicFilters" .napi_object)
  let some topic_filters := napi_topic_filters.arrayElements
    | throw "AWS_ERROR_INVALID_ARGUMENT"
  let topic_filter_length_sum ← topicFiltersLength topic_filters
  let (buf, cursors) ← topicFiltersPersist A topic_filter_length_sum topic_filters
  let user_properties ← s_aws_mqtt5_user_properties_extract_from_js_object A node_unsubscribe_packet
  pure ⟨buf, topic_filter_length_sum, cursors, user_properties⟩

/-! ## Reading the properties -/

/-- The names and values of user properties, or their cursors, in the order they are packed. -/
def flattenPairs {α : Type} (ps : List (α × α)) : List α := ps.flatMap fun p => [p.1, p.2]

@[simp] theorem flattenPairs_nil {α : Type} : flattenPairs ([] : List (α × α)) = [] := rfl

@[simp] theorem flattenPairs_cons {α : Type} (p : α × α) (ps : List (α × α)) :
    flattenPairs (p :: ps) = p.1 :: p.2 :: flattenPairs ps := rfl

theorem flattenPairs_map {α β : Type} (f : α → β) (ps : List (α × α)) :
    flattenPairs (ps.map fun p => (f p.1, f p.2)) = (flattenPairs ps).map f := by
  induction ps with
  | nil => rfl
  | cons p ps ih => simp [ih]

/-- The pairs can be read back from their flattening. -/
theorem flattenPairs_inj {α : Type} {ps qs : List (α × α)} (h : flattenPairs ps = flattenPairs qs) :
    ps = qs := by
  induction ps generalizing qs with
  | nil =>
    cases qs with
    | nil => rfl
    | cons q qs => cases h
  | cons p ps ih =>
    cases qs with
    | nil => cases h
    | cons q qs =>
      simp only [flattenPairs_cons, List.cons.injEq] at h
      obtain ⟨h1, h2, hrest⟩ := h
      rw [Prod.ext h1 h2, ih hrest]

/-! ## User properties: the two loops -/

/-- The name and value of a user property both read as valid buffers, with bytes `p`. -/
def ReadsUserProperty (array_element : JsValue) (p : List UInt8 × List UInt8) : Prop :=
  aws_napi_get_named_property_as_bytebuf array_element "name" .napi_string =
      .AWS_NGNPR_VALID_VALUE p.1 ∧
    aws_napi_get_named_property_as_bytebuf array_element "value" .napi_string =
      .AWS_NGNPR_VALID_VALUE p.2

theorem userPropertyLength_of_reads {array_element : JsValue} {p : List UInt8 × List UInt8}
    (h : ReadsUserProperty array_element p) (total : Nat) :
    userPropertyLength total array_element = .ok (total + p.1.length + p.2.length) := by
  simp [userPropertyLength, h.1, h.2, NapiGetResult.buf, NapiGetResult.isValid]

theorem reads_of_userPropertyLength {array_element : JsValue} {total total' : Nat}
    (h : userPropertyLength total array_element = .ok total') :
    ∃ p, ReadsUserProperty array_element p := by
  unfold userPropertyLength at h
  cases hn : aws_napi_get_named_property_as_bytebuf array_element "name" .napi_string <;>
    cases hv : aws_napi_get_named_property_as_bytebuf array_element "value" .napi_string <;>
    simp [hn, hv, NapiGetResult.isValid] at h
  exact ⟨(_, _), hn, hv⟩

theorem userPropertyLength_error {array_element : JsValue} {total : Nat} {e : String}
    (h : userPropertyLength total array_element = .error e) : e = "AWS_ERROR_INVALID_ARGUMENT" := by
  unfold userPropertyLength at h
  dsimp only at h
  split at h
  · cases h
  · cases h
    rfl

theorem length_flatten_flattenPairs (ps : List (List UInt8 × List UInt8)) :
    (flattenPairs ps).flatten.length = (ps.map fun p => p.1.length + p.2.length).sum := by
  induction ps with
  | nil => rfl
  | cons p ps ih =>
    simp only [flattenPairs_cons, List.flatten_cons, List.length_append, ih, List.map_cons,
      List.sum_cons]
    omega

/-- The first loop over properties that all read adds up their lengths. -/
theorem userPropertiesTotal_eq {elements : List JsValue} {ps : List (List UInt8 × List UInt8)}
    (h : List.Forall₂ ReadsUserProperty elements ps) :
    userPropertiesTotal elements = .ok (flattenPairs ps).flatten.length := by
  have hstep : ∀ n array_element p, ReadsUserProperty array_element p →
      userPropertyLength n array_element = .ok (n + (p.1.length + p.2.length)) := by
    intro n array_element p hp
    rw [userPropertyLength_of_reads hp, Nat.add_assoc]
  rw [userPropertiesTotal, Machine.foldlM_add_of_forall₂ _ hstep h, length_flatten_flattenPairs,
    Nat.zero_add]

/-- One turn of the second loop, on a storage that holds the chunks `ds` packed and has room for
the property: the name and the value are packed after them. -/
theorem persistUserProperty_of_reads {capacity : Nat} {array_element : JsValue}
    {p : List UInt8 × List UInt8} (h : ReadsUserProperty array_element p)
    {ds : List (List UInt8)} (ups : List (Cursor × Cursor))
    (hcap : (ds ++ [p.1, p.2]).flatten.length ≤ capacity) :
    persistUserProperty A capacity (ds.flatten, ups) array_element =
      .ok ((ds ++ [p.1, p.2]).flatten,
        ups ++ [(⟨ds.flatten.length, p.1.length⟩, ⟨ds.flatten.length + p.1.length, p.2.length⟩)]) := by
  have hname : A.aws_byte_buf_append_and_update capacity ds.flatten p.1 =
      .ok ((ds ++ [p.1]).flatten, ⟨ds.flatten.length, p.1.length⟩) :=
    A.append_flatten (by simp at hcap ⊢; omega)
  have hvalue : A.aws_byte_buf_append_and_update capacity (ds ++ [p.1]).flatten p.2 =
      .ok ((ds ++ [p.1] ++ [p.2]).flatten, ⟨(ds ++ [p.1]).flatten.length, p.2.length⟩) :=
    A.append_flatten (by simpa using hcap)
  simp only [persistUserProperty, h.1, h.2, NapiGetResult.buf, hname, hvalue]
  simp

/-- The second loop, from a storage that holds the chunks `ds` packed, with room for the
properties: their names and values are packed after them, at the cursors of the layout. -/
theorem foldlM_persistUserProperty {capacity : Nat} {elements : List JsValue}
    {ps : List (List UInt8 × List UInt8)} (h : List.Forall₂ ReadsUserProperty elements ps)
    (ds : List (List UInt8)) (ups : List (Cursor × Cursor))
    (hcap : (ds ++ flattenPairs ps).flatten.length ≤ capacity) :
    ∃ ups', elements.foldlM (persistUserProperty A capacity) (ds.flatten, ups) =
        .ok ((ds ++ flattenPairs ps).flatten, ups ++ ups') ∧
      flattenPairs ups' = layout ds.flatten.length (flattenPairs ps) := by
  induction h generalizing ds ups with
  | nil => exact ⟨[], by simp, rfl⟩
  | @cons array_element p elements ps hp _ ih =>
    have hds : ds ++ flattenPairs (p :: ps) = (ds ++ [p.1, p.2]) ++ flattenPairs ps := by simp
    rw [hds] at hcap ⊢
    -- the cursors of the name and the value, where the packed chunks end
    obtain ⟨ups', hrun, hlay⟩ := ih (ds ++ [p.1, p.2])
      (ups ++ [(⟨ds.flatten.length, p.1.length⟩, ⟨ds.flatten.length + p.1.length, p.2.length⟩)]) hcap
    refine ⟨(⟨ds.flatten.length, p.1.length⟩, ⟨ds.flatten.length + p.1.length, p.2.length⟩) :: ups',
      ?_, ?_⟩
    · rw [List.foldlM_cons, persistUserProperty_of_reads A hp ups (hcap.trans' (by simp))]
      simpa using hrun
    · simp only [flattenPairs_cons, hlay, layout, List.flatten_append, List.length_append]
      simp [Nat.add_assoc]

theorem userPropertiesPersist_eq {elements : List JsValue} {ps : List (List UInt8 × List UInt8)}
    (h : List.Forall₂ ReadsUserProperty elements ps) :
    ∃ user_properties,
      userPropertiesPersist A (flattenPairs ps).flatten.length elements =
        .ok ((flattenPairs ps).flatten, user_properties) ∧
      flattenPairs user_properties = layout 0 (flattenPairs ps) := by
  simpa [userPropertiesPersist] using foldlM_persistUserProperty A h [] [] (by simp)

/-! ## User properties: the extractor -/

/-- An array of properties whose names and values all read is packed exactly. -/
theorem user_properties_extract_packs {node_container : JsValue} {elements : List JsValue}
    {ps : List (List UInt8 × List UInt8)}
    (hnode : node_container.getNamedProperty "userProperties" = some (.array elements))
    (h : List.Forall₂ ReadsUserProperty elements ps) :
    ∃ storage, s_aws_mqtt5_user_properties_extract_from_js_object A node_container =
        .ok (some storage) ∧
      Packs storage.user_property_storage storage.capacity (flattenPairs storage.user_properties)
        (flattenPairs ps) := by
  have hget : aws_napi_get_named_property node_container "userProperties" .napi_object =
      .AWS_NGNPR_VALID_VALUE (.array elements) := aws_napi_get_named_property_of_typeof hnode rfl
  obtain ⟨user_properties, hpersist, hlay⟩ := userPropertiesPersist_eq A h
  refine ⟨⟨(flattenPairs ps).flatten, (flattenPairs ps).flatten.length, user_properties⟩, ?_, ?_⟩
  · simp only [s_aws_mqtt5_user_properties_extract_from_js_object, hget, JsValue.typeof,
      JsValue.arrayElements, userPropertiesTotal_eq h, Machine.ok_bind, hpersist]
    rfl
  · rw [hlay]
    exact packs_layout _

/-- The errors the extractors fail with: an invalid argument, or a failure that raises no new
error. -/
def ExtractError (e : String) : Prop := e = "AWS_OP_ERR" ∨ e = "AWS_ERROR_INVALID_ARGUMENT"

theorem ExtractError.ne_dest_copy {e : String} (h : ExtractError e) :
    e ≠ "AWS_ERROR_DEST_COPY_TOO_SMALL" := by
  rcases h with rfl | rfl <;> decide

/-- The extractor fails only when `userProperties` is not an array of name and value strings:
never in the second loop, since the storage has the room the first one counted. -/
theorem user_properties_extract_error {node_container : JsValue} {e : String}
    (h : s_aws_mqtt5_user_properties_extract_from_js_object A node_container = .error e) :
    ExtractError e := by
  unfold s_aws_mqtt5_user_properties_extract_from_js_object at h
  split at h
  next => cases h
  next =>
    cases h
    exact .inl rfl
  next node_user_properties _ =>
    split at h
    next => cases h
    next =>
      split at h
      next =>
        cases h
        exact .inr rfl
      next elements _ =>
        rcases Machine.bind_eq_error h with htotal | ⟨total, htotal, hpersist⟩
        · exact .inr (Machine.foldlM_eq_error _ (fun _ _ _ => userPropertyLength_error) htotal)
        · -- the first loop passed, so every property reads and the second loop succeeds
          obtain ⟨ps, hps⟩ := Machine.forall₂_of_foldlM (f := userPropertyLength)
            (fun _ _ _ => reads_of_userPropertyLength) htotal
          have htotal' := userPropertiesTotal_eq hps
          rw [htotal, Except.ok.injEq] at htotal'
          obtain ⟨user_properties, hrun, -⟩ := userPropertiesPersist_eq A hps
          rw [htotal', hrun] at hpersist
          cases hpersist

/-! ## SUBSCRIBE: the two loops -/

theorem parseRequired_error {α : Type} {r : NapiGetResult α} {e : String}
    (h : parseRequired r = .error e) : e = "AWS_ERROR_INVALID_ARGUMENT" := by
  cases r with
  | AWS_NGNPR_VALID_VALUE v => cases h
  | AWS_NGNPR_INVALID_VALUE | AWS_NGNPR_NO_VALUE => exact (Except.error.inj h).symm

theorem parseOptional_error {α : Type} {default : α} {r : NapiGetResult α} {e : String}
    (h : parseOptional default r = .error e) : e = "AWS_ERROR_INVALID_ARGUMENT" := by
  cases r with
  | AWS_NGNPR_INVALID_VALUE => exact (Except.error.inj h).symm
  | AWS_NGNPR_VALID_VALUE v | AWS_NGNPR_NO_VALUE => cases h

/-- A subscription's other fields fail only as invalid arguments. -/
theorem subscription_init_error {napi_subscription : JsValue} {e : String}
    (h : s_aws_mqtt5_subscription_init_from_napi napi_subscription = .error e) :
    e = "AWS_ERROR_INVALID_ARGUMENT" := by
  unfold s_aws_mqtt5_subscription_init_from_napi at h
  refine Machine.error_of_bind _ (fun _ => parseRequired_error) (fun _ _ h => ?_) h
  refine Machine.error_of_bind _ (fun _ => parseOptional_error) (fun _ _ h => ?_) h
  refine Machine.error_of_bind _ (fun _ => parseOptional_error) (fun _ _ h => ?_) h
  refine Machine.error_of_bind _ (fun _ => parseOptional_error) (fun _ _ h => ?_) h
  cases h

/-- The topic filter of a subscription reads as a valid buffer, with bytes `topic_filter`. -/
def ReadsTopicFilter (napi_subscription : JsValue) (topic_filter : List UInt8) : Prop :=
  aws_napi_get_named_property_as_bytebuf napi_subscription "topicFilter" .napi_string =
    .AWS_NGNPR_VALID_VALUE topic_filter

theorem subscriptionTopicLength_of_reads {napi_subscription : JsValue} {topic_filter : List UInt8}
    (h : ReadsTopicFilter napi_subscription topic_filter) (topic_length_sum : Nat) :
    subscriptionTopicLength topic_length_sum napi_subscription =
      .ok (topic_length_sum + topic_filter.length) := by
  unfold ReadsTopicFilter at h
  simp [subscriptionTopicLength, h, NapiGetResult.buf, NapiGetResult.isValid]

theorem reads_of_subscriptionTopicLength {napi_subscription : JsValue} {topic_length_sum t : Nat}
    (h : subscriptionTopicLength topic_length_sum napi_subscription = .ok t) :
    ∃ topic_filter, ReadsTopicFilter napi_subscription topic_filter := by
  unfold subscriptionTopicLength at h
  cases hr : aws_napi_get_named_property_as_bytebuf napi_subscription "topicFilter" .napi_string <;>
    simp [hr, NapiGetResult.isValid] at h
  exact ⟨_, hr⟩

theorem subscriptionTopicLength_error {napi_subscription : JsValue} {topic_length_sum : Nat}
    {e : String} (h : subscriptionTopicLength topic_length_sum napi_subscription = .error e) :
    e = "AWS_ERROR_INVALID_ARGUMENT" := by
  unfold subscriptionTopicLength at h
  dsimp only at h
  split at h
  · cases h
  · exact (Except.error.inj h).symm

theorem subscriptionsTopicLength_eq {subscriptions : List JsValue}
    {topic_filters : List (List UInt8)} (h : List.Forall₂ ReadsTopicFilter subscriptions topic_filters) :
    subscriptionsTopicLength subscriptions = .ok topic_filters.flatten.length := by
  rw [subscriptionsTopicLength,
    Machine.foldlM_add_of_forall₂ (f := subscriptionTopicLength) List.length
      (fun n _ _ hd => subscriptionTopicLength_of_reads hd n) h,
    List.length_flatten, Nat.zero_add]

/-- One turn of the second loop, with room for the topic filter: it is packed after the chunks
`ds`, and the subscription is the rest of it read. -/
theorem persistSubscription_of_reads {capacity : Nat} {napi_subscription : JsValue}
    {topic_filter : List UInt8} (h : ReadsTopicFilter napi_subscription topic_filter)
    {ds : List (List UInt8)} (views : List (Cursor × SubscriptionSettings))
    (hcap : (ds ++ [topic_filter]).flatten.length ≤ capacity) :
    persistSubscription A capacity (ds.flatten, views) napi_subscription =
      (fun settings => ((ds ++ [topic_filter]).flatten,
          views ++ [(⟨ds.flatten.length, topic_filter.length⟩, settings)])) <$>
        s_aws_mqtt5_subscription_init_from_napi napi_subscription := by
  unfold ReadsTopicFilter at h
  simp only [persistSubscription, h, NapiGetResult.buf, A.append_flatten hcap]
  exact bind_pure_comp _ _

/-- The second loop, from a storage that holds the chunks `ds` packed, with room for the topic
filters: it fails as the first subscription whose other fields do not read, and otherwise packs
the topic filters after `ds`, at the cursors of the layout, each with its subscription. -/
theorem foldlM_persistSubscription {capacity : Nat} {subscriptions : List JsValue}
    {topic_filters : List (List UInt8)} (h : List.Forall₂ ReadsTopicFilter subscriptions topic_filters)
    (ds : List (List UInt8)) (views : List (Cursor × SubscriptionSettings))
    (hcap : (ds ++ topic_filters).flatten.length ≤ capacity) :
    subscriptions.foldlM (persistSubscription A capacity) (ds.flatten, views) =
      (fun settings => ((ds ++ topic_filters).flatten,
          views ++ (layout ds.flatten.length topic_filters).zip settings)) <$>
        subscriptions.mapM s_aws_mqtt5_subscription_init_from_napi := by
  induction h generalizing ds views with
  | nil => simp
  | @cons napi_subscription topic_filter subscriptions topic_filters hd _ ih =>
    have hds : ds ++ topic_filter :: topic_filters = (ds ++ [topic_filter]) ++ topic_filters := by
      simp
    rw [hds] at hcap ⊢
    rw [List.foldlM_cons, persistSubscription_of_reads A hd views (hcap.trans' (by simp)),
      List.mapM_cons]
    -- the subscription's other fields are read before the next topic filter is packed
    cases s_aws_mqtt5_subscription_init_from_napi napi_subscription with
    | error e => rfl
    | ok settings =>
      simp only [Machine.map_ok, Machine.ok_bind, ih _ _ hcap]
      cases subscriptions.mapM s_aws_mqtt5_subscription_init_from_napi with
      | error e => rfl
      | ok settings' => simp [layout]

theorem subscriptionsPersist_eq {subscriptions : List JsValue} {topic_filters : List (List UInt8)}
    (h : List.Forall₂ ReadsTopicFilter subscriptions topic_filters) :
    subscriptionsPersist A topic_filters.flatten.length subscriptions =
      (fun settings => (topic_filters.flatten, (layout 0 topic_filters).zip settings)) <$>
        subscriptions.mapM s_aws_mqtt5_subscription_init_from_napi := by
  simpa [subscriptionsPersist] using foldlM_persistSubscription A h [] [] le_rfl

/-! ## SUBSCRIBE: the extractor -/

/-- A SUBSCRIBE whose topic filters all read and that is extracted has its topic filters packed
exactly. -/
theorem subscribe_storage_packs {node_subscribe_packet : JsValue} {subscriptions : List JsValue}
    {topic_filters : List (List UInt8)} {storage : SubscribeStorage}
    (hnode : node_subscribe_packet.getNamedProperty "subscriptions" = some (.array subscriptions))
    (h : List.Forall₂ ReadsTopicFilter subscriptions topic_filters)
    (hok : s_aws_mqtt5_packet_subscribe_storage_init_from_napi A node_subscribe_packet = .ok storage) :
    Packs storage.topics storage.capacity (storage.subscriptions.map Prod.fst) topic_filters := by
  have hget : aws_napi_get_named_property node_subscribe_packet "subscriptions" .napi_object =
      .AWS_NGNPR_VALID_VALUE (.array subscriptions) := aws_napi_get_named_property_of_typeof hnode rfl
  simp only [s_aws_mqtt5_packet_subscribe_storage_init_from_napi, hget, parseRequired,
    Machine.ok_bind, JsValue.arrayElements, subscriptionsTopicLength_eq h,
    subscriptionsPersist_eq A h] at hok
  -- the views are built only once every subscription's other fields have read
  cases hsettings : subscriptions.mapM s_aws_mqtt5_subscription_init_from_napi with
  | error e =>
    rw [hsettings] at hok
    cases hok
  | ok settings =>
    rw [hsettings, Machine.map_ok, Machine.ok_bind] at hok
    obtain ⟨subscription_identifier, -, hok⟩ := Machine.bind_eq_ok hok
    obtain ⟨user_properties, -, hok⟩ := Machine.bind_eq_ok hok
    cases hok
    have hlen : (layout 0 topic_filters).length ≤ settings.length := by
      rw [length_layout, Machine.length_of_mapM_eq_ok hsettings, h.length_eq]
    rw [List.map_fst_zip hlen]
    exact packs_layout topic_filters

/-- The SUBSCRIBE extractor fails only as an invalid argument or with the error of its user
properties: never in the second loop's appends. -/
theorem subscribe_storage_error {node_subscribe_packet : JsValue} {e : String}
    (h : s_aws_mqtt5_packet_subscribe_storage_init_from_napi A node_subscribe_packet = .error e) :
    ExtractError e := by
  unfold s_aws_mqtt5_packet_subscribe_storage_init_from_napi at h
  rcases Machine.bind_eq_error h with h | ⟨napi_subscriptions, -, h⟩
  · exact .inr (parseRequired_error h)
  split at h
  next subscriptions _ =>
    rcases Machine.bind_eq_error h with htotal | ⟨total, htotal, h⟩
    · exact .inr (Machine.foldlM_eq_error _ (fun _ _ _ => subscriptionTopicLength_error) htotal)
    · -- the first loop passed, so the second fails only where a subscription's fields do
      obtain ⟨topic_filters, hds⟩ :=
        Machine.forall₂_of_foldlM (f := subscriptionTopicLength)
          (fun _ _ _ => reads_of_subscriptionTopicLength) htotal
      rw [subscriptionsTopicLength_eq hds, Except.ok.injEq] at htotal
      subst htotal
      rw [subscriptionsPersist_eq A hds] at h
      refine Machine.error_of_bind ExtractError (fun _ h => ?persist) (fun views _ h => ?rest) h
      case persist =>
        cases hsettings : subscriptions.mapM s_aws_mqtt5_subscription_init_from_napi with
        | error e' =>
          rw [hsettings, Machine.map_error] at h
          cases h
          exact .inr (Machine.mapM_eq_error _ (fun _ _ => subscription_init_error) hsettings)
        | ok settings =>
          rw [hsettings, Machine.map_ok] at h
          cases h
      case rest =>
        refine Machine.error_of_bind ExtractError (fun _ h => .inr (parseOptional_error h))
          (fun _ _ h => ?_) h
        refine Machine.error_of_bind ExtractError (fun _ h => user_properties_extract_error A h)
          (fun _ _ h => ?_) h
        cases h
  next =>
    cases h
    exact .inr rfl

/-! ## UNSUBSCRIBE -/

theorem topicFilterLength_of_init {napi_topic_filter : JsValue} {topic_filter : List UInt8}
    (h : aws_byte_buf_init_from_napi napi_topic_filter = some topic_filter)
    (topic_filter_length_sum : Nat) :
    topicFilterLength topic_filter_length_sum napi_topic_filter =
      .ok (topic_filter_length_sum + topic_filter.length) := by
  simp [topicFilterLength, h]

theorem init_of_topicFilterLength {napi_topic_filter : JsValue} {topic_filter_length_sum t : Nat}
    (h : topicFilterLength topic_filter_length_sum napi_topic_filter = .ok t) :
    ∃ topic_filter, aws_byte_buf_init_from_napi napi_topic_filter = some topic_filter := by
  unfold topicFilterLength at h
  split at h
  next => cases h
  next topic_filter hinit => exact ⟨topic_filter, hinit⟩

theorem topicFilterLength_error {napi_topic_filter : JsValue} {topic_filter_length_sum : Nat}
    {e : String} (h : topicFilterLength topic_filter_length_sum napi_topic_filter = .error e) :
    e = "AWS_ERROR_INVALID_ARGUMENT" := by
  unfold topicFilterLength at h
  split at h
  next => exact (Except.error.inj h).symm
  next => cases h

theorem topicFiltersLength_eq {napi_topic_filters : List JsValue}
    {topic_filters : List (List UInt8)}
    (h : List.Forall₂ (fun v d => aws_byte_buf_init_from_napi v = some d) napi_topic_filters
      topic_filters) :
    topicFiltersLength napi_topic_filters = .ok topic_filters.flatten.length := by
  rw [topicFiltersLength,
    Machine.foldlM_add_of_forall₂ (f := topicFilterLength) List.length
      (fun n _ _ hd => topicFilterLength_of_init hd n) h,
    List.length_flatten, Nat.zero_add]

/-- One turn of the second loop, with room for the topic filter: it is packed after the chunks
`ds`. -/
theorem persistTopicFilter_of_init {capacity : Nat} {napi_topic_filter : JsValue}
    {topic_filter : List UInt8} (h : aws_byte_buf_init_from_napi napi_topic_filter = some topic_filter)
    {ds : List (List UInt8)} (cursors : List Cursor)
    (hcap : (ds ++ [topic_filter]).flatten.length ≤ capacity) :
    persistTopicFilter A capacity (ds.flatten, cursors) napi_topic_filter =
      .ok ((ds ++ [topic_filter]).flatten, cursors ++ [⟨ds.flatten.length, topic_filter.length⟩]) := by
  simp only [persistTopicFilter, h, A.append_flatten hcap]

/-- The second loop, from a storage that holds the chunks `ds` packed, with room for the topic
filters: they are packed after `ds`, at the cursors of the layout. -/
theorem foldlM_persistTopicFilter {capacity : Nat} {napi_topic_filters : List JsValue}
    {topic_filters : List (List UInt8)}
    (h : List.Forall₂ (fun v d => aws_byte_buf_init_from_napi v = some d) napi_topic_filters
      topic_filters)
    (ds : List (List UInt8)) (cursors : List Cursor)
    (hcap : (ds ++ topic_filters).flatten.length ≤ capacity) :
    napi_topic_filters.foldlM (persistTopicFilter A capacity) (ds.flatten, cursors) =
      .ok ((ds ++ topic_filters).flatten, cursors ++ layout ds.flatten.length topic_filters) := by
  induction h generalizing ds cursors with
  | nil => simp [layout]
  | @cons napi_topic_filter topic_filter napi_topic_filters topic_filters hd _ ih =>
    have hds : ds ++ topic_filter :: topic_filters = (ds ++ [topic_filter]) ++ topic_filters := by
      simp
    rw [hds] at hcap ⊢
    rw [List.foldlM_cons, persistTopicFilter_of_init A hd cursors (hcap.trans' (by simp)),
      Machine.ok_bind, ih _ _ hcap]
    simp [layout]

theorem topicFiltersPersist_eq {napi_topic_filters : List JsValue}
    {topic_filters : List (List UInt8)}
    (h : List.Forall₂ (fun v d => aws_byte_buf_init_from_napi v = some d) napi_topic_filters
      topic_filters) :
    topicFiltersPersist A topic_filters.flatten.length napi_topic_filters =
      .ok (topic_filters.flatten, layout 0 topic_filters) := by
  simpa [topicFiltersPersist] using foldlM_persistTopicFilter A h [] [] le_rfl

/-- An UNSUBSCRIBE whose topic filters are all strings or buffers and that is extracted has them
packed exactly. -/
theorem unsubscribe_storage_packs {node_unsubscribe_packet : JsValue}
    {napi_topic_filters : List JsValue} {topic_filters : List (List UInt8)}
    {storage : UnsubscribeStorage}
    (hnode : node_unsubscribe_packet.getNamedProperty "topicFilters" =
      some (.array napi_topic_filters))
    (h : List.Forall₂ (fun v d => aws_byte_buf_init_from_napi v = some d) napi_topic_filters
      topic_filters)
    (hok : s_aws_mqtt5_packet_unsubscribe_storage_init_from_napi A node_unsubscribe_packet =
      .ok storage) :
    Packs storage.topic_filters storage.capacity storage.topic_filter_cursors topic_filters := by
  have hget : aws_napi_get_named_property node_unsubscribe_packet "topicFilters" .napi_object =
      .AWS_NGNPR_VALID_VALUE (.array napi_topic_filters) :=
    aws_napi_get_named_property_of_typeof hnode rfl
  simp only [s_aws_mqtt5_packet_unsubscribe_storage_init_from_napi, hget, parseRequired,
    Machine.ok_bind, JsValue.arrayElements, topicFiltersLength_eq h, topicFiltersPersist_eq A h] at hok
  obtain ⟨user_properties, -, hok⟩ := Machine.bind_eq_ok hok
  cases hok
  exact packs_layout topic_filters

/-- The UNSUBSCRIBE extractor fails only as an invalid argument or with the error of its user
properties: never in the second loop. -/
theorem unsubscribe_storage_error {node_unsubscribe_packet : JsValue} {e : String}
    (h : s_aws_mqtt5_packet_unsubscribe_storage_init_from_napi A node_unsubscribe_packet = .error e) :
    ExtractError e := by
  unfold s_aws_mqtt5_packet_unsubscribe_storage_init_from_napi at h
  rcases Machine.bind_eq_error h with h | ⟨napi_topic_filters, -, h⟩
  · exact .inr (parseRequired_error h)
  split at h
  next topic_filters _ =>
    rcases Machine.bind_eq_error h with htotal | ⟨total, htotal, h⟩
    · exact .inr (Machine.foldlM_eq_error _ (fun _ _ _ => topicFilterLength_error) htotal)
    · -- the first loop passed, so every topic filter reads and the second loop succeeds
      obtain ⟨ds, hds⟩ := Machine.forall₂_of_foldlM (f := topicFilterLength)
        (fun _ _ _ => init_of_topicFilterLength) htotal
      rw [topicFiltersLength_eq hds, Except.ok.injEq] at htotal
      subst htotal
      rw [topicFiltersPersist_eq A hds, Machine.ok_bind] at h
      refine Machine.error_of_bind ExtractError (fun _ h => user_properties_extract_error A h)
        (fun _ _ h => ?_) h
      cases h
  next =>
    cases h
    exact .inr rfl

/-! ## The three extractors -/

/-- The packets' strings are packed exactly: an array of user properties whose names and values
are strings, the topic filters of a SUBSCRIBE's subscriptions and those of an UNSUBSCRIBE are
each copied into a buffer allocated with the total the first loop counts, which the second loop
fills, each cursor designating its string's UTF-8 bytes, in array order and one after the other;
and no extractor ever fails because an append did not fit. -/
theorem extractors_pack_exactly :
    (∀ (node_container : JsValue) (elements : List JsValue) (props : List (String × String)),
      node_container.getNamedProperty "userProperties" = some (.array elements) →
      List.Forall₂ (fun e p => e.stringProperty "name" = some p.1 ∧
        e.stringProperty "value" = some p.2) elements props →
      ∃ storage, s_aws_mqtt5_user_properties_extract_from_js_object A node_container =
          .ok (some storage) ∧
        Packs storage.user_property_storage storage.capacity (flattenPairs storage.user_properties)
          ((flattenPairs props).map utf8)) ∧
    (∀ (node_subscribe_packet : JsValue) (subscriptions : List JsValue) (topics : List String)
        (storage : SubscribeStorage),
      node_subscribe_packet.getNamedProperty "subscriptions" = some (.array subscriptions) →
      List.Forall₂ (fun s t => s.stringProperty "topicFilter" = some t) subscriptions topics →
      s_aws_mqtt5_packet_subscribe_storage_init_from_napi A node_subscribe_packet = .ok storage →
      Packs storage.topics storage.capacity (storage.subscriptions.map Prod.fst) (topics.map utf8)) ∧
    (∀ (node_unsubscribe_packet : JsValue) (topics : List String) (storage : UnsubscribeStorage),
      node_unsubscribe_packet.getNamedProperty "topicFilters" =
        some (.array (topics.map .string)) →
      s_aws_mqtt5_packet_unsubscribe_storage_init_from_napi A node_unsubscribe_packet = .ok storage →
      Packs storage.topic_filters storage.capacity storage.topic_filter_cursors
        (topics.map utf8)) ∧
    (∀ node : JsValue,
      s_aws_mqtt5_user_properties_extract_from_js_object A node ≠
          .error "AWS_ERROR_DEST_COPY_TOO_SMALL" ∧
        s_aws_mqtt5_packet_subscribe_storage_init_from_napi A node ≠
          .error "AWS_ERROR_DEST_COPY_TOO_SMALL" ∧
        s_aws_mqtt5_packet_unsubscribe_storage_init_from_napi A node ≠
          .error "AWS_ERROR_DEST_COPY_TOO_SMALL") := by
  refine ⟨?user_properties, ?subscribe, ?unsubscribe, ?no_overflow⟩
  case user_properties =>
    intro node_container elements props hnode hprops
    -- a string name or value reads as its UTF-8 bytes
    have hreads : List.Forall₂ ReadsUserProperty elements
        (props.map fun p => (utf8 p.1, utf8 p.2)) :=
      List.forall₂_map_right_iff.mpr (hprops.imp fun _ _ hp =>
        ⟨bytebuf_of_stringProperty hp.1, bytebuf_of_stringProperty hp.2⟩)
    rw [← flattenPairs_map]
    exact user_properties_extract_packs A hnode hreads
  case subscribe =>
    intro node_subscribe_packet subscriptions topics storage hnode htopics hok
    have hreads : List.Forall₂ ReadsTopicFilter subscriptions (topics.map utf8) :=
      List.forall₂_map_right_iff.mpr (htopics.imp fun _ _ ht => bytebuf_of_stringProperty ht)
    exact subscribe_storage_packs A hnode hreads hok
  case unsubscribe =>
    intro node_unsubscribe_packet topics storage hnode hok
    have hinit : List.Forall₂ (fun v d => aws_byte_buf_init_from_napi v = some d)
        (topics.map .string) (topics.map utf8) := by
      simp [List.forall₂_map_left_iff, List.forall₂_map_right_iff, aws_byte_buf_init_from_napi,
        List.forall₂_same]
    exact unsubscribe_storage_packs A hnode hinit hok
  case no_overflow =>
    intro node
    exact ⟨fun h => (user_properties_extract_error A h).ne_dest_copy rfl,
      fun h => (subscribe_storage_error A h).ne_dest_copy rfl,
      fun h => (unsubscribe_storage_error A h).ne_dest_copy rfl⟩

theorem extractors_pack_exactly_packets :
    (∃ storage, s_aws_mqtt5_user_properties_extract_from_js_object .packing
        (.object [("userProperties",
          .array [.object [("name", .string "a"), ("value", .string "bc")]])]) =
        .ok (some storage) ∧
      Packs storage.user_property_storage storage.capacity (flattenPairs storage.user_properties)
        [utf8 "a", utf8 "bc"]) ∧
    (∃ storage, s_aws_mqtt5_packet_subscribe_storage_init_from_napi .packing
        (.object [("subscriptions",
          .array [.object [("topicFilter", .string "a/b"), ("qos", .number 1)]])]) = .ok storage ∧
      Packs storage.topics storage.capacity (storage.subscriptions.map Prod.fst) [utf8 "a/b"]) ∧
    (∃ storage, s_aws_mqtt5_packet_unsubscribe_storage_init_from_napi .packing
        (.object [("topicFilters", .array [.string "a/b", .string "c"])]) = .ok storage ∧
      Packs storage.topic_filters storage.capacity storage.topic_filter_cursors
        [utf8 "a/b", utf8 "c"]) :=
  ⟨(extractors_pack_exactly .packing).1 _ _ [("a", "bc")] rfl (.cons ⟨rfl, rfl⟩ .nil),
    ⟨_, rfl, (extractors_pack_exactly .packing).2.1
      (.object [("subscriptions",
        .array [.object [("topicFilter", .string "a/b"), ("qos", .number 1)]])])
      _ ["a/b"] _ rfl (.cons rfl .nil) rfl⟩,
    ⟨_, rfl, (extractors_pack_exactly .packing).2.2.1
      (.object [("topicFilters", .array [.string "a/b", .string "c"])]) ["a/b", "c"] _ rfl rfl⟩⟩

end Extractors

end AwsCrt
