import AwsCrt.Lib.JsCollections
import AwsCrt.Lib.JsString

/-!
# JS values through N-API (`src/source/module.c`)

The helpers of `src/source/module.c` that read JS values: the type of a value, a named property
of an object read as a value of a given type, as a byte buffer, a `uint32_t` or a `bool`, and
`aws_byte_buf_init_from_napi`, which copies a string's UTF-8 bytes or a buffer's bytes.

* `JsValue`: the values the packet extractors read. Numbers are integral, and buffers
  (`ArrayBuffer`, `DataView`, typed arrays) are their bytes. Functions, symbols, externals and
  big integers are not values of it; `napi_valuetype` has all the types, as the class binder
  compares them.
* `bytebuf_of_stringProperty`: a string property reads as its UTF-8 bytes.
* The helpers that build JS values: `napi_set_named_property` (`JsValue.setNamedProperty`) and
  the `aws_napi_attach_object_property_*` family, one `attachObjectProperty` applied to the
  N-API value each makes; `napi_create_string_utf8` is a parameter of the string helpers.
* Reading back what was attached: `getNamedProperty_attachObjectProperty` and
  `getNamedProperty_attachOptionalObjectProperty` on objects, then one lemma per reader for a
  property that is absent or of the reader's kind (`parseOptional_bytebuf_string`,
  `parseOptional_unsigned` and so on), which the packet round trips of
  `AwsCrt.Native.Mqtt5Packets` chain.
-/

namespace AwsCrt

open JsString JsObject

/-- A JS value, as the packet extractors read it. -/
inductive JsValue
  | undefined
  | null
  | boolean (b : Bool)
  | number (n : Int)
  | string (s : String)
  | bytes (data : List UInt8)
  | array (elements : List JsValue)
  | object (properties : List (String × JsValue))

/-- `napi_valuetype`, in the order of its values: a zeroed one is `napi_undefined`. -/
inductive napi_valuetype
  | napi_undefined
  | napi_null
  | napi_boolean
  | napi_number
  | napi_string
  | napi_symbol
  | napi_object
  | napi_function
  | napi_external
  | napi_bigint
  deriving DecidableEq, Repr

namespace JsValue

/-- `napi_typeof`. -/
def typeof : JsValue → napi_valuetype
  | .undefined => .napi_undefined
  | .null => .napi_null
  | .boolean _ => .napi_boolean
  | .number _ => .napi_number
  | .string _ => .napi_string
  | .bytes _ | .array _ | .object _ => .napi_object

/-- `napi_has_named_property` and `napi_get_named_property`: an own property of an object. -/
def getNamedProperty : JsValue → String → Option JsValue
  | .object properties, name => properties.lookup name
  | _, _ => none

/-- `napi_set_named_property`: the property assigned on an object. (The values it is called on
here are objects; on any other the call fails, which is not modelled.) -/
def setNamedProperty : JsValue → String → JsValue → JsValue
  | .object properties, name, value => .object (setProp properties name value)
  | v, _, _ => v

@[simp] theorem getNamedProperty_object (properties : List (String × JsValue)) (name : String) :
    (JsValue.object properties).getNamedProperty name = getProp properties name :=
  lookup_eq_getProp properties name

@[simp] theorem setNamedProperty_object (properties : List (String × JsValue)) (name : String)
    (value : JsValue) :
    (JsValue.object properties).setNamedProperty name value = .object (setProp properties name value) :=
  rfl

/-- `napi_get_array_length` and `napi_get_element`: the elements of an array; any other value is
`napi_array_expected`. -/
def arrayElements : JsValue → Option (List JsValue)
  | .array elements => some elements
  | _ => none

/-- A property that is a string. -/
def stringProperty (v : JsValue) (name : String) : Option String :=
  match v.getNamedProperty name with
  | some (.string s) => some s
  | _ => none

end JsValue

/-- `enum aws_napi_get_named_property_result`, with the value a valid read gives. -/
inductive NapiGetResult (α : Type)
  | AWS_NGNPR_VALID_VALUE (value : α)
  | AWS_NGNPR_INVALID_VALUE
  | AWS_NGNPR_NO_VALUE

/-- The bytes of a read into a zeroed `aws_byte_buf`: none unless the read is valid. -/
def NapiGetResult.buf : NapiGetResult (List UInt8) → List UInt8
  | .AWS_NGNPR_VALID_VALUE bytes => bytes
  | .AWS_NGNPR_INVALID_VALUE | .AWS_NGNPR_NO_VALUE => []

/-- A valid read stored through `f`: how a read into a local becomes a field, or a pointer to
one. -/
def NapiGetResult.map {α β : Type} (f : α → β) : NapiGetResult α → NapiGetResult β
  | .AWS_NGNPR_VALID_VALUE v => .AWS_NGNPR_VALID_VALUE (f v)
  | .AWS_NGNPR_INVALID_VALUE => .AWS_NGNPR_INVALID_VALUE
  | .AWS_NGNPR_NO_VALUE => .AWS_NGNPR_NO_VALUE

def NapiGetResult.isValid {α : Type} : NapiGetResult α → Bool
  | .AWS_NGNPR_VALID_VALUE _ => true
  | .AWS_NGNPR_INVALID_VALUE | .AWS_NGNPR_NO_VALUE => false

/-- `aws_napi_get_named_property(env, object, name, type, &result)`: no value when the property
is missing, an invalid one when its type is not `type` (unless `type` is `napi_undefined`). -/
def aws_napi_get_named_property (object : JsValue) (name : String) (type : napi_valuetype) :
    NapiGetResult JsValue :=
  match object.getNamedProperty name with
  | none => .AWS_NGNPR_NO_VALUE
  | some property =>
    if type ≠ .napi_undefined ∧ property.typeof ≠ type then .AWS_NGNPR_INVALID_VALUE
    else .AWS_NGNPR_VALID_VALUE property

/-- `aws_byte_buf_init_from_napi(buf, env, node_str)`: a string's UTF-8 bytes, or a buffer's
bytes; anything else is `napi_invalid_arg`. -/
def aws_byte_buf_init_from_napi : JsValue → Option (List UInt8)
  | .string s => some (utf8 s)
  | .bytes data => some data
  | _ => none

/-- `aws_napi_get_named_property_as_bytebuf(env, object, name, type, &result)`. -/
def aws_napi_get_named_property_as_bytebuf (object : JsValue) (name : String)
    (type : napi_valuetype) : NapiGetResult (List UInt8) :=
  match aws_napi_get_named_property object name type with
  | .AWS_NGNPR_VALID_VALUE node_result =>
    match aws_byte_buf_init_from_napi node_result with
    | some bytes => .AWS_NGNPR_VALID_VALUE bytes
    | none => .AWS_NGNPR_INVALID_VALUE
  | .AWS_NGNPR_INVALID_VALUE => .AWS_NGNPR_INVALID_VALUE
  | .AWS_NGNPR_NO_VALUE => .AWS_NGNPR_NO_VALUE

/-- `UINT32_MAX`. -/
def UINT32_MAX : Int := 4294967295

/-- `aws_napi_get_named_property_as_uint32`: a number in `[0, UINT32_MAX]`. (`napi_get_value_int64`
saturates outside the range of `int64_t`, which the range check refuses either way.) -/
def aws_napi_get_named_property_as_uint32 (object : JsValue) (name : String) : NapiGetResult Nat :=
  match aws_napi_get_named_property object name .napi_number with
  | .AWS_NGNPR_VALID_VALUE (.number n) =>
    if n < 0 ∨ n > UINT32_MAX then .AWS_NGNPR_INVALID_VALUE else .AWS_NGNPR_VALID_VALUE n.toNat
  | .AWS_NGNPR_VALID_VALUE _ | .AWS_NGNPR_INVALID_VALUE => .AWS_NGNPR_INVALID_VALUE
  | .AWS_NGNPR_NO_VALUE => .AWS_NGNPR_NO_VALUE

/-- `aws_napi_get_named_property_as_boolean`. -/
def aws_napi_get_named_property_as_boolean (object : JsValue) (name : String) :
    NapiGetResult Bool :=
  match aws_napi_get_named_property object name .napi_boolean with
  | .AWS_NGNPR_VALID_VALUE (.boolean b) => .AWS_NGNPR_VALID_VALUE b
  | .AWS_NGNPR_VALID_VALUE _ | .AWS_NGNPR_INVALID_VALUE => .AWS_NGNPR_INVALID_VALUE
  | .AWS_NGNPR_NO_VALUE => .AWS_NGNPR_NO_VALUE

/-- The body of `aws_napi_get_named_property_as_uint16` and `aws_napi_get_named_property_as_uint32`:
a number in `[0, max]`. -/
def getNamedPropertyAsUnsigned (max : Int) (object : JsValue) (name : String) : NapiGetResult Nat :=
  match aws_napi_get_named_property object name .napi_number with
  | .AWS_NGNPR_VALID_VALUE (.number n) =>
    if n < 0 ∨ n > max then .AWS_NGNPR_INVALID_VALUE else .AWS_NGNPR_VALID_VALUE n.toNat
  | .AWS_NGNPR_VALID_VALUE _ | .AWS_NGNPR_INVALID_VALUE => .AWS_NGNPR_INVALID_VALUE
  | .AWS_NGNPR_NO_VALUE => .AWS_NGNPR_NO_VALUE

/-- `UINT16_MAX`. -/
def UINT16_MAX : Int := 65535

/-- `aws_napi_get_named_property_as_uint16`. -/
def aws_napi_get_named_property_as_uint16 (object : JsValue) (name : String) : NapiGetResult Nat :=
  getNamedPropertyAsUnsigned UINT16_MAX object name

theorem aws_napi_get_named_property_as_uint32_eq :
    aws_napi_get_named_property_as_uint32 = getNamedPropertyAsUnsigned UINT32_MAX :=
  rfl

theorem aws_napi_get_named_property_of_typeof {object property : JsValue} {name : String}
    {type : napi_valuetype} (h : object.getNamedProperty name = some property)
    (ht : property.typeof = type) :
    aws_napi_get_named_property object name type = .AWS_NGNPR_VALID_VALUE property := by
  simp [aws_napi_get_named_property, h, ht]

/-- A string property reads as its UTF-8 bytes. -/
theorem bytebuf_of_stringProperty {object : JsValue} {name s : String}
    (h : object.stringProperty name = some s) :
    aws_napi_get_named_property_as_bytebuf object name .napi_string =
      .AWS_NGNPR_VALID_VALUE (utf8 s) := by
  unfold JsValue.stringProperty at h
  split at h
  next property hp =>
    cases h
    have hs : aws_napi_get_named_property object name .napi_string =
        .AWS_NGNPR_VALID_VALUE (.string s) := aws_napi_get_named_property_of_typeof hp rfl
    simp [aws_napi_get_named_property_as_bytebuf, hs, aws_byte_buf_init_from_napi]
  next => cases h

/-! ## Attaching properties -/

/-- The body of the `aws_napi_attach_object_property_*` helpers: the N-API value `toNapi` makes
of the value, set as the property `key_name`. (Their keys are never `NULL` where they are
called, and the N-API calls are assumed to succeed.) -/
def attachObjectProperty {α : Type} (toNapi : α → JsValue) (object : JsValue) (key_name : String)
    (value : α) : JsValue :=
  object.setNamedProperty key_name (toNapi value)

/-- The body of the `_optional_` helpers: a `NULL` value attaches nothing. -/
def attachOptionalObjectProperty {α : Type} (attach : JsValue → String → α → JsValue)
    (object : JsValue) (key_name : String) : Option α → JsValue
  | none => object
  | some value => attach object key_name value

/-- `aws_napi_attach_object_property_boolean`. -/
def aws_napi_attach_object_property_boolean : JsValue → String → Bool → JsValue :=
  attachObjectProperty JsValue.boolean

/-- `aws_napi_attach_object_property_u32`: `napi_create_uint32`. -/
def aws_napi_attach_object_property_u32 : JsValue → String → UInt32 → JsValue :=
  attachObjectProperty fun value => JsValue.number value.toNat

/-- `aws_napi_attach_object_property_optional_u32`. -/
def aws_napi_attach_object_property_optional_u32 : JsValue → String → Option UInt32 → JsValue :=
  attachOptionalObjectProperty aws_napi_attach_object_property_u32

/-- `aws_napi_attach_object_property_u16`: the value widened to `uint32_t`. -/
def aws_napi_attach_object_property_u16 (object : JsValue) (key_name : String) (value : UInt16) :
    JsValue :=
  aws_napi_attach_object_property_u32 object key_name value.toUInt32

/-- `aws_napi_attach_object_property_optional_u16`. -/
def aws_napi_attach_object_property_optional_u16 : JsValue → String → Option UInt16 → JsValue :=
  attachOptionalObjectProperty aws_napi_attach_object_property_u16

/-- `aws_napi_attach_object_property_string`: the bytes made a string by `napi_create_string_utf8`
(`napiString`). -/
def aws_napi_attach_object_property_string (napiString : List UInt8 → String) :
    JsValue → String → List UInt8 → JsValue :=
  attachObjectProperty fun value => JsValue.string (napiString value)

/-- `aws_napi_attach_object_property_optional_string`. -/
def aws_napi_attach_object_property_optional_string (napiString : List UInt8 → String) :
    JsValue → String → Option (List UInt8) → JsValue :=
  attachOptionalObjectProperty (aws_napi_attach_object_property_string napiString)

/-- `aws_napi_attach_object_property_binary_as_finalizable_external`: an external `ArrayBuffer`
over the bytes. -/
def aws_napi_attach_object_property_binary_as_finalizable_external :
    JsValue → String → List UInt8 → JsValue :=
  attachObjectProperty JsValue.bytes

/-- The widening to `uint32_t` keeps the value: `aws_napi_attach_object_property_u16` is the
family's member for `uint16_t`. -/
theorem aws_napi_attach_object_property_u16_eq :
    aws_napi_attach_object_property_u16 =
      attachObjectProperty fun value : UInt16 => JsValue.number value.toNat := by
  funext object key_name value
  simp [aws_napi_attach_object_property_u16, aws_napi_attach_object_property_u32,
    attachObjectProperty]

@[simp] theorem attachObjectProperty_object {α : Type} (toNapi : α → JsValue)
    (properties : List (String × JsValue)) (key_name : String) (value : α) :
    attachObjectProperty toNapi (.object properties) key_name value =
      .object (setProp properties key_name (toNapi value)) :=
  rfl

/-- An optional value attached to an object: the property is set exactly when there is a value. -/
@[simp] theorem attachOptionalObjectProperty_object {α : Type} (toNapi : α → JsValue)
    (properties : List (String × JsValue)) (key_name : String) (value : Option α) :
    attachOptionalObjectProperty (attachObjectProperty toNapi) (.object properties) key_name value =
      .object (value.elim properties fun value => setProp properties key_name (toNapi value)) := by
  cases value <;> rfl

/-- Reading a property after an optional write: the written value if there is one. -/
@[simp] theorem getProp_elim_setProp {α β : Type} (properties : List (String × β))
    (key_name name : String) (f : α → β) (value : Option α) :
    getProp (value.elim properties fun value => setProp properties key_name (f value)) name =
      if key_name = name then (value.map f).or (getProp properties name)
      else getProp properties name := by
  cases value with
  | none => split <;> rfl
  | some value => simp [getProp_setProp]

/-! ## Reading attached properties back -/

section Reading

variable {object : JsValue} {name : String}

theorem bytebuf_of_getNamedProperty_none {type : napi_valuetype}
    (h : object.getNamedProperty name = none) :
    aws_napi_get_named_property_as_bytebuf object name type = .AWS_NGNPR_NO_VALUE := by
  simp [aws_napi_get_named_property_as_bytebuf, aws_napi_get_named_property, h]

theorem bytebuf_of_getNamedProperty_string {s : String}
    (h : object.getNamedProperty name = some (.string s)) :
    aws_napi_get_named_property_as_bytebuf object name .napi_string =
      .AWS_NGNPR_VALID_VALUE (utf8 s) :=
  bytebuf_of_stringProperty (by simp [JsValue.stringProperty, h])

/-- A buffer read with no type required is its bytes. -/
theorem bytebuf_of_getNamedProperty_bytes {data : List UInt8}
    (h : object.getNamedProperty name = some (.bytes data)) :
    aws_napi_get_named_property_as_bytebuf object name .napi_undefined =
      .AWS_NGNPR_VALID_VALUE data := by
  simp [aws_napi_get_named_property_as_bytebuf, aws_napi_get_named_property, h,
    aws_byte_buf_init_from_napi]

theorem unsigned_of_getNamedProperty_none {max : Int} (h : object.getNamedProperty name = none) :
    getNamedPropertyAsUnsigned max object name = .AWS_NGNPR_NO_VALUE := by
  simp [getNamedPropertyAsUnsigned, aws_napi_get_named_property, h]

/-- A number in range reads as itself. -/
theorem unsigned_of_getNamedProperty_number {max n : Int}
    (h : object.getNamedProperty name = some (.number n)) (hn : 0 ≤ n) (hmax : n ≤ max) :
    getNamedPropertyAsUnsigned max object name = .AWS_NGNPR_VALID_VALUE n.toNat := by
  have hget : aws_napi_get_named_property object name .napi_number =
      .AWS_NGNPR_VALID_VALUE (.number n) := aws_napi_get_named_property_of_typeof h rfl
  have hrange : ¬(n < 0 ∨ n > max) := by omega
  simp only [getNamedPropertyAsUnsigned, hget, hrange, if_false]

theorem boolean_of_getNamedProperty_none (h : object.getNamedProperty name = none) :
    aws_napi_get_named_property_as_boolean object name = .AWS_NGNPR_NO_VALUE := by
  simp [aws_napi_get_named_property_as_boolean, aws_napi_get_named_property, h]

theorem boolean_of_getNamedProperty_boolean {b : Bool}
    (h : object.getNamedProperty name = some (.boolean b)) :
    aws_napi_get_named_property_as_boolean object name = .AWS_NGNPR_VALID_VALUE b := by
  have hget : aws_napi_get_named_property object name .napi_boolean =
      .AWS_NGNPR_VALID_VALUE (.boolean b) := aws_napi_get_named_property_of_typeof h rfl
  simp only [aws_napi_get_named_property_as_boolean, hget]

end Reading

end AwsCrt
