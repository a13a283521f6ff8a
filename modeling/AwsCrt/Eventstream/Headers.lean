import AwsCrt.Eventstream.Int64
import AwsCrt.Lib.JsString
import AwsCrt.Lib.Machine

/-!
# Eventstream headers across the binding

A message's headers are built in JavaScript by the `Header.new*` builders
(`src/lib/native/eventstream.ts`), turned into aws-c-event-stream headers by
`s_aws_event_stream_message_storage_init_from_js` (`src/source/event_stream.c`), and turned back
into JavaScript objects by `s_aws_create_napi_value_from_event_stream_message_storage` and
`mapPodMessageToJSMessage`.

JavaScript numbers are modelled by integers: every builder that takes a number rejects the others
with `Number.isSafeInteger`. The aws-c-event-stream functions that add a header are a parameter
(`EventStreamLib`) that accepts every header whose name has 1 to 127 bytes and whose value has at
most 32767, and stores it as given; N-API's string creation is a parameter that decodes what UTF-8
encoding produced.

`newTimeStampFromDate` takes `date.getTime()`, which is negative before 1970, and checks only
`Number.isSafeInteger`; its sibling `newTimeStampFromSecondsSinceEpoch` also requires `>= 0`. The
native side stores the timestamp as an `int64_t` and gives it back through
`aws_napi_attach_object_property_u64` after a cast to `uint64_t`, which refuses values above
`2 ^ 53 - 1`: a timestamp before 1970 cannot come back.

* `Built`: the headers the builders return; `valid_of_built`: their names and values (`Valid`).
* `header_round_trip`, `message_round_trip`: a message of such headers that also fit the native
  limits (`Fits`: names of at most 127 UTF-8 bytes, values of at most 32767, no timestamp before
  1970) comes back with its type and flags, and headers in order that every accessor reads as
  the originals (`Header.Agrees`).
* `timestamp_before_epoch_lost`: a message with the header `newTimeStampFromDate("t", -1)` is
  accepted by the native side, and converting it back fails.
-/

namespace AwsCrt

open JsString

/-- `HeaderType`, with the numbers the native side reads. -/
inductive HeaderType
  | BooleanTrue
  | BooleanFalse
  | Byte
  | Int16
  | Int32
  | Int64
  | ByteBuffer
  | String
  | Timestamp
  | UUID
  deriving DecidableEq, Repr

/-- The number of a header type: `aws_event_stream_header_value_type`. -/
def HeaderType.toNat : HeaderType → Nat
  | .BooleanTrue => 0
  | .BooleanFalse => 1
  | .Byte => 2
  | .Int16 => 3
  | .Int32 => 4
  | .Int64 => 5
  | .ByteBuffer => 6
  | .String => 7
  | .Timestamp => 8
  | .UUID => 9

/-- `Payload`: a string, or the bytes of an `ArrayBuffer` or `ArrayBufferView`. -/
inductive Payload
  | string (s : String)
  | bytes (bs : List UInt8)
  deriving DecidableEq, Repr

/-- A header's `value`: `undefined`, a boolean (as the native side gives boolean headers back), an
(integral) number, a string, or bytes. -/
inductive HeaderValue
  | undefined
  | boolean (b : Bool)
  | number (n : Int)
  | string (s : String)
  | bytes (bs : List UInt8)
  deriving DecidableEq, Repr

/-- `new Header(name, type, value)`. -/
structure Header where
  name : String
  type : HeaderType
  value : HeaderValue
  deriving DecidableEq, Repr

/-! ## The builders -/

/-- `AWS_MAXIMUM_EVENT_STREAM_HEADER_NAME_LENGTH`. -/
def AWS_MAXIMUM_EVENT_STREAM_HEADER_NAME_LENGTH : Nat := 127

/-- `MIN_INT8`. -/
def MIN_INT8 : Int := -128
/-- `MAX_INT8`. -/
def MAX_INT8 : Int := 127
/-- `MIN_INT16`. -/
def MIN_INT16 : Int := -32768
/-- `MAX_INT16`. -/
def MAX_INT16 : Int := 32767
/-- `MIN_INT32`. -/
def MIN_INT32 : Int := -2147483648
/-- `MAX_INT32`. -/
def MAX_INT32 : Int := 2147483647

/-- `Number.isSafeInteger` of an integer. -/
def isSafeInteger (n : Int) : Bool := -(2 ^ 53 - 1) ≤ n ∧ n ≤ 2 ^ 53 - 1

/-- `Header.validateHeaderName`: `name.length` counts UTF-16 code units. -/
def validateHeaderName (name : String) : Except String Unit :=
  if utf16Length name = 0 ∨ utf16Length name > AWS_MAXIMUM_EVENT_STREAM_HEADER_NAME_LENGTH then
    .error s!"Event stream header name ({name}) is not valid"
  else .ok ()

/-- `Header.newBoolean(name, value)`. -/
def newBoolean (name : String) (value : Bool) : Except String Header := do
  validateHeaderName name
  if value then pure ⟨name, .BooleanTrue, .undefined⟩ else pure ⟨name, .BooleanFalse, .undefined⟩

/-- The integral builders: the value within `[lo, hi]` and a safe integer. -/
def newIntegral (type : HeaderType) (lo hi : Int) (kind : String) (name : String) (value : Int) :
    Except String Header := do
  validateHeaderName name
  if value ≥ lo ∧ value ≤ hi ∧ isSafeInteger value then pure ⟨name, type, .number value⟩
  else throw s!"Illegal value for eventstream {kind}-valued header: {value}"

/-- `Header.newByte(name, value)`. -/
def newByte : String → Int → Except String Header := newIntegral .Byte MIN_INT8 MAX_INT8 "byte"

/-- `Header.newInt16(name, value)`. -/
def newInt16 : String → Int → Except String Header :=
  newIntegral .Int16 MIN_INT16 MAX_INT16 "int16"

/-- `Header.newInt32(name, value)`. -/
def newInt32 : String → Int → Except String Header :=
  newIntegral .Int32 MIN_INT32 MAX_INT32 "int32"

/-- `Header.newInt64FromNumber(name, value)`. -/
def newInt64FromNumber (name : String) (value : Int) : Except String Header := do
  validateHeaderName name
  if isSafeInteger value then
    pure ⟨name, .Int64, .bytes (← marshalInt64BigintAsBuffer value)⟩
  else throw s!"Illegal value for eventstream int64-valued header: {value}"

/-- `Header.newInt64FromBigint(name, value)`. -/
def newInt64FromBigint (name : String) (value : Int) : Except String Header := do
  validateHeaderName name
  if value ≥ MIN_INT64 ∧ value ≤ MAX_INT64 then
    pure ⟨name, .Int64, .bytes (← marshalInt64BigintAsBuffer value)⟩
  else throw s!"Illegal value for eventstream int64-valued header: {value}"

/-- A payload as a header value. -/
def Payload.toValue : Payload → HeaderValue
  | .string s => .string s
  | .bytes bs => .bytes bs

/-- `Header.newByteBuffer(name, value)`. -/
def newByteBuffer (name : String) (value : Payload) : Except String Header := do
  validateHeaderName name
  pure ⟨name, .ByteBuffer, value.toValue⟩

/-- `Header.newString(name, value)`. -/
def newString (name : String) (value : String) : Except String Header := do
  validateHeaderName name
  pure ⟨name, .String, .string value⟩

/-- `Header.newTimeStampFromSecondsSinceEpoch(name, secondsSinceEpoch)`. -/
def newTimeStampFromSecondsSinceEpoch (name : String) (secondsSinceEpoch : Int) :
    Except String Header := do
  validateHeaderName name
  if isSafeInteger secondsSinceEpoch ∧ secondsSinceEpoch ≥ 0 then
    pure ⟨name, .Timestamp, .number secondsSinceEpoch⟩
  else throw s!"Illegal value for eventstream timestamp-valued header: {secondsSinceEpoch}"

/-- A JavaScript `Date`: its time value in milliseconds since 1970, `none` (`NaN`) for an invalid
date; a valid date lies within `8.64e15` ms of 1970. -/
structure JsDate where
  time : Option Int
  time_le : ∀ t, time = some t → -8640000000000000 ≤ t ∧ t ≤ 8640000000000000

/-- `new Date(t)` for a time value in range. -/
def JsDate.ofTime (t : Int) (h : -8640000000000000 ≤ t ∧ t ≤ 8640000000000000) : JsDate :=
  ⟨some t, fun _ ht => by cases ht; exact h⟩

section Date

variable (dateString : JsDate → String)

/-- `Header.newTimeStampFromDate(name, date)`: `date.getTime()`, with no check of its sign;
`dateString` is the host's `String(date)`. -/
def newTimeStampFromDate (name : String) (date : JsDate) : Except String Header := do
  validateHeaderName name
  match date.time with
  | some secondsSinceEpoch =>
    if isSafeInteger secondsSinceEpoch then pure ⟨name, .Timestamp, .number secondsSinceEpoch⟩
    else throw s!"Illegal value for eventstream timestamp-valued header: {dateString date}"
  | none => throw s!"Illegal value for eventstream timestamp-valued header: {dateString date}"

end Date

/-- `Header.newUUID(name, value)`; `String(value)` of an `ArrayBuffer` is `[object ArrayBuffer]`. -/
def newUUID (name : String) (value : List UInt8) : Except String Header := do
  validateHeaderName name
  if value.length = 16 then pure ⟨name, .UUID, .bytes value⟩
  else throw "Illegal value for eventstream uuid-valued header: [object ArrayBuffer]"

/-! ## The accessors -/

namespace Header

/-- `toValue(type)`: the value, if the header has that type. -/
def toValue (h : Header) (type : HeaderType) : Except String HeaderValue :=
  if type ≠ h.type then
    .error s!"Header of type ({h.type.toNat}) cannot be converted to type ({type.toNat})"
  else .ok h.value

/-- `asBoolean()`: the type alone. -/
def asBoolean (h : Header) : Except String Bool :=
  match h.type with
  | .BooleanFalse => .ok false
  | .BooleanTrue => .ok true
  | _ => .error s!"Header of type ({h.type.toNat}) cannot be converted to type (boolean)"

/-- `asByte()`. -/
def asByte (h : Header) : Except String HeaderValue := h.toValue .Byte
/-- `asInt16()`. -/
def asInt16 (h : Header) : Except String HeaderValue := h.toValue .Int16
/-- `asInt32()`. -/
def asInt32 (h : Header) : Except String HeaderValue := h.toValue .Int32
/-- `asByteBuffer()`. -/
def asByteBuffer (h : Header) : Except String HeaderValue := h.toValue .ByteBuffer
/-- `asString()`. -/
def asString (h : Header) : Except String HeaderValue := h.toValue .String
/-- `asTimestamp()`. -/
def asTimestamp (h : Header) : Except String HeaderValue := h.toValue .Timestamp
/-- `asUUID()`. -/
def asUUID (h : Header) : Except String HeaderValue := h.toValue .UUID

/-- `asInt64()`: the value decoded as an eight-byte buffer; a value that is not a buffer is an
error here. -/
def asInt64 (h : Header) : Except String Int := do
  match ← h.toValue .Int64 with
  | .bytes bs => unmarshalInt64BigintFromBuffer bs
  | _ => throw "unmarshalInt64BigintFromBuffer expects a byte buffer of length 8"

end Header

/-! ## What the builders return -/

/-- The headers the builders make: each type with the value its builder stores. -/
inductive WellTyped : Header → Prop
  | booleanTrue (name : String) : WellTyped ⟨name, .BooleanTrue, .undefined⟩
  | booleanFalse (name : String) : WellTyped ⟨name, .BooleanFalse, .undefined⟩
  | byte (name : String) {n : Int} : MIN_INT8 ≤ n → n ≤ MAX_INT8 → WellTyped ⟨name, .Byte, .number n⟩
  | int16 (name : String) {n : Int} : MIN_INT16 ≤ n → n ≤ MAX_INT16 →
      WellTyped ⟨name, .Int16, .number n⟩
  | int32 (name : String) {n : Int} : MIN_INT32 ≤ n → n ≤ MAX_INT32 →
      WellTyped ⟨name, .Int32, .number n⟩
  | int64 (name : String) {bs : List UInt8} : bs.length = 8 → WellTyped ⟨name, .Int64, .bytes bs⟩
  | byteBuffer (name : String) (value : Payload) : WellTyped ⟨name, .ByteBuffer, value.toValue⟩
  | string (name value : String) : WellTyped ⟨name, .String, .string value⟩
  | timestamp (name : String) {n : Int} : isSafeInteger n → WellTyped ⟨name, .Timestamp, .number n⟩
  | uuid (name : String) {bs : List UInt8} : bs.length = 16 → WellTyped ⟨name, .UUID, .bytes bs⟩

/-- What a builder guarantees of the header it returns. -/
structure Valid (h : Header) : Prop where
  name_pos : 0 < utf16Length h.name
  name_le : utf16Length h.name ≤ AWS_MAXIMUM_EVENT_STREAM_HEADER_NAME_LENGTH
  typed : WellTyped h

/-- The headers the `Header.new*` builders return without throwing. -/
inductive Built : Header → Prop
  | newBoolean {name value h} : newBoolean name value = .ok h → Built h
  | newByte {name value h} : newByte name value = .ok h → Built h
  | newInt16 {name value h} : newInt16 name value = .ok h → Built h
  | newInt32 {name value h} : newInt32 name value = .ok h → Built h
  | newInt64FromNumber {name value h} : newInt64FromNumber name value = .ok h → Built h
  | newInt64FromBigint {name value h} : newInt64FromBigint name value = .ok h → Built h
  | newByteBuffer {name value h} : newByteBuffer name value = .ok h → Built h
  | newString {name value h} : newString name value = .ok h → Built h
  | newTimeStampFromSecondsSinceEpoch {name value h} :
      newTimeStampFromSecondsSinceEpoch name value = .ok h → Built h
  | newTimeStampFromDate (dateString : JsDate → String) {name date h} :
      newTimeStampFromDate dateString name date = .ok h → Built h
  | newUUID {name value h} : newUUID name value = .ok h → Built h

section Builders

variable {α : Type} {name : String} {h : Header}

/-- Every builder starts with `validateHeaderName`. -/
theorem validateHeaderName_bind {k : Unit → Except String α} {a : α}
    (hk : (validateHeaderName name >>= k) = .ok a) :
    0 < utf16Length name ∧ utf16Length name ≤ AWS_MAXIMUM_EVENT_STREAM_HEADER_NAME_LENGTH ∧
      k () = .ok a := by
  unfold validateHeaderName at hk
  split at hk
  · cases hk
  · exact ⟨by omega, by omega, hk⟩

theorem ok_of_ite {c : Prop} [Decidable c] {t : Except String α} {a : α} {e : String}
    (hk : (if c then t else throw e) = .ok a) : c ∧ t = .ok a := by
  split at hk
  · exact ⟨‹c›, hk⟩
  · cases hk

/-- A builder that validates the name and then returns a header of that name that its type
admits returns a valid header. -/
theorem valid_of_ok {k : Unit → Except String Header} (hk : (validateHeaderName name >>= k) = .ok h)
    (htyped : k () = .ok h → h.name = name ∧ WellTyped h) : Valid h := by
  obtain ⟨hpos, hle, hk'⟩ := validateHeaderName_bind hk
  obtain ⟨rfl, ht⟩ := htyped hk'
  exact ⟨hpos, hle, ht⟩

theorem valid_newBoolean {value : Bool} (hb : newBoolean name value = .ok h) : Valid h :=
  valid_of_ok hb fun hk => by
    cases value
    · cases hk
      exact ⟨rfl, .booleanFalse name⟩
    · cases hk
      exact ⟨rfl, .booleanTrue name⟩

theorem valid_newIntegral {type : HeaderType} {lo hi value : Int} {kind : String}
    (hb : newIntegral type lo hi kind name value = .ok h)
    (htyped : lo ≤ value → value ≤ hi → WellTyped ⟨name, type, .number value⟩) : Valid h :=
  valid_of_ok hb fun hk => by
    obtain ⟨⟨hlo, hhi, -⟩, ht⟩ := ok_of_ite hk
    cases ht
    exact ⟨rfl, htyped hlo hhi⟩

/-- A safe integer is in the range of `int64_t`. -/
theorem int64_range_of_safe {n : Int} (hn : isSafeInteger n = true) :
    MIN_INT64 ≤ n ∧ n ≤ MAX_INT64 := by
  simp only [isSafeInteger, decide_eq_true_eq] at hn
  simp only [MIN_INT64, MAX_INT64]
  omega

/-- The two `Int64` builders store the eight bytes `marshalInt64BigintAsBuffer` makes. -/
theorem wellTyped_int64 {value : Int} (hlo : MIN_INT64 ≤ value) (hhi : value ≤ MAX_INT64)
    (hk : (do pure (⟨name, .Int64, .bytes (← marshalInt64BigintAsBuffer value)⟩ : Header) :
      Except String Header) = .ok h) : h.name = name ∧ WellTyped h := by
  rw [marshal_eq hlo hhi] at hk
  cases hk
  exact ⟨rfl, .int64 name (LittleEndian.length_intBytes 8 value)⟩

theorem valid_newInt64FromNumber {value : Int} (hb : newInt64FromNumber name value = .ok h) :
    Valid h :=
  valid_of_ok hb fun hk => by
    obtain ⟨hsafe, ht⟩ := ok_of_ite hk
    exact wellTyped_int64 (int64_range_of_safe hsafe).1 (int64_range_of_safe hsafe).2 ht

theorem valid_newInt64FromBigint {value : Int} (hb : newInt64FromBigint name value = .ok h) :
    Valid h :=
  valid_of_ok hb fun hk => by
    obtain ⟨⟨hlo, hhi⟩, ht⟩ := ok_of_ite hk
    exact wellTyped_int64 hlo hhi ht

theorem valid_newTimeStampFromDate {dateString : JsDate → String} {date : JsDate}
    (hb : newTimeStampFromDate dateString name date = .ok h) : Valid h :=
  valid_of_ok hb fun hk => by
    split at hk
    · obtain ⟨hsafe, ht⟩ := ok_of_ite hk
      cases ht
      exact ⟨rfl, .timestamp name hsafe⟩
    · cases hk

/-- Every header a builder returns is valid. -/
theorem valid_of_built (hb : Built h) : Valid h := by
  cases hb with
  | newBoolean hb => exact valid_newBoolean hb
  | @newByte name _ _ hb => exact valid_newIntegral hb (WellTyped.byte name)
  | @newInt16 name _ _ hb => exact valid_newIntegral hb (WellTyped.int16 name)
  | @newInt32 name _ _ hb => exact valid_newIntegral hb (WellTyped.int32 name)
  | newInt64FromNumber hb => exact valid_newInt64FromNumber hb
  | newInt64FromBigint hb => exact valid_newInt64FromBigint hb
  | @newByteBuffer name value h hb =>
    exact valid_of_ok hb fun hk => by cases hk; exact ⟨rfl, .byteBuffer name value⟩
  | @newString name value h hb =>
    exact valid_of_ok hb fun hk => by cases hk; exact ⟨rfl, .string name value⟩
  | @newTimeStampFromSecondsSinceEpoch name value h hb =>
    exact valid_of_ok hb fun hk => by
      obtain ⟨⟨hsafe, -⟩, ht⟩ := ok_of_ite hk
      cases ht
      exact ⟨rfl, .timestamp name hsafe⟩
  | newTimeStampFromDate dateString hb => exact valid_newTimeStampFromDate hb
  | @newUUID name value h hb =>
    exact valid_of_ok hb fun hk => by
      obtain ⟨hlen, ht⟩ := ok_of_ite hk
      cases ht
      exact ⟨rfl, .uuid name hlen⟩

end Builders


/-! ## Into the native header list -/

/-- An aws-c-event-stream header value, as `aws_event_stream_header_value_pair` stores it. -/
inductive NativeValue
  | bool (b : Bool)
  | byte (v : Int8)
  | int16 (v : Int16)
  | int32 (v : Int32)
  | int64 (v : Int64)
  | byteBuf (bs : List UInt8)
  | string (bs : List UInt8)
  | timestamp (v : Int64)
  | uuid (bs : List UInt8)

/-- The length of a value's bytes; 0 for a fixed-size value. -/
def NativeValue.size : NativeValue → Nat
  | .byteBuf bs => bs.length
  | .string bs => bs.length
  | .uuid bs => bs.length
  | _ => 0

/-- An aws-c-event-stream header: its name's bytes and its value. -/
structure NativeHeader where
  name : List UInt8
  value : NativeValue

/-- aws-c-event-stream's `aws_event_stream_add_*_header_by_cursor`: an error, or success, after
which the header is stored as given. Every header with a name of 1 to 127 bytes, a value of at
most 32767 bytes and a UUID of 16 bytes is accepted. -/
structure EventStreamLib where
  add : List UInt8 → NativeValue → Except String Unit
  add_of_valid : ∀ name v, 1 ≤ name.length → name.length ≤ 127 → v.size ≤ 32767 →
    (∀ bs, v = .uuid bs → bs.length = 16) → add name v = .ok ()

/-- `aws_byte_buf_init_from_napi` of a property read with `napi_undefined`: a string's UTF-8 bytes,
or the bytes of a buffer; anything else is refused. -/
def jsBytes : HeaderValue → Option (List UInt8)
  | .string s => some (utf8 s)
  | .bytes bs => some bs
  | _ => none

/-- `napi_get_value_int64` of an integral number: beyond the range of `int64_t` it saturates. -/
def napiGetValueInt64 (n : Int) : Int := max MIN_INT64 (min n MAX_INT64)

/-- `aws_napi_get_named_property_as_int8/16/32/64`: a number, read by `napi_get_value_int64` and
then checked against the bounds of the type. -/
def jsIntegral (lo hi : Int) : HeaderValue → Option Int
  | .number n =>
    let v := napiGetValueInt64 n
    if v < lo ∨ v > hi then none else some v
  | _ => none

section Native

variable (L : EventStreamLib)

/-- `ADD_INTEGRAL_HEADER`: an invalid value raises `AWS_ERROR_INVALID_ARGUMENT`; a failed add
keeps the library's error. -/
def addIntegral (name : List UInt8) (lo hi : Int) (value : HeaderValue) (mk : Int → NativeValue) :
    Except String NativeHeader :=
  match jsIntegral lo hi value with
  | none => .error "AWS_ERROR_INVALID_ARGUMENT"
  | some n => do
    L.add name (mk n)
    pure ⟨name, mk n⟩

/-- `ADD_BUFFERED_HEADER`: both an invalid value and a failed add raise
`AWS_ERROR_INVALID_ARGUMENT`. -/
def addBuffered (name : List UInt8) (value : Option (List UInt8))
    (mk : List UInt8 → Except String NativeValue) : Except String NativeHeader :=
  match value with
  | none => .error "AWS_ERROR_INVALID_ARGUMENT"
  | some bs => do
    let v ← mk bs
    match L.add name v with
    | .ok () => pure ⟨name, v⟩
    | .error _ => .error "AWS_ERROR_INVALID_ARGUMENT"

/-- `s_aws_event_stream_add_int64_header_by_cursor`: eight bytes, little-endian, two's complement
(`AWS_FATAL_ASSERT(value.len == 8)`: another length is an error here). -/
def int64OfCursor (bs : List UInt8) : Except String NativeValue :=
  if bs.length = 8 then .ok (.int64 (int64ValueOfCursor bs)) else .error "AWS_FATAL_ASSERT"

/-- `s_add_event_stream_header_from_js`: the name is read as UTF-8, the value by the type. -/
def addEventStreamHeaderFromJs (h : Header) : Except String NativeHeader :=
  let name := utf8 h.name
  match h.type with
  | .BooleanTrue => do L.add name (.bool true); pure ⟨name, .bool true⟩
  | .BooleanFalse => do L.add name (.bool false); pure ⟨name, .bool false⟩
  | .Byte => addIntegral L name MIN_INT8 MAX_INT8 h.value fun n => .byte (Int8.ofInt n)
  | .Int16 => addIntegral L name MIN_INT16 MAX_INT16 h.value fun n => .int16 (Int16.ofInt n)
  | .Int32 => addIntegral L name MIN_INT32 MAX_INT32 h.value fun n => .int32 (Int32.ofInt n)
  | .Int64 => addBuffered L name (jsBytes h.value) int64OfCursor
  | .ByteBuffer => addBuffered L name (jsBytes h.value) fun bs => .ok (.byteBuf bs)
  | .String =>
    addBuffered L name (match h.value with | .string s => some (utf8 s) | _ => none)
      fun bs => .ok (.string bs)
  | .Timestamp => addIntegral L name MIN_INT64 MAX_INT64 h.value fun n => .timestamp (Int64.ofInt n)
  | .UUID => addBuffered L name (jsBytes h.value) fun bs => .ok (.uuid bs)

theorem addIntegral_eq {name : List UInt8} {lo hi n : Int} {mk : Int → NativeValue}
    (hlo : lo ≤ n) (hhi : n ≤ hi) (hrange : MIN_INT64 ≤ n ∧ n ≤ MAX_INT64)
    (hadd : L.add name (mk n) = .ok ()) :
    addIntegral L name lo hi (.number n) mk = .ok ⟨name, mk n⟩ := by
  have hv : napiGetValueInt64 n = n := by
    simp only [napiGetValueInt64]
    omega
  have hn : jsIntegral lo hi (.number n) = some n := by
    simp only [jsIntegral, hv]
    rw [if_neg (by omega)]
  simp only [addIntegral, hn, hadd]
  rfl

theorem addBuffered_eq {name bs : List UInt8} {mk : List UInt8 → Except String NativeValue}
    {v : NativeValue} (hmk : mk bs = .ok v) (hadd : L.add name v = .ok ()) :
    addBuffered L name (some bs) mk = .ok ⟨name, v⟩ := by
  simp only [addBuffered, hmk]
  show (match L.add name v with
    | .ok () => pure ⟨name, v⟩
    | .error _ => .error "AWS_ERROR_INVALID_ARGUMENT" : Except String NativeHeader) = _
  rw [hadd]
  rfl

end Native

/-- A message as JavaScript passes it: `type`, `flags`, `headers`, `payload`. -/
structure Message where
  type : Int
  flags : Option Int
  headers : Option (List Header)
  payload : Option Payload

/-- `struct aws_event_stream_message_storage`; `payload` is `none` for the `NULL` pointer that a
message without a payload leaves. -/
structure MessageStorage where
  headers : List NativeHeader
  payload : Option (List UInt8)
  message_type : Nat
  message_flags : Nat

/-- `aws_napi_get_named_property_as_uint32` of a number. -/
def asUint32 (n : Int) : Option Nat :=
  let v := napiGetValueInt64 n
  if v < 0 ∨ v > 4294967295 then none else some v.toNat

/-- The bytes of a payload. -/
def Payload.bytesOf : Payload → List UInt8
  | .string s => utf8 s
  | .bytes bs => bs

/-- An optional `uint32` property: an absent one leaves the zeroed field, an invalid one is an
error. -/
def optionalUint32 : Option Int → Except String Nat
  | none => pure 0
  | some f =>
    match asUint32 f with
    | some n => pure n
    | none => throw "AWS_ERROR_INVALID_ARGUMENT"

/-- `s_aws_event_stream_message_storage_init_from_js`. -/
def messageStorageInitFromJs (L : EventStreamLib) (m : Message) : Except String MessageStorage := do
  let headers ← (m.headers.getD []).mapM (addEventStreamHeaderFromJs L)
  let payload := m.payload.map Payload.bytesOf
  let some message_type := asUint32 m.type | throw "AWS_ERROR_INVALID_ARGUMENT"
  let message_flags ← optionalUint32 m.flags
  pure ⟨headers, payload, message_type, message_flags⟩

/-! ## Back to JavaScript -/

section Back

variable (napiString : List UInt8 → String)

/-- `MAX_ALLOWED_UINT64_T_TO_DOUBLE`: `2 ^ 53 - 1`. -/
def MAX_ALLOWED_UINT64_T_TO_DOUBLE : Nat := 2 ^ 53 - 1

/-- `aws_napi_attach_object_property_u64`: values above `2 ^ 53 - 1` are refused. -/
def attachU64 (value : UInt64) : Except String HeaderValue :=
  if value.toNat > MAX_ALLOWED_UINT64_T_TO_DOUBLE then .error "AWS_ERROR_INVALID_ARGUMENT"
  else .ok (.number value.toNat)

/-- `s_aws_create_napi_header_value`: the name by `napiString` (N-API's
`napi_create_string_utf8`), the type's number, and the value by the type. -/
def createNapiHeaderValue (h : NativeHeader) : Except String Header :=
  match h.value with
  | .bool b => .ok ⟨napiString h.name, if b then .BooleanTrue else .BooleanFalse, .boolean b⟩
  | .byte v => .ok ⟨napiString h.name, .Byte, .number v.toInt⟩
  | .int16 v => .ok ⟨napiString h.name, .Int16, .number v.toInt⟩
  | .int32 v => .ok ⟨napiString h.name, .Int32, .number v.toInt⟩
  | .int64 v => .ok ⟨napiString h.name, .Int64, .bytes (int64ToBuffer 8 v)⟩
  | .byteBuf bs => .ok ⟨napiString h.name, .ByteBuffer, .bytes bs⟩
  | .uuid bs => .ok ⟨napiString h.name, .UUID, .bytes bs⟩
  | .string bs => .ok ⟨napiString h.name, .String, .string (napiString bs)⟩
  | .timestamp v => do
    let value ← attachU64 v.toUInt64
    pure ⟨napiString h.name, .Timestamp, value⟩

/-- How a conversion back to JavaScript ends without a message: an error raised by
`aws_raise_error`, or the read of `message->payload->len` through a `NULL` payload, which crashes
the process. -/
inductive NapiFailure
  | raised (error : String)
  | nullPayload
  deriving DecidableEq, Repr

/-- `s_aws_create_napi_value_from_event_stream_message_storage`: the payload's length is read
before the headers are converted; an empty payload and an empty header list are left out. -/
def createNapiValueFromStorage (s : MessageStorage) : Except NapiFailure Message := do
  let some payload := s.payload | throw .nullPayload
  let headers ← (s.headers.mapM (createNapiHeaderValue napiString)).mapError .raised
  pure ⟨s.message_type, some s.message_flags, if headers = [] then none else some headers,
    if payload = [] then none else some (.bytes payload)⟩

end Back

/-- `mapPodMessageToJSMessage`: every header is rebuilt with `new Header(name, type, value)`. -/
def mapPodMessageToJSMessage (m : Message) : Message :=
  ⟨m.type, m.flags, m.headers.map (List.map fun h => ⟨h.name, h.type, h.value⟩), m.payload⟩

/-! ## The round trip -/

namespace Header

/-- Two headers that every accessor reads alike: the same name and type, and the same result of
every accessor, a buffer compared by its bytes. -/
structure Agrees (h h' : Header) : Prop where
  name : h.name = h'.name
  type : h.type = h'.type
  asBoolean : h.asBoolean = h'.asBoolean
  asByte : h.asByte = h'.asByte
  asInt16 : h.asInt16 = h'.asInt16
  asInt32 : h.asInt32 = h'.asInt32
  asInt64 : h.asInt64 = h'.asInt64
  asByteBuffer : h.asByteBuffer.map jsBytes = h'.asByteBuffer.map jsBytes
  asString : h.asString = h'.asString
  asTimestamp : h.asTimestamp = h'.asTimestamp
  asUUID : h.asUUID.map jsBytes = h'.asUUID.map jsBytes

theorem Agrees.refl (h : Header) : h.Agrees h :=
  ⟨rfl, rfl, rfl, rfl, rfl, rfl, rfl, rfl, rfl, rfl, rfl⟩

/-- Of the accessors only `asBoolean` accepts a boolean header, and it reads the type alone. -/
theorem agrees_boolean {name : String} {type : HeaderType} {v v' : HeaderValue}
    (htype : type = .BooleanTrue ∨ type = .BooleanFalse) :
    Agrees ⟨name, type, v⟩ ⟨name, type, v'⟩ := by
  rcases htype with rfl | rfl <;>
    exact ⟨rfl, rfl, rfl, rfl, rfl, rfl, rfl, rfl, rfl, rfl, rfl⟩

/-- A byte buffer is read by its bytes. -/
theorem agrees_byteBuffer {name : String} {v v' : HeaderValue} (hv : jsBytes v = jsBytes v') :
    Agrees ⟨name, .ByteBuffer, v⟩ ⟨name, .ByteBuffer, v'⟩ := by
  refine ⟨rfl, rfl, rfl, rfl, rfl, rfl, rfl, ?_, rfl, rfl, rfl⟩
  simp only [asByteBuffer, toValue, ne_eq, not_true_eq_false, ↓reduceIte]
  exact congrArg Except.ok hv

end Header

/-- What the native side needs of a header beyond what the builders check: a name of at most 127
UTF-8 bytes, a value of at most 32767 bytes, and a timestamp not before 1970. -/
structure Fits (h : Header) : Prop where
  name_le : (utf8 h.name).length ≤ 127
  value_le : ∀ bs, jsBytes h.value = some bs → bs.length ≤ 32767
  timestamp_nonneg : ∀ n, h.type = .Timestamp → h.value = .number n → 0 ≤ n

/-- The C encoder gives back the eight bytes the C decoder read. -/
theorem int64ToBuffer_int64ValueOfCursor {bs : List UInt8} (hl : bs.length = 8) :
    int64ToBuffer 8 (int64ValueOfCursor bs) = bs := by
  have h := LittleEndian.intBytes_signedValue bs
  rw [hl] at h
  rw [int64ToBuffer_eq, cursorToUint64_toInt hl, h]

/-- A timestamp from 0 to `2 ^ 53 - 1` comes back through the `uint64_t` cast. -/
theorem attachU64_ofInt {n : Int} (h0 : 0 ≤ n) (hn : n ≤ 2 ^ 53 - 1) :
    attachU64 (Int64.ofInt n).toUInt64 = .ok (.number n) := by
  have htoNat : (Int64.ofInt n).toUInt64.toNat = n.toNat := by
    rw [← Int64.toNat_toBitVec]
    simp only [Int64.toBitVec_ofInt, BitVec.toNat_ofInt]
    omega
  simp only [attachU64, htoNat, MAX_ALLOWED_UINT64_T_TO_DOUBLE]
  rw [if_neg (by omega), Int.toNat_of_nonneg h0]

section RoundTrip

variable (L : EventStreamLib) (napiString : List UInt8 → String)
  (hnapi : ∀ s, napiString (utf8 s) = s)
include hnapi

/-- A header a builder returns that fits the native limits goes into the native header list and
comes back as a header that every accessor reads as the original. -/
theorem header_round_trip {h : Header} (hv : Valid h) (hf : Fits h) :
    ∃ nh, addEventStreamHeaderFromJs L h = .ok nh ∧
      ∃ h', createNapiHeaderValue napiString nh = .ok h' ∧ h.Agrees h' := by
  obtain ⟨hpos, -, htyped⟩ := hv
  have hname := length_utf8_pos hpos
  -- the library takes every value of this header
  have hadd : ∀ v : NativeValue, v.size ≤ 32767 → (∀ bs, v = .uuid bs → bs.length = 16) →
      L.add (utf8 h.name) v = .ok () :=
    fun v hs hu => L.add_of_valid _ v hname hf.name_le hs hu
  have hfixed : ∀ v : NativeValue, v.size = 0 → (∀ bs, v ≠ .uuid bs) →
      L.add (utf8 h.name) v = .ok () :=
    fun v hs hu => hadd v (by omega) (fun bs hv => absurd hv (hu bs))
  -- the native form of each type, and the header that comes back
  cases htyped with
  | booleanTrue name =>
    refine ⟨⟨utf8 name, .bool true⟩, ?_, ⟨name, .BooleanTrue, .boolean true⟩, ?_,
      Header.agrees_boolean (Or.inl rfl)⟩
    · simp only [addEventStreamHeaderFromJs, hfixed (.bool true) rfl (by simp)]
      rfl
    · simp only [createNapiHeaderValue, hnapi, ↓reduceIte]
  | booleanFalse name =>
    refine ⟨⟨utf8 name, .bool false⟩, ?_, ⟨name, .BooleanFalse, .boolean false⟩, ?_,
      Header.agrees_boolean (Or.inr rfl)⟩
    · simp only [addEventStreamHeaderFromJs, hfixed (.bool false) rfl (by simp)]
      rfl
    · simp only [createNapiHeaderValue, hnapi, Bool.false_eq_true, ↓reduceIte]
  | @byte name n hlo hhi =>
    simp only [MIN_INT8, MAX_INT8] at hlo hhi
    refine ⟨⟨utf8 name, .byte (Int8.ofInt n)⟩, ?_, _, ?_, Header.Agrees.refl _⟩
    · simp only [addEventStreamHeaderFromJs]
      exact addIntegral_eq L hlo hhi (by simp only [MIN_INT64, MAX_INT64]; omega)
        (hfixed _ rfl (by simp))
    · have hn : (Int8.ofInt n).toInt = n := Int8.toInt_ofInt_of_le (by omega) (by omega)
      simp only [createNapiHeaderValue, hnapi, hn]
  | @int16 name n hlo hhi =>
    simp only [MIN_INT16, MAX_INT16] at hlo hhi
    refine ⟨⟨utf8 name, .int16 (Int16.ofInt n)⟩, ?_, _, ?_, Header.Agrees.refl _⟩
    · simp only [addEventStreamHeaderFromJs]
      exact addIntegral_eq L hlo hhi (by simp only [MIN_INT64, MAX_INT64]; omega)
        (hfixed _ rfl (by simp))
    · have hn : (Int16.ofInt n).toInt = n := Int16.toInt_ofInt_of_le (by omega) (by omega)
      simp only [createNapiHeaderValue, hnapi, hn]
  | @int32 name n hlo hhi =>
    simp only [MIN_INT32, MAX_INT32] at hlo hhi
    refine ⟨⟨utf8 name, .int32 (Int32.ofInt n)⟩, ?_, _, ?_, Header.Agrees.refl _⟩
    · simp only [addEventStreamHeaderFromJs]
      exact addIntegral_eq L hlo hhi (by simp only [MIN_INT64, MAX_INT64]; omega)
        (hfixed _ rfl (by simp))
    · have hn : (Int32.ofInt n).toInt = n := Int32.toInt_ofInt_of_le (by omega) (by omega)
      simp only [createNapiHeaderValue, hnapi, hn]
  | @int64 name bs hl =>
    refine ⟨⟨utf8 name, .int64 (int64ValueOfCursor bs)⟩, ?_, _, ?_, Header.Agrees.refl _⟩
    · simp only [addEventStreamHeaderFromJs, jsBytes]
      exact addBuffered_eq L (by simp [int64OfCursor, hl])
        (hfixed _ rfl (by simp))
    · simp only [createNapiHeaderValue, hnapi, int64ToBuffer_int64ValueOfCursor hl]
  | byteBuffer name value =>
    have hbytes : jsBytes value.toValue = some value.bytesOf := by cases value <;> rfl
    refine ⟨⟨utf8 name, .byteBuf value.bytesOf⟩, ?_, ⟨name, .ByteBuffer, .bytes value.bytesOf⟩,
      ?_, Header.agrees_byteBuffer (by rw [hbytes]; rfl)⟩
    · simp only [addEventStreamHeaderFromJs, hbytes]
      exact addBuffered_eq L rfl (hadd _ (hf.value_le _ hbytes) (by simp))
    · simp only [createNapiHeaderValue, hnapi]
  | string name value =>
    refine ⟨⟨utf8 name, .string (utf8 value)⟩, ?_, _, ?_, Header.Agrees.refl _⟩
    · simp only [addEventStreamHeaderFromJs]
      exact addBuffered_eq L rfl (hadd _ (hf.value_le _ rfl) (by simp))
    · simp only [createNapiHeaderValue, hnapi]
  | @timestamp name n hsafe =>
    have h0 : 0 ≤ n := hf.timestamp_nonneg n rfl rfl
    simp only [isSafeInteger, decide_eq_true_eq] at hsafe
    refine ⟨⟨utf8 name, .timestamp (Int64.ofInt n)⟩, ?_, _, ?_, Header.Agrees.refl _⟩
    · simp only [addEventStreamHeaderFromJs]
      exact addIntegral_eq L (by simp only [MIN_INT64]; omega) (by simp only [MAX_INT64]; omega)
        (by simp only [MIN_INT64, MAX_INT64]; omega) (hfixed _ rfl (by simp))
    · simp only [createNapiHeaderValue, hnapi, attachU64_ofInt h0 hsafe.2]
      rfl
  | @uuid name bs hl =>
    refine ⟨⟨utf8 name, .uuid bs⟩, ?_, _, ?_, Header.Agrees.refl _⟩
    · simp only [addEventStreamHeaderFromJs, jsBytes]
      exact addBuffered_eq L rfl (hadd _ (hf.value_le _ rfl) (by simpa using hl))
    · simp only [createNapiHeaderValue, hnapi]

omit hnapi in
theorem asUint32_of_le {n : Int} (h0 : 0 ≤ n) (hn : n ≤ 4294967295) : asUint32 n = some n.toNat := by
  have hv : napiGetValueInt64 n = n := by
    simp only [napiGetValueInt64, MIN_INT64, MAX_INT64]
    omega
  simp only [asUint32, hv]
  rw [if_neg (by omega)]

omit hnapi in
theorem optionalUint32_of_le {flags : Option Int}
    (hflags : ∀ f, flags = some f → 0 ≤ f ∧ f ≤ 4294967295) :
    optionalUint32 flags = .ok (flags.getD 0).toNat := by
  cases flags with
  | none => rfl
  | some f =>
    obtain ⟨h0, hf⟩ := hflags f rfl
    simp only [optionalUint32, asUint32_of_le h0 hf, Option.getD_some]
    rfl

/-- A message with a payload, whose headers the builders returned and fit the native limits, with a
type and flags that are `uint32` values, goes into native storage and comes back with its type, its
flags (0 for none), and its headers in order, each read by every accessor as the original. -/
theorem message_round_trip {m : Message} (hbuilt : ∀ h ∈ m.headers.getD [], Built h)
    (hfits : ∀ h ∈ m.headers.getD [], Fits h) (htype : 0 ≤ m.type ∧ m.type ≤ 4294967295)
    (hflags : ∀ f, m.flags = some f → 0 ≤ f ∧ f ≤ 4294967295) (hpayload : m.payload ≠ none) :
    ∃ s, messageStorageInitFromJs L m = .ok s ∧
      ∃ m', createNapiValueFromStorage napiString s = .ok m' ∧
        (mapPodMessageToJSMessage m').type = m.type ∧
        (mapPodMessageToJSMessage m').flags = some (m.flags.getD 0) ∧
        List.Forall₂ Header.Agrees (m.headers.getD [])
          ((mapPodMessageToJSMessage m').headers.getD []) := by
  -- every header goes in, and what comes back agrees with it
  obtain ⟨nhs, hin, hback⟩ := Machine.mapM_forall₂ (addEventStreamHeaderFromJs L) _
    (List.forall₂_same.2 fun h hh =>
      header_round_trip L napiString hnapi (valid_of_built (hbuilt h hh)) (hfits h hh))
  obtain ⟨hs, hout, hagree⟩ := Machine.mapM_forall₂ (createNapiHeaderValue napiString) _ hback
  have h0 : 0 ≤ m.flags.getD 0 := by
    cases hf : m.flags with
    | none => exact le_refl 0
    | some f => exact (hflags f hf).1
  obtain ⟨p, hp⟩ := Option.ne_none_iff_exists'.mp hpayload
  refine ⟨⟨nhs, some p.bytesOf, m.type.toNat, (m.flags.getD 0).toNat⟩, ?_, ?_⟩
  · simp only [messageStorageInitFromJs, hin, asUint32_of_le htype.1 htype.2,
      optionalUint32_of_le hflags, hp]
    rfl
  simp only [createNapiValueFromStorage, hout]
  refine ⟨_, rfl, Int.toNat_of_nonneg htype.1, by rw [← Int.toNat_of_nonneg h0]; rfl, ?_⟩
  -- rebuilding each header with `new Header` changes nothing
  have hid : List.map (fun h : Header => (⟨h.name, h.type, h.value⟩ : Header)) hs = hs :=
    List.map_id hs
  show List.Forall₂ _ _ (((if hs = [] then none else some hs).map _).getD [])
  split
  · rename_i hnil
    subst hnil
    exact hagree
  · simpa only [Option.map_some, Option.getD_some, hid] using hagree

end RoundTrip

/-- The storage holds the message's payload, `NULL` for none. -/
theorem messageStorageInitFromJs_payload (L : EventStreamLib) {m : Message} {s : MessageStorage}
    (hin : messageStorageInitFromJs L m = .ok s) : s.payload = m.payload.map Payload.bytesOf := by
  unfold messageStorageInitFromJs at hin
  obtain ⟨headers, -, hrest⟩ := Machine.bind_eq_ok hin
  split at hrest
  · obtain ⟨flags, -, hpure⟩ := Machine.bind_eq_ok hrest
    injection hpure with hs
    rw [← hs]
  · cases hrest

/-- A message without a payload goes into storage with a `NULL` payload, and converting it back
reads `message->payload->len` through it before any header: the process crashes. -/
theorem createNapiValueFromStorage_of_no_payload (L : EventStreamLib)
    (napiString : List UInt8 → String) {m : Message} {s : MessageStorage}
    (hin : messageStorageInitFromJs L m = .ok s) (hpayload : m.payload = none) :
    createNapiValueFromStorage napiString s = .error .nullPayload := by
  have hs : s.payload = none := by
    rw [messageStorageInitFromJs_payload L hin, hpayload]
    rfl
  simp only [createNapiValueFromStorage, hs]
  rfl

/-- A message with one string header, flags and a payload, through a library that accepts every
header. -/
theorem message_round_trip_string_header :
    let L : EventStreamLib := ⟨fun _ _ => .ok (), fun _ _ _ _ _ _ => rfl⟩
    let m : Message :=
      ⟨0, some 2, some [⟨"content-type", .String, .string "json"⟩], some (.string "{}")⟩
    (∀ s, utf8Decode (utf8 s) = s) ∧ (∀ h ∈ m.headers.getD [], Built h) ∧
      (∀ h ∈ m.headers.getD [], Fits h) ∧ (0 ≤ m.type ∧ m.type ≤ 4294967295) ∧
      (∀ f, m.flags = some f → 0 ≤ f ∧ f ≤ 4294967295) ∧ m.payload ≠ none ∧
      ∃ s, messageStorageInitFromJs L m = .ok s ∧
        ∃ m', createNapiValueFromStorage utf8Decode s = .ok m' ∧
          (mapPodMessageToJSMessage m').type = m.type ∧
          (mapPodMessageToJSMessage m').flags = some (m.flags.getD 0) ∧
          List.Forall₂ Header.Agrees (m.headers.getD [])
            ((mapPodMessageToJSMessage m').headers.getD []) := by
  intro L m
  have hbuilt : ∀ h ∈ m.headers.getD [], Built h := by
    simp only [m, Option.getD_some, List.mem_singleton, forall_eq]
    exact @Built.newString "content-type" "json" _ rfl
  have hfits : ∀ h ∈ m.headers.getD [], Fits h := by
    simp only [m, Option.getD_some, List.mem_singleton, forall_eq]
    refine ⟨by decide, ?_, by simp⟩
    intro bs hbs
    simp only [jsBytes, Option.some.injEq] at hbs
    subst hbs
    decide
  have htype : 0 ≤ m.type ∧ m.type ≤ 4294967295 := by decide
  have hflags : ∀ f, m.flags = some f → 0 ≤ f ∧ f ≤ 4294967295 := by
    simp [m]
  have hpayload : m.payload ≠ none := by simp [m]
  exact ⟨utf8Decode_utf8, hbuilt, hfits, htype, hflags, hpayload,
    message_round_trip L utf8Decode utf8Decode_utf8 hbuilt hfits htype hflags hpayload⟩

/-! ## A timestamp before 1970 -/

/-- A message with a one-byte payload and the header
`Header.newTimeStampFromDate("t", new Date(-1))` is taken by the native side, and converting it back
fails with `AWS_ERROR_INVALID_ARGUMENT`. -/
theorem timestamp_before_epoch_lost (L : EventStreamLib) (napiString : List UInt8 → String)
    (dateString : JsDate → String) :
    newTimeStampFromDate dateString "t" (JsDate.ofTime (-1) (by decide)) =
        .ok ⟨"t", .Timestamp, .number (-1)⟩ ∧
      ∃ s, messageStorageInitFromJs L
          ⟨0, none, some [⟨"t", .Timestamp, .number (-1)⟩], some (.bytes [0])⟩ = .ok s ∧
        createNapiValueFromStorage napiString s = .error (.raised "AWS_ERROR_INVALID_ARGUMENT") := by
  have hadd : L.add (utf8 "t") (.timestamp (Int64.ofInt (-1))) = .ok () :=
    L.add_of_valid _ _ (by decide) (by decide) (by decide) (by simp)
  have hheader : addEventStreamHeaderFromJs L ⟨"t", .Timestamp, .number (-1)⟩ =
      .ok ⟨utf8 "t", .timestamp (Int64.ofInt (-1))⟩ := by
    simp only [addEventStreamHeaderFromJs]
    exact addIntegral_eq L (by decide) (by decide) (by decide) hadd
  refine ⟨rfl, ⟨[⟨utf8 "t", .timestamp (Int64.ofInt (-1))⟩], some [0], 0, 0⟩, ?_, ?_⟩
  · simp only [messageStorageInitFromJs, Option.getD_some, List.mapM_cons, List.mapM_nil, hheader]
    rfl
  · -- `(uint64_t)-1` is `2 ^ 64 - 1`, above `2 ^ 53 - 1`
    rfl

end AwsCrt
