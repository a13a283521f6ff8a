import AwsCrt.Lib.LittleEndian
import Mathlib.Data.Nat.Bitwise

/-!
# The int64 header value across the JS and C layers

An eventstream int64 header value crosses the binding as 8 bytes. Four loops handle it:

- `marshalInt64BigintAsBuffer` and `unmarshalInt64BigintFromBuffer`
  (`src/lib/native/eventstream_utils.ts`): BigInt arithmetic with truncating `%` and `/`; a
  negative value is encoded through `-value - 1` and byte complements, and decoded the same way
  when the top bit of byte 7 is set.
- `cursorToUint64` (the loop of `s_aws_event_stream_add_int64_header_by_cursor`,
  `src/source/event_stream.c`): `uint64_value |= byte << (i * 8)`, then the cast to `int64_t`.
- `int64ToBuffer` (the INT64 case of `s_aws_create_napi_header_value`): `value & 0xFF` and an
  arithmetic `value >>= 8` on an `int64_t`.

Each is shown equal to the two's-complement form `LittleEndian.intBytes 8` or its inverse
`LittleEndian.signedValue` (`marshal_eq`, `unmarshal_eq`, `cursorToUint64_toInt`,
`int64ToBuffer_eq`); `int64_wire_form` assembles the round trips.
-/

namespace AwsCrt

open LittleEndian

/-- `MAX_INT64`. -/
def MAX_INT64 : Int := 9223372036854775807
/-- `MIN_INT64`. -/
def MIN_INT64 : Int := -9223372036854775808
/-- `MAX_UINT8_AS_BIGINT`. -/
def MAX_UINT8_AS_BIGINT : Int := 256

/-- The loop `for (i = 0; i < 8; ++i) { buffer[i] = byte(value % 256n); value /= 256n; }`:
BigInt `%` and `/` truncate, a store into a `Uint8Array` wraps modulo 256 (`UInt8.ofInt`). -/
def marshalLoop (byte : Int → Int) : Nat → Int → List UInt8
  | 0, _ => []
  | n + 1, value =>
    UInt8.ofInt (byte (value.tmod MAX_UINT8_AS_BIGINT)) ::
      marshalLoop byte n (value.tdiv MAX_UINT8_AS_BIGINT)

/-- `marshalInt64BigintAsBuffer(value)`. -/
def marshalInt64BigintAsBuffer (value : Int) : Except String (List UInt8) :=
  if value < MIN_INT64 ∨ value > MAX_INT64 then
    .error "marshalInt64BigintAsBuffer expects a value that can fit in 8 bytes"
  else if value < 0 then
    -- `value = -value - BigInt(1)`, then `buffer[i] = 255 - Number(value % 256n)`
    .ok (marshalLoop (fun r => 255 - r) 8 (-value - 1))
  else
    .ok (marshalLoop id 8 value)

/-- The loop `for (...) { value += byteValue(byteView[i]) * shift; shift *= 256n; }`. -/
def unmarshalLoop (byteValue : UInt8 → Int) : List UInt8 → Int → Int → Int
  | [], value, _ => value
  | b :: bs, value, shift =>
    unmarshalLoop byteValue bs (value + byteValue b * shift) (shift * MAX_UINT8_AS_BIGINT)

/-- `unmarshalInt64BigintFromBuffer(buffer)`, the buffer's bytes as `byteView`. -/
def unmarshalInt64BigintFromBuffer (buffer : List UInt8) : Except String Int :=
  if buffer.length ≠ 8 then
    .error "unmarshalInt64BigintFromBuffer expects a byte buffer of length 8"
  else if (buffer.getD 7 0 &&& 0x80) ≠ 0 then
    .ok (-(unmarshalLoop (fun b => 255 - (b.toNat : Int)) buffer 0 1 + 1))
  else
    .ok (unmarshalLoop (fun b => (b.toNat : Int)) buffer 0 1)

/-- The loop of `s_aws_event_stream_add_int64_header_by_cursor`, from byte index `i`:
`uint64_value |= (byte_value << (i * 8))`. -/
def cursorToUint64 : List UInt8 → Nat → UInt64 → UInt64
  | [], _, acc => acc
  | b :: bs, i, acc => cursorToUint64 bs (i + 1) (acc ||| (b.toUInt64 <<< (i * 8).toUInt64))

/-- `int64_t int64_value = uint64_value` after the loop over the 8-byte cursor. -/
def int64ValueOfCursor (value : List UInt8) : Int64 := (cursorToUint64 value 0 0).toInt64

/-- The INT64 case of `s_aws_create_napi_header_value`:
`buffer[i] = (uint8_t)(value & 0xFF); value >>= 8;` on an `int64_t`. -/
def int64ToBuffer : Nat → Int64 → List UInt8
  | 0, _ => []
  | n + 1, value => (value &&& 0xFF).toUInt64.toUInt8 :: int64ToBuffer n (value >>> 8)

/-! ## The JS encoder -/

theorem marshalLoop_id (k : Nat) {v : Int} (hv : 0 ≤ v) : marshalLoop id k v = intBytes k v := by
  induction k generalizing v with
  | zero => rfl
  | succ k ih =>
    have hq : 0 ≤ v / 256 := Int.ediv_nonneg hv (by decide)
    simp only [marshalLoop, intBytes, MAX_UINT8_AS_BIGINT, id, Int.tmod_eq_emod_of_nonneg hv,
      Int.tdiv_eq_ediv_of_nonneg hv, ih hq, List.cons.injEq, and_true]
    simp [UInt8.ofInt]

theorem marshalLoop_complement (k : Nat) {v : Int} (hv : 0 ≤ v) :
    marshalLoop (fun r => 255 - r) k v = (intBytes k v).map (255 - ·) := by
  induction k generalizing v with
  | zero => rfl
  | succ k ih =>
    have hq : 0 ≤ v / 256 := Int.ediv_nonneg hv (by decide)
    simp only [marshalLoop, intBytes, MAX_UINT8_AS_BIGINT, Int.tmod_eq_emod_of_nonneg hv,
      Int.tdiv_eq_ediv_of_nonneg hv, ih hq, List.map_cons, List.cons.injEq, and_true]
    apply UInt8.toNat.inj
    simp only [UInt8.ofInt, UInt8.toNat_sub, UInt8.toNat_ofNat', UInt8.toNat_ofNat]
    omega

/-- In range, the JS encoder writes the two's-complement form of `value` in 8 bytes. -/
theorem marshal_eq {value : Int} (hlo : MIN_INT64 ≤ value) (hhi : value ≤ MAX_INT64) :
    marshalInt64BigintAsBuffer value = .ok (intBytes 8 value) := by
  unfold marshalInt64BigintAsBuffer
  rw [if_neg (by simp only [MIN_INT64, MAX_INT64] at *; omega)]
  split <;> rename_i hneg
  · -- `255 - b` over the bytes of `-value - 1` is the byte string of `2 ^ 64 + value`
    have hn : 0 ≤ -value - 1 := by omega
    rw [marshalLoop_complement 8 hn, intBytes_of_nonneg 8 hn,
      map_complement_bytes 8 (by simp only [MIN_INT64] at hlo; omega)]
    have h : (256 ^ 8 - 1 - (-value - 1).toNat : Nat) = (value + 256 ^ 8 * 1).toNat := by
      simp only [MIN_INT64] at hlo; omega
    rw [h, ← intBytes_of_nonneg 8 (by simp only [MIN_INT64] at hlo; omega), intBytes_add_mul]
  · rw [marshalLoop_id 8 (by omega)]

theorem marshal_error {value : Int} (h : value < MIN_INT64 ∨ value > MAX_INT64) :
    marshalInt64BigintAsBuffer value =
      .error "marshalInt64BigintAsBuffer expects a value that can fit in 8 bytes" := by
  simp [marshalInt64BigintAsBuffer, h]

/-! ## The JS decoder -/

theorem unmarshalLoop_eq (g : UInt8 → UInt8) (bs : List UInt8) (value shift : Int) :
    unmarshalLoop (fun b => ((g b).toNat : Int)) bs value shift =
      value + shift * LittleEndian.value (bs.map g) := by
  induction bs generalizing value shift with
  | nil => simp [unmarshalLoop]
  | cons b bs ih =>
    simp only [unmarshalLoop, ih, MAX_UINT8_AS_BIGINT, List.map_cons, value_cons]
    push_cast
    ring

theorem and_128_ne_zero {n : Nat} (hn : n < 256) : n &&& 128 ≠ 0 ↔ 128 ≤ n := by
  rw [show (128 : Nat) = 2 ^ 7 from rfl, Nat.and_two_pow]
  by_cases h : 2 ^ 7 ≤ n
  · rw [Nat.testBit_of_two_pow_le_and_two_pow_add_one_gt h hn]
    simp only [Bool.toNat_true, Nat.one_mul, ne_eq, Nat.pow_eq_zero, OfNat.ofNat_ne_zero,
      false_and, not_false_eq_true, true_iff]
    omega
  · rw [Nat.testBit_lt_two_pow (by omega)]
    simp only [Bool.toNat_false, Nat.zero_mul, ne_eq, not_true_eq_false, false_iff]
    omega

/-- The sign test `(byteView[7] & 0x80) != 0` of an 8-byte buffer is `value ≥ 2 ^ 63`. -/
theorem sign_bit_iff {bs : List UInt8} (hl : bs.length = 8) :
    (bs.getD 7 0 &&& 0x80) ≠ 0 ↔ 2 ^ 63 ≤ LittleEndian.value bs := by
  obtain ⟨init, b, rfl⟩ : ∃ init b, bs = init ++ [b] :=
    ⟨bs.dropLast, bs.getLast (by rintro rfl; simp at hl), (List.dropLast_append_getLast _).symm⟩
  have hi : init.length = 7 := by simpa using hl
  have hv := value_lt init
  rw [value_append_singleton, hi]
  rw [hi] at hv
  have hget : (init ++ [b]).getD 7 0 = b := by
    simp [List.getD_eq_getElem?_getD, hi]
  have hb := b.toNat_lt
  rw [hget, ne_eq, ← UInt8.toNat_inj, UInt8.toNat_and, ← ne_eq]
  simp only [UInt8.toNat_ofNat]
  rw [and_128_ne_zero hb]
  constructor <;> intro h <;> omega

/-- The JS decoder reads an 8-byte buffer as a two's-complement integer. -/
theorem unmarshal_eq {bs : List UInt8} (hl : bs.length = 8) :
    unmarshalInt64BigintFromBuffer bs = .ok (signedValue bs) := by
  have hlt := value_lt bs
  rw [hl] at hlt
  unfold unmarshalInt64BigintFromBuffer signedValue
  rw [if_neg (by simp [hl]), hl]
  have hc := unmarshalLoop_eq (255 - ·) bs 0 1
  have hp := unmarshalLoop_eq id bs 0 1
  simp only [List.map_id_fun, id, zero_add, one_mul] at hc hp
  split <;> rename_i hneg
  · rw [sign_bit_iff hl] at hneg
    -- the complement sum is `2 ^ 64 - 1 - value`
    have hcomp : (unmarshalLoop (fun b => 255 - (b.toNat : Int)) bs 0 1) =
        unmarshalLoop (fun b => ((255 - b).toNat : Int)) bs 0 1 := by
      congr 1; funext b
      simp only [UInt8.toNat_sub, UInt8.toNat_ofNat]
      have := b.toNat_lt; push_cast; omega
    rw [hcomp, hc, value_map_complement, hl, if_neg (by omega)]
    congr 1
    omega
  · rw [sign_bit_iff hl] at hneg
    rw [hp, if_pos (by omega)]

/-! ## The C decoder and encoder -/

/-- The shift-or loop adds `byte * 2 ^ (8 * i)`: the bits it sets are above those already set. -/
theorem cursorToUint64_toNat (bs : List UInt8) (i : Nat) (acc : UInt64)
    (hacc : acc.toNat < 2 ^ (8 * i)) (hi : i + bs.length ≤ 8) :
    (cursorToUint64 bs i acc).toNat = acc.toNat + 2 ^ (8 * i) * LittleEndian.value bs := by
  induction bs generalizing i acc with
  | nil => simp [cursorToUint64]
  | cons b bs ih =>
    simp only [List.length_cons] at hi
    have hb := b.toNat_lt
    have hpow : 2 ^ (8 * (i + 1)) = 2 ^ (8 * i) * 256 := by rw [Nat.mul_add, Nat.pow_add]
    have hle : 2 ^ (8 * (i + 1)) ≤ 2 ^ 64 := Nat.pow_le_pow_right (by decide) (by omega)
    -- the new byte sits above the accumulated bits, so `|||` is `+`
    have hstep : (acc ||| (b.toUInt64 <<< (i * 8).toUInt64)).toNat =
        acc.toNat + 2 ^ (8 * i) * b.toNat := by
      have hs : ((i * 8).toUInt64.toNat % 64) = 8 * i := by
        simp only [Nat.toUInt64_eq, UInt64.toNat_ofNat']
        omega
      have hlt : b.toNat <<< (8 * i) < 2 ^ 64 := by
        rw [Nat.shiftLeft_eq]; calc b.toNat * 2 ^ (8 * i) < 256 * 2 ^ (8 * i) :=
              Nat.mul_lt_mul_of_pos_right (by simpa using hb) (Nat.two_pow_pos _)
          _ = 2 ^ (8 * (i + 1)) := by rw [hpow, Nat.mul_comm]
          _ ≤ 2 ^ 64 := hle
      rw [UInt64.toNat_or, UInt64.toNat_shiftLeft, UInt8.toNat_toUInt64, hs, Nat.mod_eq_of_lt hlt,
        Nat.or_comm, ← Nat.shiftLeft_add_eq_or_of_lt hacc, Nat.shiftLeft_eq]
      ring
    have hacc' : (acc ||| (b.toUInt64 <<< (i * 8).toUInt64)).toNat < 2 ^ (8 * (i + 1)) := by
      have := Nat.mul_le_mul_left (2 ^ (8 * i)) (show b.toNat ≤ 255 by omega)
      rw [hstep, hpow]
      omega
    rw [cursorToUint64, ih (i + 1) _ hacc' (by omega), hstep, hpow, value_cons]
    ring

/-- The C decoder reads an 8-byte cursor as a two's-complement `int64_t`. -/
theorem cursorToUint64_toInt {bs : List UInt8} (hl : bs.length = 8) :
    (int64ValueOfCursor bs).toInt = signedValue bs := by
  have hn := cursorToUint64_toNat bs 0 0 (by simp) (by omega)
  simp only [UInt64.toNat_zero, Nat.mul_zero, pow_zero, one_mul, zero_add] at hn
  have hlt := value_lt bs
  rw [hl] at hlt
  rw [int64ValueOfCursor, ← Int64.toInt_toBitVec, UInt64.toBitVec_toInt64,
    BitVec.toInt_eq_toNat_cond, UInt64.toNat_toBitVec, hn, signedValue, hl]
  split <;> split <;> first | rfl | omega

/-- The C encoder writes the two's-complement form of the `int64_t` in 8 bytes. -/
theorem int64ToBuffer_eq (k : Nat) (v : Int64) : int64ToBuffer k v = intBytes k v.toInt := by
  induction k generalizing v with
  | zero => rfl
  | succ k ih =>
    have hshift : (v >>> 8).toInt = v.toInt / 256 := by
      rw [← Int64.toInt_toBitVec, Int64.toBitVec_shiftRight, BitVec.toInt_sshiftRight',
        Int64.toInt_toBitVec, Int.shiftRight_eq_div_pow]
      rfl
    have hbyte : (v &&& 0xFF).toUInt64.toUInt8 = UInt8.ofInt v.toInt := by
      apply UInt8.toNat.inj
      rw [UInt64.toNat_toUInt8, ← Int64.toNat_toBitVec, Int64.toBitVec_and, BitVec.toNat_and]
      have hbv : v.toBitVec.toNat = (v.toInt % 2 ^ 64).toNat := by
        have h := BitVec.toNat_ofInt (n := 64) v.toInt
        rw [← Int64.toInt_toBitVec, BitVec.ofInt_toInt] at h
        rw [h]
        simp
      simp only [UInt8.ofInt, UInt8.toNat_ofNat', hbv]
      have h255 : (0xFF : Int64).toBitVec.toNat = 2 ^ 8 - 1 := by decide
      rw [h255, Nat.and_two_pow_sub_one_eq_mod]
      omega
    rw [int64ToBuffer, intBytes, ih, hshift, hbyte]

/-! ## The wire form -/

/-- One little-endian two's-complement wire form for eventstream int64 values. In range,
`marshalInt64BigintAsBuffer v` is the 8-byte little-endian encoding of `v mod 2 ^ 64`, which the JS
decoder and the C decoder both read back as `v`; the JS encoder inverts the JS decoder on every
8-byte buffer; the bytes of the C encoder decode to its value; out of range, marshal throws. -/
theorem int64_wire_form :
    (∀ v : Int, MIN_INT64 ≤ v → v ≤ MAX_INT64 →
      marshalInt64BigintAsBuffer v = .ok (bytes 8 (v % 2 ^ 64).toNat) ∧
      unmarshalInt64BigintFromBuffer (intBytes 8 v) = .ok v ∧
      (int64ValueOfCursor (intBytes 8 v)).toInt = v) ∧
    (∀ b : List UInt8, b.length = 8 →
      ∃ v, unmarshalInt64BigintFromBuffer b = .ok v ∧ marshalInt64BigintAsBuffer v = .ok b) ∧
    (∀ v : Int64, unmarshalInt64BigintFromBuffer (int64ToBuffer 8 v) = .ok v.toInt) ∧
    (∀ v : Int, v < MIN_INT64 ∨ v > MAX_INT64 →
      marshalInt64BigintAsBuffer v =
        .error "marshalInt64BigintAsBuffer expects a value that can fit in 8 bytes") := by
  have hread : ∀ v : Int, MIN_INT64 ≤ v → v ≤ MAX_INT64 → signedValue (intBytes 8 v) = v :=
    fun v hlo hhi => signedValue_intBytes 8 (by decide) (by simpa [MIN_INT64] using hlo)
      (by simp only [MAX_INT64] at hhi; norm_num; omega)
  refine ⟨fun v hlo hhi => ⟨?_, ?_, ?_⟩, fun b hb => ?_, fun v => ?_, fun v h => marshal_error h⟩
  · rw [marshal_eq hlo hhi, intBytes_eq_bytes_emod]
    norm_num
  · rw [unmarshal_eq (length_intBytes 8 v), hread v hlo hhi]
  · rw [cursorToUint64_toInt (length_intBytes 8 v), hread v hlo hhi]
  · -- the decoded value is in range, and encoding it gives the buffer back
    have hs := intBytes_signedValue b
    rw [hb] at hs
    have hv := value_lt b
    rw [hb] at hv
    have hrange : MIN_INT64 ≤ signedValue b ∧ signedValue b ≤ MAX_INT64 := by
      unfold signedValue; rw [hb]; simp only [MIN_INT64, MAX_INT64]
      split <;> push_cast <;> omega
    exact ⟨_, unmarshal_eq hb, by rw [marshal_eq hrange.1 hrange.2, hs]⟩
  · have hlo : MIN_INT64 ≤ v.toInt := by have := v.le_toInt; simp only [MIN_INT64]; omega
    have hhi : v.toInt ≤ MAX_INT64 := by have := v.toInt_lt; simp only [MAX_INT64]; omega
    rw [int64ToBuffer_eq, unmarshal_eq (length_intBytes 8 _), hread _ hlo hhi]

/-- At `MIN_INT64`: the wire form is `00 … 00 80`, and both decoders read `-2 ^ 63` back. -/
theorem int64_wire_form_min :
    marshalInt64BigintAsBuffer MIN_INT64 = .ok (bytes 8 (MIN_INT64 % 2 ^ 64).toNat) ∧
      unmarshalInt64BigintFromBuffer (intBytes 8 MIN_INT64) = .ok MIN_INT64 ∧
      (int64ValueOfCursor (intBytes 8 MIN_INT64)).toInt = MIN_INT64 :=
  int64_wire_form.1 MIN_INT64 le_rfl (by decide)

end AwsCrt
