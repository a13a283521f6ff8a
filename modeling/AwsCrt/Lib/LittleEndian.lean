import Mathlib.Tactic.Ring
import Mathlib.Tactic.Positivity

/-!
# Little-endian byte strings

The base-256 digits of numbers, least significant byte first, as byte-serialising code computes
them: `bytes k n` by repeated `% 256` and `/ 256` of a natural number, `intBytes k x` by floor
division of an integer (an arithmetic right shift), `value bs` by summing `b * 256 ^ i`.

* `value_bytes` and `bytes_value`: `value` and `bytes` are inverse up to `% 256 ^ k`.
* `intBytes_add_mul`: the `k` low bytes of an integer only depend on it modulo `256 ^ k`;
  `intBytes_of_nonneg`: on a natural number they are `bytes`. So `intBytes k x` is the
  two's-complement form of `x` in `k` bytes (`intBytes_eq_bytes_emod`).
* `map_complement_bytes`: complementing every byte is subtracting from `256 ^ k - 1`.
* `signedValue`: a byte string read as a two's-complement integer; `signedValue_intBytes` and
  `intBytes_signedValue` make it the inverse of `intBytes` on the representable range.
-/

namespace LittleEndian

/-- The `k` low bytes of `n`, least significant first. -/
def bytes : Nat → Nat → List UInt8
  | 0, _ => []
  | k + 1, n => UInt8.ofNat n :: bytes k (n / 256)

/-- The `k` low bytes of `x`, by floor division: its two's-complement form in `k` bytes. -/
def intBytes : Nat → Int → List UInt8
  | 0, _ => []
  | k + 1, x => UInt8.ofInt x :: intBytes k (x / 256)

/-- The number whose little-endian bytes are `bs`. -/
def value : List UInt8 → Nat
  | [] => 0
  | b :: bs => b.toNat + 256 * value bs

/-- `bs` read as a two's-complement integer: the top bit of the last byte is the sign. -/
def signedValue (bs : List UInt8) : Int :=
  if value bs < 2 ^ (8 * bs.length - 1) then value bs else (value bs : Int) - 2 ^ (8 * bs.length)

@[simp] theorem length_bytes (k n : Nat) : (bytes k n).length = k := by
  induction k generalizing n <;> simp [bytes, *]

@[simp] theorem length_intBytes (k : Nat) (x : Int) : (intBytes k x).length = k := by
  induction k generalizing x <;> simp [intBytes, *]

@[simp] theorem value_nil : value [] = 0 := rfl

@[simp] theorem value_cons (b : UInt8) (bs : List UInt8) : value (b :: bs) = b.toNat + 256 * value bs :=
  rfl

theorem value_lt (bs : List UInt8) : value bs < 256 ^ bs.length := by
  induction bs with
  | nil => simp
  | cons b bs ih =>
    have hb := b.toNat_lt
    rw [value_cons, List.length_cons, Nat.pow_succ]
    generalize 256 ^ bs.length = m at ih
    simp only [Nat.reducePow] at hb
    omega

theorem value_append_singleton (bs : List UInt8) (b : UInt8) :
    value (bs ++ [b]) = value bs + 256 ^ bs.length * b.toNat := by
  induction bs with
  | nil => simp
  | cons c bs ih => simp [ih, Nat.pow_succ]; ring

theorem value_bytes (k n : Nat) : value (bytes k n) = n % 256 ^ k := by
  induction k generalizing n with
  | zero => simp [bytes, Nat.mod_one]
  | succ k ih =>
    rw [bytes, value_cons, ih, Nat.pow_succ, Nat.mul_comm _ 256, Nat.mod_mul]
    simp

theorem bytes_value (bs : List UInt8) : bytes bs.length (value bs) = bs := by
  induction bs with
  | nil => rfl
  | cons b bs ih =>
    have hb := b.toNat_lt
    simp only [Nat.reducePow] at hb
    have hd : (b.toNat + 256 * value bs) / 256 = value bs := by omega
    simp only [List.length_cons, bytes, value_cons, hd, ih, List.cons.injEq, and_true]
    apply UInt8.toNat.inj
    simp only [UInt8.toNat_ofNat']
    omega

theorem intBytes_of_nonneg (k : Nat) {x : Int} (hx : 0 ≤ x) : intBytes k x = bytes k x.toNat := by
  induction k generalizing x with
  | zero => rfl
  | succ k ih =>
    have hd : x / 256 = ((x.toNat / 256 : Nat) : Int) := by omega
    rw [intBytes, bytes, ih (Int.ediv_nonneg hx (by decide)), hd, Int.toNat_natCast]
    congr 1
    apply UInt8.toNat.inj
    simp only [UInt8.ofInt, UInt8.toNat_ofNat']
    omega

/-- The `k` low bytes of an integer only depend on it modulo `256 ^ k`. -/
theorem intBytes_add_mul (k : Nat) (x t : Int) : intBytes k (x + 256 ^ k * t) = intBytes k x := by
  induction k generalizing x t with
  | zero => rfl
  | succ k ih =>
    have hm : (x + 256 ^ (k + 1) * t) % 256 = x % 256 := by
      rw [pow_succ, mul_comm _ (256 : Int), mul_assoc, Int.add_mul_emod_self_left]
    have hd : (x + 256 ^ (k + 1) * t) / 256 = x / 256 + 256 ^ k * t := by
      rw [pow_succ, mul_comm _ (256 : Int), mul_assoc, Int.add_mul_ediv_left _ _ (by decide)]
    rw [intBytes, intBytes, hd, ih]
    congr 1
    simp only [UInt8.ofInt, Int.reducePow, hm]

/-- `intBytes` is the byte string of `x` modulo `256 ^ k`. -/
theorem intBytes_eq_bytes_emod (k : Nat) (x : Int) :
    intBytes k x = bytes k (x % 256 ^ k).toNat := by
  have hpos : (0 : Int) < 256 ^ k := by positivity
  rw [← intBytes_of_nonneg k (Int.emod_nonneg x hpos.ne'), Int.emod_def, sub_eq_add_neg,
    ← mul_neg, intBytes_add_mul]

/-- Complementing every byte is subtracting from `256 ^ k - 1`. -/
theorem map_complement_bytes (k : Nat) {n : Nat} (hn : n < 256 ^ k) :
    (bytes k n).map (255 - ·) = bytes k (256 ^ k - 1 - n) := by
  induction k generalizing n with
  | zero => rfl
  | succ k ih =>
    rw [Nat.pow_succ] at hn ⊢
    generalize hm : 256 ^ k = m at hn ih ⊢
    have hq : n / 256 < m := by omega
    have hd : (m * 256 - 1 - n) / 256 = m - 1 - n / 256 := by omega
    simp only [bytes, List.map_cons, ih hq, hd, List.cons.injEq, and_true]
    apply UInt8.toNat.inj
    simp only [UInt8.toNat_sub, UInt8.toNat_ofNat', UInt8.toNat_ofNat]
    omega

theorem value_map_complement (bs : List UInt8) :
    value (bs.map (255 - ·)) = 256 ^ bs.length - 1 - value bs := by
  conv => lhs; rw [← bytes_value bs]
  rw [map_complement_bytes _ (value_lt bs), value_bytes]
  exact Nat.mod_eq_of_lt (by have := value_lt bs; omega)

/-- The value of `intBytes k x` is `x` modulo `256 ^ k`. -/
theorem value_intBytes (k : Nat) (x : Int) :
    (value (intBytes k x) : Int) = x % 256 ^ k := by
  have hlt : (0 : Int) < 256 ^ k := by positivity
  have hnn := Int.emod_nonneg x hlt.ne'
  rw [intBytes_eq_bytes_emod, value_bytes, Int.natCast_mod, Int.toNat_of_nonneg hnn]
  push_cast
  exact Int.emod_eq_of_lt hnn (Int.emod_lt_of_pos x hlt)

/-- The two's-complement reading inverts `intBytes` on the `k`-byte range. -/
theorem signedValue_intBytes (k : Nat) (hk : 0 < k) {x : Int} (hlo : -2 ^ (8 * k - 1) ≤ x)
    (hhi : x < 2 ^ (8 * k - 1)) : signedValue (intBytes k x) = x := by
  -- `256 ^ k = 2 * 2 ^ j`, with `2 ^ j` the sign threshold
  obtain ⟨j, hj⟩ : ∃ j, 8 * k = j + 1 := ⟨8 * k - 1, by omega⟩
  have hj' : 8 * k - 1 = j := by omega
  rw [hj'] at hlo hhi
  have hM : (256 : Int) ^ k = 2 * 2 ^ j := by
    rw [show (256 : Int) = 2 ^ 8 by norm_num, ← pow_mul, hj, pow_succ, mul_comm]
  have hv := value_intBytes k x
  rw [hM] at hv
  unfold signedValue
  rw [length_intBytes, hj', hj, pow_succ]
  have hH : ((2 ^ j : Nat) : Int) = (2 : Int) ^ j := by push_cast; rfl
  rw [← hH] at hv hlo hhi ⊢
  generalize 2 ^ j = H at *
  -- the residue is `x` itself or `x + 2 * H`
  rcases le_or_gt 0 x with hx | hx
  · have : x % (2 * (H : Int)) = x := Int.emod_eq_of_lt hx (by omega)
    split <;> omega
  · have : x % (2 * (H : Int)) = x + 2 * H := by
      have h := Int.add_mul_emod_self_left x (2 * (H : Int)) 1
      rw [mul_one] at h
      rw [← h]
      exact Int.emod_eq_of_lt (by omega) (by omega)
    split <;> omega

/-- Reading back a two's-complement byte string and writing it again gives it back. -/
theorem intBytes_signedValue (bs : List UInt8) : intBytes bs.length (signedValue bs) = bs := by
  have hw : intBytes bs.length (value bs) = bs := by
    rw [intBytes_of_nonneg _ (Int.natCast_nonneg _), Int.toNat_natCast, bytes_value]
  unfold signedValue
  split
  · exact hw
  · rw [sub_eq_add_neg, show -(2 : Int) ^ (8 * bs.length) = 256 ^ bs.length * (-1) by
      rw [show (256 : Int) = 2 ^ 8 by norm_num, ← pow_mul]; ring, intBytes_add_mul, hw]

end LittleEndian
