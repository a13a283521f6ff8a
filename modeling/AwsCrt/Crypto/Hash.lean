import AwsCrt.Lib.JsString
import Mathlib.Tactic.IntervalCases

/-!
# Hashing in the browser and in the native binding

The browser classes (`src/lib/browser/crypto.ts`) call crypto-js; the native ones
(`src/lib/native/crypto.ts`) call `src/source/crypto.c`, which calls aws-c-cal. The digest
functions themselves are a parameter (`Digests`), with the lengths the standard gives them, and so
is aws-c-cal's `aws_hash_finalize` (`HashLib`), with its contract; what is modelled is how each
binding feeds them and what it returns.

Three things make the browser results differ from the native ones:
* the browser `update` sets the hash to the digest of the new chunk alone: crypto-js's second
  argument is a hasher configuration, not a running state;
* the browser `finalize` returns the UTF-8 bytes of the lowercase hexadecimal text of the digest,
  two bytes for each digest byte, and `truncate_to` counts hexadecimal characters;
* natively, `truncate_to` 0 leaves no room in the output buffer, and aws-c-cal's finalize, asked
  for the whole digest, fails; and the one-shot `hash_*_compute` functions all take `AWS_MD5_LEN`
  as the digest size.

* `BrowserHash.hash_updates`, `NativeHash.data_updates`: what a run of updates leaves.
* `browser_hash_differs`: for every list of chunks, the browser `Md5Hash` and the native one
  return different bytes from `finalize()`.
* `hash_digest_zero`: natively, `finalize(0)` throws.
* `sha256_compute_length`: natively, `hash_sha256` returns 16 bytes, the `Sha256Hash` class 32.
-/

namespace AwsCrt

open JsString

/-- The digest functions the bindings call, crypto-js in the browser and aws-c-cal natively, both
computing the standard functions of the bytes they are given. -/
structure Digests where
  md5 : List UInt8 → List UInt8
  sha1 : List UInt8 → List UInt8
  sha256 : List UInt8 → List UInt8
  /-- HMAC-SHA256 of a message (second argument) under a key (first argument). -/
  hmacSha256 : List UInt8 → List UInt8 → List UInt8
  md5_length : ∀ m, (md5 m).length = 16
  sha1_length : ∀ m, (sha1 m).length = 20
  sha256_length : ∀ m, (sha256 m).length = 32
  hmacSha256_length : ∀ k m, (hmacSha256 k m).length = 32

/-- A nibble as a lowercase hexadecimal digit. -/
def hexDigit (n : Nat) : Char := if n < 10 then Char.ofNat (48 + n) else Char.ofNat (87 + n)

/-- `WordArray.toString()`: the lowercase hexadecimal text of the bytes. -/
def hex (bs : List UInt8) : List Char :=
  bs.flatMap fun b => [hexDigit (b.toNat / 16), hexDigit (b.toNat % 16)]

/-! ## The browser classes -/

/-- The state of a browser `Md5Hash`, `Sha1Hash` or `Sha256Hash`: its `hash` word array. -/
structure BrowserHash where
  hash : Option (List UInt8)

namespace BrowserHash

/-- A new hash object: `hash` is undefined. -/
def init : BrowserHash := ⟨none⟩

/-- `update(data)`: `this.hash = Crypto.<alg>(data.toString(), this.hash ? … : undefined)`; the
second argument is crypto-js's hasher configuration, which these hashers ignore. -/
def update (alg : List UInt8 → List UInt8) (_h : BrowserHash) (data : String) : BrowserHash :=
  ⟨some (alg (utf8 data))⟩

/-- `truncate_to ? truncate_to : length`. -/
def truncation (truncate_to : Option Nat) (length : Nat) : Nat :=
  match truncate_to with
  | some t => if t = 0 then length else t
  | none => length

/-- `fromUtf8(digest.substring(0, truncate_to ? truncate_to : digest.length))`. -/
def truncateHex (digest : List Char) (truncate_to : Option Nat) : List UInt8 :=
  utf8 (String.ofList (digest.take (truncation truncate_to digest.length)))

/-- `finalize(truncate_to)`. -/
def finalize (h : BrowserHash) (truncate_to : Option Nat) : List UInt8 :=
  truncateHex (match h.hash with | some w => hex w | none => []) truncate_to

end BrowserHash

/-- The browser `hash_md5(data, truncate_to)`: through a new `Md5Hash`. -/
def browserHashMd5 (D : Digests) (data : String) (truncate_to : Option Nat) : List UInt8 :=
  (BrowserHash.init.update D.md5 data).finalize truncate_to

/-- The browser `hash_sha256(data, truncate_to)`: `Crypto.SHA256(data.toString()).toString()`. -/
def browserHashSha256 (D : Digests) (data : String) (truncate_to : Option Nat) : List UInt8 :=
  BrowserHash.truncateHex (hex (D.sha256 (utf8 data))) truncate_to

/-- The browser `hash_sha1(data, truncate_to)`. -/
def browserHashSha1 (D : Digests) (data : String) (truncate_to : Option Nat) : List UInt8 :=
  BrowserHash.truncateHex (hex (D.sha1 (utf8 data))) truncate_to

/-- The browser `Sha256Hmac`: crypto-js's progressive HMAC keeps the key and the message. -/
structure BrowserHmac where
  secret : List UInt8
  message : List UInt8

namespace BrowserHmac

/-- `new Sha256Hmac(secret)`. -/
def init (secret : String) : BrowserHmac := ⟨utf8 secret, []⟩

/-- `update(data)`: `this.hmac.update(data.toString())`. -/
def update (h : BrowserHmac) (data : String) : BrowserHmac := ⟨h.secret, h.message ++ utf8 data⟩

/-- `finalize(truncate_to)`. -/
def finalize (D : Digests) (h : BrowserHmac) (truncate_to : Option Nat) : List UInt8 :=
  BrowserHash.truncateHex (hex (D.hmacSha256 h.secret h.message)) truncate_to

end BrowserHmac

/-! ## The native binding -/

/-- `AWS_MD5_LEN`. -/
def AWS_MD5_LEN : Nat := 16

/-- `AWS_SHA1_LEN`. -/
def AWS_SHA1_LEN : Nat := 20

/-- `AWS_SHA256_LEN`. -/
def AWS_SHA256_LEN : Nat := 32

/-- `AWS_SHA256_HMAC_LEN`. -/
def AWS_SHA256_HMAC_LEN : Nat := 32

/-- How many bytes of a digest of `length` bytes `aws_hash_finalize` writes: `truncate_to` when it
is neither 0 nor past the digest, else the whole digest. -/
def finalizedLength (length truncate_to : Nat) : Nat :=
  if truncate_to ≠ 0 ∧ truncate_to < length then truncate_to else length

/-- aws-c-cal's `aws_hash_finalize(hash, output, truncate_to)` into an empty buffer of `capacity`
bytes, given the digest of what the hash was fed, as its contract states it: it writes the first
`finalizedLength` bytes of the digest, and fails with `AWS_ERROR_SHORT_BUFFER` when they do not
fit. -/
structure HashLib where
  aws_hash_finalize : (digest : List UInt8) → (capacity truncate_to : Nat) →
    Except String (List UInt8)
  finalize_of_fits : ∀ digest capacity truncate_to,
    finalizedLength digest.length truncate_to ≤ capacity →
      aws_hash_finalize digest capacity truncate_to =
        .ok (digest.take (finalizedLength digest.length truncate_to))
  finalize_of_short_buffer : ∀ digest capacity truncate_to,
    capacity < finalizedLength digest.length truncate_to →
      aws_hash_finalize digest capacity truncate_to = .error "AWS_ERROR_SHORT_BUFFER"

/-- The contract can be met. -/
example : Nonempty HashLib :=
  ⟨{ aws_hash_finalize := fun digest capacity truncate_to =>
        if finalizedLength digest.length truncate_to ≤ capacity then
          .ok (digest.take (finalizedLength digest.length truncate_to))
        else .error "AWS_ERROR_SHORT_BUFFER"
     finalize_of_fits := fun _ _ _ h => if_pos h
     finalize_of_short_buffer := fun _ _ _ h => if_neg (Nat.not_le.mpr h) }⟩

/-- Asked for no truncation, or for none shorter than the digest, `aws_hash_finalize` writes the
whole digest where it fits. -/
theorem HashLib.finalize_whole (H : HashLib) {digest : List UInt8} {capacity truncate_to : Nat}
    (htrunc : truncate_to = 0 ∨ digest.length ≤ truncate_to) (hfits : digest.length ≤ capacity) :
    H.aws_hash_finalize digest capacity truncate_to = .ok digest := by
  have hlen : finalizedLength digest.length truncate_to = digest.length := by
    unfold finalizedLength
    rw [if_neg (by omega)]
  rw [H.finalize_of_fits _ _ _ (by rw [hlen]; exact hfits), hlen, List.take_length]

/-- `napi_get_value_uint32` of a natural number. -/
def toUint32 (n : Nat) : Nat := n % 2 ^ 32

/-- The output size: `if (digest_size > truncate_to) digest_size = truncate_to` when
`truncate_to` is given. -/
def truncatedSize (digest_size : Nat) (truncate_to : Option Nat) : Nat :=
  match truncate_to with
  | none => digest_size
  | some t => if digest_size > toUint32 t then toUint32 t else digest_size

/-- A native `aws_hash` or `aws_hmac`: its function of the bytes given (for an HMAC, under its
key), `digest_size`, and the bytes it has been given. -/
structure NativeHash where
  alg : List UInt8 → List UInt8
  digest_size : Nat
  data : List UInt8

namespace NativeHash

/-- `aws_napi_hash_md5_new`. -/
def md5New (D : Digests) : NativeHash := ⟨D.md5, AWS_MD5_LEN, []⟩

/-- `aws_napi_hash_sha1_new`. -/
def sha1New (D : Digests) : NativeHash := ⟨D.sha1, AWS_SHA1_LEN, []⟩

/-- `aws_napi_hash_sha256_new`. -/
def sha256New (D : Digests) : NativeHash := ⟨D.sha256, AWS_SHA256_LEN, []⟩

/-- `aws_napi_hmac_sha256_new(secret)`. -/
def hmacSha256New (D : Digests) (secret : String) : NativeHash :=
  ⟨D.hmacSha256 (utf8 secret), AWS_SHA256_HMAC_LEN, []⟩

/-- `aws_napi_hash_update(hash, data)`, and `aws_napi_hmac_update`. -/
def hash_update (h : NativeHash) (data : String) : NativeHash := { h with data := h.data ++ utf8 data }

/-- `aws_napi_hash_digest(hash, truncate_to)`, and `aws_napi_hmac_digest`; a failed finalize is
thrown. -/
def hash_digest (H : HashLib) (h : NativeHash) (truncate_to : Option Nat) :
    Except String (List UInt8) :=
  H.aws_hash_finalize (h.alg h.data) (truncatedSize h.digest_size truncate_to)
    (truncatedSize h.digest_size truncate_to)

end NativeHash

/-- `aws_napi_hash_<alg>_compute(data, truncate_to)`: every one of them takes `AWS_MD5_LEN` as the
digest size. -/
def hashCompute (H : HashLib) (alg : List UInt8 → List UInt8) (data : String)
    (truncate_to : Option Nat) : Except String (List UInt8) :=
  H.aws_hash_finalize (alg (utf8 data)) (truncatedSize AWS_MD5_LEN truncate_to)
    (truncatedSize AWS_MD5_LEN truncate_to)

/-- `aws_napi_hash_md5_compute`. -/
def hash_md5_compute (H : HashLib) (D : Digests) : String → Option Nat → Except String (List UInt8) :=
  hashCompute H D.md5

/-- `aws_napi_hash_sha1_compute`. -/
def hash_sha1_compute (H : HashLib) (D : Digests) : String → Option Nat → Except String (List UInt8) :=
  hashCompute H D.sha1

/-- `aws_napi_hash_sha256_compute`. -/
def hash_sha256_compute (H : HashLib) (D : Digests) :
    String → Option Nat → Except String (List UInt8) :=
  hashCompute H D.sha256

/-- `aws_napi_hmac_sha256_compute(secret, data, truncate_to)`. -/
def hmac_sha256_compute (H : HashLib) (D : Digests) (secret : String) :
    String → Option Nat → Except String (List UInt8) :=
  hashCompute H (D.hmacSha256 (utf8 secret))

/-! ## Lengths -/

theorem length_utf8EncodeChar_hexDigit {n : Nat} (hn : n < 16) :
    (String.utf8EncodeChar (hexDigit n)).length = 1 := by
  interval_cases n <;> decide

theorem length_hex (bs : List UInt8) : (hex bs).length = 2 * bs.length := by
  induction bs with
  | nil => rfl
  | cons b bs ih => simp [hex] at ih ⊢; omega

theorem mem_hex {bs : List UInt8} {c : Char} (hc : c ∈ hex bs) : ∃ n < 16, c = hexDigit n := by
  simp only [hex, List.mem_flatMap, List.mem_cons, List.not_mem_nil, or_false] at hc
  obtain ⟨b, -, rfl | rfl⟩ := hc
  · exact ⟨b.toNat / 16, by have := b.toNat_lt; omega, rfl⟩
  · exact ⟨b.toNat % 16, Nat.mod_lt _ (by decide), rfl⟩

/-- The browser's output for a digest: one byte for each hexadecimal digit kept. -/
theorem length_truncateHex_hex (w : List UInt8) (truncate_to : Option Nat) :
    (BrowserHash.truncateHex (hex w) truncate_to).length =
      min (BrowserHash.truncation truncate_to (2 * w.length)) (2 * w.length) := by
  unfold BrowserHash.truncateHex
  -- every character kept is a hexadecimal digit, one byte in UTF-8
  have hascii : ∀ c ∈ (hex w).take (BrowserHash.truncation truncate_to (hex w).length),
      (String.utf8EncodeChar c).length = 1 := by
    intro c hc
    obtain ⟨n, hn, rfl⟩ := mem_hex (List.mem_of_mem_take hc)
    exact length_utf8EncodeChar_hexDigit hn
  rw [length_utf8_ofList hascii, List.length_take, length_hex]

/-! ## Runs of updates -/

/-- Only the last chunk given to a browser hash counts. -/
theorem BrowserHash.hash_updates (alg : List UInt8 → List UInt8) (chunks : List String)
    (h : BrowserHash) :
    (chunks.foldl (BrowserHash.update alg) h).hash =
      match chunks.getLast? with
      | some c => some (alg (utf8 c))
      | none => h.hash := by
  induction chunks generalizing h with
  | nil => rfl
  | cons c cs ih =>
    rw [List.foldl_cons, ih]
    cases cs with
    | nil => rfl
    | cons d ds =>
      cases hl : (d :: ds).getLast? with
      | none => simp at hl
      | some x => rw [List.getLast?_cons_cons, hl]

/-- A native hash is given every chunk, in order. -/
theorem NativeHash.data_updates (chunks : List String) (h : NativeHash) :
    (chunks.foldl NativeHash.hash_update h).data = h.data ++ chunks.flatMap utf8 ∧
      (chunks.foldl NativeHash.hash_update h).alg = h.alg ∧
      (chunks.foldl NativeHash.hash_update h).digest_size = h.digest_size := by
  induction chunks generalizing h with
  | nil => simp
  | cons c cs ih =>
    obtain ⟨hd, ha, hs⟩ := ih (h.hash_update c)
    refine ⟨?_, ha, hs⟩
    rw [List.foldl_cons, hd]
    simp [NativeHash.hash_update]

/-- `finalize()` of a native hash whose digest has its `digest_size`: the whole digest. -/
theorem NativeHash.hash_digest_none (H : HashLib) (h : NativeHash)
    (hlen : (h.alg h.data).length = h.digest_size) : h.hash_digest H none = .ok (h.alg h.data) :=
  H.finalize_whole (.inr hlen.le) hlen.le

/-- Natively, `finalize(0)` throws: the output buffer gets no room, and aws-c-cal is asked for the
whole digest. -/
theorem hash_digest_zero (H : HashLib) (h : NativeHash)
    (hlen : (h.alg h.data).length = h.digest_size) (hpos : 0 < h.digest_size) :
    h.hash_digest H (some 0) = .error "AWS_ERROR_SHORT_BUFFER" := by
  have hsize : truncatedSize h.digest_size (some 0) = 0 := by
    simp [truncatedSize, toUint32, hpos]
  -- truncating to 0 asks for the whole digest, into no room
  have hwhole : finalizedLength (h.alg h.data).length 0 = h.digest_size := by
    simp [finalizedLength, hlen]
  rw [NativeHash.hash_digest, hsize]
  exact H.finalize_of_short_buffer _ _ _ (hwhole ▸ hpos)

/-- The one-shot `hash_sha256` keeps `AWS_MD5_LEN` bytes of the digest; the `Sha256Hash` class
returns all of them. -/
theorem sha256_compute_length (H : HashLib) (D : Digests) (data : String) :
    hash_sha256_compute H D data none = .ok ((D.sha256 (utf8 data)).take 16) ∧
      ((NativeHash.sha256New D).hash_update data).hash_digest H none =
        .ok (D.sha256 (utf8 data)) := by
  -- `AWS_MD5_LEN` is shorter than the digest, so it is a truncation
  have hkept : finalizedLength (D.sha256 (utf8 data)).length AWS_MD5_LEN = 16 := by
    simp [finalizedLength, D.sha256_length, AWS_MD5_LEN]
  constructor
  · rw [hash_sha256_compute, hashCompute, truncatedSize,
      H.finalize_of_fits _ _ _ (by rw [hkept]; rfl), hkept]
  · exact NativeHash.hash_digest_none H _ (D.sha256_length _)

/-- For every list of chunks the browser `Md5Hash` and the native one return different bytes from
`finalize()`: the native one the 16 bytes of the digest of all the chunks, the browser one the
32 bytes of the hexadecimal text of the digest of the last chunk (none if there is none). -/
theorem browser_hash_differs (D : Digests) (H : HashLib) (chunks : List String) :
    Except.ok ((chunks.foldl (BrowserHash.update D.md5) BrowserHash.init).finalize none) ≠
      (chunks.foldl NativeHash.hash_update (NativeHash.md5New D)).hash_digest H none := by
  obtain ⟨hdata, halg, hsize⟩ := NativeHash.data_updates chunks (NativeHash.md5New D)
  have hlen : ((chunks.foldl NativeHash.hash_update (NativeHash.md5New D)).alg
      (chunks.foldl NativeHash.hash_update (NativeHash.md5New D)).data).length =
      (chunks.foldl NativeHash.hash_update (NativeHash.md5New D)).digest_size := by
    rw [halg, hsize]; exact D.md5_length _
  rw [NativeHash.hash_digest_none H _ hlen]
  intro heq
  have hbytes := congrArg List.length (Except.ok.inj heq)
  rw [hlen, hsize] at hbytes
  -- the browser output has 0 or 32 bytes, the native one 16
  unfold BrowserHash.finalize at hbytes
  rw [BrowserHash.hash_updates] at hbytes
  rcases hl : chunks.getLast? with _ | c
  · rw [hl] at hbytes
    simp [BrowserHash.init, BrowserHash.truncateHex, utf8, NativeHash.md5New, AWS_MD5_LEN] at hbytes
  · rw [hl] at hbytes
    simp only at hbytes
    rw [length_truncateHex_hex, D.md5_length] at hbytes
    simp [BrowserHash.truncation, NativeHash.md5New, AWS_MD5_LEN] at hbytes

end AwsCrt
