import Mathlib

/-!
# `String.prototype.split` and `Array.prototype.join`

ECMAScript's `s.split(sep)` for a one-character separator returns the pieces between the
occurrences of `sep`, empty pieces included, so it never returns an empty array. It is computed
on the characters of the string (`List.splitOn`), so that it evaluates. `parts.join(sep)` is
Lean's `String.intercalate sep parts`.

* `split_intercalate`: splitting a join at a separator that no part contains gives the parts back;
  `intercalate_split`: joining the pieces of a split gives the string back, so `split_inj`;
  `split_of_not_mem`: a string without the separator splits into itself; `not_mem_intercalate`:
  a join holds no character that its parts and separator lack.
* `length_split`: the number of pieces is one more than the number of separators.

`includes s t` is `s.indexOf(t) != -1`. `utf8` is the UTF-8 encoding of a string, as `fromUtf8`,
`Buffer.from` and the N-API string functions compute it, and `utf8Decode` undoes it
(`utf8Decode_utf8`); `utf16Length` is a string's `length`, in
UTF-16 code units; `encodeURIComponent` percent-encodes the UTF-8 bytes of every character outside
its unreserved set.
-/

namespace JsString

/-- `s.split(sep)` for a one-character separator. -/
def split (s : String) (sep : Char) : List String := (s.toList.splitOn sep).map String.ofList

/-- Splitting a join at a separator that no part contains gives the parts back. -/
theorem split_intercalate {parts : List String} {sep : Char} (hsep : ∀ p ∈ parts, sep ∉ p.toList)
    (hne : parts ≠ []) : split (String.intercalate (String.singleton sep) parts) sep = parts := by
  have h : ([sep].intercalate (parts.map String.toList)).splitOn sep =
      parts.map String.toList :=
    List.splitOn_intercalate sep (by simpa using hsep) (by simpa using hne)
  rw [split, String.toList_intercalate, String.toList_singleton, h, List.map_map]
  conv => rhs; rw [← List.map_id parts]
  apply List.map_congr_left
  intro p _
  simp

/-- A character other than the separator occurs in a join only if it occurs in a part. -/
theorem not_mem_intercalate {parts : List String} {sep c : Char} (hc : c ≠ sep)
    (h : ∀ p ∈ parts, c ∉ p.toList) : c ∉ (String.intercalate (String.singleton sep) parts).toList := by
  induction parts with
  | nil => simp
  | cons p ps ih =>
    cases ps with
    | nil => simpa using h
    | cons q qs =>
      rw [String.intercalate_cons_cons]
      simp only [String.toList_append, String.toList_singleton, List.mem_append, List.mem_singleton,
        not_or]
      exact ⟨⟨h p (by simp), hc⟩, ih (fun r hr => h r (List.mem_cons_of_mem p hr))⟩

/-- Joining the pieces of a split at the separator gives the string back. -/
theorem intercalate_split (s : String) (sep : Char) :
    String.intercalate (String.singleton sep) (split s sep) = s := by
  apply String.toList_inj.1
  rw [String.toList_intercalate, String.toList_singleton, split, List.map_map]
  simp

theorem split_inj {s t : String} {sep : Char} (h : split s sep = split t sep) : s = t := by
  rw [← intercalate_split s sep, h, intercalate_split]

theorem split_of_not_mem {s : String} {sep : Char} (h : sep ∉ s.toList) : split s sep = [s] := by
  rw [split, List.splitOn_eq_singleton h]
  simp

/-- The pieces are one more than the separators. -/
theorem length_splitOn (xs : List Char) (sep : Char) :
    (xs.splitOn sep).length = xs.count sep + 1 := by
  induction xs with
  | nil => simp
  | cons x xs ih =>
    rw [List.splitOn_cons_eq_if_modifyHead]
    by_cases hx : x = sep
    · subst hx; simp [ih]
    · simp [hx, ih]

theorem length_split (s : String) (sep : Char) : (split s sep).length = s.toList.count sep + 1 := by
  simp [split, length_splitOn]

/-- The UTF-8 bytes of a string. -/
def utf8 (s : String) : List UInt8 := s.toList.flatMap String.utf8EncodeChar

/-- The string whose UTF-8 encoding the bytes are, or `""` when they are not UTF-8. -/
def utf8Decode (bytes : List UInt8) : String := (String.fromUTF8? bytes.toByteArray).getD ""

theorem utf8Decode_utf8 (s : String) : utf8Decode (utf8 s) = s := by
  have hbytes : (utf8 s).toByteArray = s.toByteArray := by
    rw [← String.utf8Encode_toList]
    rfl
  simp [utf8Decode, hbytes, String.fromUTF8?, s.isValidUTF8, String.fromUTF8]

/-- Bytes that are the UTF-8 encoding of a string. -/
def IsUtf8 (bytes : List UInt8) : Prop := ∃ s, utf8 s = bytes

/-- A decoder that undoes `utf8` gives UTF-8 bytes back. -/
theorem IsUtf8.decode {decode : List UInt8 → String} (hdecode : ∀ s, decode (utf8 s) = s)
    {bytes : List UInt8} (h : IsUtf8 bytes) : utf8 (decode bytes) = bytes := by
  obtain ⟨s, rfl⟩ := h
  rw [hdecode]

/-- `s.indexOf(t) != -1`: `t` occurs in `s`. -/
def includes (s t : String) : Bool := decide (t.toList <:+: s.toList)

/-- `s.length`: the UTF-16 code units of the string, two for a character outside the basic
plane. -/
def utf16Length (s : String) : Nat :=
  (s.toList.map fun c => if c.toNat < 0x10000 then 1 else 2).sum

/-- An upper-case hexadecimal digit. -/
def hexDigitUpper (n : Nat) : Char := if n < 10 then Char.ofNat (48 + n) else Char.ofNat (55 + n)

/-- The characters that `encodeURIComponent` leaves alone: ASCII letters and digits and
`- _ . ! ~ * ( )` and the apostrophe. -/
def uriUnreserved (c : Char) : Bool :=
  c.isAlphanum || ['-', '_', '.', '!', '~', '*', '(', ')', Char.ofNat 39].contains c

/-- `encodeURIComponent(s)`: every other character becomes `%XY` for each of its UTF-8
bytes. -/
def encodeURIComponent (s : String) : String :=
  String.ofList <| s.toList.flatMap fun c =>
    if uriUnreserved c then [c]
    else (String.utf8EncodeChar c).flatMap fun b =>
      ['%', hexDigitUpper (b.toNat / 16), hexDigitUpper (b.toNat % 16)]

/-- A string of one-byte characters has as many UTF-8 bytes as characters. -/
theorem length_utf8_ofList {cs : List Char}
    (h : ∀ c ∈ cs, (String.utf8EncodeChar c).length = 1) :
    (utf8 (String.ofList cs)).length = cs.length := by
  induction cs with
  | nil => rfl
  | cons c cs ih =>
    have hc := h c List.mem_cons_self
    have hcs := ih fun d hd => h d (List.mem_cons_of_mem c hd)
    simp only [utf8, String.toList_ofList, List.flatMap_cons, List.length_append,
      List.length_cons] at hcs ⊢
    omega

/-- A string of positive `length` has at least one UTF-8 byte. -/
theorem length_utf8_pos {s : String} (h : 0 < utf16Length s) : 0 < (utf8 s).length := by
  unfold utf16Length at h
  unfold utf8
  cases hs : s.toList with
  | nil => simp [hs] at h
  | cons c cs =>
    have hc := Char.utf8Size_pos c
    simp only [List.flatMap_cons, List.length_append, String.length_utf8EncodeChar]
    omega

end JsString
