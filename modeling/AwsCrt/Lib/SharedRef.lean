import Mathlib

/-!
# Objects shared with other threads

A native object that callbacks on other threads may still reach is kept alive by a reference
count, as aws-c-common's `aws_ref_count` does: `acquire` adds one, `release` takes one away, and the
release that takes the last one runs `on_zero`, which frees the object. Work for the thread that
owns the object travels through channels (N-API threadsafe functions): each channel hands its items
over in the order they were queued, and nothing orders two channels.

* `Counted`: an object with its count; `release` gives `none` when it frees the object.
  `release_of_count_eq`: the release made by one of `n + 1` holders leaves `n`, and frees the
  object exactly when `n = 0`; `release_holder`: the same when the owner's reference lasts until
  the object is marked closed.
* `Runnable channel queue i x`: the item `x` at index `i` of a queue may be handed over next, no
  earlier item being on its channel; `runnable_zero`: the oldest item always may, and
  `runnable_of_countP_le_one`: so does the only item of its kind, on a channel of its own.
* `countP_eraseIdx`: handing an item over takes it out of the count of the items like it;
  `any_eraseIdx_of_not`, `any_eraseIdx_of_countP_le_one`: whether an item of a kind is left.
-/

namespace SharedRef

variable {α κ : Type}

/-- An object with an `aws_ref_count`: its other fields and its count. -/
structure Counted (α : Type) where
  value : α
  count : Nat
  deriving DecidableEq, Repr

namespace Counted

/-- `aws_ref_count_acquire`. -/
def acquire (c : Counted α) : Counted α := { c with count := c.count + 1 }

/-- `aws_ref_count_release`: the release of the last reference frees the object. -/
def release (c : Counted α) : Option (Counted α) :=
  if c.count ≤ 1 then none else some { c with count := c.count - 1 }

/-- A write to the object's other fields. -/
def modify (c : Counted α) (f : α → α) : Counted α := { c with value := f c.value }

@[simp] theorem acquire_value (c : Counted α) : c.acquire.value = c.value := rfl

@[simp] theorem acquire_count (c : Counted α) : c.acquire.count = c.count + 1 := rfl

@[simp] theorem modify_value (c : Counted α) (f : α → α) : (c.modify f).value = f c.value := rfl

@[simp] theorem modify_count (c : Counted α) (f : α → α) : (c.modify f).count = c.count := rfl

/-- An acquire undone by a release leaves the object as it was. -/
@[simp] theorem acquire_release (c : Counted α) (h : 1 ≤ c.count) : c.acquire.release = some c := by
  have hgt : ¬c.acquire.count ≤ 1 := by simp; omega
  rw [release, if_neg hgt]
  simp [acquire]

/-- The release made by one of `n + 1` holders: the object stays, with `n`, unless `n` is zero. -/
theorem release_of_count_eq {c : Counted α} {n : Nat} (h : c.count = n + 1) :
    c.release = if n = 0 then none else some { c with count := n } := by
  by_cases hn : n = 0
  · subst hn
    simp [release, h]
  · have hle : ¬c.count ≤ 1 := by omega
    rw [release, if_neg hle, if_neg hn, h, Nat.add_sub_cancel]

theorem value_of_release_eq_some {c c' : Counted α} (h : c.release = some c') :
    c'.value = c.value := by
  unfold release at h
  split at h
  · cases h
  · cases h
    rfl

/-- The release made by one of the holders of an object that its owner holds until `closed`: with
`n` other holders left, the object stays with them, or is freed when there are none, which needs
the owner's reference gone. -/
theorem release_holder (closed : α → Bool) {c : Counted α} {n : Nat}
    (hc : c.count = ((if closed c.value then 0 else 1) + n) + 1) :
    (c.release = none → closed c.value = true ∧ n = 0) ∧
      ∀ c', c.release = some c' →
        c'.value = c.value ∧ c'.count = (if closed c'.value then 0 else 1) + n ∧ 1 ≤ c'.count := by
  rw [release_of_count_eq hc]
  by_cases hzero : (if closed c.value then 0 else 1) + n = 0
  · rw [if_pos hzero]
    refine ⟨fun _ => ⟨?_, by omega⟩, fun _ h => by cases h⟩
    cases hcl : closed c.value
    · simp [hcl] at hzero
    · rfl
  · rw [if_neg hzero]
    refine ⟨(fun h => nomatch h), fun c' h => ?_⟩
    cases h
    exact ⟨rfl, rfl, by simp only; omega⟩

end Counted

/-! ## Channels -/

/-- The item `x` at index `i` of a queue may be handed over next: no earlier item is on its
channel. -/
def Runnable [DecidableEq κ] (channel : α → κ) (queue : List α) (i : Nat) (x : α) : Prop :=
  queue[i]? = some x ∧ ∀ y ∈ queue.take i, channel y ≠ channel x

instance [DecidableEq κ] (channel : α → κ) (queue : List α) (i : Nat) (x : α) [DecidableEq α] :
    Decidable (Runnable channel queue i x) :=
  inferInstanceAs (Decidable (queue[i]? = some x ∧ ∀ y ∈ queue.take i, channel y ≠ channel x))

/-- The oldest item may always be handed over. -/
theorem runnable_zero [DecidableEq κ] (channel : α → κ) (x : α) (rest : List α) :
    Runnable channel (x :: rest) 0 x :=
  ⟨rfl, by simp⟩

/-- Taking out the item at `i` takes it out of the count of the items like it. -/
theorem countP_eraseIdx (p : α → Bool) {l : List α} {i : Nat} {x : α} (h : l[i]? = some x) :
    (l.eraseIdx i).countP p + (if p x then 1 else 0) = l.countP p := by
  obtain ⟨hi, rfl⟩ := List.getElem?_eq_some_iff.mp h
  have hsplit : l = l.take i ++ l[i] :: l.drop (i + 1) := by
    rw [List.getElem_cons_drop, List.take_append_drop]
  conv_rhs => rw [hsplit]
  rw [List.eraseIdx_eq_take_drop_succ, List.countP_append, List.countP_append, List.countP_cons]
  omega

/-- An item of a kind that at most one queued item has, on a channel only that kind uses, may always
be handed over. -/
theorem runnable_of_countP_le_one [DecidableEq κ] (channel : α → κ) (p : α → Bool) {l : List α}
    {i : Nat} {x : α} (h : l[i]? = some x) (hx : p x = true)
    (hchannel : ∀ y, channel y = channel x → p y = true) (hle : l.countP p ≤ 1) :
    Runnable channel l i x := by
  refine ⟨h, fun y hy hc => ?_⟩
  have hcount := countP_eraseIdx p h
  simp only [hx, if_true] at hcount
  have htake : 0 < (l.take i).countP p := List.countP_pos_iff.mpr ⟨y, hy, hchannel y hc⟩
  -- the earlier item stays when `x` is taken out, so two of the kind were queued
  have hprefix : (l.take i).countP p ≤ (l.eraseIdx i).countP p := by
    rw [List.eraseIdx_eq_take_drop_succ, List.countP_append]
    omega
  omega

/-- Taking out an item that is not `p` leaves the queue's `p` items where they are. -/
theorem any_eraseIdx_of_not (p : α → Bool) {l : List α} {i : Nat} {x : α} (h : l[i]? = some x)
    (hx : p x = false) : (l.eraseIdx i).any p = l.any p := by
  have hcount := countP_eraseIdx p h
  simp only [hx, Bool.false_eq_true, if_false, Nat.add_zero] at hcount
  rw [Bool.eq_iff_iff, List.any_eq_true, List.any_eq_true, ← List.countP_pos_iff,
    ← List.countP_pos_iff, hcount]

/-- Taking out the only `p` item of a queue leaves none. -/
theorem any_eraseIdx_of_countP_le_one (p : α → Bool) {l : List α} {i : Nat} {x : α}
    (h : l[i]? = some x) (hx : p x = true) (hle : l.countP p ≤ 1) : (l.eraseIdx i).any p = false := by
  have hcount := countP_eraseIdx p h
  simp only [hx, if_true] at hcount
  have hzero : (l.eraseIdx i).countP p = 0 := by omega
  rw [List.countP_eq_zero] at hzero
  simpa using hzero

end SharedRef
