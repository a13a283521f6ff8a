import Mathlib.Data.List.Basic

/-!
# Singly linked cells in an append-only heap

A heap is a list of cells, each a value and an optional index of the next cell; cells are only
ever added at the end (`alloc`), and a link is only ever set from an older cell to a newer one
(`setNext`). This is how a garbage-collected language sees a hand-written linked list: a cell is
an object, an index a reference.

* `Seg h p xs t`: following the links from cell `p` visits the values `xs` and ends at cell `t`,
  whose link is empty.
* `Seg.drain`: a loop that follows the links with enough fuel visits exactly `xs` and stops at an
  empty link; `Seg.length_le` gives the fuel (the heap size) when every link points forward
  (`Forward`).
* `Seg.alloc` and `Seg.enqueue`: adding a cell and linking the last cell of a segment to it
  extends the segment by one value; other segments are framed.
-/

/-- One heap cell: a value and the index of the next cell, if any. -/
structure Cell (α : Type) where
  val : α
  next : Option Nat
deriving Repr, DecidableEq

namespace Cells

variable {α : Type}

/-- Add a cell with no successor at the end of the heap; its index is the old length. -/
def alloc (h : List (Cell α)) (a : α) : List (Cell α) := h ++ [⟨a, none⟩]

/-- Point the link of cell `p` at cell `q`. -/
def setNext (h : List (Cell α)) (p q : Nat) : List (Cell α) :=
  h.modify p fun c => { c with next := some q }

/-- Follow the links from `q` for at most `fuel` cells: the values visited, and the link at which
the walk stopped (`none` once it reached an empty link). -/
def drain (h : List (Cell α)) : Nat → Option Nat → List α × Option Nat
  | 0, q => ([], q)
  | _ + 1, none => ([], none)
  | n + 1, some p =>
    match h[p]? with
    | none => ([], some p)
    | some c => let r := drain h n c.next; (c.val :: r.1, r.2)

@[simp] theorem drain_none (h : List (Cell α)) (n : Nat) : drain h n none = ([], none) := by
  cases n <;> rfl

@[simp] theorem length_alloc (h : List (Cell α)) (a : α) : (alloc h a).length = h.length + 1 := by
  simp [alloc]

@[simp] theorem length_setNext (h : List (Cell α)) (p q : Nat) :
    (setNext h p q).length = h.length := by
  simp [setNext]

theorem getElem?_alloc_lt {h : List (Cell α)} {a : α} {i : Nat} (hi : i < h.length) :
    (alloc h a)[i]? = h[i]? :=
  List.getElem?_append_left hi

theorem getElem?_alloc_self (h : List (Cell α)) (a : α) : (alloc h a)[h.length]? = some ⟨a, none⟩ :=
  List.getElem?_concat_length

theorem getElem?_setNext_ne {h : List (Cell α)} {p q i : Nat} (hi : p ≠ i) :
    (setNext h p q)[i]? = h[i]? := by
  simp [setNext, hi]

theorem getElem?_setNext_self {h : List (Cell α)} {p q : Nat} {c : Cell α} (hp : h[p]? = some c) :
    (setNext h p q)[p]? = some { c with next := some q } := by
  simp [setNext, hp]

/-! ## Segments -/

/-- Following the links from cell `p` visits the values `xs` and ends at cell `t`, the one cell
on the way whose link is empty. -/
inductive Seg (h : List (Cell α)) : Nat → List α → Nat → Prop
  | last {p : Nat} {a : α} : h[p]? = some ⟨a, none⟩ → Seg h p [a] p
  | cons {p q t : Nat} {a : α} {xs : List α} :
      h[p]? = some ⟨a, some q⟩ → Seg h q xs t → Seg h p (a :: xs) t

theorem Seg.end_cell {h : List (Cell α)} {p t : Nat} {xs : List α} (hs : Seg h p xs t) :
    ∃ a, h[t]? = some ⟨a, none⟩ := by
  induction hs with
  | last hp => exact ⟨_, hp⟩
  | cons _ _ ih => exact ih

theorem Seg.end_lt {h : List (Cell α)} {p t : Nat} {xs : List α} (hs : Seg h p xs t) :
    t < h.length := by
  obtain ⟨a, ht⟩ := hs.end_cell
  exact (List.getElem?_eq_some_iff.mp ht).1

theorem Seg.ne_nil {h : List (Cell α)} {p t : Nat} {xs : List α} (hs : Seg h p xs t) : xs ≠ [] := by
  cases hs <;> simp

/-- The loop that follows the links visits the segment and stops at its empty link. -/
theorem Seg.drain {h : List (Cell α)} {p t : Nat} {xs : List α} (hs : Seg h p xs t) {n : Nat}
    (hn : xs.length ≤ n) : Cells.drain h n (some p) = (xs, none) := by
  induction hs generalizing n with
  | last hp =>
    obtain ⟨n, rfl⟩ : ∃ m, n = m + 1 := ⟨n - 1, by simp at hn; omega⟩
    simp [Cells.drain, hp]
  | cons hp _ ih =>
    obtain ⟨n, rfl⟩ : ∃ m, n = m + 1 := ⟨n - 1, by simp at hn; omega⟩
    simp only [List.length_cons, Nat.add_le_add_iff_right] at hn
    simp [Cells.drain, hp, ih hn]

/-- Adding a cell leaves every segment in place. -/
theorem Seg.alloc {h : List (Cell α)} {p t : Nat} {xs : List α} (hs : Seg h p xs t) (a : α) :
    Seg (Cells.alloc h a) p xs t := by
  induction hs with
  | last hp => exact .last (by rw [getElem?_alloc_lt (List.getElem?_eq_some_iff.mp hp).1, hp])
  | cons hp _ ih => exact .cons (by rw [getElem?_alloc_lt (List.getElem?_eq_some_iff.mp hp).1, hp]) ih

/-- Enqueue: add a cell for `a` and link the end of the segment to it. -/
theorem Seg.enqueue {h : List (Cell α)} {p t : Nat} {xs : List α} (hs : Seg h p xs t) (a : α) :
    Seg (setNext (Cells.alloc h a) t h.length) p (xs ++ [a]) h.length := by
  have hnew : (setNext (Cells.alloc h a) t h.length)[h.length]? = some ⟨a, none⟩ := by
    rw [getElem?_setNext_ne (Nat.ne_of_lt hs.end_lt), getElem?_alloc_self]
  induction hs with
  | last hp =>
    have hp' := getElem?_setNext_self (q := h.length)
      (by rw [getElem?_alloc_lt (List.getElem?_eq_some_iff.mp hp).1, hp] : (Cells.alloc h a)[_]? = _)
    exact .cons hp' (.last hnew)
  | @cons p q t b xs hp hs ih =>
    -- the end cell has an empty link and `p` a full one, so the update at `t` misses `p`
    have hpt : t ≠ p := by
      rintro rfl
      obtain ⟨c, hc⟩ := hs.end_cell
      rw [hp] at hc
      simp at hc
    have hp' : (setNext (Cells.alloc h a) t h.length)[p]? = some ⟨b, some q⟩ := by
      rw [getElem?_setNext_ne hpt, getElem?_alloc_lt (List.getElem?_eq_some_iff.mp hp).1, hp]
    exact .cons hp' (ih hnew)

/-! ## Forward links -/

/-- Every link points from a cell to a later cell of the heap. -/
def Forward (h : List (Cell α)) : Prop :=
  ∀ i c j, h[i]? = some c → c.next = some j → i < j ∧ j < h.length

theorem forward_nil : Forward ([] : List (Cell α)) := by
  intro i c j hi
  simp at hi

theorem Forward.alloc {h : List (Cell α)} (hf : Forward h) (a : α) : Forward (Cells.alloc h a) := by
  intro i c j hi hj
  by_cases hlt : i < h.length
  · rw [getElem?_alloc_lt hlt] at hi
    have := hf i c j hi hj
    simp; omega
  · have hil : i < h.length + 1 := by simpa using (List.getElem?_eq_some_iff.mp hi).1
    have : i = h.length := by omega
    subst this
    rw [getElem?_alloc_self] at hi
    cases hi
    simp at hj

theorem Forward.setNext {h : List (Cell α)} (hf : Forward h) {p q : Nat} (hpq : p < q)
    (hq : q < h.length) : Forward (setNext h p q) := by
  intro i c j hi hj
  rw [length_setNext]
  by_cases hip : p = i
  · subst hip
    simp only [Cells.setNext, List.getElem?_modify, if_true] at hi
    obtain ⟨c', -, rfl⟩ := Option.map_eq_some_iff.mp hi
    simp at hj
    omega
  · rw [getElem?_setNext_ne hip] at hi
    exact hf i c j hi hj

/-- Along forward links a segment from `p` has at most `h.length - p` cells: the heap size is
enough fuel for `drain`. -/
theorem Seg.length_le {h : List (Cell α)} (hf : Forward h) {p t : Nat} {xs : List α}
    (hs : Seg h p xs t) : p + xs.length ≤ h.length := by
  induction hs with
  | last hp =>
    have := (List.getElem?_eq_some_iff.mp hp).1
    simp; omega
  | cons hp _ ih =>
    have := hf _ _ _ hp rfl
    simp; omega

end Cells
