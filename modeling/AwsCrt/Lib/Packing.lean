import Mathlib

/-!
# Packing strings into one buffer

A buffer of fixed capacity is filled by appending strings one after the other, as aws-c-common's
`aws_byte_buf_append_and_update` does: an append that fits copies the string to the end of the
buffer and returns a cursor (offset and length) onto the copy; one that does not fit fails and
changes nothing.

* `layout offset chunks`: the cursors of chunks laid out one after the other from `offset`, so in
  disjoint consecutive slices.
* `append_flatten`: appending a chunk to a buffer that holds chunks packed from its start, with
  room for it, gives the cursor from where they end, the one `layout` gives it next.
* `read_layout`: the cursors of a layout designate exactly their chunks.
* `Packs buf capacity cursors chunks`: the buffer was sized to the chunks exactly, is full, and
  the cursors are their slices in order; `packs_layout` is the case of a packed buffer.
-/

namespace Packing

/-- A cursor onto a buffer: `length` elements from `offset`. -/
structure Cursor where
  offset : Nat
  length : Nat
  deriving DecidableEq, Repr

variable {β : Type}

/-- The elements of a buffer that a cursor designates. -/
def Cursor.read (buf : List β) (c : Cursor) : List β := (buf.drop c.offset).take c.length

/-- Append `data` to a buffer of `capacity`: its new contents and the cursor onto the copy, or
`none` when it does not fit. -/
def append (capacity : Nat) (buf data : List β) : Option (List β × Cursor) :=
  if buf.length + data.length ≤ capacity then some (buf ++ data, ⟨buf.length, data.length⟩)
  else none

/-- The cursors of chunks laid out one after the other from `offset`. -/
def layout : Nat → List (List β) → List Cursor
  | _, [] => []
  | offset, d :: ds => ⟨offset, d.length⟩ :: layout (offset + d.length) ds

theorem append_of_le {capacity : Nat} {buf data : List β}
    (h : buf.length + data.length ≤ capacity) :
    append capacity buf data = some (buf ++ data, ⟨buf.length, data.length⟩) := by
  simp [append, h]

@[simp] theorem length_layout (offset : Nat) (ds : List (List β)) :
    (layout offset ds).length = ds.length := by
  induction ds generalizing offset with
  | nil => rfl
  | cons d ds ih => simp [layout, ih]

/-- Appending a chunk to a buffer that holds chunks packed from its start: when it fits, the
buffer holds one more chunk and the cursor is the one the layout gives it. -/
theorem append_flatten {capacity : Nat} {ds : List (List β)} {d : List β}
    (h : (ds ++ [d]).flatten.length ≤ capacity) :
    append capacity ds.flatten d =
      some ((ds ++ [d]).flatten, ⟨ds.flatten.length, d.length⟩) := by
  rw [append_of_le (by simpa using h)]
  simp

/-- The cursors of a layout designate exactly their chunks. -/
theorem read_layout (pre post : List β) (ds : List (List β)) :
    (layout pre.length ds).map (Cursor.read (pre ++ ds.flatten ++ post)) = ds := by
  induction ds generalizing pre with
  | nil => rfl
  | cons d ds ih =>
    have hd : Cursor.read (pre ++ (d ++ (ds.flatten ++ post))) ⟨pre.length, d.length⟩ = d := by
      simp [Cursor.read]
    have hrest := ih (pre ++ d)
    simp only [List.length_append, List.append_assoc] at hrest
    simp only [layout, List.map_cons, List.flatten_cons, List.append_assoc, List.cons.injEq]
    exact ⟨hd, hrest⟩

/-- A buffer allocated with `capacity` holds `chunks` packed: the capacity is their total length,
the buffer is full, the cursors are the chunks' slices one after the other from its start, and
each designates exactly its chunk. -/
structure Packs (buf : List β) (capacity : Nat) (cursors : List Cursor) (chunks : List (List β)) :
    Prop where
  capacity_eq : capacity = (chunks.map List.length).sum
  length_eq : buf.length = capacity
  cursors_eq : cursors = layout 0 chunks
  read_eq : cursors.map (Cursor.read buf) = chunks

theorem packs_layout (ds : List (List β)) : Packs ds.flatten ds.flatten.length (layout 0 ds) ds where
  capacity_eq := List.length_flatten
  length_eq := rfl
  cursors_eq := rfl
  read_eq := by simpa using read_layout [] [] ds

end Packing
