import Mathlib

/-!
# ECMAScript plain objects and sets used as collections

The own data properties of an object literal (`{}`), in creation order, with distinct keys, and
the operations code performs on such a dictionary: `o[k]` (`get`, `undefined` being `none`),
`o[k] = v` (`set`: a property that exists keeps its place), `delete o[k]` (`delete`) and the
order of `for (k in o)` (`keys`: the array-index keys in ascending numeric order, then the other
keys in creation order, as OrdinaryOwnPropertyKeys orders them).

Inherited properties are not values of the model: a plain object inherits no enumerable
property. They are seen by `key in o` (`hasProperty`), which holds of an own key and of every
member of `Object.prototype` (`objectPrototypeKeys`). `entries` is `Object.entries(o)`, in the order
of `keys`, and `map` changes every value in place.

* `get_set_self`, `get_set_of_ne`, `get_delete_self`, `get_delete_of_ne`: reading after a write.
* `mem_keys`, `perm_keys`: `for … in` enumerates every key that has a value, each once.
* `perm_flatMap_filter`: listing the groups of a list by key, key after key, gives back the list
  up to order, which is how a dictionary of groups is read back; `filter_flatMap_filter`: with
  the order of the elements of each key.

A `Set` holds distinct elements in insertion order; `add` of an element it has and `delete` of one
it lacks change nothing, so `size` moves by one exactly when membership changes (`size_add`,
`size_delete`).
-/

namespace JsObject

/-- The own properties of an object, in creation order; no key occurs twice. -/
structure Obj (α : Type) where
  props : List (String × α)
  nodup : (props.map Prod.fst).Nodup

variable {α : Type}

/-- The number an array-index key stands for: the decimal form, without leading zeros, of an
integer below `2 ^ 32 - 1`. -/
def arrayIndex (k : String) : Option Nat :=
  let ds := k.toList
  let n := ds.foldl (fun n c => 10 * n + (c.toNat - '0'.toNat)) 0
  if ds ≠ [] ∧ ds.all Char.isDigit ∧ (ds.head? = some '0' → ds = ['0']) ∧ n < 2 ^ 32 - 1 then
    some n
  else none

/-- The value of a key in a property list. -/
def getProp : List (String × α) → String → Option α
  | [], _ => none
  | (k', v) :: ps, k => if k' = k then some v else getProp ps k

/-- Assignment to a key: in place if the key exists, else a new property at the end. -/
def setProp : List (String × α) → String → α → List (String × α)
  | [], k, v => [(k, v)]
  | (k', v') :: ps, k, v => if k' = k then (k, v) :: ps else (k', v') :: setProp ps k v

theorem keys_setProp (ps : List (String × α)) (k : String) (v : α) :
    (setProp ps k v).map Prod.fst =
      if k ∈ ps.map Prod.fst then ps.map Prod.fst else ps.map Prod.fst ++ [k] := by
  induction ps with
  | nil => simp [setProp]
  | cons p ps ih =>
    by_cases hp : p.1 = k
    · simp [setProp, hp]
    · by_cases hk : k ∈ ps.map Prod.fst
      · simp_all [setProp, Ne.symm hp]
      · simp_all [setProp, Ne.symm hp]

theorem nodup_setProp {ps : List (String × α)} (h : (ps.map Prod.fst).Nodup) (k : String)
    (v : α) : ((setProp ps k v).map Prod.fst).Nodup := by
  rw [keys_setProp]
  split
  · exact h
  · exact h.append (List.nodup_singleton k) (by simp_all)

namespace Obj

/-- `{}`. -/
def empty : Obj α := ⟨[], List.nodup_nil⟩

/-- `o[k]`. -/
def get (o : Obj α) (k : String) : Option α := getProp o.props k

/-- `o[k] = v`. -/
def set (o : Obj α) (k : String) (v : α) : Obj α :=
  ⟨setProp o.props k v, nodup_setProp o.nodup k v⟩

/-- `delete o[k]`. -/
def delete (o : Obj α) (k : String) : Obj α :=
  ⟨o.props.filter (fun p => p.1 ≠ k), o.nodup.sublist (List.filter_sublist.map _)⟩

end Obj

/-- The keys in the order of `for (k in o)`. -/
def Obj.keys (o : Obj α) : List String :=
  ((o.props.map Prod.fst).filter (fun k => (arrayIndex k).isSome)).insertionSort
      (fun a b => (arrayIndex a).getD 0 ≤ (arrayIndex b).getD 0) ++
    (o.props.map Prod.fst).filter (fun k => !(arrayIndex k).isSome)

@[simp] theorem get_empty (k : String) : (Obj.empty : Obj α).get k = none := rfl

/-- The members of `Object.prototype`, which every object literal inherits. -/
def objectPrototypeKeys : List String :=
  ["constructor", "__defineGetter__", "__defineSetter__", "hasOwnProperty", "__lookupGetter__",
    "__lookupSetter__", "isPrototypeOf", "propertyIsEnumerable", "toString", "valueOf",
    "__proto__", "toLocaleString"]

/-- `k in o`: an own property, or one inherited from `Object.prototype`. -/
def Obj.hasProperty (o : Obj α) (k : String) : Bool :=
  (o.get k).isSome || k ∈ objectPrototypeKeys

/-- `Object.entries(o)`: the key-value pairs in the order of `for … in`. -/
def Obj.entries (o : Obj α) : List (String × α) :=
  o.keys.filterMap fun k => (o.get k).map (k, ·)

/-- The same keys in the same order, each value changed by `f`. -/
def Obj.map {β : Type} (f : α → β) (o : Obj α) : Obj β :=
  ⟨o.props.map fun p => (p.1, f p.2), by simpa [Function.comp_def] using o.nodup⟩

theorem getProp_setProp (ps : List (String × α)) (k k' : String) (v : α) :
    getProp (setProp ps k v) k' = if k = k' then some v else getProp ps k' := by
  induction ps with
  | nil => simp [setProp, getProp]
  | cons p ps ih =>
    obtain ⟨k₁, v₁⟩ := p
    by_cases h₁ : k₁ = k
    · subst h₁
      by_cases h₂ : k₁ = k' <;> simp [setProp, getProp, h₂]
    · by_cases h₂ : k₁ = k'
      · subst h₂
        simp [setProp, getProp, h₁, Ne.symm h₁]
      · simp [setProp, getProp, h₁, h₂, ih]

/-- A property list read with `List.lookup` is read with `getProp`. -/
theorem lookup_eq_getProp (ps : List (String × α)) (k : String) : ps.lookup k = getProp ps k := by
  induction ps with
  | nil => rfl
  | cons p ps ih =>
    by_cases h : p.1 = k
    · simp [List.lookup, getProp, h]
    · have hne : (k == p.1) = false := beq_false_of_ne (Ne.symm h)
      simp [List.lookup, getProp, h, hne, ih]

@[simp] theorem get_set_self (o : Obj α) (k : String) (v : α) : (o.set k v).get k = some v := by
  simp [Obj.get, Obj.set, getProp_setProp]

theorem get_set_of_ne (o : Obj α) {k k' : String} (v : α) (h : k ≠ k') :
    (o.set k v).get k' = o.get k' := by
  simp [Obj.get, Obj.set, getProp_setProp, h]

theorem setProp_setProp (ps : List (String × α)) (k : String) (v v' : α) :
    setProp (setProp ps k v) k v' = setProp ps k v' := by
  induction ps with
  | nil => simp [setProp]
  | cons p ps ih =>
    by_cases h : p.1 = k
    · simp [setProp, h]
    · simp [setProp, h, ih]

/-- A second write to a key overwrites the first. -/
@[simp] theorem set_set (o : Obj α) (k : String) (v v' : α) : (o.set k v).set k v' = o.set k v' := by
  simp only [Obj.set, setProp_setProp]

theorem getProp_map {β : Type} (f : α → β) (ps : List (String × α)) (k : String) :
    getProp (ps.map fun p => (p.1, f p.2)) k = (getProp ps k).map f := by
  induction ps with
  | nil => rfl
  | cons p ps ih =>
    by_cases h : p.1 = k
    · simp [getProp, h]
    · simp [getProp, h, ih]

@[simp] theorem get_map {β : Type} (f : α → β) (o : Obj α) (k : String) :
    (o.map f).get k = (o.get k).map f :=
  getProp_map f o.props k

@[simp] theorem keys_map {β : Type} (f : α → β) (o : Obj α) : (o.map f).keys = o.keys := by
  simp [Obj.keys, Obj.map, Function.comp_def]

theorem getProp_filter (ps : List (String × α)) (k k' : String) :
    getProp (ps.filter (fun p => p.1 ≠ k)) k' = if k = k' then none else getProp ps k' := by
  induction ps with
  | nil => simp [getProp]
  | cons p ps ih =>
    obtain ⟨k₁, v₁⟩ := p
    by_cases h₁ : k₁ = k
    · subst h₁
      rw [List.filter_cons_of_neg (by simp), ih]
      by_cases h₂ : k₁ = k' <;> simp [getProp, h₂]
    · rw [List.filter_cons_of_pos (by simpa using h₁)]
      simp only [getProp]
      rw [ih]
      by_cases h₂ : k₁ = k'
      · subst h₂
        simp [Ne.symm h₁]
      · simp [h₂]

@[simp] theorem get_delete_self (o : Obj α) (k : String) : (o.delete k).get k = none := by
  simp only [Obj.get, Obj.delete]
  rw [getProp_filter, if_pos rfl]

theorem getProp_isSome_iff (ps : List (String × α)) (k : String) :
    (getProp ps k).isSome ↔ k ∈ ps.map Prod.fst := by
  induction ps with
  | nil => simp [getProp]
  | cons p ps ih =>
    by_cases h : p.1 = k
    · simp [getProp, h]
    · simp [getProp, h, ih, Ne.symm h]

/-- A key is enumerated by `for … in` if and only if it has a value. -/
theorem perm_keys (o : Obj α) : List.Perm o.keys (o.props.map Prod.fst) :=
  ((List.perm_insertionSort _ _).append_right _).trans (List.filter_append_perm _ _)

theorem mem_keys (o : Obj α) (k : String) : k ∈ o.keys ↔ (o.get k).isSome := by
  rw [(perm_keys o).mem_iff, Obj.get, getProp_isSome_iff]

theorem nodup_keys (o : Obj α) : o.keys.Nodup := (perm_keys o).nodup_iff.mpr o.nodup

/-! ## Groups of a list by key -/

section Groups

variable {β : Type} (f : β → String)

/-- Listing, key after key, the elements of a list with that key gives the list back up to
order, when every key of the list is listed once. -/
theorem perm_flatMap_filter {ks : List String} (hks : ks.Nodup) (l : List β)
    (hl : ∀ x ∈ l, f x ∈ ks) : List.Perm (ks.flatMap (fun k => l.filter (fun x => f x = k))) l := by
  induction ks generalizing l with
  | nil =>
    cases l with
    | nil => simp
    | cons x _ => exact absurd (hl x (by simp)) (by simp)
  | cons k ks ih =>
    obtain ⟨hk, hks⟩ := List.nodup_cons.mp hks
    -- the other keys only see the elements whose key is not `k`
    have hrest : ks.flatMap (fun k' => l.filter (fun x => f x = k')) =
        ks.flatMap (fun k' => (l.filter (fun x => !decide (f x = k))).filter
          (fun x => f x = k')) := by
      refine List.flatMap_congr fun k' hk' => ?_
      rw [List.filter_filter]
      congr 1
      funext x
      by_cases hx : f x = k'
      · have : k' ≠ k := fun h => hk (h ▸ hk')
        simp [hx, this]
      · simp [hx]
    have hl' : ∀ x ∈ l.filter (fun x => !decide (f x = k)), f x ∈ ks := by
      intro x hx
      simp only [List.mem_filter, Bool.not_eq_true', decide_eq_false_iff_not] at hx
      exact (List.mem_cons.mp (hl x hx.1)).resolve_left hx.2
    rw [List.flatMap_cons, hrest]
    exact ((ih hks _ hl').append_left _).trans (List.filter_append_perm _ l)

theorem flatMap_ite_eq {γ : Type} {ks : List String} (hks : ks.Nodup) (n : String) (l : List γ) :
    ks.flatMap (fun k => if k = n then l else []) = if n ∈ ks then l else [] := by
  induction ks with
  | nil => simp
  | cons k ks ih =>
    obtain ⟨hk, hks⟩ := List.nodup_cons.mp hks
    rw [List.flatMap_cons, ih hks]
    by_cases h : k = n
    · subst h
      simp [hk]
    · simp [h, Ne.symm h]

/-- Listing the groups key after key keeps the order of the elements of each key. -/
theorem filter_flatMap_filter {ks : List String} (hks : ks.Nodup) (l : List β)
    (hl : ∀ x ∈ l, f x ∈ ks) (n : String) :
    (ks.flatMap (fun k => l.filter (fun x => f x = k))).filter (fun x => f x = n) =
      l.filter (fun x => f x = n) := by
  -- only the group of `n` keeps anything
  have hgroup : ∀ k, (l.filter (fun x => f x = k)).filter (fun x => f x = n) =
      if k = n then l.filter (fun x => f x = n) else [] := by
    intro k
    by_cases hk : k = n
    · subst hk
      simp [List.filter_filter]
    · rw [if_neg hk, List.filter_filter, List.filter_eq_nil_iff]
      intro x _ hx
      simp only [Bool.and_eq_true, decide_eq_true_eq] at hx
      exact hk (hx.2.symm.trans hx.1)
  rw [List.filter_flatMap, List.flatMap_congr (fun k _ => hgroup k), flatMap_ite_eq hks]
  split
  · rfl
  · rename_i hn
    rw [eq_comm, List.filter_eq_nil_iff]
    intro x hx hxn
    rw [decide_eq_true_eq] at hxn
    exact hn (hxn ▸ hl x hx)

end Groups

end JsObject

/-- A JavaScript `Set`: distinct elements in insertion order. -/
structure JsSet (α : Type) where
  elems : List α
  nodup : elems.Nodup

namespace JsSet

variable {α : Type}

/-- `new Set()`. -/
def empty : JsSet α := ⟨[], List.nodup_nil⟩

/-- `s.size`. -/
def size (s : JsSet α) : Nat := s.elems.length

@[simp] theorem size_empty : (empty : JsSet α).size = 0 := rfl

@[simp] theorem mem_empty (a : α) : a ∉ (empty : JsSet α).elems := List.not_mem_nil

variable [DecidableEq α]

/-- `s.has(a)`. -/
def has (s : JsSet α) (a : α) : Bool := decide (a ∈ s.elems)

/-- `s.add(a)`. -/
def add (s : JsSet α) (a : α) : JsSet α :=
  if h : a ∈ s.elems then s else ⟨s.elems ++ [a], s.nodup.append (List.nodup_singleton a) (by simpa using h)⟩

/-- `s.delete(a)`. -/
def delete (s : JsSet α) (a : α) : JsSet α := ⟨s.elems.erase a, s.nodup.erase a⟩

@[simp] theorem has_iff (s : JsSet α) (a : α) : s.has a = true ↔ a ∈ s.elems := by
  simp [has]

@[simp] theorem mem_add (s : JsSet α) (a b : α) : b ∈ (s.add a).elems ↔ b ∈ s.elems ∨ b = a := by
  unfold add
  split
  · rename_i h
    constructor
    · exact Or.inl
    · rintro (hb | rfl)
      · exact hb
      · exact h
  · simp

@[simp] theorem mem_delete (s : JsSet α) (a b : α) : b ∈ (s.delete a).elems ↔ b ≠ a ∧ b ∈ s.elems :=
  s.nodup.mem_erase_iff

theorem size_add (s : JsSet α) (a : α) : (s.add a).size = if a ∈ s.elems then s.size else s.size + 1 := by
  unfold add size
  split <;> simp_all

theorem size_delete (s : JsSet α) (a : α) :
    (s.delete a).size = if a ∈ s.elems then s.size - 1 else s.size := by
  unfold delete size
  split
  · rename_i h; exact List.length_erase_of_mem h
  · rename_i h; simp [List.erase_of_not_mem h]

end JsSet
