import Mathlib.Data.List.Count

/-!
# The listeners of a Node `EventEmitter`

An emitter's listeners as `(eventName, listener)` pairs in the order they were added.
`addListener` (`on`) appends; `removeListener` removes one registration of the listener for the
name (Node removes the most recent one, which for a listener registered once is its only one);
`listeners(eventName)` are the name's listeners in order, which `emit` calls as they are when it
starts.

* `count_addListener`, `count_removeListener`: how each operation moves the number of
  registrations of a pair.
* `filter_addListener_of_not`, `filter_removeListener_of_not`: registrations of another kind leave
  a part of the listeners, chosen by a predicate, as it was.
* `mem_removeListener`: removing a registration held once removes it, and only it.
-/

namespace EventEmitter

variable {β : Type}

/-- `emitter.addListener(eventName, listener)`. -/
def addListener (r : List (String × β)) (eventName : String) (listener : β) : List (String × β) :=
  r ++ [(eventName, listener)]

/-- `emitter.listeners(eventName)`. -/
def listeners (r : List (String × β)) (eventName : String) : List β :=
  (r.filter (·.1 = eventName)).map (·.2)

theorem filter_addListener_of_not {p : String × β → Bool} (r : List (String × β))
    {eventName : String} {listener : β} (h : p (eventName, listener) = false) :
    (addListener r eventName listener).filter p = r.filter p := by
  simp [addListener, List.filter_append, h]

theorem mem_listeners (r : List (String × β)) (eventName : String) (listener : β) :
    listener ∈ listeners r eventName ↔ (eventName, listener) ∈ r := by
  simp only [listeners, List.mem_map, List.mem_filter, decide_eq_true_eq]
  constructor
  · rintro ⟨⟨n, l⟩, ⟨hmem, rfl⟩, rfl⟩
    exact hmem
  · intro h
    exact ⟨_, ⟨h, rfl⟩, rfl⟩

variable [DecidableEq β]

/-- `emitter.removeListener(eventName, listener)`. -/
def removeListener (r : List (String × β)) (eventName : String) (listener : β) :
    List (String × β) :=
  r.erase (eventName, listener)

theorem count_addListener (r : List (String × β)) (eventName : String) (listener : β)
    (x : String × β) :
    (addListener r eventName listener).count x =
      r.count x + if x = (eventName, listener) then 1 else 0 := by
  by_cases h : x = (eventName, listener)
  · subst h
    simp [addListener]
  · simp [addListener, Ne.symm h, h]

theorem count_removeListener (r : List (String × β)) (eventName : String) (listener : β)
    (x : String × β) :
    (removeListener r eventName listener).count x =
      r.count x - if x = (eventName, listener) then 1 else 0 := by
  by_cases h : x = (eventName, listener)
  · subst h
    simp [removeListener]
  · simp [removeListener, h]

/-- Removing one element that a predicate rejects leaves the elements it keeps. -/
theorem filter_erase_of_not {γ : Type} [BEq γ] [LawfulBEq γ] {p : γ → Bool} (l : List γ) {a : γ}
    (h : p a = false) : (l.erase a).filter p = l.filter p := by
  rw [← List.erase_filter, List.erase_of_not_mem]
  simp [h]

/-- Removing an element held at most once removes it, and only it. -/
theorem mem_erase_of_count_le_one {γ : Type} [BEq γ] [LawfulBEq γ] {l : List γ} {a : γ}
    (h : l.count a ≤ 1) (x : γ) : x ∈ l.erase a ↔ x ≠ a ∧ x ∈ l := by
  by_cases hx : x = a
  · subst hx
    have : (l.erase x).count x = 0 := by rw [List.count_erase_self]; omega
    simpa using List.count_eq_zero.mp this
  · simp [List.mem_erase_of_ne hx, hx]

theorem filter_removeListener_of_not {p : String × β → Bool} (r : List (String × β))
    {eventName : String} {listener : β} (h : p (eventName, listener) = false) :
    (removeListener r eventName listener).filter p = r.filter p :=
  filter_erase_of_not r h

theorem mem_removeListener {r : List (String × β)} {eventName : String} {listener : β}
    (h : r.count (eventName, listener) ≤ 1) (x : String × β) :
    x ∈ removeListener r eventName listener ↔ x ≠ (eventName, listener) ∧ x ∈ r :=
  mem_erase_of_count_le_one h x

end EventEmitter
