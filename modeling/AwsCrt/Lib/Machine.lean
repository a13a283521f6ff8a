import Mathlib

/-!
# Runs of a deterministic step function

A component driven from outside is a step function `step : σ → ι → σ × List ο`: the state after
one input and the outputs that input emits. `run` folds it over a list of inputs and concatenates
the outputs.

* `run_append`: the run of `xs ++ ys` is the run of `xs` followed by the run of `ys`.
* `run_invariant`: a property that every step keeps holds after every run;
  `run_invariant_history` the same for a property of the state and the inputs consumed so far;
  `run_invariant_allowed` the same over the runs whose every input an environment condition
  `Allowed` admits in the state it meets.
* `run_outputs_allowed`: outputs that every admitted step emits from the states of an invariant
  are all the outputs of an admitted run; `run_outputs` the same with no invariant.
* `run_simulates`: two step functions related by a relation that every step keeps, emitting the
  same outputs at every step, emit the same outputs on every run (a forward simulation);
  `run_simulates_on` restricts the inputs to those that satisfy a predicate and relates the
  outputs element by element.
* `run_accepted`: a run's outputs are accepted by an automaton when every step's outputs take it
  from a phase related to the state to a phase related to the next state.
* `mapM_forall₂`: a conversion that may fail, applied to every element of a list in turn,
  succeeds where it succeeds on each element, with each result related to its element;
  `bind_eq_ok`, `bind_eq_error`: how a sequence of two fallible computations succeeds or
  fails, and `error_of_bind` with what error; `foldlM_eq_error`, `mapM_eq_error`: a loop over
  a list fails only as one of its steps can; `foldlM_add_of_forall₂`, `forall₂_of_foldlM`: a
  loop that counts succeeds exactly on the lists whose every element its step accepts.
-/

namespace Machine

variable {σ τ ι ο ο' : Type}

/-- The final state and all outputs of the inputs `is`, one step after the other. -/
def run (step : σ → ι → σ × List ο) : σ → List ι → σ × List ο
  | s, [] => (s, [])
  | s, i :: is =>
    let r := step s i
    let r' := run step r.1 is
    (r'.1, r.2 ++ r'.2)

@[simp] theorem run_nil (step : σ → ι → σ × List ο) (s : σ) : run step s [] = (s, []) := rfl

@[simp] theorem run_cons (step : σ → ι → σ × List ο) (s : σ) (i : ι) (is : List ι) :
    run step s (i :: is) =
      ((run step (step s i).1 is).1, (step s i).2 ++ (run step (step s i).1 is).2) := rfl

theorem run_append (step : σ → ι → σ × List ο) (s : σ) (xs ys : List ι) :
    run step s (xs ++ ys) =
      ((run step (run step s xs).1 ys).1, (run step s xs).2 ++ (run step (run step s xs).1 ys).2) := by
  induction xs generalizing s with
  | nil => simp
  | cons x xs ih => simp [ih]

theorem run_singleton (step : σ → ι → σ × List ο) (s : σ) (i : ι) : run step s [i] = step s i := by
  simp

/-- Invariant rule: what holds initially and is kept by every step holds after every run. -/
theorem run_invariant (step : σ → ι → σ × List ο) (P : σ → Prop)
    (hstep : ∀ s i, P s → P (step s i).1) {s : σ} (hs : P s) (is : List ι) :
    P (run step s is).1 := by
  induction is generalizing s with
  | nil => exact hs
  | cons i is ih => exact ih (hstep s i hs)

/-- Invariant rule for a property of the state and of the inputs consumed so far, over the runs
whose every input satisfies `A`. -/
theorem run_invariant_history (step : σ → ι → σ × List ο) (A : ι → Prop) (P : σ → List ι → Prop)
    (hstep : ∀ s h i, A i → P s h → P (step s i).1 (h ++ [i])) {s : σ} {h : List ι} (hs : P s h)
    (is : List ι) (his : ∀ i ∈ is, A i) : P (run step s is).1 (h ++ is) := by
  induction is generalizing s h with
  | nil => simpa using hs
  | cons i is ih =>
    have hnext : P (step s i).1 (h ++ [i]) := hstep s h i (his i (List.mem_cons_self ..)) hs
    have hrest := ih hnext fun i' hi' => his i' (List.mem_cons_of_mem i hi')
    simpa using hrest

/-- Every input of the run is admitted by `A` in the state it meets. -/
def Allowed (step : σ → ι → σ × List ο) (A : σ → ι → Prop) : σ → List ι → Prop
  | _, [] => True
  | s, i :: is => A s i ∧ Allowed step A (step s i).1 is

/-- Invariant rule for the runs an environment condition admits. -/
theorem run_invariant_allowed (step : σ → ι → σ × List ο) (P : σ → Prop) (A : σ → ι → Prop)
    (hstep : ∀ s i, P s → A s i → P (step s i).1) {s : σ} (hs : P s) {is : List ι}
    (his : Allowed step A s is) : P (run step s is).1 := by
  induction is generalizing s with
  | nil => exact hs
  | cons i is ih => exact ih (hstep s i hs his.1) his.2

theorem allowed_append (step : σ → ι → σ × List ο) (A : σ → ι → Prop) (s : σ) (xs ys : List ι) :
    Allowed step A s (xs ++ ys) ↔ Allowed step A s xs ∧ Allowed step A (run step s xs).1 ys := by
  induction xs generalizing s with
  | nil => simp [Allowed]
  | cons x xs ih => simp [Allowed, ih, and_assoc]

theorem allowed_of_forall (step : σ → ι → σ × List ο) {A : σ → ι → Prop} (hA : ∀ s i, A s i)
    (s : σ) (is : List ι) : Allowed step A s is := by
  induction is generalizing s with
  | nil => trivial
  | cons i is ih => exact ⟨hA s i, ih _⟩

/-- A run that `A` admits, whose every input satisfies `B`, is admitted by both. -/
theorem allowed_and_forall (step : σ → ι → σ × List ο) {A : σ → ι → Prop} {B : ι → Prop} {s : σ}
    {is : List ι} (h : Allowed step A s is) (hB : ∀ i ∈ is, B i) :
    Allowed step (fun s i => A s i ∧ B i) s is := by
  induction is generalizing s with
  | nil => trivial
  | cons i is ih =>
    exact ⟨⟨h.1, hB i (List.mem_cons_self ..)⟩, ih h.2 fun i' hi' => hB i' (List.mem_cons_of_mem i hi')⟩

/-- Output rule: when every admitted step from a state satisfying `P` keeps `P` and emits only
outputs satisfying `Q`, so does every admitted run. -/
theorem run_outputs_allowed (step : σ → ι → σ × List ο) (P : σ → Prop) (A : σ → ι → Prop)
    (Q : ο → Prop) (hstep : ∀ s i, P s → A s i → P (step s i).1 ∧ ∀ o ∈ (step s i).2, Q o)
    {s : σ} (hs : P s) {is : List ι} (his : Allowed step A s is) :
    ∀ o ∈ (run step s is).2, Q o := by
  induction is generalizing s with
  | nil => simp
  | cons i is ih =>
    obtain ⟨hP, hQ⟩ := hstep s i hs his.1
    intro o ho
    rw [run_cons, List.mem_append] at ho
    rcases ho with ho | ho
    · exact hQ o ho
    · exact ih hP his.2 o ho

/-- Outputs that every step emits, from any state, are all the outputs of a run. -/
theorem run_outputs (step : σ → ι → σ × List ο) (Q : ο → Prop)
    (hstep : ∀ s i, ∀ o ∈ (step s i).2, Q o) (s : σ) (is : List ι) :
    ∀ o ∈ (run step s is).2, Q o := by
  induction is generalizing s with
  | nil => simp
  | cons i is ih =>
    intro o ho
    rw [run_cons, List.mem_append] at ho
    rcases ho with ho | ho
    · exact hstep s i o ho
    · exact ih _ o ho

/-- Forward simulation: a relation kept by every pair of steps, with equal outputs at each step,
gives equal outputs on every run, and relates the final states. -/
theorem run_simulates (f : σ → ι → σ × List ο) (g : τ → ι → τ × List ο) (R : σ → τ → Prop)
    (hstep : ∀ s t i, R s t → R (f s i).1 (g t i).1 ∧ (f s i).2 = (g t i).2)
    {s : σ} {t : τ} (hst : R s t) (is : List ι) :
    R (run f s is).1 (run g t is).1 ∧ (run f s is).2 = (run g t is).2 := by
  induction is generalizing s t with
  | nil => exact ⟨hst, rfl⟩
  | cons i is ih =>
    obtain ⟨hR, hout⟩ := hstep s t i hst
    obtain ⟨hR', hout'⟩ := ih hR
    exact ⟨hR', by simp [hout, hout']⟩

/-- Forward simulation over the inputs that satisfy `P`, with the outputs of each step related
element by element by `Q`. -/
theorem run_simulates_on (f : σ → ι → σ × List ο) (g : τ → ι → τ × List ο') (R : σ → τ → Prop)
    (P : ι → Prop) (Q : ο → ο' → Prop)
    (hstep : ∀ s t i, P i → R s t → R (f s i).1 (g t i).1 ∧ List.Forall₂ Q (f s i).2 (g t i).2)
    {s : σ} {t : τ} (hst : R s t) {is : List ι} (his : ∀ i ∈ is, P i) :
    R (run f s is).1 (run g t is).1 ∧ List.Forall₂ Q (run f s is).2 (run g t is).2 := by
  induction is generalizing s t with
  | nil => exact ⟨hst, List.Forall₂.nil⟩
  | cons i is ih =>
    obtain ⟨hR, hout⟩ := hstep s t i (his i (by simp)) hst
    obtain ⟨hR', hout'⟩ := ih hR (fun j hj => his j (by simp [hj]))
    exact ⟨hR', List.rel_append hout hout'⟩

/-- Acceptance by an automaton `next` (a partial transition function on phases): when every
step's outputs take it from a phase related to the state to one related to the next state, a
run's outputs take it from the first phase to one related to the last state. -/
theorem run_accepted {Φ : Type} (step : σ → ι → σ × List ο) (next : Φ → ο → Option Φ)
    (R : σ → Φ → Prop)
    (hstep : ∀ s p i, R s p → ∃ q, (step s i).2.foldlM next p = some q ∧ R (step s i).1 q)
    {s : σ} {p : Φ} (hs : R s p) (is : List ι) :
    ∃ q, (run step s is).2.foldlM next p = some q ∧ R (run step s is).1 q := by
  induction is generalizing s p with
  | nil => exact ⟨p, rfl, hs⟩
  | cons i is ih =>
    obtain ⟨q, hq, hR⟩ := hstep s p i hs
    obtain ⟨r, hr, hR'⟩ := ih hR
    refine ⟨r, ?_, hR'⟩
    rw [run_cons, List.foldlM_append, hq]
    exact hr

/-- A fallible conversion of every element succeeds on the list when it succeeds on each element,
and each result is then related to the element of a list that the inputs are related to. -/
theorem mapM_forall₂ {κ ε : Type} (f : ι → Except ε ο) (R : κ → ο → Prop) {ks : List κ}
    {is : List ι} (h : List.Forall₂ (fun k i => ∃ o, f i = .ok o ∧ R k o) ks is) :
    ∃ os, is.mapM f = .ok os ∧ List.Forall₂ R ks os := by
  induction h with
  | nil => exact ⟨[], rfl, List.Forall₂.nil⟩
  | cons hki _ ih =>
    obtain ⟨o, hf, hR⟩ := hki
    obtain ⟨os, hos, hRs⟩ := ih
    refine ⟨o :: os, ?_, List.Forall₂.cons hR hRs⟩
    simp only [List.mapM_cons, hf, hos]
    rfl

/-- `pure` in `Except` is `Except.ok`, a bind after it runs the continuation, and a map applies
the function to the value. -/
@[simp] theorem pure_eq_ok {ε α : Type} (a : α) : (pure a : Except ε α) = .ok a := rfl

@[simp] theorem ok_bind {ε α β : Type} (a : α) (f : α → Except ε β) :
    (Except.ok a >>= f) = f a := rfl

@[simp] theorem map_ok {ε α β : Type} (f : α → β) (a : α) :
    (f <$> (Except.ok a : Except ε α)) = .ok (f a) := rfl

@[simp] theorem map_error {ε α β : Type} (f : α → β) (e : ε) :
    (f <$> (Except.error e : Except ε α)) = .error e := rfl

/-- Inversion of a successful bind in `Except`. -/
theorem bind_eq_ok {ε α β : Type} {x : Except ε α} {f : α → Except ε β} {b : β}
    (h : x >>= f = .ok b) : ∃ a, x = .ok a ∧ f a = .ok b := by
  cases x with
  | error e => cases h
  | ok a => exact ⟨a, rfl, h⟩

/-- Inversion of a failed bind in `Except`: the first computation failed, or the second. -/
theorem bind_eq_error {ε α β : Type} {x : Except ε α} {f : α → Except ε β} {e : ε}
    (h : x >>= f = .error e) : x = .error e ∨ ∃ a, x = .ok a ∧ f a = .error e := by
  cases x with
  | error e' =>
    cases h
    exact .inl rfl
  | ok a => exact .inr ⟨a, rfl, h⟩

/-- A fallible loop over a list fails only with an error that one of its steps can give. -/
theorem foldlM_eq_error {ε : Type} {f : σ → ι → Except ε σ} (P : ε → Prop)
    (hf : ∀ s i e, f s i = .error e → P e) {is : List ι} {s : σ} {e : ε}
    (h : is.foldlM f s = .error e) : P e := by
  induction is generalizing s with
  | nil => cases h
  | cons i is ih =>
    rw [List.foldlM_cons] at h
    rcases bind_eq_error h with hi | ⟨s', -, hrest⟩
    · exact hf s i e hi
    · exact ih hrest

/-- A fallible conversion of every element fails only with an error that it gives on an
element. -/
theorem mapM_eq_error {ε : Type} {f : ι → Except ε ο} (P : ε → Prop)
    (hf : ∀ i e, f i = .error e → P e) {is : List ι} {e : ε}
    (h : is.mapM f = .error e) : P e := by
  induction is with
  | nil => cases h
  | cons i is ih =>
    rw [List.mapM_cons] at h
    rcases bind_eq_error h with hi | ⟨o, -, hrest⟩
    · exact hf i e hi
    · rcases bind_eq_error hrest with hrest | ⟨os, -, hpure⟩
      · exact ih hrest
      · cases hpure

/-- A sequence of two fallible computations fails only as one of them can. -/
theorem error_of_bind {ε α β : Type} {x : Except ε α} {f : α → Except ε β} (P : ε → Prop)
    (hx : ∀ e, x = .error e → P e) (hf : ∀ a e, f a = .error e → P e) {e : ε}
    (h : x >>= f = .error e) : P e := by
  rcases bind_eq_error h with hx' | ⟨a, -, hf'⟩
  · exact hx e hx'
  · exact hf a e hf'

/-- A fallible loop that, at each element related to some `k`, adds `len k` to a count: over a
list related element by element to `ks`, it counts the sum of their `len`. -/
theorem foldlM_add_of_forall₂ {ε κ : Type} {f : Nat → ι → Except ε Nat} {R : ι → κ → Prop}
    (len : κ → Nat) (hf : ∀ n i k, R i k → f n i = .ok (n + len k)) {is : List ι} {ks : List κ}
    (h : List.Forall₂ R is ks) (n : Nat) : is.foldlM f n = .ok (n + (ks.map len).sum) := by
  induction h generalizing n with
  | nil => simp
  | @cons i k is ks hik _ ih =>
    rw [List.foldlM_cons, hf n i k hik, ok_bind, ih]
    simp [Nat.add_assoc]

/-- A fallible loop whose every step succeeds only at an element related to something succeeds
only on a list related element by element to some list. -/
theorem forall₂_of_foldlM {ε κ : Type} {f : σ → ι → Except ε σ} {R : ι → κ → Prop}
    (hf : ∀ s i t, f s i = .ok t → ∃ k, R i k) {is : List ι} {s t : σ}
    (h : is.foldlM f s = .ok t) : ∃ ks, List.Forall₂ R is ks := by
  induction is generalizing s with
  | nil => exact ⟨[], .nil⟩
  | cons i is ih =>
    rw [List.foldlM_cons] at h
    obtain ⟨s', hstep, hrest⟩ := bind_eq_ok h
    obtain ⟨k, hk⟩ := hf s i s' hstep
    obtain ⟨ks, hks⟩ := ih hrest
    exact ⟨k :: ks, .cons hk hks⟩

/-- A conversion of every element that, where it succeeds, gives `g` of the element, gives the
map of `g` when it succeeds on the list. -/
theorem map_of_mapM_eq_ok {ε : Type} {f : ι → Except ε ο} (g : ι → ο)
    (hf : ∀ i o, f i = .ok o → o = g i) {is : List ι} {os : List ο}
    (h : is.mapM f = .ok os) : os = is.map g := by
  induction is generalizing os with
  | nil =>
    cases h
    rfl
  | cons i is ih =>
    rw [List.mapM_cons] at h
    obtain ⟨o, ho, hrest⟩ := bind_eq_ok h
    obtain ⟨os', hos', hpure⟩ := bind_eq_ok hrest
    cases hpure
    rw [hf i o ho, ih hos', List.map_cons]

/-- A conversion of every element that succeeds gives one result per element. -/
theorem length_of_mapM_eq_ok {ε : Type} {f : ι → Except ε ο} {is : List ι} {os : List ο}
    (h : is.mapM f = .ok os) : os.length = is.length := by
  induction is generalizing os with
  | nil =>
    cases h
    rfl
  | cons i is ih =>
    rw [List.mapM_cons] at h
    obtain ⟨o, -, hrest⟩ := bind_eq_ok h
    obtain ⟨os', hos', hpure⟩ := bind_eq_ok hrest
    cases hpure
    simp [ih hos']

/-- Two checks in sequence pass when both pass. -/
@[simp] theorem bind_unit_eq_ok {ε : Type} {x : Except ε Unit} {f : Unit → Except ε Unit} :
    x >>= f = .ok () ↔ x = .ok () ∧ f () = .ok () := by
  cases x with
  | error e => simp [bind, Except.bind]
  | ok u => simp [bind, Except.bind]

end Machine
