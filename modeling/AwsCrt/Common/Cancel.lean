import AwsCrt.Lib.Machine
import AwsCrt.Lib.EventEmitter

/-!
# Cancellable next-event promises (`src/lib/common/cancel.ts`, `src/lib/common/promise.ts`)

`newCancellablePromiseFromNextEvent` adds an `onEvent` listener to an emitter, which resolves (or,
when the transformer throws, rejects) a lifted promise, and, when given a `CancelController`, a
`'cancelled'` listener, which rejects it with the cancel message; a controller that is already
cancelled calls that listener at once and returns no remover. It returns the lifted promise's
`finally(cleaner)`: once the lifted promise settles, a microtask runs the cleaner, which removes
both listeners, and the returned promise then settles as the lifted one did.

* The code: a `World` of emitters (their listeners, by `EventEmitter`), the shared controller,
  the promises created so far (indexed in creation order) and the microtask queue, and `step` for
  a call of `newCancellablePromiseFromNextEvent`, `emitter.emit`, `controller.cancel()` or the run
  of the oldest microtask. The microtasks that `finally` chains after the cleaner are one job,
  `settle`, here. Listeners other than the promises' are kept and never called.
* `Inv`: every promise's listeners are registered exactly while its cleaner has not run, the
  listeners of other code are those of the initial world (on the controller, until it is
  cancelled), and the queue holds one job for each settled promise whose returned promise is
  pending. Every step keeps it (`Inv.step`), so it holds after every run (`Initial.inv_run`).
* What the promises settle with, and that the listeners come back, is in
  `AwsCrt.Common.CancelOutcome`.
-/

namespace AwsCrt

variable {α ε : Type}

/-- A listener, by the code that added it: other code's, or one of the two listeners of the
next-event promise with that index. -/
inductive Listener
  | foreign (id : Nat)
  | onEvent (promise : Nat)
  | cancel (promise : Nat)
  deriving DecidableEq, Repr

def Listener.isForeign : Listener → Bool
  | .foreign _ => true
  | .onEvent _ | .cancel _ => false

/-- `CancelController`: `cancelled`, and the listeners of its emitter for `'cancelled'`. Once
cancelled it has none: `cancel()` removes them all, and `addListener` adds none. -/
structure CancelController where
  cancelled : Bool
  listeners : List Listener
  listeners_nil : cancelled = true → listeners = []

/-- `this.emitter.removeListener(EVENT_NAME, listener)`. -/
def CancelController.removeListener (c : CancelController) (listener : Listener) :
    CancelController :=
  ⟨c.cancelled, c.listeners.erase listener, fun h => by rw [c.listeners_nil h]; rfl⟩

@[simp] theorem CancelController.removeListener_cancelled (c : CancelController)
    (listener : Listener) : (c.removeListener listener).cancelled = c.cancelled := rfl

@[simp] theorem CancelController.removeListener_listeners (c : CancelController)
    (listener : Listener) : (c.removeListener listener).listeners = c.listeners.erase listener :=
  rfl

/-- `CancellableNextEventPromiseOptions`: the emitter (by index), the event name, whether the
shared controller is given as `cancelController`, the transformer (a thrown error is `.error`),
and the cancel message. -/
structure CancellableNextEventPromiseOptions (α ε : Type) where
  emitter : Nat
  eventName : String
  cancelController : Bool
  eventDataTransformer : Option (α → Except ε α)
  cancelMessage : ε

/-- What `onEvent` settles the lifted promise with. -/
def CancellableNextEventPromiseOptions.onEventOutcome
    (options : CancellableNextEventPromiseOptions α ε) (eventData : α) : Except ε α :=
  match options.eventDataTransformer with
  | some eventDataTransformer => eventDataTransformer eventData
  | none => .ok eventData

/-- A promise made by `newCancellablePromiseFromNextEvent`: its options, its lifted promise
(`none` while pending), whether `cancelRemoveListener` is defined, and the promise returned. -/
structure NextEventPromise (α ε : Type) where
  options : CancellableNextEventPromiseOptions α ε
  lifted : Option (Except ε α)
  cancelRemoveListener : Bool
  returned : Option (Except ε α)

/-- A queued microtask: the `finally` reaction that runs a promise's cleaner, and the settling of
the returned promise it leads to. -/
inductive Microtask
  | cleaner (promise : Nat)
  | settle (promise : Nat)
  deriving DecidableEq, Repr

/-- The emitters, the shared controller, the promises created so far and the microtask queue. -/
structure World (α ε : Type) where
  emitters : Nat → List (String × Listener)
  controller : CancelController
  promises : Nat → Option (NextEventPromise α ε)
  created : Nat
  microtasks : List Microtask

/-- What the environment does. -/
inductive Action (α ε : Type)
  | newCancellablePromiseFromNextEvent (options : CancellableNextEventPromiseOptions α ε)
  | emit (emitter : Nat) (eventName : String) (eventData : α)
  | cancel
  | microtask

namespace World

variable (w : World α ε)

/-- `liftedPromise.resolve` or `reject` on promise `i`: the first settles it and queues its
`finally` reaction; a later one does nothing. -/
def settleLifted (i : Nat) (outcome : Except ε α) : World α ε :=
  match w.promises i with
  | some p =>
    if p.lifted.isNone then
      { w with
        promises := Function.update w.promises i (some { p with lifted := some outcome })
        microtasks := w.microtasks ++ [.cleaner i] }
    else w
  | none => w

/-- An emitter's listener called with the event data: a promise's `onEvent` settles it. -/
def callListener (eventData : α) (w : World α ε) : Listener → World α ε
  | .onEvent i =>
    match w.promises i with
    | some p => w.settleLifted i (p.options.onEventOutcome eventData)
    | none => w
  | .foreign _ | .cancel _ => w

/-- `emitter.emit(eventName, eventData)`: the listeners for the name as they are when it starts. -/
def emit (emitter : Nat) (eventName : String) (eventData : α) : World α ε :=
  (EventEmitter.listeners (w.emitters emitter) eventName).foldl (callListener eventData) w

/-- A `'cancelled'` listener called: a promise's rejects it with its cancel message. -/
def callCancelListener (w : World α ε) : Listener → World α ε
  | .cancel i =>
    match w.promises i with
    | some p => w.settleLifted i (.error p.options.cancelMessage)
    | none => w
  | .foreign _ | .onEvent _ => w

/-- `controller.cancel()`: sets `cancelled`, calls the `'cancelled'` listeners it has, and removes
them all. No listener reads the controller, so they are removed before the calls here. -/
def cancel : World α ε :=
  if w.controller.cancelled then w
  else
    w.controller.listeners.foldl callCancelListener
      { w with controller := ⟨true, [], fun _ => rfl⟩ }

/-- The first part of `newCancellablePromiseFromNextEvent(options)`: a new promise, with the next
index and its lifted promise pending, and its `onEvent` added to the emitter. -/
def addPromise (options : CancellableNextEventPromiseOptions α ε) : World α ε :=
  { w with
    emitters := Function.update w.emitters options.emitter
      (EventEmitter.addListener (w.emitters options.emitter) options.eventName (.onEvent w.created))
    promises := Function.update w.promises w.created (some ⟨options, none, false, none⟩)
    created := w.created + 1 }

/-- `cancelController.addListener(...)` for promise `i`: a cancelled controller calls the listener
at once and returns no remover; otherwise the listener is added and the remover returned. -/
def addCancelListener (i : Nat) (cancelMessage : ε) : World α ε :=
  if w.controller.cancelled then w.settleLifted i (.error cancelMessage)
  else
    { w with
      controller := ⟨false, w.controller.listeners ++ [.cancel i], fun h => by cases h⟩
      promises := Function.update w.promises i
        ((w.promises i).map fun p => { p with cancelRemoveListener := true }) }

/-- `newCancellablePromiseFromNextEvent(options)`. -/
def newCancellablePromiseFromNextEvent (options : CancellableNextEventPromiseOptions α ε) :
    World α ε :=
  if options.cancelController then
    (w.addPromise options).addCancelListener w.created options.cancelMessage
  else w.addPromise options

/-- The cleaner of promise `i`: removes its `onEvent`, and its `'cancelled'` listener when
`cancelRemoveListener` is defined. -/
def cleaner (i : Nat) : World α ε :=
  match w.promises i with
  | some p =>
    { w with
      emitters := Function.update w.emitters p.options.emitter
        (EventEmitter.removeListener (w.emitters p.options.emitter) p.options.eventName
          (.onEvent i))
      controller :=
        if p.cancelRemoveListener then w.controller.removeListener (.cancel i) else w.controller }
  | none => w

/-- The oldest microtask runs; a returned promise that settles is an output. -/
def runMicrotask : World α ε × List (Nat × Except ε α) :=
  match w.microtasks with
  | [] => (w, [])
  | .cleaner i :: rest => ({ w.cleaner i with microtasks := rest ++ [.settle i] }, [])
  | .settle i :: rest =>
    match w.promises i with
    | some p =>
      ({ w with
          promises := Function.update w.promises i (some { p with returned := p.lifted })
          microtasks := rest },
        (p.lifted.map fun outcome => (i, outcome)).toList)
    | none => ({ w with microtasks := rest }, [])

def step : Action α ε → World α ε × List (Nat × Except ε α)
  | .newCancellablePromiseFromNextEvent options => (w.newCancellablePromiseFromNextEvent options, [])
  | .emit emitter eventName eventData => (w.emit emitter eventName eventData, [])
  | .cancel => (w.cancel, [])
  | .microtask => w.runMicrotask

end World

/-! ## The invariant -/

/-- A promise after its lifted promise is resolved or rejected: the first outcome stays. -/
def NextEventPromise.settle (p : NextEventPromise α ε) (outcome : Except ε α) :
    NextEventPromise α ε :=
  if p.lifted.isNone then { p with lifted := some outcome } else p

namespace NextEventPromise

variable (p : NextEventPromise α ε) (outcome : Except ε α)

@[simp] theorem options_settle : (p.settle outcome).options = p.options := by
  unfold settle
  split <;> rfl

@[simp] theorem cancelRemoveListener_settle :
    (p.settle outcome).cancelRemoveListener = p.cancelRemoveListener := by
  unfold settle
  split <;> rfl

@[simp] theorem returned_settle : (p.settle outcome).returned = p.returned := by
  unfold settle
  split <;> rfl

@[simp] theorem lifted_settle : (p.settle outcome).lifted = some (p.lifted.getD outcome) := by
  unfold settle
  cases h : p.lifted <;> simp [h]

@[simp] theorem settle_settle (outcome' : Except ε α) :
    (p.settle outcome).settle outcome' = p.settle outcome := by
  unfold settle
  cases h : p.lifted <;> simp [h]

theorem settle_of_isSome (h : p.lifted.isSome) : p.settle outcome = p := by
  simp [settle, Option.isSome_iff_ne_none.mp h]

end NextEventPromise

namespace World

/-- A promise's listeners stay registered until its cleaner has run: while its lifted promise is
pending, or settled with the cleaner queued. -/
def Registered (w : World α ε) (i : Nat) (p : NextEventPromise α ε) : Prop :=
  p.lifted = none ∨ Microtask.cleaner i ∈ w.microtasks

/-- Promise `i` has its `onEvent` registered on `emitter` for `eventName`. -/
def OnEventRegistered (w : World α ε) (emitter : Nat) (eventName : String) (i : Nat) : Prop :=
  ∃ p, w.promises i = some p ∧ p.options.emitter = emitter ∧ p.options.eventName = eventName ∧
    Registered w i p

/-- Promise `i` has its `'cancelled'` listener registered on the controller. -/
def CancelRegistered (w : World α ε) (i : Nat) : Prop :=
  ∃ p, w.promises i = some p ∧ p.cancelRemoveListener = true ∧ Registered w i p ∧
    w.controller.cancelled = false

/-- A world before any promise: the listeners of other code only, and nothing queued. -/
structure Initial (w : World α ε) : Prop where
  emitters : ∀ e, ∀ x ∈ w.emitters e, x.2.isForeign = true
  controller : ∀ x ∈ w.controller.listeners, x.isForeign = true
  promises : ∀ i, w.promises i = none
  created : w.created = 0
  microtasks : w.microtasks = []

/-- What every step keeps, from an initial world, except that a pending cancellable promise has
its `'cancelled'` listener (which `cancel()` restores only once it has called the listeners). -/
structure Core (initial w : World α ε) : Prop where
  foreign_emitters : ∀ e, (w.emitters e).filter (·.2.isForeign) = initial.emitters e
  foreign_controller : w.controller.listeners.filter Listener.isForeign =
    if w.controller.cancelled then [] else initial.controller.listeners
  emitters_kind : ∀ e x, x ∈ w.emitters e → x.2.isForeign = true ∨ ∃ i, x.2 = .onEvent i
  controller_kind : ∀ x ∈ w.controller.listeners, x.isForeign = true ∨ ∃ i, x = .cancel i
  promises_some : ∀ i, (w.promises i).isSome ↔ i < w.created
  onEvent_count : ∀ e n i, (w.emitters e).count (n, .onEvent i) ≤ 1
  onEvent_mem : ∀ e n i, (n, Listener.onEvent i) ∈ w.emitters e ↔ OnEventRegistered w e n i
  cancel_count : ∀ i, w.controller.listeners.count (.cancel i) ≤ 1
  cancel_mem : ∀ i, Listener.cancel i ∈ w.controller.listeners ↔ CancelRegistered w i
  remover : ∀ i p, w.promises i = some p → p.cancelRemoveListener = true →
    p.options.cancelController = true
  cleaner_count : ∀ i, w.microtasks.count (.cleaner i) ≤ 1
  settle_count : ∀ i, w.microtasks.count (.settle i) ≤ 1
  queued : ∀ i, Microtask.cleaner i ∈ w.microtasks ∨ Microtask.settle i ∈ w.microtasks →
    ∃ p, w.promises i = some p ∧ p.lifted.isSome ∧ p.returned = none
  not_both : ∀ i, Microtask.cleaner i ∈ w.microtasks → Microtask.settle i ∉ w.microtasks
  settling : ∀ i p, w.promises i = some p → p.lifted.isSome → p.returned = none →
    Microtask.cleaner i ∈ w.microtasks ∨ Microtask.settle i ∈ w.microtasks
  returned : ∀ i p, w.promises i = some p → ∀ r, p.returned = some r → p.lifted = some r

/-- The invariant: `Core`, and every pending promise that has the controller has its
`'cancelled'` listener on a controller that is not cancelled. -/
structure Inv (initial w : World α ε) : Prop extends Core initial w where
  pending_cancellable : ∀ i p, w.promises i = some p → p.lifted = none →
    p.options.cancelController = true → p.cancelRemoveListener = true ∧ w.controller.cancelled = false

variable {initial w : World α ε}

theorem Core.returned_none {i : Nat} {p : NextEventPromise α ε} (h : Core initial w)
    (hp : w.promises i = some p) (hl : p.lifted = none) : p.returned = none := by
  cases hr : p.returned with
  | none => rfl
  | some r => simp [h.returned i p hp r hr] at hl

theorem Core.not_queued {i : Nat} {p : NextEventPromise α ε} (h : Core initial w)
    (hp : w.promises i = some p) (hl : p.lifted = none) :
    Microtask.cleaner i ∉ w.microtasks ∧ Microtask.settle i ∉ w.microtasks := by
  constructor <;> intro hm
  · obtain ⟨p', hp', hs, -⟩ := h.queued i (.inl hm)
    simp_all
  · obtain ⟨p', hp', hs, -⟩ := h.queued i (.inr hm)
    simp_all

/-! ### Settling a lifted promise -/

@[simp] theorem settleLifted_emitters (i : Nat) (outcome : Except ε α) :
    (w.settleLifted i outcome).emitters = w.emitters := by
  unfold settleLifted
  split
  · split <;> rfl
  · rfl

@[simp] theorem settleLifted_controller (i : Nat) (outcome : Except ε α) :
    (w.settleLifted i outcome).controller = w.controller := by
  unfold settleLifted
  split
  · split <;> rfl
  · rfl

@[simp] theorem settleLifted_created (i : Nat) (outcome : Except ε α) :
    (w.settleLifted i outcome).created = w.created := by
  unfold settleLifted
  split
  · split <;> rfl
  · rfl

theorem settleLifted_of_settled {i : Nat} (h : ∀ p, w.promises i = some p → p.lifted.isSome)
    (outcome : Except ε α) : w.settleLifted i outcome = w := by
  unfold settleLifted
  split
  · rename_i p hp
    have := h p hp
    simp [Option.isSome_iff_ne_none.mp this]
  · rfl

theorem settleLifted_of_pending {i : Nat} {p : NextEventPromise α ε} (hp : w.promises i = some p)
    (hl : p.lifted = none) (outcome : Except ε α) :
    w.settleLifted i outcome =
      { w with
        promises := Function.update w.promises i (some { p with lifted := some outcome })
        microtasks := w.microtasks ++ [.cleaner i] } := by
  simp [settleLifted, hp, hl]

/-- The promises after a settling: promise `i`, if pending, takes the outcome. -/
theorem settleLifted_promises (i j : Nat) (outcome : Except ε α) :
    (w.settleLifted i outcome).promises j =
      if j = i then (w.promises i).map (·.settle outcome) else w.promises j := by
  by_cases hj : j = i
  · subst hj
    cases hp : w.promises j with
    | none => simp [settleLifted, hp]
    | some p =>
      cases hl : p.lifted with
      | none => simp [settleLifted, NextEventPromise.settle, hp, hl]
      | some r => simp [settleLifted, NextEventPromise.settle, hp, hl]
  · unfold settleLifted
    split
    · split <;> simp [hj]
    · simp [hj]

theorem onEventRegistered_settleLifted (i : Nat) (outcome : Except ε α) (e : Nat) (n : String)
    (j : Nat) : OnEventRegistered (w.settleLifted i outcome) e n j ↔ OnEventRegistered w e n j := by
  by_cases hpend : ∃ p, w.promises i = some p ∧ p.lifted = none
  · obtain ⟨p, hp, hl⟩ := hpend
    rw [settleLifted_of_pending hp hl]
    by_cases hj : j = i
    · subst hj
      simp [OnEventRegistered, Registered, hp, hl]
    · simp [OnEventRegistered, Registered, hj]
  · rw [settleLifted_of_settled]
    intro p hp
    simpa [Option.isSome_iff_ne_none] using fun hl => hpend ⟨p, hp, hl⟩

theorem cancelRegistered_settleLifted (i : Nat) (outcome : Except ε α) (j : Nat) :
    CancelRegistered (w.settleLifted i outcome) j ↔ CancelRegistered w j := by
  by_cases hpend : ∃ p, w.promises i = some p ∧ p.lifted = none
  · obtain ⟨p, hp, hl⟩ := hpend
    rw [settleLifted_of_pending hp hl]
    by_cases hj : j = i
    · subst hj
      simp [CancelRegistered, Registered, hp, hl]
    · simp [CancelRegistered, Registered, hj]
  · rw [settleLifted_of_settled]
    intro p hp
    simpa [Option.isSome_iff_ne_none] using fun hl => hpend ⟨p, hp, hl⟩

theorem Core.settleLifted (h : Core initial w) (i : Nat) (outcome : Except ε α) :
    Core initial (w.settleLifted i outcome) := by
  by_cases hpend : ∃ p, w.promises i = some p ∧ p.lifted = none
  swap
  · rw [settleLifted_of_settled]
    · exact h
    · intro p hp
      simpa [Option.isSome_iff_ne_none] using fun hl => hpend ⟨p, hp, hl⟩
  obtain ⟨p, hp, hl⟩ := hpend
  obtain ⟨hcl, hst⟩ := h.not_queued hp hl
  have hret := h.returned_none hp hl
  have hlt : i < w.created := (h.promises_some i).mp (by simp [hp])
  -- the settled promise gets its cleaner queued; nothing else changes
  have hpromises := settleLifted_promises (w := w) i
  refine
    { foreign_emitters := by simpa using h.foreign_emitters
      foreign_controller := by simpa using h.foreign_controller
      emitters_kind := by simpa using h.emitters_kind
      controller_kind := by simpa using h.controller_kind
      promises_some := fun j => ?_
      onEvent_count := by simpa using h.onEvent_count
      onEvent_mem := fun e n j => by
        rw [onEventRegistered_settleLifted]
        simpa using h.onEvent_mem e n j
      cancel_count := by simpa using h.cancel_count
      cancel_mem := fun j => by
        rw [cancelRegistered_settleLifted]
        simpa using h.cancel_mem j
      remover := fun j p' hp' => ?_
      cleaner_count := fun j => ?_
      settle_count := fun j => ?_
      queued := fun j hj => ?_
      not_both := fun j => ?_
      settling := fun j p' hp' => ?_
      returned := fun j p' hp' => ?_ }
  all_goals rw [settleLifted_of_pending hp hl] at *
  · by_cases hj : j = i
    · subst hj
      simp [hlt]
    · simpa [hj] using h.promises_some j
  · by_cases hj : j = i
    · subst hj
      simp only [Function.update_apply, if_true, Option.some.injEq] at hp'
      subst hp'
      exact h.remover j p hp
    · simp only [Function.update_apply, hj, if_false] at hp'
      exact h.remover j p' hp'
  · by_cases hj : j = i
    · subst hj
      simp [List.count_eq_zero.mpr hcl]
    · simpa [List.count_append, List.count_singleton, Ne.symm hj] using h.cleaner_count j
  · simpa [List.count_append] using h.settle_count j
  · by_cases hji : j = i
    · subst hji
      simp [hret]
    · simp only [List.mem_append, List.mem_singleton, Microtask.cleaner.injEq, hji, or_false,
        reduceCtorEq] at hj
      simpa [hji] using h.queued j hj
  · by_cases hji : j = i
    · subst hji
      simpa using hst
    · intro hc
      simpa [hji] using h.not_both j (by simpa [hji] using hc)
  · by_cases hji : j = i
    · subst hji
      simp
    · intro hs hr
      simp only [Function.update_apply, hji, if_false] at hp'
      rcases h.settling j p' hp' hs hr with hm | hm <;> simp [hm]
  · by_cases hji : j = i
    · subst hji
      simp only [Function.update_apply, if_true, Option.some.injEq] at hp'
      subst hp'
      simp [hret]
    · simp only [Function.update_apply, hji, if_false] at hp'
      exact h.returned j p' hp'

theorem Inv.settleLifted (h : Inv initial w) (i : Nat) (outcome : Except ε α) :
    Inv initial (w.settleLifted i outcome) := by
  refine ⟨h.toCore.settleLifted i outcome, fun j p' hp' hl hc => ?_⟩
  rw [settleLifted_promises] at hp'
  simp only [settleLifted_controller]
  by_cases hji : j = i
  · subst hji
    -- a promise that the settling reached is no longer pending
    cases hp : w.promises j with
    | none => simp [hp] at hp'
    | some p =>
      simp only [hp, if_true, Option.map_some, Option.some.injEq] at hp'
      subst hp'
      simp at hl
  · simp only [hji, if_false] at hp'
    exact h.pending_cancellable j p' hp' hl hc

/-! ### Calling listeners -/

/-- A call of an emitter's listener settles a lifted promise or does nothing. -/
theorem callListener_cases (eventData : α) (l : Listener) :
    callListener eventData w l = w ∨ ∃ i outcome, callListener eventData w l = w.settleLifted i outcome := by
  cases l with
  | onEvent i =>
    simp only [callListener]
    split
    · exact .inr ⟨i, _, rfl⟩
    · exact .inl rfl
  | foreign _ | cancel _ => exact .inl rfl

/-- A call of a `'cancelled'` listener settles a lifted promise or does nothing. -/
theorem callCancelListener_cases (l : Listener) :
    callCancelListener w l = w ∨ ∃ i outcome, callCancelListener w l = w.settleLifted i outcome := by
  cases l with
  | cancel i =>
    simp only [callCancelListener]
    split
    · exact .inr ⟨i, _, rfl⟩
    · exact .inl rfl
  | foreign _ | onEvent _ => exact .inl rfl

/-- What a settling keeps, a run of listener calls that each settle or do nothing keeps. -/
theorem foldl_of_settleLifted {f : World α ε → Listener → World α ε} (P : World α ε → Prop)
    (hf : ∀ w l, f w l = w ∨ ∃ i outcome, f w l = w.settleLifted i outcome)
    (hP : ∀ w i outcome, P w → P (w.settleLifted i outcome)) (ls : List Listener) (hw : P w) :
    P (ls.foldl f w) :=
  List.foldlRecOn ls f hw fun w' hw' l _ => by
    rcases hf w' l with h | ⟨i, outcome, h⟩
    · rwa [h]
    · rw [h]
      exact hP w' i outcome hw'

theorem callListener_promises (eventData : α) (l : Listener) (j : Nat) :
    (callListener eventData w l).promises j =
      if l = .onEvent j then (w.promises j).map fun p => p.settle (p.options.onEventOutcome eventData)
      else w.promises j := by
  cases l with
  | onEvent i =>
    simp only [callListener, Listener.onEvent.injEq]
    by_cases hj : j = i
    · subst hj
      cases hp : w.promises j with
      | none => simp [hp]
      | some p => simp [settleLifted_promises, hp]
    · split <;> simp [settleLifted_promises, hj, Ne.symm hj]
  | foreign _ | cancel _ => simp [callListener]

theorem callCancelListener_promises (l : Listener) (j : Nat) :
    (callCancelListener w l).promises j =
      if l = .cancel j then (w.promises j).map fun p => p.settle (.error p.options.cancelMessage)
      else w.promises j := by
  cases l with
  | cancel i =>
    simp only [callCancelListener, Listener.cancel.injEq]
    by_cases hj : j = i
    · subst hj
      cases hp : w.promises j with
      | none => simp [hp]
      | some p => simp [settleLifted_promises, hp]
    · split <;> simp [settleLifted_promises, hj, Ne.symm hj]
  | foreign _ | onEvent _ => simp [callCancelListener]

/-- Calling listeners in order, each of which settles only its own promise, with an outcome that
the promise's options decide: a promise is settled once its listener has been called. -/
theorem promises_foldl {f : World α ε → Listener → World α ε} {tag : Nat → Listener}
    {out : NextEventPromise α ε → Except ε α}
    (hf : ∀ w l j, (f w l).promises j =
      if l = tag j then (w.promises j).map (fun p => p.settle (out p)) else w.promises j)
    (hout : ∀ p o, out (p.settle o) = out p) (ls : List Listener) (w : World α ε) (j : Nat) :
    (ls.foldl f w).promises j =
      if tag j ∈ ls then (w.promises j).map (fun p => p.settle (out p)) else w.promises j := by
  induction ls generalizing w with
  | nil => simp
  | cons l ls ih =>
    rw [List.foldl_cons, ih, hf]
    by_cases hl : l = tag j
    · subst hl
      split <;> simp [Function.comp_def, hout]
    · simp [hl, Ne.symm hl]

/-! ### `emit` -/

section Emit

variable (emitter : Nat) (eventName : String) (eventData : α)

theorem Inv.emit (h : Inv initial w) : Inv initial (w.emit emitter eventName eventData) :=
  foldl_of_settleLifted (Inv initial) (fun w l => callListener_cases (w := w) eventData l)
    (fun _ i outcome h => h.settleLifted i outcome) _ h

@[simp] theorem emit_emitters : (w.emit emitter eventName eventData).emitters = w.emitters :=
  foldl_of_settleLifted (fun w' => w'.emitters = w.emitters)
    (fun w l => callListener_cases (w := w) eventData l) (fun _ _ _ h => by simpa using h) _ rfl

@[simp] theorem emit_controller : (w.emit emitter eventName eventData).controller = w.controller :=
  foldl_of_settleLifted (fun w' => w'.controller = w.controller)
    (fun w l => callListener_cases (w := w) eventData l) (fun _ _ _ h => by simpa using h) _ rfl

@[simp] theorem emit_created : (w.emit emitter eventName eventData).created = w.created :=
  foldl_of_settleLifted (fun w' => w'.created = w.created)
    (fun w l => callListener_cases (w := w) eventData l) (fun _ _ _ h => by simpa using h) _ rfl

/-- `emit` settles the promises whose `onEvent` is registered for the event when it starts. -/
theorem emit_promises (j : Nat) :
    (w.emit emitter eventName eventData).promises j =
      if (eventName, .onEvent j) ∈ w.emitters emitter then
        (w.promises j).map fun p => p.settle (p.options.onEventOutcome eventData)
      else w.promises j := by
  rw [emit, promises_foldl (fun w l j => callListener_promises (w := w) eventData l j)
    (fun p o => by simp)]
  simp only [EventEmitter.mem_listeners]

/-- Under the invariant, `emit` settles exactly the promises listening for the event: a pending
one has its `onEvent` registered, and a settled one stays as it is. -/
theorem Core.emit_promises (h : Core initial w) (j : Nat) :
    (w.emit emitter eventName eventData).promises j = (w.promises j).map fun p =>
      if p.options.emitter = emitter ∧ p.options.eventName = eventName then
        p.settle (p.options.onEventOutcome eventData)
      else p := by
  rw [World.emit_promises]
  split
  · rename_i hm
    obtain ⟨p, hp, he, hn, -⟩ := (h.onEvent_mem emitter eventName j).mp hm
    simp [hp, he, hn]
  · rename_i hm
    cases hp : w.promises j with
    | none => rfl
    | some p =>
      simp only [Option.map_some, Option.some.injEq]
      split_ifs with hc
      · -- a pending promise listening for this event would have its `onEvent` registered
        refine (p.settle_of_isSome _ ?_).symm
        rw [Option.isSome_iff_ne_none]
        intro hl
        exact hm ((h.onEvent_mem emitter eventName j).mpr ⟨p, hp, hc.1, hc.2, .inl hl⟩)
      · rfl

end Emit

/-! ### `cancel()` -/

theorem Core.clearController (h : Core initial w) :
    Core initial { w with controller := ⟨true, [], fun _ => rfl⟩ } :=
  { foreign_emitters := h.foreign_emitters
    foreign_controller := by simp
    emitters_kind := h.emitters_kind
    controller_kind := by simp
    promises_some := h.promises_some
    onEvent_count := h.onEvent_count
    onEvent_mem := h.onEvent_mem
    cancel_count := by simp
    cancel_mem := fun i => by simp [CancelRegistered]
    remover := h.remover
    cleaner_count := h.cleaner_count
    settle_count := h.settle_count
    queued := h.queued
    not_both := h.not_both
    settling := h.settling
    returned := h.returned }

theorem Inv.cancel (h : Inv initial w) : Inv initial w.cancel := by
  unfold World.cancel
  split
  · exact h
  · refine ⟨foldl_of_settleLifted (Core initial) (fun w l => callCancelListener_cases (w := w) l)
      (fun _ i outcome h => h.settleLifted i outcome) _ h.toCore.clearController,
      fun j p' hp' hl hcc => ?_⟩
    -- a pending promise that has the controller had its listener among those called
    exfalso
    rw [promises_foldl (fun w l j => callCancelListener_promises (w := w) l j)
      (fun p o => by simp)] at hp'
    split at hp'
    · obtain ⟨p, -, rfl⟩ := Option.map_eq_some_iff.mp hp'
      simp at hl
    · rename_i hm
      have hpend := h.pending_cancellable j p' hp' hl hcc
      exact hm ((h.cancel_mem j).mpr ⟨p', hp', hpend.1, .inl hl, hpend.2⟩)

theorem CancelController.eq_of_cancelled {c : CancelController} (h : c.cancelled = true) :
    c = ⟨true, [], fun _ => rfl⟩ := by
  obtain ⟨cancelled, listeners, listeners_nil⟩ := c
  subst h
  obtain rfl := listeners_nil rfl
  rfl

@[simp] theorem cancel_controller : w.cancel.controller = ⟨true, [], fun _ => rfl⟩ := by
  unfold cancel
  split
  · exact CancelController.eq_of_cancelled ‹_›
  · exact foldl_of_settleLifted (fun w' => w'.controller = ⟨true, [], fun _ => rfl⟩)
      (fun w l => callCancelListener_cases (w := w) l) (fun _ _ _ h => by simpa using h) _ rfl

@[simp] theorem cancel_emitters : w.cancel.emitters = w.emitters := by
  unfold cancel
  split
  · rfl
  · exact foldl_of_settleLifted (fun w' => w'.emitters = w.emitters)
      (fun w l => callCancelListener_cases (w := w) l) (fun _ _ _ h => by simpa using h) _ rfl

@[simp] theorem cancel_created : w.cancel.created = w.created := by
  unfold cancel
  split
  · rfl
  · exact foldl_of_settleLifted (fun w' => w'.created = w.created)
      (fun w l => callCancelListener_cases (w := w) l) (fun _ _ _ h => by simpa using h) _ rfl

/-- `cancel()` settles the promises whose `'cancelled'` listener the controller has (a cancelled
controller has none). -/
theorem cancel_promises (j : Nat) :
    w.cancel.promises j =
      if Listener.cancel j ∈ w.controller.listeners then
        (w.promises j).map fun p => p.settle (.error p.options.cancelMessage)
      else w.promises j := by
  unfold cancel
  split
  · rename_i hc
    simp [w.controller.listeners_nil hc]
  · exact promises_foldl (fun w l j => callCancelListener_promises (w := w) l j)
      (fun p o => by simp) _ _ j

/-- Under the invariant, `cancel()` settles exactly the promises that have the controller. -/
theorem Inv.cancel_promises (h : Inv initial w) (j : Nat) :
    w.cancel.promises j = (w.promises j).map fun p =>
      if p.options.cancelController then p.settle (.error p.options.cancelMessage) else p := by
  rw [World.cancel_promises]
  split
  · rename_i hm
    obtain ⟨p, hp, hr, -, -⟩ := (h.cancel_mem j).mp hm
    simp [hp, h.remover j p hp hr]
  · rename_i hm
    cases hp : w.promises j with
    | none => rfl
    | some p =>
      simp only [Option.map_some, Option.some.injEq]
      split_ifs with hcc
      · -- a pending promise that has the controller has its listener registered
        refine (p.settle_of_isSome _ ?_).symm
        rw [Option.isSome_iff_ne_none]
        intro hl
        have hpend := h.pending_cancellable j p hp hl hcc
        exact hm ((h.cancel_mem j).mpr ⟨p, hp, hpend.1, .inl hl, hpend.2⟩)
      · rfl

/-! ### `newCancellablePromiseFromNextEvent` -/

theorem Core.promises_created (h : Core initial w) : w.promises w.created = none := by
  simpa using (h.promises_some w.created).not.mpr (lt_irrefl _)

section Create

variable (options : CancellableNextEventPromiseOptions α ε)

@[simp] theorem addPromise_created : (w.addPromise options).created = w.created + 1 := rfl

@[simp] theorem addPromise_controller : (w.addPromise options).controller = w.controller := rfl

@[simp] theorem addPromise_microtasks : (w.addPromise options).microtasks = w.microtasks := rfl

theorem addPromise_promises (j : Nat) :
    (w.addPromise options).promises j =
      if j = w.created then some ⟨options, none, false, none⟩ else w.promises j :=
  Function.update_apply ..

theorem mem_addPromise_emitters (e : Nat) (x : String × Listener) :
    x ∈ (w.addPromise options).emitters e ↔
      x ∈ w.emitters e ∨ e = options.emitter ∧ x = (options.eventName, .onEvent w.created) := by
  by_cases he : e = options.emitter
  · subst he
    simp [addPromise, EventEmitter.addListener]
  · simp [addPromise, he]

theorem onEventRegistered_addPromise (e : Nat) (n : String) (j : Nat) :
    OnEventRegistered (w.addPromise options) e n j ↔
      if j = w.created then options.emitter = e ∧ options.eventName = n
      else OnEventRegistered w e n j := by
  by_cases hj : j = w.created
  · simp [OnEventRegistered, Registered, addPromise_promises, hj]
  · simp [OnEventRegistered, Registered, addPromise_promises, hj]

theorem cancelRegistered_addPromise (j : Nat) :
    CancelRegistered (w.addPromise options) j ↔ j ≠ w.created ∧ CancelRegistered w j := by
  by_cases hj : j = w.created
  · simp [CancelRegistered, addPromise_promises, hj]
  · simp [CancelRegistered, Registered, addPromise_promises, hj]

/-- Adding a promise keeps `Core`: its index is fresh, so none of its listeners or jobs exist. -/
theorem Core.addPromise (h : Core initial w) : Core initial (w.addPromise options) := by
  have hnone := h.promises_created
  have hfresh : ∀ e n, (n, Listener.onEvent w.created) ∉ w.emitters e := fun e n hm => by
    obtain ⟨p, hp, -⟩ := (h.onEvent_mem e n _).mp hm
    simp [hnone] at hp
  refine
    { foreign_emitters := fun e => ?foreign_emitters
      foreign_controller := h.foreign_controller
      emitters_kind := fun e x hx => ?emitters_kind
      controller_kind := h.controller_kind
      promises_some := fun j => ?promises_some
      onEvent_count := fun e n j => ?onEvent_count
      onEvent_mem := fun e n j => ?onEvent_mem
      cancel_count := h.cancel_count
      cancel_mem := fun j => ?cancel_mem
      remover := fun j p hp => ?remover
      cleaner_count := h.cleaner_count
      settle_count := h.settle_count
      queued := fun j hq => ?queued
      not_both := h.not_both
      settling := fun j p hp => ?settling
      returned := fun j p hp => ?returned }
  case foreign_emitters =>
    by_cases he : e = options.emitter
    · subst he
      simp only [World.addPromise, Function.update_self]
      rw [EventEmitter.filter_addListener_of_not _ rfl]
      exact h.foreign_emitters _
    · simpa [World.addPromise, he] using h.foreign_emitters e
  case emitters_kind =>
    rcases (mem_addPromise_emitters options e x).mp hx with hx | ⟨-, rfl⟩
    · exact h.emitters_kind e x hx
    · exact .inr ⟨_, rfl⟩
  case promises_some =>
    by_cases hj : j = w.created
    · simp [addPromise_promises, hj]
    · rw [addPromise_promises, if_neg hj, h.promises_some j, addPromise_created]
      omega
  case onEvent_count =>
    by_cases he : e = options.emitter
    · subst he
      simp only [World.addPromise, Function.update_self]
      rw [EventEmitter.count_addListener]
      split_ifs with hx
      · -- the new registration is the only one of the fresh index
        simp only [Prod.mk.injEq, Listener.onEvent.injEq] at hx
        obtain ⟨rfl, rfl⟩ := hx
        simp [List.count_eq_zero.mpr (hfresh _ _)]
      · simpa using h.onEvent_count _ n j
    · simpa [World.addPromise, he] using h.onEvent_count e n j
  case onEvent_mem =>
    rw [mem_addPromise_emitters, onEventRegistered_addPromise, h.onEvent_mem]
    by_cases hj : j = w.created
    · subst hj
      simp [OnEventRegistered, hnone, eq_comm]
    · simp [hj]
  case cancel_mem =>
    rw [cancelRegistered_addPromise, ← h.cancel_mem]
    constructor
    · intro hm
      refine ⟨fun hj => ?_, hm⟩
      subst hj
      obtain ⟨p, hp, -⟩ := (h.cancel_mem _).mp hm
      simp [hnone] at hp
    · exact fun hm => hm.2
  all_goals rw [addPromise_promises] at *
  case remover =>
    split_ifs at hp with hj
    · cases hp
      simp
    · exact h.remover j p hp
  case queued =>
    by_cases hj : j = w.created
    · obtain ⟨p, hp, -⟩ := h.queued j hq
      simp [hj, hnone] at hp
    · simpa [hj] using h.queued j hq
  case settling =>
    split_ifs at hp with hj
    · cases hp
      simp
    · exact h.settling j p hp
  case returned =>
    split_ifs at hp with hj
    · cases hp
      simp
    · exact h.returned j p hp

theorem addCancelListener_of_cancelled {i : Nat} {cancelMessage : ε}
    (hc : w.controller.cancelled = true) :
    w.addCancelListener i cancelMessage = w.settleLifted i (.error cancelMessage) := by
  simp [addCancelListener, hc]

theorem addCancelListener_of_not_cancelled {i : Nat} {cancelMessage : ε}
    (hc : w.controller.cancelled = false) :
    w.addCancelListener i cancelMessage =
      { w with
        controller := ⟨false, w.controller.listeners ++ [.cancel i], fun h => by cases h⟩
        promises := Function.update w.promises i
          ((w.promises i).map fun p => { p with cancelRemoveListener := true }) } := by
  simp [addCancelListener, hc]

/-- Adding the `'cancelled'` listener of a pending promise that has none keeps `Core`. -/
theorem Core.addCancelListener (h : Core initial w) {i : Nat} {p : NextEventPromise α ε}
    (hc : w.controller.cancelled = false) (hp : w.promises i = some p) (hl : p.lifted = none)
    (hcc : p.options.cancelController = true) (hr : p.cancelRemoveListener = false)
    (cancelMessage : ε) : Core initial (w.addCancelListener i cancelMessage) := by
  have hfresh : Listener.cancel i ∉ w.controller.listeners := fun hm => by
    obtain ⟨p', hp', hr', -⟩ := (h.cancel_mem i).mp hm
    simp [hp] at hp'
    simp [← hp', hr] at hr'
  -- promise `i` only gets its remover; every other promise is as it was
  have hpromises : ∀ j, (w.addCancelListener i cancelMessage).promises j =
      if j = i then some { p with cancelRemoveListener := true } else w.promises j := by
    intro j
    simp [addCancelListener_of_not_cancelled hc, Function.update_apply, hp]
  rw [addCancelListener_of_not_cancelled hc] at hpromises ⊢
  refine
    { foreign_emitters := h.foreign_emitters
      foreign_controller := by
        simpa [hc, List.filter_append, Listener.isForeign] using h.foreign_controller
      emitters_kind := h.emitters_kind
      controller_kind := fun x hx => ?controller_kind
      promises_some := fun j => ?promises_some
      onEvent_count := h.onEvent_count
      onEvent_mem := fun e n j => ?onEvent_mem
      cancel_count := fun j => ?cancel_count
      cancel_mem := fun j => ?cancel_mem
      remover := fun j p' hp' => ?remover
      cleaner_count := h.cleaner_count
      settle_count := h.settle_count
      queued := fun j hq => ?queued
      not_both := h.not_both
      settling := fun j p' hp' => ?settling
      returned := fun j p' hp' => ?returned }
  case controller_kind =>
    rcases List.mem_append.mp hx with hx | hx
    · exact h.controller_kind x hx
    · exact .inr ⟨i, List.mem_singleton.mp hx⟩
  case cancel_count =>
    by_cases hj : j = i
    · subst hj
      simp [List.count_eq_zero.mpr hfresh]
    · simpa [List.count_append, List.count_singleton, Ne.symm hj] using h.cancel_count j
  case cancel_mem =>
    by_cases hj : j = i
    · subst hj
      simp only [List.mem_append, List.mem_singleton, or_true, true_iff]
      exact ⟨{ p with cancelRemoveListener := true }, by rw [hpromises]; simp, rfl, .inl hl, rfl⟩
    · simp only [List.mem_append, List.mem_singleton, Listener.cancel.injEq, hj, or_false]
      rw [h.cancel_mem j]
      simp [CancelRegistered, Registered, hj, hc]
  case onEvent_mem =>
    refine (h.onEvent_mem e n j).trans ?_
    by_cases hj : j = i
    · subst hj
      simp [OnEventRegistered, Registered, hp]
    · simp [OnEventRegistered, Registered, hj]
  all_goals rw [hpromises] at *
  case promises_some =>
    by_cases hj : j = i
    · subst hj
      simpa [hp] using h.promises_some j
    · simpa [hj] using h.promises_some j
  case remover =>
    split_ifs at hp' with hj
    · cases hp'
      exact fun _ => hcc
    · exact h.remover j p' hp'
  case queued =>
    obtain ⟨q, hq', hs, hret⟩ := h.queued j hq
    by_cases hj : j = i
    · subst hj
      simp [hp] at hq'
      subst hq'
      simp [hs, hret]
    · simpa [hj] using h.queued j hq
  case settling =>
    split_ifs at hp' with hj
    · subst hj
      cases hp'
      exact h.settling _ p hp
    · exact h.settling j p' hp'
  case returned =>
    split_ifs at hp' with hj
    · subst hj
      cases hp'
      exact h.returned _ p hp
    · exact h.returned j p' hp'

theorem Inv.newCancellablePromiseFromNextEvent (h : Inv initial w) :
    Inv initial (w.newCancellablePromiseFromNextEvent options) := by
  have hadd := h.toCore.addPromise options
  -- every other promise is as it was
  have hold : ∀ j p, j ≠ w.created → (w.addPromise options).promises j = some p →
      w.promises j = some p := fun j p hj hp => by simpa [addPromise_promises, hj] using hp
  have hnew : (w.addPromise options).promises w.created = some ⟨options, none, false, none⟩ := by
    simp [addPromise_promises]
  unfold World.newCancellablePromiseFromNextEvent
  split_ifs with hcc
  · cases hc : w.controller.cancelled
    · -- the new promise gets its `'cancelled'` listener
      refine ⟨hadd.addCancelListener (by simpa using hc) hnew rfl hcc rfl _,
        fun j p hp hl hc' => ?_⟩
      rw [addCancelListener_of_not_cancelled (by simpa using hc)] at hp ⊢
      simp only [Function.update_apply] at hp
      split_ifs at hp with hj
      · subst hj
        simp [hnew] at hp
        subst hp
        simp
      · exact ⟨(h.pending_cancellable j p (hold j p hj hp) hl hc').1, rfl⟩
    · -- a cancelled controller rejects it at once
      rw [addCancelListener_of_cancelled (by simpa using hc)]
      refine ⟨hadd.settleLifted _ _, fun j p hp hl hc' => ?_⟩
      rw [settleLifted_promises] at hp
      split_ifs at hp with hj
      · subst hj
        simp [hnew] at hp
        subst hp
        simp at hl
      · have := h.pending_cancellable j p (hold j p hj hp) hl hc'
        simp [hc] at this
  · refine ⟨hadd, fun j p hp hl hc' => ?_⟩
    by_cases hj : j = w.created
    · subst hj
      simp [hnew] at hp
      subst hp
      simp [hcc] at hc'
    · simpa using h.pending_cancellable j p (hold j p hj hp) hl hc'

end Create

/-! ### Microtasks -/

theorem cleaner_of_some {i : Nat} {p : NextEventPromise α ε} (hp : w.promises i = some p) :
    w.cleaner i =
      { w with
        emitters := Function.update w.emitters p.options.emitter
          (EventEmitter.removeListener (w.emitters p.options.emitter) p.options.eventName
            (.onEvent i))
        controller :=
          if p.cancelRemoveListener then w.controller.removeListener (.cancel i)
          else w.controller } := by
  simp [cleaner, hp]

section Cleaner

variable {i : Nat} {rest : List Microtask} {p : NextEventPromise α ε}

/-- The cleaner removes the `onEvent` of its promise, registered once, and nothing else. -/
theorem Core.mem_cleaner_emitters (h : Core initial w) (hp : w.promises i = some p) (e : Nat)
    (n : String) (j : Nat) :
    (n, Listener.onEvent j) ∈ (w.cleaner i).emitters e ↔
      j ≠ i ∧ (n, Listener.onEvent j) ∈ w.emitters e := by
  rw [cleaner_of_some hp]
  -- a registration of promise `i` is on its own emitter for its own name
  have hown : (n, Listener.onEvent i) ∈ w.emitters e →
      e = p.options.emitter ∧ n = p.options.eventName := fun hm => by
    obtain ⟨q, hq, he, hn, -⟩ := (h.onEvent_mem e n i).mp hm
    simp only [hp, Option.some.injEq] at hq
    subst hq
    exact ⟨he.symm, hn.symm⟩
  by_cases he : e = p.options.emitter
  · subst he
    simp only [Function.update_self]
    rw [EventEmitter.mem_removeListener (h.onEvent_count _ _ _)]
    by_cases hj : j = i
    · subst hj
      simp only [ne_eq, Prod.mk.injEq, and_true, not_true_eq_false, false_and, iff_false,
        not_and]
      exact fun hn hm => hn (hown hm).2
    · simp [hj]
  · simp only [ne_eq, he, not_false_eq_true, Function.update_of_ne]
    by_cases hj : j = i
    · subst hj
      simp only [not_true_eq_false, false_and, iff_false]
      exact fun hm => he (hown hm).1
    · simp [hj]

/-- The cleaner removes the `'cancelled'` listener of its promise, if it has one, and nothing
else. -/
theorem Core.mem_cleaner_controller (h : Core initial w) (hp : w.promises i = some p) (j : Nat) :
    Listener.cancel j ∈ (w.cleaner i).controller.listeners ↔
      j ≠ i ∧ Listener.cancel j ∈ w.controller.listeners := by
  rw [cleaner_of_some hp]
  split_ifs with hr
  · simp only [CancelController.removeListener_listeners]
    rw [EventEmitter.mem_erase_of_count_le_one (h.cancel_count i)]
    simp
  · by_cases hj : j = i
    · subst hj
      simp only [ne_eq, not_true_eq_false, false_and, iff_false]
      intro hm
      obtain ⟨q, hq, hr', -⟩ := (h.cancel_mem j).mp hm
      simp only [hp, Option.some.injEq] at hq
      subst hq
      simp [hr'] at hr
    · simp [hj]

@[simp] theorem cleaner_promises : (w.cleaner i).promises = w.promises := by
  unfold cleaner
  split <;> rfl

@[simp] theorem cleaner_created : (w.cleaner i).created = w.created := by
  unfold cleaner
  split <;> rfl

@[simp] theorem cleaner_controller_cancelled :
    (w.cleaner i).controller.cancelled = w.controller.cancelled := by
  unfold cleaner
  split
  · split <;> rfl
  · rfl

/-- The cleaner job of a settled promise: its listeners go, and the settling of its returned
promise is queued. -/
theorem Inv.runCleaner (h : Inv initial w) (hm : w.microtasks = .cleaner i :: rest) :
    Inv initial
      ⟨(w.cleaner i).emitters, (w.cleaner i).controller, w.promises, w.created,
        rest ++ [.settle i]⟩ := by
  obtain ⟨p, hp, hs, hret⟩ := h.queued i (.inl (by simp [hm]))
  have hcl : Microtask.cleaner i ∉ rest := by
    have := h.cleaner_count i
    rw [hm, List.count_cons_self] at this
    exact List.count_eq_zero.mp (by omega)
  have hst : Microtask.settle i ∉ rest := fun hr =>
    h.not_both i (by simp [hm]) (by simp [hm, hr])
  -- the jobs of another promise are as they were
  have hjobs : ∀ j, j ≠ i → (Microtask.cleaner j ∈ w.microtasks ↔ Microtask.cleaner j ∈ rest) ∧
      (Microtask.settle j ∈ w.microtasks ↔ Microtask.settle j ∈ rest) := fun j hj => by
    simp [hm, hj]
  have hreg : ∀ j q, Registered (⟨(w.cleaner i).emitters, (w.cleaner i).controller, w.promises,
      w.created, rest ++ [.settle i]⟩ : World α ε) j q ↔
      Registered w j q ∧ (j = i → q.lifted = none) := by
    intro j q
    by_cases hj : j = i
    · subst hj
      simp [Registered, hm, hcl]
    · simp [Registered, (hjobs j hj).1, hj]
  -- a registration of promise `i` is one of its own, which the cleaner has removed
  have hgone : ∀ q, w.promises i = some q → q.lifted = none → False := fun q hq hl => by
    simp only [hp, Option.some.injEq] at hq
    subst hq
    simp [hl] at hs
  refine ⟨⟨fun e => ?foreign_emitters, ?foreign_controller, fun e x hx => ?emitters_kind,
    fun x hx => ?controller_kind, h.promises_some, fun e n j => ?onEvent_count,
    fun e n j => ?onEvent_mem, fun j => ?cancel_count, fun j => ?cancel_mem, h.remover,
    fun j => ?cleaner_count, fun j => ?settle_count, fun j hq => ?queued, fun j hc => ?not_both,
    fun j q hq hs hr => ?settling, h.returned⟩, fun j q hq hl hc => ?pending⟩
  case onEvent_mem =>
    show (n, Listener.onEvent j) ∈ (w.cleaner i).emitters e ↔ _
    rw [h.mem_cleaner_emitters hp, h.onEvent_mem]
    simp only [OnEventRegistered, hreg]
    constructor
    · rintro ⟨hj, q, hq, he, hn, hr⟩
      exact ⟨q, hq, he, hn, hr, fun hji => absurd hji hj⟩
    · rintro ⟨q, hq, he, hn, hr, hji⟩
      refine ⟨fun hj => ?_, q, hq, he, hn, hr⟩
      subst hj
      exact hgone q hq (hji rfl)
  case cancel_mem =>
    show Listener.cancel j ∈ (w.cleaner i).controller.listeners ↔ _
    rw [h.mem_cleaner_controller hp, h.cancel_mem]
    simp only [CancelRegistered, hreg, cleaner_controller_cancelled]
    constructor
    · rintro ⟨hj, q, hq, hr, hreg', hc⟩
      exact ⟨q, hq, hr, ⟨hreg', fun hji => absurd hji hj⟩, hc⟩
    · rintro ⟨q, hq, hr, ⟨hreg', hji⟩, hc⟩
      refine ⟨fun hj => ?_, q, hq, hr, hreg', hc⟩
      subst hj
      exact hgone q hq (hji rfl)
  case pending =>
    simpa using h.pending_cancellable j q hq hl hc
  case foreign_controller =>
    show (w.cleaner i).controller.listeners.filter Listener.isForeign =
      if (w.cleaner i).controller.cancelled then [] else _
    rw [cleaner_controller_cancelled, ← h.foreign_controller, cleaner_of_some hp]
    split_ifs
    · exact EventEmitter.filter_erase_of_not _ rfl
    · rfl
  case controller_kind =>
    simp only [cleaner_of_some hp] at hx
    split_ifs at hx
    · exact h.controller_kind x (List.mem_of_mem_erase hx)
    · exact h.controller_kind x hx
  case cancel_count =>
    show (w.cleaner i).controller.listeners.count _ ≤ 1
    rw [cleaner_of_some hp]
    split_ifs
    · simp only [CancelController.removeListener_listeners, List.count_erase]
      exact (Nat.sub_le _ _).trans (h.cancel_count j)
    · exact h.cancel_count j
  all_goals simp only [cleaner_of_some hp] at *
  case foreign_emitters =>
    by_cases he : e = p.options.emitter
    · subst he
      simp only [Function.update_self]
      rw [EventEmitter.filter_removeListener_of_not _ rfl]
      exact h.foreign_emitters _
    · simpa [he] using h.foreign_emitters e
  case emitters_kind =>
    by_cases he : e = p.options.emitter
    · subst he
      simp only [Function.update_self] at hx
      exact h.emitters_kind _ x (List.mem_of_mem_erase hx)
    · simp only [ne_eq, he, not_false_eq_true, Function.update_of_ne] at hx
      exact h.emitters_kind e x hx
  case onEvent_count =>
    by_cases he : e = p.options.emitter
    · subst he
      simp only [Function.update_self]
      rw [EventEmitter.count_removeListener]
      exact (Nat.sub_le _ _).trans (h.onEvent_count _ n j)
    · simpa [he] using h.onEvent_count e n j
  case cleaner_count =>
    have hle : rest.count (Microtask.cleaner j) ≤ w.microtasks.count (.cleaner j) := by
      rw [hm]
      exact List.count_le_count_cons
    simpa [List.count_append] using hle.trans (h.cleaner_count j)
  case settle_count =>
    by_cases hj : j = i
    · subst hj
      simp [List.count_append, List.count_eq_zero.mpr hst]
    · simpa [hm, List.count_append, List.count_singleton, Ne.symm hj] using h.settle_count j
  case queued =>
    by_cases hj : j = i
    · subst hj
      exact ⟨p, hp, hs, hret⟩
    · simp only [List.mem_append, List.mem_singleton, Microtask.settle.injEq, hj, or_false,
        reduceCtorEq] at hq
      exact h.queued j (by rwa [(hjobs j hj).1, (hjobs j hj).2])
  case not_both =>
    by_cases hj : j = i
    · subst hj
      simp [hcl] at hc
    · simp only [List.mem_append, List.mem_singleton, Microtask.settle.injEq, hj,
        reduceCtorEq, or_false] at hc ⊢
      exact fun hs' => h.not_both j ((hjobs j hj).1.mpr hc) ((hjobs j hj).2.mpr hs')
  case settling =>
    by_cases hj : j = i
    · subst hj
      simp
    · simp only [List.mem_append, List.mem_singleton, Microtask.settle.injEq, hj,
        reduceCtorEq, or_false]
      rw [← (hjobs j hj).1, ← (hjobs j hj).2]
      exact h.settling j q hq hs hr

/-- The settling job of a promise: its returned promise takes the lifted promise's outcome. -/
theorem Inv.runSettle (h : Inv initial w) (hm : w.microtasks = .settle i :: rest)
    (hp : w.promises i = some p) :
    Inv initial
      ⟨w.emitters, w.controller,
        Function.update w.promises i (some { p with returned := p.lifted }), w.created, rest⟩ := by
  obtain ⟨p₀, hp₀, hs, hret⟩ := h.queued i (.inr (by simp [hm]))
  have hpp : p = p₀ := by simpa [hp] using hp₀
  subst hpp
  have hcl : ∀ j, Microtask.cleaner j ∈ w.microtasks ↔ Microtask.cleaner j ∈ rest := by
    simp [hm]
  have hcl_i : Microtask.cleaner i ∉ rest := fun hc =>
    h.not_both i ((hcl i).mpr hc) (by simp [hm])
  have hst : Microtask.settle i ∉ rest := by
    have := h.settle_count i
    rw [hm, List.count_cons_self] at this
    exact List.count_eq_zero.mp (by omega)
  -- the returned promise changes, and nothing that says whether a listener is registered
  have hpromises : ∀ j, (Function.update w.promises i (some { p with returned := p.lifted })) j =
      if j = i then some { p with returned := p.lifted } else w.promises j :=
    fun j => Function.update_apply ..
  have hreg : ∀ j q, Registered (⟨w.emitters, w.controller,
      Function.update w.promises i (some { p with returned := p.lifted }), w.created, rest⟩ :
        World α ε) j q ↔ Registered w j q := by
    intro j q
    simp [Registered, hcl]
  refine ⟨⟨h.foreign_emitters, h.foreign_controller, h.emitters_kind, h.controller_kind,
    fun j => ?promises_some, h.onEvent_count, fun e n j => ?onEvent_mem, h.cancel_count,
    fun j => ?cancel_mem, fun j q hq => ?remover, fun j => ?cleaner_count,
    fun j => ?settle_count, fun j hq => ?queued, fun j hc => ?not_both,
    fun j q hq hs hr => ?settling, fun j q hq => ?returned⟩, fun j q hq hl hc => ?pending⟩
  case onEvent_mem =>
    rw [h.onEvent_mem]
    by_cases hj : j = i
    · subst hj
      simp [OnEventRegistered, hp, Registered, hcl]
    · simp [OnEventRegistered, hreg, hj]
  case cancel_mem =>
    rw [h.cancel_mem]
    by_cases hj : j = i
    · subst hj
      simp [CancelRegistered, hp, Registered, hcl]
    · simp [CancelRegistered, hreg, hj]
  case cleaner_count =>
    have hle : rest.count (Microtask.cleaner j) ≤ w.microtasks.count (.cleaner j) := by
      rw [hm]
      exact List.count_le_count_cons
    exact hle.trans (h.cleaner_count j)
  case settle_count =>
    have hle : rest.count (Microtask.settle j) ≤ w.microtasks.count (.settle j) := by
      rw [hm]
      exact List.count_le_count_cons
    exact hle.trans (h.settle_count j)
  case not_both =>
    intro hs'
    exact h.not_both j ((hcl j).mpr hc) (by simp [hm, hs'])
  all_goals simp only [hpromises] at *
  case promises_some =>
    by_cases hj : j = i
    · subst hj
      simpa [hp] using h.promises_some j
    · simpa [hj] using h.promises_some j
  case remover =>
    split_ifs at hq with hj
    · cases hq
      exact h.remover i p hp
    · exact h.remover j q hq
  case queued =>
    by_cases hj : j = i
    · subst hj
      simp [hcl_i, hst] at hq
    · simp only [hj, if_false]
      exact h.queued j (hq.imp (hcl j).mpr fun hs' => by simp [hm, hs'])
  case settling =>
    split_ifs at hq with hj
    · cases hq
      simp [Option.isSome_iff_ne_none.mp hs] at hr
    · rcases h.settling j q hq hs hr with hc | hc
      · exact .inl ((hcl j).mp hc)
      · simp only [hm, List.mem_cons, Microtask.settle.injEq] at hc
        exact .inr (hc.resolve_left hj)
  case returned =>
    split_ifs at hq with hj
    · cases hq
      exact fun r hr => hr
    · exact h.returned j q hq
  case pending =>
    split_ifs at hq with hj
    · cases hq
      simp [Option.isSome_iff_ne_none.mp hs] at hl
    · exact h.pending_cancellable j q hq hl hc

end Cleaner

/-- The three things the oldest microtask can do. -/
theorem runMicrotask_cases (h : Core initial w) :
    (w.microtasks = [] ∧ w.runMicrotask = (w, [])) ∨
    (∃ i rest, w.microtasks = .cleaner i :: rest ∧
      w.runMicrotask = (⟨(w.cleaner i).emitters, (w.cleaner i).controller, w.promises, w.created,
        rest ++ [.settle i]⟩, [])) ∨
    (∃ i rest p, w.microtasks = .settle i :: rest ∧ w.promises i = some p ∧
      w.runMicrotask = (⟨w.emitters, w.controller,
        Function.update w.promises i (some { p with returned := p.lifted }), w.created, rest⟩,
        (p.lifted.map fun outcome => (i, outcome)).toList)) := by
  unfold runMicrotask
  split
  · exact .inl ⟨‹_›, rfl⟩
  · rename_i i rest hm
    refine .inr (.inl ⟨i, rest, hm, ?_⟩)
    simp [cleaner_promises, cleaner_created]
  · rename_i i rest hm
    -- a queued settling belongs to a promise
    obtain ⟨p, hp, -⟩ := h.queued i (.inr (by simp [hm]))
    exact .inr (.inr ⟨i, rest, p, hm, hp, by simp [hp]⟩)

theorem Inv.runMicrotask (h : Inv initial w) : Inv initial w.runMicrotask.1 := by
  rcases runMicrotask_cases h.toCore with ⟨-, hr⟩ | ⟨i, rest, hm, hr⟩ | ⟨i, rest, p, hm, hp, hr⟩
  · rw [hr]
    exact h
  · rw [hr]
    exact h.runCleaner hm
  · rw [hr]
    exact h.runSettle hm hp

/-- Every step keeps the invariant. -/
theorem Inv.step (h : Inv initial w) (a : Action α ε) : Inv initial (w.step a).1 := by
  cases a with
  | newCancellablePromiseFromNextEvent options => exact h.newCancellablePromiseFromNextEvent options
  | emit emitter eventName eventData => exact h.emit emitter eventName eventData
  | cancel => exact h.cancel
  | microtask => exact h.runMicrotask

/-- An initial world satisfies the invariant: it has only other code's listeners. -/
theorem Initial.inv (h : Initial initial) : Inv initial initial := by
  have hno : ∀ e n i, (n, Listener.onEvent i) ∉ initial.emitters e := fun e n i hm => by
    simpa [Listener.isForeign] using h.emitters e _ hm
  have hnc : ∀ i, Listener.cancel i ∉ initial.controller.listeners := fun i hm => by
    simpa [Listener.isForeign] using h.controller _ hm
  refine
    { foreign_emitters := fun e => List.filter_eq_self.mpr (h.emitters e)
      foreign_controller := ?_
      emitters_kind := fun e x hx => .inl (h.emitters e x hx)
      controller_kind := fun x hx => .inl (h.controller x hx)
      promises_some := fun i => by simp [h.promises, h.created]
      onEvent_count := fun e n i => by simp [List.count_eq_zero.mpr (hno e n i)]
      onEvent_mem := fun e n i => by simp [hno, OnEventRegistered, h.promises]
      cancel_count := fun i => by simp [List.count_eq_zero.mpr (hnc i)]
      cancel_mem := fun i => by simp [hnc, CancelRegistered, h.promises]
      remover := fun i p hp => by simp [h.promises] at hp
      cleaner_count := fun i => by simp [h.microtasks]
      settle_count := fun i => by simp [h.microtasks]
      queued := fun i => by simp [h.microtasks]
      not_both := fun i => by simp [h.microtasks]
      settling := fun i p hp => by simp [h.promises] at hp
      returned := fun i p hp => by simp [h.promises] at hp
      pending_cancellable := fun i p hp => by simp [h.promises] at hp }
  split_ifs with hc
  · simp [initial.controller.listeners_nil hc]
  · exact List.filter_eq_self.mpr h.controller

/-- Every run keeps the invariant. -/
theorem Inv.run (h : Inv initial w) (acts : List (Action α ε)) :
    Inv initial (Machine.run World.step w acts).1 :=
  Machine.run_invariant World.step (Inv initial) (fun _ a h => h.step a) h acts

/-- The invariant holds after every run from an initial world. -/
theorem Initial.inv_run (h : Initial initial) (acts : List (Action α ε)) :
    Inv initial (Machine.run World.step initial acts).1 :=
  h.inv.run acts

end World

end AwsCrt
