import AwsCrt.Common.Cancel

/-!
# What cancellable next-event promises settle with (`src/lib/common/cancel.ts`)

Over the runs of `World.step` from a world whose listeners are all other code's:

* `CancellableNextEventPromiseOptions.decides`: what an action does to a pending lifted promise
  with these options. A promise's lifted promise is rejected at once when it has a controller that
  is already cancelled, and otherwise settles with the first decision after its creation
  (`CancellableNextEventPromiseOptions.outcome`, `Inv.promise_run`, `lifted_of_created`).
* `Inv.outputs_nodup_run`, `Inv.output_run`: each returned promise settles at most once, with the
  outcome of its lifted promise.
* `Inv.drain_microtasks`: running the pending microtasks empties the queue;
  `Inv.listeners_restored`: once every lifted promise has settled and the queue is empty, every
  returned promise has settled too, the emitters hold the listeners of the initial world, and
  so does the controller unless `cancel()` has run, which removes all of its listeners, other
  code's included.
-/

namespace AwsCrt

variable {α ε : Type}

/-- What an action does to a pending lifted promise with these options: an event of its name on
its emitter settles it as `onEvent` does, and `cancel()` rejects it when it has the controller. -/
def CancellableNextEventPromiseOptions.decides (options : CancellableNextEventPromiseOptions α ε) :
    Action α ε → Option (Except ε α)
  | .emit emitter eventName eventData =>
    if options.emitter = emitter ∧ options.eventName = eventName then
      some (options.onEventOutcome eventData)
    else none
  | .cancel => if options.cancelController then some (.error options.cancelMessage) else none
  | .newCancellablePromiseFromNextEvent _ | .microtask => none

/-- The outcome of a promise created with these options: rejected with its cancel message when it
has a controller that was cancelled before, else what the first action after that decides. -/
def CancellableNextEventPromiseOptions.outcome (options : CancellableNextEventPromiseOptions α ε)
    (cancelledBefore : Bool) (post : List (Action α ε)) : Option (Except ε α) :=
  if options.cancelController && cancelledBefore then some (.error options.cancelMessage)
  else post.findSome? options.decides

def Action.isCreate : Action α ε → Bool
  | .newCancellablePromiseFromNextEvent _ => true
  | .emit .. | .cancel | .microtask => false

def Action.isCancel : Action α ε → Bool
  | .cancel => true
  | .newCancellablePromiseFromNextEvent _ | .emit .. | .microtask => false

/-- The work a queued job still stands for: a cleaner job is followed by a settling. -/
def Microtask.weight : Microtask → Nat
  | .cleaner _ => 2
  | .settle _ => 1

namespace World

/-- The work the microtask queue still holds. -/
def pendingWork (w : World α ε) : Nat := (w.microtasks.map Microtask.weight).sum

variable {initial w : World α ε}

/-! ## One step -/

section Create

variable (options : CancellableNextEventPromiseOptions α ε)

@[simp] theorem newCancellablePromiseFromNextEvent_created :
    (w.newCancellablePromiseFromNextEvent options).created = w.created + 1 := by
  unfold newCancellablePromiseFromNextEvent addCancelListener
  split_ifs <;> simp

@[simp] theorem newCancellablePromiseFromNextEvent_cancelled :
    (w.newCancellablePromiseFromNextEvent options).controller.cancelled =
      w.controller.cancelled := by
  unfold newCancellablePromiseFromNextEvent addCancelListener
  split_ifs with h₁ h₂ <;> simp_all

theorem newCancellablePromiseFromNextEvent_promises_of_ne {j : Nat} (hj : j ≠ w.created) :
    (w.newCancellablePromiseFromNextEvent options).promises j = w.promises j := by
  unfold newCancellablePromiseFromNextEvent addCancelListener
  split_ifs <;> simp [settleLifted_promises, addPromise_promises, hj]

/-- The new promise: its lifted promise is rejected at once when it has a cancelled controller,
and pending otherwise. -/
theorem newCancellablePromiseFromNextEvent_promises_created :
    ∃ q, (w.newCancellablePromiseFromNextEvent options).promises w.created = some q ∧
      q.options = options ∧
      q.lifted = (if options.cancelController && w.controller.cancelled then
        some (.error options.cancelMessage) else none) ∧
      q.returned = none := by
  unfold newCancellablePromiseFromNextEvent addCancelListener
  split_ifs with h₁ h₂ <;>
    simp_all [settleLifted_promises, addPromise_promises, NextEventPromise.settle]

end Create

theorem runMicrotask_created : w.runMicrotask.1.created = w.created := by
  unfold runMicrotask
  split
  · rfl
  · simp
  · split <;> rfl

theorem runMicrotask_cancelled : w.runMicrotask.1.controller.cancelled = w.controller.cancelled := by
  unfold runMicrotask
  split
  · rfl
  · simp
  · split <;> rfl

@[simp] theorem step_created (a : Action α ε) :
    (w.step a).1.created = w.created + if a.isCreate then 1 else 0 := by
  cases a with
  | newCancellablePromiseFromNextEvent options => simp [step, Action.isCreate]
  | emit emitter eventName eventData => simp [step, Action.isCreate]
  | cancel => simp [step, Action.isCreate]
  | microtask => simp [step, Action.isCreate, runMicrotask_created]

@[simp] theorem step_cancelled (a : Action α ε) :
    (w.step a).1.controller.cancelled = (w.controller.cancelled || a.isCancel) := by
  cases a with
  | newCancellablePromiseFromNextEvent options => simp [step, Action.isCancel]
  | emit emitter eventName eventData => simp [step, Action.isCancel]
  | cancel => simp [step, Action.isCancel]
  | microtask => simp [step, Action.isCancel, runMicrotask_cancelled]

/-- One step on an existing promise: its lifted promise, if pending, takes what the action
decides, and a settled returned promise stays as it is. -/
theorem Inv.promise_step (h : Inv initial w) {j : Nat} {p : NextEventPromise α ε}
    (hp : w.promises j = some p) (a : Action α ε) :
    ∃ q, (w.step a).1.promises j = some q ∧ q.options = p.options ∧
      q.lifted = p.lifted.or (p.options.decides a) ∧
      (p.returned.isSome → q.returned = p.returned) := by
  cases a with
  | newCancellablePromiseFromNextEvent options =>
    -- the new promise takes a fresh index
    have hj : j ≠ w.created := fun hj => by simp [hj, h.promises_created] at hp
    refine ⟨p, ?_, rfl, by simp [CancellableNextEventPromiseOptions.decides], fun _ => rfl⟩
    simp [World.step, newCancellablePromiseFromNextEvent_promises_of_ne _ hj, hp]
  | emit emitter eventName eventData =>
    have hq := h.emit_promises emitter eventName eventData j
    rw [hp, Option.map_some] at hq
    refine ⟨_, hq, ?_, ?_, ?_⟩ <;> split_ifs with hc <;>
      cases hl : p.lifted <;> simp [CancellableNextEventPromiseOptions.decides, hc, hl]
  | cancel =>
    have hq := h.cancel_promises j
    rw [hp, Option.map_some] at hq
    refine ⟨_, hq, ?_, ?_, ?_⟩ <;> split_ifs with hc <;>
      cases hl : p.lifted <;> simp [CancellableNextEventPromiseOptions.decides, hc, hl]
  | microtask =>
    have hdec : p.options.decides (.microtask : Action α ε) = none := rfl
    simp only [World.step, hdec, Option.or_none]
    rcases runMicrotask_cases h.toCore with ⟨-, hr⟩ | ⟨i, rest, hm, hr⟩ |
      ⟨i, rest, p', hm, hp', hr⟩ <;> rw [hr]
    · exact ⟨p, hp, rfl, rfl, fun _ => rfl⟩
    · exact ⟨p, hp, rfl, rfl, fun _ => rfl⟩
    · by_cases hj : j = i
      · -- the settling job of this promise: its returned promise was pending
        subst hj
        obtain ⟨q, hq, -, hret⟩ := h.queued j (.inr (by simp [hm]))
        rw [hp] at hp' hq
        cases hp'
        cases hq
        exact ⟨{ p with returned := p.lifted }, by simp, rfl, rfl, by simp [hret]⟩
      · exact ⟨p, by simp [hj, hp], rfl, rfl, fun _ => rfl⟩

/-! ## Runs -/

theorem created_run (acts : List (Action α ε)) :
    (Machine.run World.step w acts).1.created = w.created + acts.countP Action.isCreate := by
  induction acts generalizing w with
  | nil => simp
  | cons a acts ih =>
    rw [Machine.run_cons, ih, step_created, List.countP_cons]
    omega

theorem cancelled_run (acts : List (Action α ε)) :
    (Machine.run World.step w acts).1.controller.cancelled =
      (w.controller.cancelled || acts.any Action.isCancel) := by
  induction acts generalizing w with
  | nil => simp
  | cons a acts ih => simp [ih, Bool.or_assoc]

/-- A promise over a run: its lifted promise, if pending, takes the first decision, and a settled
returned promise stays as it is. -/
theorem Inv.promise_run (h : Inv initial w) {j : Nat} {p : NextEventPromise α ε}
    (hp : w.promises j = some p) (acts : List (Action α ε)) :
    ∃ q, (Machine.run World.step w acts).1.promises j = some q ∧ q.options = p.options ∧
      q.lifted = p.lifted.or (acts.findSome? p.options.decides) ∧
      (p.returned.isSome → q.returned = p.returned) := by
  induction acts generalizing w p with
  | nil => exact ⟨p, hp, rfl, by simp, fun _ => rfl⟩
  | cons a acts ih =>
    obtain ⟨q, hq, hqo, hql, hqr⟩ := h.promise_step hp a
    obtain ⟨r, hr, hro, hrl, hrr⟩ := ih (h.step a) hq
    rw [Machine.run_cons]
    refine ⟨r, hr, hro.trans hqo, ?_, fun hs => (hrr (by rwa [hqr hs])).trans (hqr hs)⟩
    -- the first decision of `a :: acts` is `a`'s, if it has one
    rw [hrl, hql, hqo, List.findSome?_cons]
    cases p.options.decides a <;> cases p.lifted <;> simp

/-- The outputs of one step: at most one, the settling of a returned promise that was pending,
which then holds its lifted promise's outcome. -/
theorem Inv.step_outputs (h : Inv initial w) (a : Action α ε) :
    (w.step a).2.length ≤ 1 ∧ ∀ o ∈ (w.step a).2,
      (∃ p, w.promises o.1 = some p ∧ p.returned = none) ∧
      ∃ q, (w.step a).1.promises o.1 = some q ∧ q.returned = some o.2 ∧ q.lifted = some o.2 := by
  cases a with
  | newCancellablePromiseFromNextEvent | emit | cancel => simp [World.step]
  | microtask =>
    simp only [World.step]
    rcases runMicrotask_cases h.toCore with ⟨-, hr⟩ | ⟨i, rest, hm, hr⟩ |
      ⟨i, rest, p, hm, hp, hr⟩ <;> rw [hr]
    · simp
    · simp
    · obtain ⟨q, hq, hs, hret⟩ := h.queued i (.inr (by simp [hm]))
      rw [hp] at hq
      cases hq
      obtain ⟨r, hl⟩ := Option.isSome_iff_exists.mp hs
      simp [hl, hp, hret]

/-- A returned promise that has settled is never settled again. -/
theorem Inv.not_output_run (h : Inv initial w) {i : Nat} {p : NextEventPromise α ε}
    (hp : w.promises i = some p) (hr : p.returned.isSome) (acts : List (Action α ε)) :
    ∀ o ∈ (Machine.run World.step w acts).2, o.1 ≠ i := by
  induction acts generalizing w p with
  | nil => simp
  | cons a acts ih =>
    obtain ⟨q, hq, -, -, hqr⟩ := h.promise_step hp a
    intro o ho
    rw [Machine.run_cons, List.mem_append] at ho
    rcases ho with ho | ho
    · -- a step settles only pending returned promises
      obtain ⟨⟨p', hp', hret⟩, -⟩ := (h.step_outputs a).2 o ho
      rintro rfl
      rw [hp] at hp'
      cases hp'
      simp [hret] at hr
    · exact ih (h.step a) hq (by rwa [hqr hr]) o ho

/-- Each returned promise settles at most once. -/
theorem Inv.outputs_nodup_run (h : Inv initial w) (acts : List (Action α ε)) :
    ((Machine.run World.step w acts).2.map Prod.fst).Nodup := by
  induction acts generalizing w with
  | nil => simp
  | cons a acts ih =>
    obtain ⟨hlen, hout⟩ := h.step_outputs a
    rw [Machine.run_cons, List.map_append, List.nodup_append]
    refine ⟨?_, ih (h.step a), ?_⟩
    · match hs : (w.step a).2, hlen with
      | [], _ => simp
      | [_], _ => simp
    · -- a promise that a step settles has settled for the rest of the run
      simp only [List.mem_map]
      rintro _ ⟨o, ho, rfl⟩ _ ⟨o', ho', rfl⟩
      obtain ⟨-, q, hq, hqr, -⟩ := hout o ho
      exact (((h.step a).not_output_run hq (by simp [hqr]) acts) o' ho').symm

/-- A returned promise settles with its lifted promise's outcome. -/
theorem Inv.output_run (h : Inv initial w) (acts : List (Action α ε)) :
    ∀ o ∈ (Machine.run World.step w acts).2, ∃ q,
      (Machine.run World.step w acts).1.promises o.1 = some q ∧ q.returned = some o.2 ∧
        q.lifted = some o.2 := by
  induction acts generalizing w with
  | nil => simp
  | cons a acts ih =>
    intro o ho
    rw [Machine.run_cons, List.mem_append] at ho
    rw [Machine.run_cons]
    rcases ho with ho | ho
    · obtain ⟨-, q, hq, hqr, hql⟩ := (h.step_outputs a).2 o ho
      obtain ⟨r, hr, -, hrl, hrr⟩ := (h.step a).promise_run hq acts
      exact ⟨r, hr, by rw [hrr (by simp [hqr]), hqr], by simp [hrl, hql]⟩
    · exact ih (h.step a) o ho

/-! ## Draining the microtask queue -/

theorem pendingWork_eq_zero : w.pendingWork = 0 ↔ w.microtasks = [] := by
  unfold pendingWork
  cases w.microtasks with
  | nil => simp
  | cons m ms => cases m <;> simp [Microtask.weight]

theorem pendingWork_le (w : World α ε) : w.pendingWork ≤ 2 * w.microtasks.length := by
  unfold pendingWork
  induction w.microtasks with
  | nil => simp
  | cons m ms ih => cases m <;> simp [Microtask.weight] <;> omega

/-- A microtask step on a nonempty queue does one unit of its work. -/
theorem runMicrotask_pendingWork (h : Core initial w) (hne : w.microtasks ≠ []) :
    w.runMicrotask.1.pendingWork + 1 = w.pendingWork := by
  rcases runMicrotask_cases h with ⟨he, -⟩ | ⟨i, rest, hm, hr⟩ | ⟨i, rest, p, hm, hp, hr⟩
  · exact absurd he hne
  · rw [hr]
    simp [pendingWork, hm, Microtask.weight]
    omega
  · rw [hr]
    simp [pendingWork, hm, Microtask.weight]
    omega

/-- Running as many microtasks as the queue holds work empties it. -/
theorem Inv.drain_microtasks (h : Inv initial w) {n : Nat} (hn : w.pendingWork ≤ n) :
    (Machine.run World.step w (List.replicate n .microtask)).1.microtasks = [] := by
  induction n generalizing w with
  | zero =>
    simp only [List.replicate_zero, Machine.run_nil]
    exact pendingWork_eq_zero.mp (by omega)
  | succ n ih =>
    rw [List.replicate_succ, Machine.run_cons]
    by_cases he : w.microtasks = []
    · have hstep : w.step .microtask = (w, []) := by simp [World.step, World.runMicrotask, he]
      rw [hstep]
      exact ih h (by simp [pendingWork_eq_zero.mpr he])
    · have := runMicrotask_pendingWork h.toCore he
      exact ih (h.step _) (by simp only [World.step]; omega)

/-- Once every lifted promise has settled and the queue is empty, no promise has a listener:
every returned promise has settled as its lifted promise, the emitters hold the listeners of the
initial world, and so does the controller unless it has been cancelled. -/
theorem Inv.listeners_restored (h : Inv initial w)
    (hsettled : ∀ i p, w.promises i = some p → p.lifted.isSome) (hq : w.microtasks = []) :
    (∀ i p, w.promises i = some p → p.returned = p.lifted) ∧
    (∀ e, w.emitters e = initial.emitters e) ∧
    w.controller.listeners = if w.controller.cancelled then [] else initial.controller.listeners := by
  -- no promise is registered: each has settled and no cleaner is queued
  have hreg : ∀ i p, w.promises i = some p → ¬ Registered w i p := fun i p hp hr => by
    rcases hr with hl | hc
    · simpa [hl] using hsettled i p hp
    · simp [hq] at hc
  refine ⟨fun i p hp => ?_, fun e => ?_, ?_⟩
  · cases hret : p.returned with
    | none =>
      rcases h.settling i p hp (hsettled i p hp) hret with hc | hc <;> simp [hq] at hc
    | some r => rw [h.returned i p hp r hret]
  · rw [← h.foreign_emitters e]
    refine (List.filter_eq_self.mpr fun x hx => ?_).symm
    rcases h.emitters_kind e x hx with hf | ⟨i, hi⟩
    · exact hf
    · have hm : (x.1, Listener.onEvent i) ∈ w.emitters e := by
        rw [← hi]
        exact hx
      obtain ⟨p, hp, -, -, hr⟩ := (h.onEvent_mem e x.1 i).mp hm
      exact absurd hr (hreg i p hp)
  · rw [← h.foreign_controller]
    refine (List.filter_eq_self.mpr fun x hx => ?_).symm
    rcases h.controller_kind x hx with hf | ⟨i, rfl⟩
    · exact hf
    · obtain ⟨p, hp, -, hr, -⟩ := (h.cancel_mem i).mp hx
      exact absurd hr (hreg i p hp)

/-- Microtasks settle no lifted promise and create none. -/
theorem Inv.settled_microtasks (h : Inv initial w)
    (hsettled : ∀ i p, w.promises i = some p → p.lifted.isSome) (n : Nat) :
    ∀ i q, (Machine.run World.step w (List.replicate n .microtask)).1.promises i = some q →
      q.lifted.isSome := by
  intro i q hq
  have hi : i < w.created := by
    have hlt := ((h.run (List.replicate n .microtask)).promises_some i).mp (by simp [hq])
    simpa [created_run, List.countP_replicate, Action.isCreate] using hlt
  obtain ⟨p, hp⟩ := Option.isSome_iff_exists.mp ((h.promises_some i).mpr hi)
  obtain ⟨q', hq', -, hl, -⟩ := h.promise_run hp (List.replicate n .microtask)
  rw [hq] at hq'
  cases hq'
  obtain ⟨r, hr⟩ := Option.isSome_iff_exists.mp (hsettled i p hp)
  simp [hl, hr]

/-! ## From an initial world -/

/-- The promise that a run's create action makes after `pre`: it has the index of the creates
before it, and its lifted promise settles with the outcome its options give the rest of the
run. -/
theorem Initial.lifted_of_created (hinit : Initial initial) (pre post : List (Action α ε))
    (options : CancellableNextEventPromiseOptions α ε) :
    ∃ p, (Machine.run World.step initial
        (pre ++ .newCancellablePromiseFromNextEvent options :: post)).1.promises
          (pre.countP Action.isCreate) = some p ∧ p.options = options ∧
      p.lifted = options.outcome (initial.controller.cancelled || pre.any Action.isCancel) post := by
  have h := hinit.inv_run pre
  have hcreated : (Machine.run World.step initial pre).1.created = pre.countP Action.isCreate := by
    simp [created_run, hinit.created]
  obtain ⟨q, hq, hqo, hql, -⟩ :=
    newCancellablePromiseFromNextEvent_promises_created (w := (Machine.run World.step initial pre).1)
      options
  rw [hcreated] at hq
  obtain ⟨r, hr, hro, hrl, -⟩ := (h.step (.newCancellablePromiseFromNextEvent options)).promise_run
    (j := pre.countP Action.isCreate) hq post
  rw [Machine.run_append, Machine.run_cons]
  refine ⟨r, hr, hro.trans hqo, ?_⟩
  -- rejected at once by a cancelled controller, else the first decision
  rw [hrl, hql, hqo, cancelled_run, CancellableNextEventPromiseOptions.outcome]
  split_ifs <;> simp

/-- Cancellable next-event promises from a world whose listeners are all other code's, on every
run: each returned promise settles at most once, with its lifted promise's outcome; each promise's
lifted promise settles with what its options give the rest of the run; and once every lifted
promise has settled, the pending microtasks settle the returned promises and leave the emitters
with the listeners they had, and the controller too unless `cancel()` has run, which leaves it
none. -/
theorem next_event_promises_settle_once (initial : World α ε) (hinit : Initial initial)
    (acts : List (Action α ε)) :
    let r := Machine.run World.step initial acts
    ((r.2.map Prod.fst).Nodup ∧
      ∀ o ∈ r.2, ∃ p, r.1.promises o.1 = some p ∧ p.returned = some o.2 ∧ p.lifted = some o.2) ∧
    (∀ pre options post, acts = pre ++ .newCancellablePromiseFromNextEvent options :: post →
      ∃ p, r.1.promises (pre.countP Action.isCreate) = some p ∧ p.options = options ∧
        p.lifted = options.outcome (initial.controller.cancelled || pre.any Action.isCancel) post) ∧
    ((∀ i p, r.1.promises i = some p → p.lifted.isSome) →
      let w := (Machine.run World.step r.1
        (List.replicate (2 * r.1.microtasks.length) .microtask)).1
      w.microtasks = [] ∧ (∀ i p, w.promises i = some p → p.returned = p.lifted) ∧
      (∀ e, w.emitters e = initial.emitters e) ∧
      w.controller.listeners =
        if initial.controller.cancelled || acts.any Action.isCancel then []
        else initial.controller.listeners) := by
  intro r
  have h := hinit.inv_run acts
  refine ⟨⟨hinit.inv.outputs_nodup_run acts, hinit.inv.output_run acts⟩,
    fun pre options post hacts => ?_, fun hsettled => ?_⟩
  · subst hacts
    exact hinit.lifted_of_created pre post options
  · intro w
    have hw := h.run (List.replicate (2 * r.1.microtasks.length) .microtask)
    have hq : w.microtasks = [] := h.drain_microtasks (pendingWork_le _)
    obtain ⟨hret, hem, hctl⟩ := hw.listeners_restored (h.settled_microtasks hsettled _) hq
    refine ⟨hq, hret, hem, ?_⟩
    rw [hctl, cancelled_run, cancelled_run]
    simp [List.any_replicate, Action.isCancel]

/-- One promise with the controller, resolved by an event of its name on its emitter: it settles
with the event's data, which a later `cancel()` does not change. -/
theorem next_event_promises_settle_once_emit :
    let initial : World Nat String :=
      ⟨fun _ => [], ⟨false, [], fun _ => rfl⟩, fun _ => none, 0, []⟩
    let options : CancellableNextEventPromiseOptions Nat String :=
      ⟨0, "data", true, none, "cancelled"⟩
    let acts : List (Action Nat String) :=
      [.newCancellablePromiseFromNextEvent options, .emit 0 "data" 7, .cancel]
    Initial initial ∧ ∃ p, (Machine.run World.step initial acts).1.promises 0 = some p ∧
      p.lifted = some (.ok 7) := by
  intro initial options acts
  have hinit : Initial initial := ⟨by simp [initial], by simp [initial], fun _ => rfl, rfl, rfl⟩
  obtain ⟨-, hcreated, -⟩ := next_event_promises_settle_once initial hinit acts
  obtain ⟨p, hp, -, hl⟩ := hcreated [] options [.emit 0 "data" 7, .cancel] rfl
  exact ⟨hinit, p, hp, by rw [hl]; rfl⟩

/-- `cancel()` removes every `'cancelled'` listener of the controller, other code's included: with
one listener of other code on the controller, a promise that has the controller, `cancel()`, and
the two microtasks that settle the promise, the controller is left with none. -/
theorem cancel_removes_foreign_listener :
    let initial : World Unit String :=
      ⟨fun _ => [], ⟨false, [.foreign 0], fun h => by cases h⟩, fun _ => none, 0, []⟩
    let options : CancellableNextEventPromiseOptions Unit String :=
      ⟨0, "data", true, none, "cancelled"⟩
    let w := (Machine.run World.step initial
      [.newCancellablePromiseFromNextEvent options, .cancel, .microtask, .microtask]).1
    w.created = 1 ∧ (∃ p, w.promises 0 = some p ∧ p.returned = some (.error "cancelled")) ∧
      w.microtasks = [] ∧ initial.controller.listeners.count (.foreign 0) = 1 ∧
      w.controller.listeners.count (.foreign 0) = 0 :=
  ⟨rfl, ⟨_, rfl, rfl⟩, rfl, rfl, rfl⟩

end World

end AwsCrt
