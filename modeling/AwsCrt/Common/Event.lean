import AwsCrt.Lib.Machine
import AwsCrt.Lib.Cells

/-!
# `BufferedEventEmitter` (`src/lib/common/event.ts`)

The emitter holds the events emitted while it is corked in a hand-written singly linked list of
`BufferedEvent` objects: `eventQueue` is its head, `lastQueuedEvent` its tail. The objects live in
the heap of `AwsCrt.Lib.Cells`; a reference is an index into it.

- **The code** (`cork`, `uncork`, `emit`, `step`). `uncork()` walks the list from `eventQueue`,
  passes each event to the underlying `EventEmitter.emit`, and leaves `eventQueue` empty; it never
  resets `lastQueuedEvent`. A step's outputs are the `(event, args)` pairs passed to the
  underlying `emit`, in order. Listeners do not call back into the emitter.
- **What it is for** (`Buffered`): events emitted while corked are held, in order, until the next
  `uncork()`.
- **What it does** (`Lossy`): the same, except that once an `uncork()` has flushed a nonempty
  buffer, the list's tail points at a cell that is no longer reachable from the head, every later
  corked `emit` links its event behind that cell, and the event is never delivered.
  `emitter_refines_lossy` proves that the code emits exactly what `Lossy` emits, on every run.
- `uncork_drops_second_period`: the run `cork, emit, uncork, cork, emit, uncork`, where the
  second event is lost.
-/

namespace AwsCrt

variable {κ β : Type}

/-- A call on a `BufferedEventEmitter` with event keys `κ` and payload values `β`. -/
inductive EmitterCall (κ β : Type) where
  | cork
  | uncork
  | emit (event : κ) (args : List β)
  deriving Repr, DecidableEq

/-- The fields of a `BufferedEventEmitter`. `eventQueue` and `lastQueuedEvent` are references
into `heap`, the `BufferedEvent` objects created so far (their `event`, `args` and `next`). -/
structure BufferedEventEmitter (κ β : Type) where
  corked : Bool
  eventQueue : Option Nat
  lastQueuedEvent : Option Nat
  heap : List (Cell (κ × List β))
  deriving Repr

namespace BufferedEventEmitter

/-- A new emitter: `corked = false`, both references `undefined`. -/
def init : BufferedEventEmitter κ β := ⟨false, none, none, []⟩

/-- `cork()`. -/
def cork (e : BufferedEventEmitter κ β) : BufferedEventEmitter κ β := { e with corked := true }

/-- `uncork()`: the `while (this.eventQueue)` loop, with the heap size as fuel (enough in every
reachable state, `Inv.drain`). Returns the events passed to `super.emit`. -/
def uncork (e : BufferedEventEmitter κ β) : BufferedEventEmitter κ β × List (κ × List β) :=
  let r := Cells.drain e.heap e.heap.length e.eventQueue
  ({ e with corked := false, eventQueue := r.2 }, r.1)

/-- `emit(event, ...args)`: queue a new `BufferedEvent` when corked, else pass it on. -/
def emit (e : BufferedEventEmitter κ β) (event : κ) (args : List β) :
    BufferedEventEmitter κ β × List (κ × List β) :=
  if e.corked then
    let last := e.lastQueuedEvent
    -- `this.lastQueuedEvent = new BufferedEvent(event, args)`
    let n := e.heap.length
    let heap := Cells.alloc e.heap (event, args)
    match last with
    | some l => ({ e with lastQueuedEvent := some n, heap := Cells.setNext heap l n }, [])
    | none => ({ e with lastQueuedEvent := some n, eventQueue := some n, heap := heap }, [])
  else (e, [(event, args)])

/-- One call, with the events it passes to the underlying `EventEmitter.emit`. -/
def step (e : BufferedEventEmitter κ β) : EmitterCall κ β → BufferedEventEmitter κ β × List (κ × List β)
  | .cork => (cork e, [])
  | .uncork => uncork e
  | .emit event args => emit e event args

end BufferedEventEmitter

/-! ## What the emitter is for, and what it does -/

/-- Buffered emission as documented: while corked, events are held in order until `uncork()`. -/
structure Buffered (α : Type) where
  corked : Bool
  buffer : List α

namespace Buffered

def init {α : Type} : Buffered α := ⟨false, []⟩

def step (b : Buffered (κ × List β)) : EmitterCall κ β → Buffered (κ × List β) × List (κ × List β)
  | .cork => ({ b with corked := true }, [])
  | .uncork => (⟨false, []⟩, b.buffer)
  | .emit event args =>
    if b.corked then ({ b with buffer := b.buffer ++ [(event, args)] }, []) else (b, [(event, args)])

end Buffered

/-- `Buffered` with the defect: `stale` records that an `uncork()` has flushed a nonempty buffer,
after which a corked event is dropped. -/
structure Lossy (α : Type) where
  corked : Bool
  buffer : List α
  stale : Bool

namespace Lossy

def init {α : Type} : Lossy α := ⟨false, [], false⟩

def step (l : Lossy (κ × List β)) : EmitterCall κ β → Lossy (κ × List β) × List (κ × List β)
  | .cork => ({ l with corked := true }, [])
  | .uncork => (⟨false, [], l.stale || !l.buffer.isEmpty⟩, l.buffer)
  | .emit event args =>
    if l.corked then
      if l.stale then (l, []) else ({ l with buffer := l.buffer ++ [(event, args)] }, [])
    else (l, [(event, args)])

end Lossy

namespace BufferedEventEmitter

/-! ## The list invariant -/

/-- The emitter's references against the abstract state `l`: the heap's links point forward, and
either nothing was ever queued since the last flush (both references empty), or the queue is a
segment from `eventQueue` to `lastQueuedEvent` holding `l.buffer`, or (once `l.stale`) the head
is empty while the tail still points at a cell of the heap. -/
def Inv (e : BufferedEventEmitter κ β) (l : Lossy (κ × List β)) : Prop :=
  e.corked = l.corked ∧ Cells.Forward e.heap ∧
    ((l.stale = false ∧ l.buffer = [] ∧ e.eventQueue = none ∧ e.lastQueuedEvent = none) ∨
     (l.stale = false ∧ ∃ p t, e.eventQueue = some p ∧ e.lastQueuedEvent = some t ∧
        Cells.Seg e.heap p l.buffer t) ∨
     (l.stale = true ∧ l.buffer = [] ∧ e.eventQueue = none ∧
        ∃ t, e.lastQueuedEvent = some t ∧ t < e.heap.length))

theorem inv_init : Inv (init : BufferedEventEmitter κ β) Lossy.init :=
  ⟨rfl, Cells.forward_nil, .inl ⟨rfl, rfl, rfl, rfl⟩⟩

/-- The heap size is enough fuel for `uncork`'s loop: it visits the whole queue. -/
theorem Inv.drain {e : BufferedEventEmitter κ β} {l : Lossy (κ × List β)} (h : Inv e l) :
    Cells.drain e.heap e.heap.length e.eventQueue = (l.buffer, none) := by
  obtain ⟨-, hf, ⟨-, hb, hq, -⟩ | ⟨-, p, t, hq, -, hs⟩ | ⟨-, hb, hq, -⟩⟩ := h
  · simp [hq, hb]
  · rw [hq]
    exact hs.drain (by have := hs.length_le hf; omega)
  · simp [hq, hb]

theorem step_cork {e : BufferedEventEmitter κ β} {l : Lossy (κ × List β)} (h : Inv e l) :
    Inv (cork e) { l with corked := true } := by
  obtain ⟨-, hf, hq⟩ := h
  exact ⟨rfl, hf, hq⟩

theorem step_uncork {e : BufferedEventEmitter κ β} {l : Lossy (κ × List β)} (h : Inv e l) :
    Inv (uncork e).1 (Lossy.step l .uncork).1 ∧ (uncork e).2 = (Lossy.step l .uncork).2 := by
  have hd := h.drain
  obtain ⟨-, hf, ⟨hs, hb, hq, ht⟩ | ⟨hs, p, t, hq, ht, hseg⟩ | ⟨hs, hb, hq, t, ht, hlt⟩⟩ := h
  · refine ⟨⟨rfl, hf, .inl ⟨?_, rfl, ?_, ht⟩⟩, ?_⟩ <;> simp [uncork, Lossy.step, hd, hs, hb]
  · -- the flush: the head becomes empty, the tail stays on the last cell
    refine ⟨⟨rfl, hf, .inr (.inr ⟨?_, rfl, ?_, t, ht, hseg.end_lt⟩)⟩, ?_⟩ <;>
      simp [uncork, Lossy.step, hd, hs, hseg.ne_nil]
  · refine ⟨⟨rfl, hf, .inr (.inr ⟨?_, rfl, ?_, t, ht, hlt⟩)⟩, ?_⟩ <;>
      simp [uncork, Lossy.step, hd, hs, hb]

section EmitCases

variable {e : BufferedEventEmitter κ β} {l : Lossy (κ × List β)} {event : κ} {args : List β}

theorem emit_uncorked (hk : e.corked = false) : emit e event args = (e, [(event, args)]) := by
  simp [emit, hk]

theorem emit_fresh (hk : e.corked = true) (ht : e.lastQueuedEvent = none) :
    emit e event args =
      ({ e with lastQueuedEvent := some e.heap.length, eventQueue := some e.heap.length,
                heap := Cells.alloc e.heap (event, args) }, []) := by
  simp [emit, hk, ht]

theorem emit_linked {t : Nat} (hk : e.corked = true) (ht : e.lastQueuedEvent = some t) :
    emit e event args =
      ({ e with lastQueuedEvent := some e.heap.length,
                heap := Cells.setNext (Cells.alloc e.heap (event, args)) t e.heap.length }, []) := by
  simp [emit, hk, ht]

theorem Lossy.step_emit_uncorked (hk : l.corked = false) :
    Lossy.step l (.emit event args) = (l, [(event, args)]) := by
  simp [Lossy.step, hk]

theorem Lossy.step_emit_queued (hk : l.corked = true) (hs : l.stale = false) :
    Lossy.step l (.emit event args) = ({ l with buffer := l.buffer ++ [(event, args)] }, []) := by
  simp [Lossy.step, hk, hs]

theorem Lossy.step_emit_stale (hk : l.corked = true) (hs : l.stale = true) :
    Lossy.step l (.emit event args) = (l, []) := by
  simp [Lossy.step, hk, hs]

end EmitCases

theorem step_emit {e : BufferedEventEmitter κ β} {l : Lossy (κ × List β)} (h : Inv e l) (event : κ)
    (args : List β) :
    Inv (emit e event args).1 (Lossy.step l (.emit event args)).1 ∧
      (emit e event args).2 = (Lossy.step l (.emit event args)).2 := by
  obtain ⟨hc, hf, hcase⟩ := h
  cases hk : e.corked
  · have hlk : l.corked = false := hc ▸ hk
    rw [emit_uncorked hk, Lossy.step_emit_uncorked hlk]
    exact ⟨⟨hc, hf, hcase⟩, rfl⟩
  have hlk : l.corked = true := hc ▸ hk
  have hf' := hf.alloc (event, args)
  rcases hcase with ⟨hs, hb, hq, ht⟩ | ⟨hs, p, t, hq, ht, hseg⟩ | ⟨hs, hb, hq, t, ht, hlt⟩
  · -- first event of a fresh queue: head and tail are the new cell
    rw [emit_fresh hk ht, Lossy.step_emit_queued hlk hs, hb, List.nil_append]
    exact ⟨⟨hc, hf', .inr (.inl ⟨hs, _, _, rfl, rfl, .last (Cells.getElem?_alloc_self _ _)⟩)⟩, rfl⟩
  · -- enqueue behind the tail
    have hlt := hseg.end_lt
    rw [emit_linked hk ht, Lossy.step_emit_queued hlk hs]
    exact ⟨⟨hc, hf'.setNext hlt (by simp),
      .inr (.inl ⟨hs, p, _, hq, rfl, hseg.enqueue (event, args)⟩)⟩, rfl⟩
  · -- the stale tail: the new cell hangs behind a cell the head cannot reach
    rw [emit_linked hk ht, Lossy.step_emit_stale hlk hs]
    exact ⟨⟨hc, hf'.setNext hlt (by simp), .inr (.inr ⟨hs, hb, hq, _, rfl, by simp⟩)⟩, rfl⟩

theorem step_inv {e : BufferedEventEmitter κ β} {l : Lossy (κ × List β)} (h : Inv e l)
    (c : EmitterCall κ β) :
    Inv (step e c).1 (Lossy.step l c).1 ∧ (step e c).2 = (Lossy.step l c).2 := by
  cases c with
  | cork => exact ⟨step_cork h, rfl⟩
  | uncork => exact step_uncork h
  | emit event args => exact step_emit h event args

end BufferedEventEmitter

/-- On every run, the emitter passes to the underlying `EventEmitter.emit` exactly the events that
`Lossy` delivers: the documented buffering, except that after the first `uncork()` that flushes
events, every event emitted while corked is lost. -/
theorem emitter_refines_lossy (calls : List (EmitterCall κ β)) :
    (Machine.run BufferedEventEmitter.step BufferedEventEmitter.init calls).2 =
      (Machine.run Lossy.step Lossy.init calls).2 :=
  (Machine.run_simulates _ _ BufferedEventEmitter.Inv
    (fun _ _ c h => BufferedEventEmitter.step_inv h c) BufferedEventEmitter.inv_init calls).2

/-- Two corked periods: the first event is delivered at the first `uncork()`, the second is
linked behind the stale tail and never delivered, while the documented behaviour delivers both. -/
theorem uncork_drops_second_period (a b : κ) (x y : List β) :
    (Machine.run BufferedEventEmitter.step BufferedEventEmitter.init
        [.cork, .emit a x, .uncork, .cork, .emit b y, .uncork]).2 = [(a, x)] ∧
      (Machine.run Buffered.step Buffered.init
        [.cork, .emit a x, .uncork, .cork, .emit b y, .uncork]).2 = [(a, x), (b, y)] :=
  ⟨rfl, rfl⟩

end AwsCrt
