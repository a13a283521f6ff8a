import AwsCrt.Common.Event

/-!
# The browser `Mqtt5Client` lifecycle (`src/lib/browser/mqtt5.ts`)

`Mqtt5Client` adapts the events of an mqtt-js client to its own lifecycle events. It extends
`BufferedEventEmitter`: `start()` corks the emitter, emits `attemptingConnect`, and uncorks it;
`_on_stopped_internal` emits `stopped` directly; every other lifecycle event is emitted from a
zero-delay timer.

- **The code** (`Mqtt5Client.handle`): each call (`start()`, `stop()`, an mqtt-js event, or the
  firing of the oldest pending timer) updates the client's own fields and makes calls on the
  emitter it extends. `Mqtt5Client.step` runs those calls on an emitter given as a step function;
  its outputs are the events the emitter delivers to the listeners. The mqtt-js client, its
  `end()` and the `ReconnectionScheduler` are the environment: their effects arrive as inputs.
- With the documented emitter (`Buffered`), every `start()` that leaves `Stopped` delivers
  `attemptingConnect` at once (`start_announces_buffered`).
- With the code's emitter, `start()` after the first never delivers anything
  (`start_after_first_silent`): the first `uncork()` leaves the emitter's tail stale, and the
  corked `attemptingConnect` of every later `start()` is lost (`emitter_refines_lossy`).
- `second_start_unannounced`: `start`, `stop`, 'close', 'end', `start`, timer delivers one
  `attemptingConnect` for two starts.
-/

namespace AwsCrt

/-- `Mqtt5ClientState`. -/
inductive Mqtt5ClientState
  | Stopped
  | Running
  | Stopping
  | Restarting
  deriving DecidableEq, Repr

/-- `Mqtt5ClientLifecycleEventState`. -/
inductive Mqtt5ClientLifecycleEventState
  | None
  | Connecting
  | Connected
  | Disconnected
  deriving DecidableEq, Repr

/-- The client's events, by the names its listeners register. -/
inductive ClientEvent
  | attemptingConnect
  | connectionSuccess
  | connectionFailure
  | disconnection
  | stopped
  | info
  | messageReceived
  deriving DecidableEq, Repr

/-- The objects the events carry: an error by its text; a connack, negotiated settings and a
received message are not modelled. -/
inductive EventArg
  | attemptingConnectEvent
  | connectionSuccessEvent
  | connectionFailureEvent (error : String)
  | disconnectionEvent (error : String) (disconnect : Bool)
  | crtError (error : String)
  | messageReceivedEvent
  deriving DecidableEq, Repr

/-- What reaches the client: the user's `start()` and `stop()`, an event of the mqtt-js client
(an error by its text), or the firing of the oldest pending zero-delay timer. -/
inductive Mqtt5Call
  | start
  | stop
  | reconnect
  | connect
  | close
  | disconnect
  | error (error : String)
  | «end»
  | message
  | timer
  deriving DecidableEq, Repr

/-- An event with the arguments passed to `emit`. -/
abbrev Emitted := ClientEvent × List EventArg

/-- The fields of `Mqtt5Client` the lifecycle reads: `lastDisconnect` is whether a DISCONNECT
packet is held, `lastError` the text of the last error, and `timers` the callbacks of the
pending `setTimeout(…, 0)` calls, each an `emit`. -/
structure Mqtt5Client where
  state : Mqtt5ClientState
  lifecycleEventState : Mqtt5ClientLifecycleEventState
  lastDisconnect : Bool
  lastError : Option String
  timers : List Emitted
  deriving DecidableEq, Repr

namespace Mqtt5Client

/-- `new Mqtt5Client(config)`. -/
def init : Mqtt5Client := ⟨.Stopped, .None, false, none, []⟩

/-- `setTimeout(() => { this.emit(event, arg); }, 0)`. -/
def setTimeout (c : Mqtt5Client) (e : Emitted) : Mqtt5Client := { c with timers := c.timers ++ [e] }

/-- A handler's result: the client's fields and its calls on the emitter, in order. -/
abbrev Handled := Mqtt5Client × List (EmitterCall ClientEvent EventArg)

/-- `start()`. From `Stopped` it corks the emitter, emits `attemptingConnect` with no argument,
creates the mqtt-js client, and uncorks. -/
def start (c : Mqtt5Client) : Handled :=
  match c.state with
  | .Stopped =>
    ({ c with lifecycleEventState := .Connecting, lastDisconnect := false, state := .Running },
      [.cork, .emit .attemptingConnect [], .uncork])
  | .Stopping => ({ c with state := .Restarting }, [])
  | _ => (c, [])

/-- `stop()`; from `Running` it also calls the mqtt-js client's `end(true)`. -/
def stop (c : Mqtt5Client) : Mqtt5Client :=
  match c.state with
  | .Running => { c with state := .Stopping }
  | .Restarting => { c with state := .Stopping }
  | _ => c

/-- `on_browser_disconnect_packet`. -/
def onBrowserDisconnectPacket (c : Mqtt5Client) : Mqtt5Client := { c with lastDisconnect := true }

/-- `on_browser_close`: a connection that ends is a disconnection, an attempt that ends is a
connection failure. -/
def onBrowserClose (c : Mqtt5Client) : Mqtt5Client :=
  let c' :=
    match c.lifecycleEventState with
    | .Connected =>
      ({ c with lifecycleEventState := .Disconnected }).setTimeout
        (.disconnection, [.disconnectionEvent (c.lastError.getD "disconnected") c.lastDisconnect])
    | .Connecting =>
      ({ c with lifecycleEventState := .Disconnected }).setTimeout
        (.connectionFailure, [.connectionFailureEvent (c.lastError.getD "connectionFailure")])
    | _ => c
  { c' with lastDisconnect := false, lastError := none }

/-- `on_browser_client_error`. -/
def onBrowserClientError (c : Mqtt5Client) (error : String) : Mqtt5Client :=
  ({ c with lastError := some error }).setTimeout (.info, [.crtError error])

/-- `on_attempting_connect`, on mqtt-js's 'reconnect'. -/
def onAttemptingConnect (c : Mqtt5Client) : Mqtt5Client :=
  ({ c with lifecycleEventState := .Connecting }).setTimeout
    (.attemptingConnect, [.attemptingConnectEvent])

/-- `on_connection_success`, on mqtt-js's 'connect'. -/
def onConnectionSuccess (c : Mqtt5Client) : Mqtt5Client :=
  ({ c with lifecycleEventState := .Connected }).setTimeout
    (.connectionSuccess, [.connectionSuccessEvent])

/-- `_on_stopped_internal`, on mqtt-js's 'end': a pending restart calls `start()`. -/
def onStoppedInternal (c : Mqtt5Client) : Handled :=
  let c := { c with lifecycleEventState := .None, lastDisconnect := false, lastError := none }
  match c.state with
  | .Restarting => start { c with state := .Stopped }
  | .Stopped => (c, [])
  | _ => ({ c with state := .Stopped }, [.emit .stopped []])

/-- `on_message`. -/
def onMessage (c : Mqtt5Client) : Mqtt5Client :=
  c.setTimeout (.messageReceived, [.messageReceivedEvent])

/-- The oldest pending timer fires and emits its event. -/
def fireTimer (c : Mqtt5Client) : Handled :=
  match c.timers with
  | e :: rest => ({ c with timers := rest }, [.emit e.1 e.2])
  | [] => (c, [])

/-- The client's handling of one call. -/
def handle (c : Mqtt5Client) : Mqtt5Call → Handled
  | .start => c.start
  | .stop => (c.stop, [])
  | .reconnect => (c.onAttemptingConnect, [])
  | .connect => (c.onConnectionSuccess, [])
  | .close => (c.onBrowserClose, [])
  | .disconnect => (c.onBrowserDisconnectPacket, [])
  | .error error => (c.onBrowserClientError error, [])
  | .«end» => c.onStoppedInternal
  | .message => (c.onMessage, [])
  | .timer => c.fireTimer

section Emitter

variable {σ τ : Type}

/-- One call on the client and the emitter it extends, given as a step function: the handler,
then its calls on the emitter. The outputs are the events delivered to the listeners. -/
def step (emitterStep : σ → EmitterCall ClientEvent EventArg → σ × List Emitted)
    (s : Mqtt5Client × σ) (call : Mqtt5Call) : (Mqtt5Client × σ) × List Emitted :=
  let h := s.1.handle call
  let r := Machine.run emitterStep s.2 h.2
  ((h.1, r.1), r.2)

/-- Two emitters that deliver alike under a relation kept by every emitter call make clients that
deliver alike. -/
theorem step_simulates (f : σ → EmitterCall ClientEvent EventArg → σ × List Emitted)
    (g : τ → EmitterCall ClientEvent EventArg → τ × List Emitted) (R : σ → τ → Prop)
    (hfg : ∀ e e' i, R e e' → R (f e i).1 (g e' i).1 ∧ (f e i).2 = (g e' i).2)
    (s : Mqtt5Client × σ) (t : Mqtt5Client × τ) (call : Mqtt5Call) (hst : s.1 = t.1 ∧ R s.2 t.2) :
    ((step f s call).1.1 = (step g t call).1.1 ∧ R (step f s call).1.2 (step g t call).1.2) ∧
      (step f s call).2 = (step g t call).2 := by
  obtain ⟨c, e⟩ := s
  obtain ⟨c', e'⟩ := t
  obtain ⟨rfl, hR⟩ := hst
  have hrun := Machine.run_simulates f g R hfg hR (c.handle call).2
  exact ⟨⟨rfl, hrun.1⟩, hrun.2⟩

end Emitter

/-! ## The calls on the emitter -/

/-- How a handler calls the emitter: not at all, one `emit`, or `start()`'s corked
`attemptingConnect`. -/
def Calls (cs : List (EmitterCall ClientEvent EventArg)) : Prop :=
  cs = [] ∨ (∃ e : Emitted, cs = [.emit e.1 e.2]) ∨
    cs = [.cork, .emit .attemptingConnect [], .uncork]

theorem calls_start (c : Mqtt5Client) : Calls c.start.2 := by
  unfold start
  split <;> simp [Calls]

theorem handle_calls (c : Mqtt5Client) (call : Mqtt5Call) : Calls (c.handle call).2 := by
  cases call with
  | start => exact calls_start c
  | «end» =>
    simp only [handle, onStoppedInternal]
    split
    · exact calls_start _
    · simp [Calls]
    · exact .inr (.inl ⟨(.stopped, []), rfl⟩)
  | timer =>
    simp only [handle, fireTimer]
    split
    · exact .inr (.inl ⟨_, rfl⟩)
    · simp [Calls]
  | _ => simp [handle, Calls]

/-- `start()` from `Stopped` makes the corked `attemptingConnect` calls. -/
theorem handle_start_stopped {c : Mqtt5Client} (h : c.state = .Stopped) :
    (c.handle .start).2 = [.cork, .emit .attemptingConnect [], .uncork] := by
  simp [handle, start, h]

end Mqtt5Client

/-! ## With the documented emitter, and with the code's -/

namespace Buffered

variable {κ β : Type}

/-- Not corked, nothing held: the state of a documented emitter between two calls on the client. -/
def Settled (b : Buffered (κ × List β)) : Prop := b.corked = false ∧ b.buffer = []

theorem settled_emit {b : Buffered (κ × List β)} (hb : Settled b) (event : κ) (args : List β) :
    Settled (step b (.emit event args)).1 ∧ (step b (.emit event args)).2 = [(event, args)] := by
  obtain ⟨hk, hbuf⟩ := hb
  simp [step, hk, Settled, hbuf]

theorem settled_cork_emit_uncork {b : Buffered (κ × List β)} (hb : Settled b) (event : κ)
    (args : List β) :
    Settled (Machine.run step b [.cork, .emit event args, .uncork]).1 ∧
      (Machine.run step b [.cork, .emit event args, .uncork]).2 = [(event, args)] := by
  obtain ⟨-, hbuf⟩ := hb
  simp [step, Settled, hbuf]

end Buffered

namespace Lossy

variable {κ β : Type}

/-- Not corked, nothing held. -/
def Settled (l : Lossy (κ × List β)) : Prop := l.corked = false ∧ l.buffer = []

theorem settled_emit {l : Lossy (κ × List β)} (hl : Settled l) (event : κ) (args : List β) :
    Settled (step l (.emit event args)).1 ∧ (step l (.emit event args)).1.stale = l.stale := by
  obtain ⟨hk, hbuf⟩ := hl
  simp [step, hk, Settled, hbuf]

/-- A corked period on a settled emitter: it delivers its event unless the tail is stale, and
leaves the tail stale. -/
theorem settled_cork_emit_uncork {l : Lossy (κ × List β)} (hl : Settled l) (event : κ)
    (args : List β) :
    Settled (Machine.run step l [.cork, .emit event args, .uncork]).1 ∧
      (Machine.run step l [.cork, .emit event args, .uncork]).1.stale = true ∧
      (Machine.run step l [.cork, .emit event args, .uncork]).2 =
        if l.stale then [] else [(event, args)] := by
  obtain ⟨-, hbuf⟩ := hl
  cases hs : l.stale <;> simp [step, Settled, hbuf, hs]

end Lossy

namespace Mqtt5Client

/-- Between two calls the documented emitter holds nothing. -/
theorem settled_step_buffered {s : Mqtt5Client × Buffered Emitted} (hs : Buffered.Settled s.2)
    (call : Mqtt5Call) : Buffered.Settled (step Buffered.step s call).1.2 := by
  rcases handle_calls s.1 call with h | ⟨e, h⟩ | h <;> simp only [step, h]
  · exact hs
  · exact (Buffered.settled_emit hs e.1 e.2).1
  · exact (Buffered.settled_cork_emit_uncork hs _ _).1

/-- With the documented emitter, a `start()` that leaves `Stopped` delivers `attemptingConnect`,
with no argument, at once. -/
theorem start_announces_buffered (calls : List Mqtt5Call)
    (hstopped : (Machine.run (step Buffered.step) (init, Buffered.init) calls).1.1.state =
      .Stopped) :
    (Machine.run (step Buffered.step) (init, Buffered.init) (calls ++ [.start])).2 =
      (Machine.run (step Buffered.step) (init, Buffered.init) calls).2 ++
        [(.attemptingConnect, [])] := by
  have hsettled := Machine.run_invariant (step Buffered.step) (fun s => Buffered.Settled s.2)
    (fun s call hs => settled_step_buffered hs call) (s := (init, Buffered.init))
    ⟨rfl, rfl⟩ calls
  rw [Machine.run_append, Machine.run_singleton]
  simp only [step, handle_start_stopped hstopped,
    (Buffered.settled_cork_emit_uncork hsettled .attemptingConnect []).2]

/-- With the lossy emitter: settled between calls, and stale once a `start()` has left
`Stopped`. -/
def LossySettled (stale : Bool) (s : Mqtt5Client × Lossy Emitted) : Prop :=
  Lossy.Settled s.2 ∧ (stale = true → s.2.stale = true)

theorem lossySettled_step {stale : Bool} {s : Mqtt5Client × Lossy Emitted}
    (hs : LossySettled stale s) (call : Mqtt5Call) :
    LossySettled stale (step Lossy.step s call).1 := by
  obtain ⟨hset, hstale⟩ := hs
  rcases handle_calls s.1 call with h | ⟨e, h⟩ | h <;> simp only [step, h]
  · exact ⟨hset, hstale⟩
  · have he := Lossy.settled_emit hset e.1 e.2
    simp only [Machine.run_singleton]
    exact ⟨he.1, fun h => he.2.trans (hstale h)⟩
  · have he := Lossy.settled_cork_emit_uncork hset .attemptingConnect []
    exact ⟨he.1, fun _ => he.2.1⟩

/-- The client with the code's emitter delivers exactly what the client with `Lossy` does. -/
theorem client_refines_lossy (calls : List Mqtt5Call) :
    (Machine.run (step BufferedEventEmitter.step) (init, BufferedEventEmitter.init) calls).1.1 =
        (Machine.run (step Lossy.step) (init, Lossy.init) calls).1.1 ∧
      BufferedEventEmitter.Inv
        (Machine.run (step BufferedEventEmitter.step) (init, BufferedEventEmitter.init) calls).1.2
        (Machine.run (step Lossy.step) (init, Lossy.init) calls).1.2 ∧
      (Machine.run (step BufferedEventEmitter.step) (init, BufferedEventEmitter.init) calls).2 =
        (Machine.run (step Lossy.step) (init, Lossy.init) calls).2 := by
  have h := Machine.run_simulates (step BufferedEventEmitter.step) (step Lossy.step)
    (fun (s : Mqtt5Client × BufferedEventEmitter ClientEvent EventArg)
      (t : Mqtt5Client × Lossy Emitted) => s.1 = t.1 ∧ BufferedEventEmitter.Inv s.2 t.2)
    (fun s t call hst => step_simulates _ _ BufferedEventEmitter.Inv
      (fun _ _ i hR => BufferedEventEmitter.step_inv hR i) s t call hst)
    (s := (init, BufferedEventEmitter.init)) (t := (init, Lossy.init))
    ⟨rfl, BufferedEventEmitter.inv_init⟩ calls
  exact ⟨h.1.1, h.1.2, h.2⟩

/-- With the code's emitter, once a first `start()` has run, a `start()` from `Stopped` delivers
nothing: its `attemptingConnect` is linked behind the stale tail. -/
theorem start_after_first_silent (calls : List Mqtt5Call)
    (hstopped : (Machine.run (step BufferedEventEmitter.step) (init, BufferedEventEmitter.init)
      (.start :: calls)).1.1.state = .Stopped) :
    (Machine.run (step BufferedEventEmitter.step) (init, BufferedEventEmitter.init)
        (.start :: calls ++ [.start])).2 =
      (Machine.run (step BufferedEventEmitter.step) (init, BufferedEventEmitter.init)
        (.start :: calls)).2 := by
  obtain ⟨h1, hinv, -⟩ := client_refines_lossy (.start :: calls)
  -- the lossy client is stale after its first `start()`, and stays so
  have hfirst : LossySettled true (step Lossy.step (init, Lossy.init) .start).1 := by
    have h := Lossy.settled_cork_emit_uncork (l := (Lossy.init : Lossy Emitted)) ⟨rfl, rfl⟩
      .attemptingConnect []
    simp only [step, handle_start_stopped (c := init) rfl]
    exact ⟨h.1, fun _ => h.2.1⟩
  have hstale : LossySettled true
      (Machine.run (step Lossy.step) (init, Lossy.init) (.start :: calls)).1 := by
    rw [Machine.run_cons]
    exact Machine.run_invariant _ (LossySettled true) (fun s call hs => lossySettled_step hs call)
      hfirst calls
  have hsim := step_simulates _ _ BufferedEventEmitter.Inv
    (fun _ _ i hR => BufferedEventEmitter.step_inv hR i) _ _ .start ⟨h1, hinv⟩
  have hlossy := Lossy.settled_cork_emit_uncork hstale.1 .attemptingConnect []
  have hstopped' : (Machine.run (step Lossy.step) (init, Lossy.init)
      (.start :: calls)).1.1.state = .Stopped := by
    rw [← h1]
    exact hstopped
  rw [Machine.run_append, Machine.run_singleton, hsim.2]
  simp only [step, handle_start_stopped hstopped', hlossy.2.2, hstale.2 rfl, if_true,
    List.append_nil]

theorem start_after_first_silent_restart :
    (Machine.run (step BufferedEventEmitter.step) (init, BufferedEventEmitter.init)
        (.start :: [.stop, .close, .«end»])).1.1.state = .Stopped ∧
      (Machine.run (step BufferedEventEmitter.step) (init, BufferedEventEmitter.init)
          (.start :: [.stop, .close, .«end»] ++ [.start])).2 =
        (Machine.run (step BufferedEventEmitter.step) (init, BufferedEventEmitter.init)
          (.start :: [.stop, .close, .«end»])).2 :=
  ⟨rfl, start_after_first_silent [.stop, .close, .«end»] rfl⟩

end Mqtt5Client

/-! ## A restart -/

/-- `start()`, `stop()`, the mqtt-js client's 'close' and 'end', `start()`, and the pending
timer: the client is `Stopped` before each `start()` and `Running` after it, one
`attemptingConnect` is delivered, and no timer or queued event is left to deliver another; the
documented emitter delivers two. -/
theorem second_start_unannounced :
    let calls : List Mqtt5Call := [.start, .stop, .close, .«end», .start, .timer]
    let run := Machine.run (Mqtt5Client.step BufferedEventEmitter.step)
      (Mqtt5Client.init, BufferedEventEmitter.init)
    (run (calls.take 4)).1.1.state = .Stopped ∧ (run calls).1.1.state = .Running ∧
      (run calls).2 =
        [(.attemptingConnect, []), (.stopped, []),
          (.connectionFailure, [.connectionFailureEvent "connectionFailure"])] ∧
      (run calls).1.1.timers = [] ∧ (run calls).1.2.eventQueue = none ∧
      (Machine.run (Mqtt5Client.step Buffered.step) (Mqtt5Client.init, Buffered.init) calls).2 =
        [(.attemptingConnect, []), (.stopped, []), (.attemptingConnect, []),
          (.connectionFailure, [.connectionFailureEvent "connectionFailure"])] :=
  ⟨rfl, rfl, rfl, rfl, rfl, rfl⟩

end AwsCrt
