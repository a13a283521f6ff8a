import AwsCrt.Mqtt.ReconnectBounds

/-!
# The browser MQTT 3.1.1 connection lifecycle (`src/lib/browser/mqtt.ts`)

`MqttClientConnection` wraps an mqtt-js client. Its constructor creates that client, which starts
connecting at once, and listens to its 'connect', 'error', 'close' and 'end' events; the user calls
`connect()` and `disconnect()`. The connection keeps what it wants (`desiredState`) apart from what
it has (`currentState`), counts its connections to tell a first 'connect' from a 'resume', and on a
'close' while it wants to be connected reports a failure and sets a reconnect timer with the
full-jitter wait of `get_reconnect_time_sec`.

* **The code** (`MqttConnectionLifecycle.step`): each call (a user call, the end of the
  `refreshCredentials()` a `connect()` awaits, an mqtt-js event, a reconnect timer firing) updates
  the connection's fields and returns what others see: the events the connection emits, the
  settling of `connect()` promises, the timers it sets and clears and its calls on the mqtt-js
  client. A `connect()` promise's executor puts two `once` listeners on the mqtt-js client, for
  'error' and 'connect'; both are kept here by promise. The connection never corks its
  `BufferedEventEmitter`, so every `emit` reaches the listeners at once.
* **What a listener may rely on** (`LifecycleView`): 'connect' once and before any 'resume', and
  'interrupt' only while connected. `lifecycle_events_accepted`: the events of every run are
  accepted by that view, step by step (`next_step`).
* `reconnect_delays_in_bounds`: every reconnect timer of every run waits between the bounds the
  constructor derived. `reconnect_wait_backoff`: the wait is at most `min + max(min, 1) · 2 ^ k`
  for `k` reconnects since the last 'resume' (`reconnect_count_run`: the count is a fold over the
  run's outputs, which a first 'connect' does not reset).
* **'error' with nobody listening**: `on_error`, the mqtt-js client's first 'error' listener,
  emits the error on the connection, and an `EventEmitter` throws an 'error' it has no listener
  for. Without a user 'error' listener the throw ends mqtt-js's `emit` (`mqttError_unheard`), so
  the `once('error')` listeners neither run nor leave the client.
* `PromiseInv`: a pending promise whose listeners are registered is on both listener lists.
  Every call keeps it (`PromiseInv.step`), so on every run an mqtt-js 'connect' resolves every
  such promise, and an 'error' rejects it when the user listens for 'error' and leaves it pending
  otherwise (`connect_promises_settle`); a promise whose credentials refresh threw is never
  settled (`thrown_promise_pending`).
-/

namespace AwsCrt

/-- `MqttBrowserClientState`. -/
inductive MqttBrowserClientState
  | Connected
  | Stopped
  deriving DecidableEq, Repr

/-- The events of `MqttClientConnection` with the arguments passed to `emit`; an error is the
message of the `CrtError` made from it, the `toString()` of what it wraps. -/
inductive MqttConnectionEvent
  | connect (session_present : Bool)
  | resume (return_code : Int) (session_present : Bool)
  | connection_success (session_present : Bool)
  | interrupt (error_code : Int)
  | closed (callbackData : Bool)
  | connection_failure (error : String)
  | disconnect
  | error (error : String)
  deriving DecidableEq, Repr

/-- How a `connect()` promise settles. -/
inductive ConnectOutcome
  | resolve (session_present : Bool)
  | reject (error : String)
  deriving DecidableEq, Repr

/-- Where the async executor of a `connect()` promise is: awaiting `refreshCredentials()`, past it
with its listeners on the mqtt-js client, or ended by the refresh rejecting. -/
inductive ConnectExecutor
  | refreshing
  | registered
  | thrown
  deriving DecidableEq, Repr

/-- A `connect()` promise: its executor, and its outcome once settled. -/
structure ConnectPromise where
  executor : ConnectExecutor
  outcome : Option ConnectOutcome
  deriving DecidableEq, Repr

/-- What others see of a call: an event to the connection's listeners, a `connect()` promise
settled, a reconnect timer set (its delay in milliseconds) or cleared, the calls on the mqtt-js
client, and the `CrtError` that `on_error` throws into the mqtt-js client's `emit` when nobody
listens for 'error' on the connection. -/
inductive MqttConnectionOutput
  | emit (event : MqttConnectionEvent)
  | settle (promise : Nat) (outcome : ConnectOutcome)
  | setTimeout (timer : Nat) (delay : ℚ)
  | clearTimeout (timer : Nat)
  | reconnect
  | «end»
  | thrown (error : String)
  deriving DecidableEq

/-- What reaches the connection: the user's `connect()` and `disconnect()`, and the user's
`on('error', listener)` and `removeListener('error', listener)` on it (a listener by its name); the
`refreshCredentials()` of a `connect()` resolving or rejecting; the mqtt-js client's 'connect'
(with the CONNACK's session flag), 'error' (by its text), 'close' (with the draw of
`Math.random()` a reconnect wait would take) and 'end'; a pending reconnect timer firing. -/
inductive MqttConnectionCall
  | connect
  | disconnect
  | addErrorListener (listener : Nat)
  | removeErrorListener (listener : Nat)
  | credentialsRefreshed (promise : Nat)
  | credentialsFailed (promise : Nat)
  | mqttConnect (sessionPresent : Bool)
  | mqttError (error : String)
  | mqttClose (random : RandomDraw)
  | mqttEnd
  | reconnectTimer (timer : Nat)

/-- The fields of the browser `MqttClientConnection` its lifecycle reads, beside the reconnect
fields of `MqttClientConnection`: whether `config.credentials_provider` is set, the `connect()`
promises by index, the promises whose `once('error')` and `once('connect')` listeners are on the
mqtt-js client, in registration order, the reconnect timers pending, and the 'error' listeners the
user has put on the connection itself. -/
structure MqttConnectionLifecycle where
  reconnect : MqttClientConnection
  connection_count : Nat
  currentState : MqttBrowserClientState
  desiredState : MqttBrowserClientState
  reconnectTask : Option Nat
  lastError : Option String
  credentials_provider : Bool
  promises : List ConnectPromise
  errorListeners : List Nat
  connectListeners : List Nat
  timers : List Nat
  nextTimer : Nat
  userErrorListeners : List Nat

namespace MqttConnectionLifecycle

/-- A handler's result: the connection's fields and what others see. -/
abbrev Handled := MqttConnectionLifecycle × List MqttConnectionOutput

/-- The constructor: the reconnect bounds of the configuration, both states `Stopped`, and a
credentials provider when one is configured or `config.credentials` is set (`credentials`). -/
def init (config : MqttConnectionConfig) (credentials : Bool) : MqttConnectionLifecycle where
  reconnect := MqttClientConnection.ofConfig config
  connection_count := 0
  currentState := .Stopped
  desiredState := .Stopped
  reconnectTask := none
  lastError := none
  credentials_provider := config.credentials_provider.isSome || credentials
  promises := []
  errorListeners := []
  connectListeners := []
  timers := []
  nextTimer := 0
  userErrorListeners := []

/-- The executor of `promise` registers `this.connection.once('error', on_connect_error)`, then
`this.connection.once('connect', …)`. -/
def listen (c : MqttConnectionLifecycle) (promise : Nat) : MqttConnectionLifecycle :=
  { c with errorListeners := c.errorListeners ++ [promise],
           connectListeners := c.connectListeners ++ [promise] }

/-- `resolve` or `reject` of a promise: only the first one settles it. -/
def settle (c : MqttConnectionLifecycle) (promise : Nat) (outcome : ConnectOutcome) : Handled :=
  match c.promises[promise]? with
  | some ⟨executor, none⟩ =>
    ({ c with promises := c.promises.set promise ⟨executor, some outcome⟩ }, [.settle promise outcome])
  | _ => (c, [])

/-- `connect()`. The executor runs at once up to `await provider.refreshCredentials()`, so with no
provider it registers its listeners now. (`setTimeout(() => this.uncork(), 0)` delivers nothing:
the connection is never corked.) -/
def connect (c : MqttConnectionLifecycle) : Handled :=
  let promise := c.promises.length
  if c.credentials_provider then
    ({ c with desiredState := .Connected, promises := c.promises ++ [⟨.refreshing, none⟩] }, [])
  else
    (listen { c with desiredState := .Connected, promises := c.promises ++ [⟨.registered, none⟩] }
      promise, [])

/-- The `refreshCredentials()` of `promise` resolves: its executor registers its listeners. -/
def credentialsRefreshed (c : MqttConnectionLifecycle) (promise : Nat) : MqttConnectionLifecycle :=
  match c.promises[promise]? with
  | some ⟨.refreshing, outcome⟩ =>
    listen { c with promises := c.promises.set promise ⟨.registered, outcome⟩ } promise
  | _ => c

/-- The `refreshCredentials()` of `promise` rejects: the async executor throws, which rejects the
promise it returns and not the one `connect()` returned. -/
def credentialsFailed (c : MqttConnectionLifecycle) (promise : Nat) : MqttConnectionLifecycle :=
  match c.promises[promise]? with
  | some ⟨.refreshing, outcome⟩ => { c with promises := c.promises.set promise ⟨.thrown, outcome⟩ }
  | _ => c

/-- `disconnect()`: clear the last reconnect timer set, and `this.connection.end(false, …)`. -/
def disconnect (c : MqttConnectionLifecycle) : Handled :=
  let c := { c with desiredState := .Stopped }
  match c.reconnectTask with
  | some timer =>
    ({ c with timers := c.timers.erase timer, reconnectTask := none }, [.clearTimeout timer, .«end»])
  | none => (c, [.«end»])

/-- `on_online`, from `on_connect`: `++this.connection_count == 1` tells the first connection. -/
def onOnline (c : MqttConnectionLifecycle) (session_present : Bool) : Handled :=
  let c := { c with currentState := .Connected, connection_count := c.connection_count + 1 }
  if c.connection_count = 1 then
    (c, [.emit (.connect session_present), .emit (.connection_success session_present)])
  else
    ({ c with reconnect := { c.reconnect with reconnect_count := 0 } },
      [.emit (.resume 0 session_present), .emit (.connection_success session_present)])

/-- The `once('connect')` listener of `promise`: it removes the promise's 'error' listener and
resolves it. -/
def onConnectListener (session_present : Bool) (c : MqttConnectionLifecycle) (promise : Nat) :
    Handled :=
  ({ c with errorListeners := c.errorListeners.erase promise }).settle promise
    (.resolve session_present)

/-- mqtt-js 'connect': `on_connect`, then the `once` listeners, each removed before it runs. -/
def mqttConnect (c : MqttConnectionLifecycle) (sessionPresent : Bool) : Handled :=
  let r := c.onOnline sessionPresent
  let r' := Machine.run (onConnectListener sessionPresent) { r.1 with connectListeners := [] }
    c.connectListeners
  (r'.1, r.2 ++ r'.2)

/-- `on_connect_error` of `promise`: 'connection_failure', then the rejection. -/
def onConnectError (error : String) (c : MqttConnectionLifecycle) (promise : Nat) : Handled :=
  let r := c.settle promise (.reject error)
  (r.1, .emit (.connection_failure error) :: r.2)

/-- mqtt-js 'error'. Its first listener is `on_error`, put on the client by the constructor: it
keeps the error and emits it on the connection. An `EventEmitter` with no 'error' listener throws
the error it is asked to emit, so with none on the connection mqtt-js's `emit` stops there, and the
`once` listeners neither run nor leave the client; otherwise they run, each removed before it
runs. -/
def mqttError (c : MqttConnectionLifecycle) (error : String) : Handled :=
  if c.userErrorListeners = [] then ({ c with lastError := some error }, [.thrown error])
  else
    let r := Machine.run (onConnectError error)
      { c with lastError := some error, errorListeners := [] } c.errorListeners
    (r.1, .emit (.error error) :: r.2)

/-- `on_close`: a connection that was up is interrupted ('closed' as well when the user asked to
disconnect); while the user wants a connection, a failure is reported and a reconnect timer set. -/
def onClose (c : MqttConnectionLifecycle) (random : ℚ) : Handled :=
  let lastError := c.lastError
  let interrupted : Handled :=
    if c.currentState = .Connected then
      ({ c with currentState := .Stopped },
        .emit (.interrupt (-1)) :: if c.desiredState = .Stopped then [.emit (.closed false)] else [])
    else (c, [])
  let c := interrupted.1
  let retried : Handled :=
    if c.desiredState = .Connected then
      let waitTime := c.reconnect.get_reconnect_time_sec random
      ({ c with reconnectTask := some c.nextTimer, timers := c.timers ++ [c.nextTimer],
                nextTimer := c.nextTimer + 1 },
        [.emit (.connection_failure (lastError.getD "connectionFailure")),
          .setTimeout c.nextTimer (waitTime * 1000)])
    else (c, [])
  ({ retried.1 with lastError := none }, interrupted.2 ++ retried.2)

/-- `on_disconnected`, on mqtt-js 'end'. -/
def onDisconnected (c : MqttConnectionLifecycle) : Handled :=
  (c, .emit .disconnect ::
    if c.currentState = .Connected ∧ c.desiredState = .Stopped then [.emit (.closed true)] else [])

/-- A reconnect timer fires: `this.reconnect_count++; this.connection.reconnect()`. -/
def reconnectTimer (c : MqttConnectionLifecycle) (timer : Nat) : Handled :=
  if timer ∈ c.timers then
    ({ c with timers := c.timers.erase timer,
              reconnect := { c.reconnect with reconnect_count := c.reconnect.reconnect_count + 1 } },
      [.reconnect])
  else (c, [])

/-- The connection's handling of one call. -/
def step (c : MqttConnectionLifecycle) : MqttConnectionCall → Handled
  | .connect => c.connect
  | .disconnect => c.disconnect
  | .addErrorListener listener =>
    ({ c with userErrorListeners := c.userErrorListeners ++ [listener] }, [])
  | .removeErrorListener listener =>
    -- `removeListener` takes out the latest registration of the listener; which of several goes
    -- does not matter, only whether one is left
    ({ c with userErrorListeners := c.userErrorListeners.erase listener }, [])
  | .credentialsRefreshed promise => (c.credentialsRefreshed promise, [])
  | .credentialsFailed promise => (c.credentialsFailed promise, [])
  | .mqttConnect sessionPresent => c.mqttConnect sessionPresent
  | .mqttError error => c.mqttError error
  | .mqttClose random => c.onClose random.value
  | .mqttEnd => c.onDisconnected
  | .reconnectTimer timer => c.reconnectTimer timer

end MqttConnectionLifecycle

/-! ## Settling promises -/

/-- A promise after `resolve` or `reject` with `outcome`: settled with it, unless already settled. -/
def ConnectPromise.settleWith (q : ConnectPromise) (outcome : ConnectOutcome) : ConnectPromise :=
  ⟨q.executor, q.outcome.or (some outcome)⟩

@[simp] theorem ConnectPromise.settleWith_settleWith (q : ConnectPromise) (outcome : ConnectOutcome) :
    (q.settleWith outcome).settleWith outcome = q.settleWith outcome := by
  obtain ⟨executor, _ | _⟩ := q <;> rfl

namespace MqttConnectionLifecycle

/-- Settling a promise settles that one, unless it already was, and leaves the others. -/
theorem settle_getElem? (c : MqttConnectionLifecycle) (promise : Nat) (outcome : ConnectOutcome)
    (i : Nat) :
    (c.settle promise outcome).1.promises[i]? =
      if promise = i then c.promises[i]?.map (·.settleWith outcome) else c.promises[i]? := by
  unfold settle
  split
  next executor hp =>
    by_cases h : promise = i
    · subst h
      rw [List.getElem?_set_self (List.getElem?_eq_some_iff.mp hp).1, hp, if_pos rfl]
      rfl
    · rw [List.getElem?_set_ne h, if_neg h]
  next hp =>
    by_cases h : promise = i
    · subst h
      -- a promise that is missing or already settled is left as it is
      rw [if_pos rfl]
      cases hq : c.promises[promise]? with
      | none => rfl
      | some q =>
        obtain ⟨executor, _ | outcome'⟩ := q
        · exact absurd hq (hp executor)
        · rfl
    · rw [if_neg h]

theorem settle_frame (c : MqttConnectionLifecycle) (promise : Nat) (outcome : ConnectOutcome) :
    ∃ ps, (c.settle promise outcome).1 = { c with promises := ps } := by
  unfold settle
  split
  · exact ⟨_, rfl⟩
  · exact ⟨c.promises, rfl⟩

theorem settle_outputs (c : MqttConnectionLifecycle) (promise : Nat) (outcome : ConnectOutcome) :
    ∀ o ∈ (c.settle promise outcome).2, o = .settle promise outcome := by
  unfold settle
  split <;> simp

/-- Listeners run one after the other, each settling its promise with `outcome`, settle every
promise of the list once. -/
theorem run_settle_getElem? {g : MqttConnectionLifecycle → Nat → Handled} {outcome : ConnectOutcome}
    (hg : ∀ c promise i, (g c promise).1.promises[i]? =
      if promise = i then c.promises[i]?.map (·.settleWith outcome) else c.promises[i]?)
    (c : MqttConnectionLifecycle) (promises : List Nat) (i : Nat) :
    (Machine.run g c promises).1.promises[i]? =
      if i ∈ promises then c.promises[i]?.map (·.settleWith outcome) else c.promises[i]? := by
  induction promises generalizing c with
  | nil => simp
  | cons promise promises ih =>
    rw [Machine.run_cons, ih, hg]
    by_cases hp : promise = i
    · subst hp
      simp [Option.map_map, Function.comp_def]
    · by_cases hi : i ∈ promises <;> simp [hp, hi, Ne.symm hp]

/-- A 'connect' listener resolves its own promise and no other. -/
theorem onConnectListener_getElem? (session_present : Bool) (c : MqttConnectionLifecycle)
    (promise i : Nat) :
    (onConnectListener session_present c promise).1.promises[i]? =
      if promise = i then c.promises[i]?.map (·.settleWith (.resolve session_present))
      else c.promises[i]? :=
  settle_getElem? _ _ _ i

/-- An 'error' listener rejects its own promise and no other. -/
theorem onConnectError_getElem? (error : String) (c : MqttConnectionLifecycle) (promise i : Nat) :
    (onConnectError error c promise).1.promises[i]? =
      if promise = i then c.promises[i]?.map (·.settleWith (.reject error)) else c.promises[i]? :=
  settle_getElem? _ _ _ i

/-- The 'connect' listeners change only the promises and take 'error' listeners away. -/
theorem run_onConnectListener_frame (session_present : Bool) (c : MqttConnectionLifecycle)
    (promises : List Nat) :
    ∃ ps el, el ⊆ c.errorListeners ∧
      (Machine.run (onConnectListener session_present) c promises).1 =
        { c with promises := ps, errorListeners := el } := by
  induction promises generalizing c with
  | nil => exact ⟨c.promises, c.errorListeners, List.Subset.refl _, rfl⟩
  | cons promise promises ih =>
    obtain ⟨ps₁, h₁⟩ := settle_frame { c with errorListeners := c.errorListeners.erase promise }
      promise (.resolve session_present)
    obtain ⟨ps, el, hsub, h⟩ := ih (onConnectListener session_present c promise).1
    refine ⟨ps, el, fun x hx => ?_, ?_⟩
    · have hx' := hsub hx
      rw [onConnectListener, h₁] at hx'
      exact List.mem_of_mem_erase hx'
    · rw [Machine.run_cons, h, onConnectListener, h₁]

/-- The 'error' listeners change only the promises. -/
theorem run_onConnectError_frame (error : String) (c : MqttConnectionLifecycle) (promises : List Nat) :
    ∃ ps, (Machine.run (onConnectError error) c promises).1 = { c with promises := ps } := by
  induction promises generalizing c with
  | nil => exact ⟨c.promises, rfl⟩
  | cons promise promises ih =>
    obtain ⟨ps₁, h₁⟩ := settle_frame c promise (.reject error)
    obtain ⟨ps, h⟩ := ih (onConnectError error c promise).1
    refine ⟨ps, ?_⟩
    rw [Machine.run_cons, h, onConnectError, h₁]

end MqttConnectionLifecycle

/-! ## What a listener may rely on -/

/-- What the lifecycle events tell a listener: whether 'connect' has come, and whether the
connection is up, a 'connection_success' having come with no 'interrupt' since. -/
structure LifecycleView where
  announced : Bool
  up : Bool
  deriving DecidableEq, Repr

namespace LifecycleView

/-- The view after one output, or `none` when the output breaks what a listener may rely on:
'connect' once and before any 'resume', and 'interrupt' only while up. -/
def next (v : LifecycleView) : MqttConnectionOutput → Option LifecycleView
  | .emit (.connect _) => if v.announced then none else some { v with announced := true }
  | .emit (.resume _ _) => if v.announced then some v else none
  | .emit (.connection_success _) => some { v with up := true }
  | .emit (.interrupt _) => if v.up then some { v with up := false } else none
  | _ => some v

/-- An output that leaves every view as it is. -/
def Quiet (o : MqttConnectionOutput) : Prop := ∀ v, next v o = some v

theorem foldlM_next_of_quiet {os : List MqttConnectionOutput} (h : ∀ o ∈ os, Quiet o)
    (v : LifecycleView) : os.foldlM next v = some v := by
  induction os with
  | nil => rfl
  | cons o os ih =>
    rw [List.foldlM_cons, h o List.mem_cons_self]
    exact ih fun o' ho' => h o' (List.mem_cons_of_mem o ho')

theorem quiet_settle (promise : Nat) (outcome : ConnectOutcome) : Quiet (.settle promise outcome) :=
  fun _ => rfl

end LifecycleView

namespace MqttConnectionLifecycle

/-- The view the connection's fields stand for. -/
def view (c : MqttConnectionLifecycle) : LifecycleView :=
  ⟨c.connection_count != 0, c.currentState == .Connected⟩

/-- The 'connect' listeners only resolve promises. -/
theorem run_onConnectListener_outputs (session_present : Bool) (c : MqttConnectionLifecycle)
    (promises : List Nat) :
    ∀ o ∈ (Machine.run (onConnectListener session_present) c promises).2,
      ∃ promise, o = .settle promise (.resolve session_present) :=
  Machine.run_outputs _ _ (fun _ promise o ho => ⟨promise, settle_outputs _ _ _ o ho⟩) c promises

/-- The 'error' listeners report failures and reject promises. -/
theorem run_onConnectError_outputs (error : String) (c : MqttConnectionLifecycle)
    (promises : List Nat) :
    ∀ o ∈ (Machine.run (onConnectError error) c promises).2,
      o = .emit (.connection_failure error) ∨ ∃ promise, o = .settle promise (.reject error) :=
  Machine.run_outputs _ _ (fun _ promise o ho => by
    rcases List.mem_cons.mp ho with rfl | ho
    · exact .inl rfl
    · exact .inr ⟨promise, settle_outputs _ _ _ o ho⟩) c promises

/-- mqtt-js 'error' keeps the error and changes no field but the promises and the 'error'
listeners; it shows the throw out of `on_error`, or the 'error' event and what the listeners report
and settle. -/
theorem mqttError_frame (c : MqttConnectionLifecycle) (error : String) :
    (∃ ps el, (c.mqttError error).1 =
      { c with lastError := some error, promises := ps, errorListeners := el }) ∧
    ∀ o ∈ (c.mqttError error).2, o = .thrown error ∨ o = .emit (.error error) ∨
      o = .emit (.connection_failure error) ∨ ∃ promise, o = .settle promise (.reject error) := by
  unfold mqttError
  split
  · exact ⟨⟨c.promises, c.errorListeners, rfl⟩, by simp⟩
  · obtain ⟨ps, h⟩ := run_onConnectError_frame error
      { c with lastError := some error, errorListeners := [] } c.errorListeners
    refine ⟨⟨ps, [], by rw [h]⟩, fun o ho => ?_⟩
    rcases List.mem_cons.mp ho with rfl | ho
    · exact .inr (.inl rfl)
    · exact .inr (.inr (run_onConnectError_outputs _ _ _ o ho))

theorem run_onConnectListener_quiet (session_present : Bool) (c : MqttConnectionLifecycle)
    (promises : List Nat) :
    ∀ o ∈ (Machine.run (onConnectListener session_present) c promises).2, LifecycleView.Quiet o := by
  intro o ho
  obtain ⟨promise, rfl⟩ := run_onConnectListener_outputs _ _ _ o ho
  exact LifecycleView.quiet_settle _ _

theorem mqttError_quiet (c : MqttConnectionLifecycle) (error : String) :
    ∀ o ∈ (c.mqttError error).2, LifecycleView.Quiet o := by
  intro o ho
  rcases (mqttError_frame c error).2 o ho with rfl | rfl | rfl | ⟨promise, rfl⟩ <;>
    exact fun _ => rfl

/-- `on_online`, by whether a connection came before. -/
theorem onOnline_eq (c : MqttConnectionLifecycle) (session_present : Bool) :
    c.onOnline session_present =
      if c.connection_count = 0 then
        ({ c with currentState := .Connected, connection_count := 1 },
          [.emit (.connect session_present), .emit (.connection_success session_present)])
      else
        ({ c with currentState := .Connected, connection_count := c.connection_count + 1,
                  reconnect := { c.reconnect with reconnect_count := 0 } },
          [.emit (.resume 0 session_present), .emit (.connection_success session_present)]) := by
  by_cases h0 : c.connection_count = 0 <;> simp [onOnline, h0]

/-- `on_online` announces a first connection and resumes a later one. -/
theorem onOnline_next (c : MqttConnectionLifecycle) (session_present : Bool) :
    (c.onOnline session_present).2.foldlM LifecycleView.next c.view =
      some (c.onOnline session_present).1.view := by
  rw [onOnline_eq]
  by_cases h0 : c.connection_count = 0 <;> simp [view, LifecycleView.next, h0]

theorem mqttConnect_next (c : MqttConnectionLifecycle) (sessionPresent : Bool) :
    (c.mqttConnect sessionPresent).2.foldlM LifecycleView.next c.view =
      some (c.mqttConnect sessionPresent).1.view := by
  obtain ⟨ps, el, -, h⟩ := run_onConnectListener_frame sessionPresent
    { (c.onOnline sessionPresent).1 with connectListeners := [] } c.connectListeners
  simp only [mqttConnect, List.foldlM_append, onOnline_next]
  -- the listeners only settle promises
  rw [h]
  exact LifecycleView.foldlM_next_of_quiet (run_onConnectListener_quiet _ _ _) _

theorem mqttError_next (c : MqttConnectionLifecycle) (error : String) :
    (c.mqttError error).2.foldlM LifecycleView.next c.view = some (c.mqttError error).1.view := by
  -- the view reads neither the promises nor the listeners
  obtain ⟨⟨ps, el, h⟩, -⟩ := mqttError_frame c error
  rw [LifecycleView.foldlM_next_of_quiet (mqttError_quiet c error), h]
  rfl

/-- `on_close` interrupts only a connection that was up. -/
theorem onClose_next (c : MqttConnectionLifecycle) (random : ℚ) :
    (c.onClose random).2.foldlM LifecycleView.next c.view = some (c.onClose random).1.view := by
  cases hc : c.currentState <;> cases hd : c.desiredState <;>
    simp [onClose, hc, hd, view, LifecycleView.next]

/-- Every call takes the view of the connection to the view of the connection it leaves. -/
theorem next_step (c : MqttConnectionLifecycle) (call : MqttConnectionCall) :
    (c.step call).2.foldlM LifecycleView.next c.view = some (c.step call).1.view := by
  cases call with
  | connect =>
    simp only [step, connect]
    split <;> rfl
  | disconnect =>
    simp only [step, disconnect]
    split <;> rfl
  | credentialsRefreshed promise =>
    simp only [step, credentialsRefreshed]
    split <;> rfl
  | addErrorListener listener => rfl
  | removeErrorListener listener => rfl
  | credentialsFailed promise =>
    simp only [step, credentialsFailed]
    split <;> rfl
  | mqttConnect sessionPresent => exact mqttConnect_next c sessionPresent
  | mqttError error => exact mqttError_next c error
  | mqttClose random => exact onClose_next c random.value
  | mqttEnd =>
    simp only [step, onDisconnected]
    split <;> rfl
  | reconnectTimer timer =>
    simp only [step, reconnectTimer]
    split <;> rfl

/-- The lifecycle events of every run keep to what a listener may rely on: 'connect' at most once
and before every 'resume', and every 'interrupt' after a 'connection_success' with no 'interrupt'
between them. -/
theorem lifecycle_events_accepted (config : MqttConnectionConfig) (credentials : Bool)
    (calls : List MqttConnectionCall) :
    (Machine.run step (init config credentials) calls).2.foldlM LifecycleView.next ⟨false, false⟩ =
      some (Machine.run step (init config credentials) calls).1.view := by
  obtain ⟨v, hv, rfl⟩ := Machine.run_accepted step LifecycleView.next (fun c v => v = c.view)
    (fun c v call hv => ⟨_, hv ▸ next_step c call, rfl⟩) (s := init config credentials) rfl calls
  exact hv

/-! ## Reconnect waits -/

/-- Every reconnect timer is set with the full-jitter wait of `get_reconnect_time_sec`, in
milliseconds. -/
theorem setTimeout_step {c : MqttConnectionLifecycle} {call : MqttConnectionCall} {timer : Nat}
    {delay : ℚ} (h : .setTimeout timer delay ∈ (c.step call).2) :
    ∃ random : RandomDraw, delay = c.reconnect.get_reconnect_time_sec random.value * 1000 := by
  cases call with
  | mqttClose random =>
    refine ⟨random, ?_⟩
    cases hc : c.currentState <;> cases hd : c.desiredState <;>
      simp [step, onClose, hc, hd] at h <;> exact h.2
  | mqttConnect sessionPresent =>
    simp only [step, mqttConnect, List.mem_append] at h
    rcases h with h | h
    · rw [onOnline_eq] at h
      split at h <;> simp at h
    · obtain ⟨promise, h⟩ := run_onConnectListener_outputs _ _ _ _ h
      cases h
  | mqttError error =>
    rcases (mqttError_frame c error).2 _ h with h | h | h | ⟨promise, h⟩ <;> cases h
  | connect =>
    simp only [step, connect] at h
    split at h <;> simp at h
  | disconnect =>
    simp only [step, disconnect] at h
    split at h <;> simp at h
  | credentialsRefreshed promise => simp [step] at h
  | addErrorListener listener => simp [step] at h
  | removeErrorListener listener => simp [step] at h
  | credentialsFailed promise => simp [step] at h
  | mqttEnd =>
    simp only [step, onDisconnected] at h
    split at h <;> simp at h
  | reconnectTimer timer =>
    simp only [step, reconnectTimer] at h
    split at h <;> simp at h

/-- No call changes the reconnect bounds. -/
theorem step_reconnect_bounds (c : MqttConnectionLifecycle) (call : MqttConnectionCall) :
    (c.step call).1.reconnect.reconnect_min_sec = c.reconnect.reconnect_min_sec ∧
      (c.step call).1.reconnect.reconnect_max_sec = c.reconnect.reconnect_max_sec := by
  cases call with
  | mqttConnect sessionPresent =>
    obtain ⟨ps, el, -, h⟩ := run_onConnectListener_frame sessionPresent
      { (c.onOnline sessionPresent).1 with connectListeners := [] } c.connectListeners
    simp only [step, mqttConnect, h]
    rw [onOnline_eq]
    split <;> exact ⟨rfl, rfl⟩
  | mqttError error =>
    obtain ⟨⟨ps, el, h⟩, -⟩ := mqttError_frame c error
    simp only [step, h, and_self]
  | connect =>
    simp only [step, connect]
    split <;> exact ⟨rfl, rfl⟩
  | credentialsRefreshed promise =>
    simp only [step, credentialsRefreshed]
    split <;> exact ⟨rfl, rfl⟩
  | addErrorListener listener => exact ⟨rfl, rfl⟩
  | removeErrorListener listener => exact ⟨rfl, rfl⟩
  | credentialsFailed promise =>
    simp only [step, credentialsFailed]
    split <;> exact ⟨rfl, rfl⟩
  | disconnect =>
    simp only [step, disconnect]
    split <;> exact ⟨rfl, rfl⟩
  | mqttClose random =>
    simp only [step, onClose]
    split_ifs <;> exact ⟨rfl, rfl⟩
  | mqttEnd => exact ⟨rfl, rfl⟩
  | reconnectTimer timer =>
    simp only [step, reconnectTimer]
    split_ifs <;> exact ⟨rfl, rfl⟩

theorem run_reconnect_bounds (c : MqttConnectionLifecycle) (calls : List MqttConnectionCall) :
    (Machine.run step c calls).1.reconnect.reconnect_min_sec = c.reconnect.reconnect_min_sec ∧
      (Machine.run step c calls).1.reconnect.reconnect_max_sec = c.reconnect.reconnect_max_sec :=
  Machine.run_invariant step
    (fun c' => c'.reconnect.reconnect_min_sec = c.reconnect.reconnect_min_sec ∧
      c'.reconnect.reconnect_max_sec = c.reconnect.reconnect_max_sec)
    (fun c' call h => ⟨(step_reconnect_bounds c' call).1.trans h.1,
      (step_reconnect_bounds c' call).2.trans h.2⟩) ⟨rfl, rfl⟩ calls

/-- Every reconnect timer of every run waits between the bounds the constructor derived from the
configuration, whatever `Math.random()` draws. -/
theorem reconnect_delays_in_bounds (config : MqttConnectionConfig) (credentials : Bool)
    (calls : List MqttConnectionCall) :
    ∀ timer delay, .setTimeout timer delay ∈ (Machine.run step (init config credentials) calls).2 →
      config.reconnectBounds.1 * 1000 ≤ delay ∧ delay ≤ config.reconnectBounds.2 * 1000 := by
  -- the bounds stay those of the constructor, which orders them
  let Bounds : MqttConnectionLifecycle → Prop := fun c =>
    c.reconnect.reconnect_min_sec = config.reconnectBounds.1 ∧
      c.reconnect.reconnect_max_sec = config.reconnectBounds.2
  have hrun := Machine.run_outputs_allowed step Bounds (fun _ _ => True)
    (fun o => ∀ timer delay, o = .setTimeout timer delay →
      config.reconnectBounds.1 * 1000 ≤ delay ∧ delay ≤ config.reconnectBounds.2 * 1000)
    (fun c call hc _ => by
      refine ⟨⟨(step_reconnect_bounds c call).1.trans hc.1,
        (step_reconnect_bounds c call).2.trans hc.2⟩, ?_⟩
      rintro o ho timer delay rfl
      obtain ⟨random, rfl⟩ := setTimeout_step ho
      -- the reconnect fields are the constructor's but for the count
      have hreconnect : c.reconnect = { MqttClientConnection.ofConfig config with
          reconnect_count := c.reconnect.reconnect_count } := by
        simp only [MqttClientConnection.ofConfig, ← hc.1, ← hc.2]
      obtain ⟨hmin, hmax⟩ := browser_reconnect_wait_mem config c.reconnect.reconnect_count random
      rw [← hreconnect] at hmin hmax
      constructor <;> linarith)
    (s := init config credentials) ⟨rfl, rfl⟩
    (Machine.allowed_of_forall _ (fun _ _ => trivial) _ calls)
  exact fun timer delay h => hrun _ h timer delay rfl

theorem reconnect_delays_in_bounds_first_close :
    MqttConnectionOutput.setTimeout 0 1000 ∈ (Machine.run step
        (init { host_name := "", port := 0 } false) [.connect, .mqttClose ⟨0, le_refl 0, zero_lt_one⟩]).2 ∧
      ({ host_name := "", port := 0 } : MqttConnectionConfig).reconnectBounds.1 * 1000 ≤ 1000 ∧
      1000 ≤ ({ host_name := "", port := 0 } : MqttConnectionConfig).reconnectBounds.2 * 1000 :=
  have hmem : MqttConnectionOutput.setTimeout 0 1000 ∈ (Machine.run step
      (init { host_name := "", port := 0 } false)
      [.connect, .mqttClose ⟨0, le_refl 0, zero_lt_one⟩]).2 := by decide +kernel
  ⟨hmem, reconnect_delays_in_bounds _ _ _ 0 1000 hmem⟩

/-! ## The `connect()` promises -/

/-- A promise of the list with one promise added is one that was there, or the one added. -/
theorem getElem?_of_append_singleton {ps : List ConnectPromise} {q q' : ConnectPromise} {i : Nat}
    (h : (ps ++ [q])[i]? = some q') : ps[i]? = some q' ∨ (i = ps.length ∧ q' = q) := by
  rw [List.getElem?_append] at h
  split_ifs at h with hi
  · exact .inl h
  · right
    rw [List.getElem?_singleton] at h
    split_ifs at h with h0
    · exact ⟨by omega, (Option.some.inj h).symm⟩

theorem settleWith_ne_pending (q : ConnectPromise) (outcome : ConnectOutcome)
    (executor : ConnectExecutor) : q.settleWith outcome ≠ ⟨executor, none⟩ := by
  obtain ⟨executor', _ | _⟩ := q <;> simp [ConnectPromise.settleWith]

/-- What the `connect()` promises and the listeners on the mqtt-js client keep to. -/
structure PromiseInv (c : MqttConnectionLifecycle) : Prop where
  /-- A pending promise past its refresh has both its listeners on the mqtt-js client. -/
  pending_listening : ∀ i, c.promises[i]? = some ⟨.registered, none⟩ →
    i ∈ c.errorListeners ∧ i ∈ c.connectListeners
  /-- A listener on the mqtt-js client belongs to a promise past its refresh. -/
  listening_registered : ∀ i, i ∈ c.errorListeners ∨ i ∈ c.connectListeners →
    ∃ outcome, c.promises[i]? = some ⟨.registered, outcome⟩

theorem PromiseInv.init (config : MqttConnectionConfig) (credentials : Bool) :
    PromiseInv (init config credentials) :=
  ⟨fun _ h => by simp [MqttConnectionLifecycle.init] at h, fun _ h => by
    simp [MqttConnectionLifecycle.init] at h⟩

/-- The invariant reads only the promises and the listener lists. -/
theorem PromiseInv.of_eq {c c' : MqttConnectionLifecycle} (h : PromiseInv c)
    (hp : c'.promises = c.promises) (he : c'.errorListeners = c.errorListeners)
    (hc : c'.connectListeners = c.connectListeners) : PromiseInv c' := by
  obtain ⟨h₁, h₂⟩ := h
  exact ⟨fun i hi => by rw [he, hc]; exact h₁ i (hp ▸ hi), fun i hi => by
    rw [hp]; exact h₂ i (he ▸ hc ▸ hi)⟩

theorem PromiseInv.connect {c : MqttConnectionLifecycle} (h : PromiseInv c) :
    PromiseInv c.connect.1 := by
  unfold MqttConnectionLifecycle.connect
  split
  · -- the new promise awaits its refresh
    refine ⟨fun i hi => ?_, fun i hi => ?_⟩
    · rcases getElem?_of_append_singleton hi with hi | ⟨-, hq⟩
      · exact h.pending_listening i hi
      · cases hq
    · obtain ⟨outcome, hi⟩ := h.listening_registered i hi
      exact ⟨outcome, (List.getElem?_append_left (List.getElem?_eq_some_iff.mp hi).1).trans hi⟩
  · -- the new promise registers its listeners at once
    refine ⟨fun i hi => ?_, fun i hi => ?_⟩
    · rcases getElem?_of_append_singleton hi with hi | ⟨rfl, -⟩
      · obtain ⟨he, hc⟩ := h.pending_listening i hi
        exact ⟨List.mem_append_left _ he, List.mem_append_left _ hc⟩
      · simp [listen]
    · simp only [listen, List.mem_append, List.mem_singleton] at hi
      rcases hi with (hi | rfl) | (hi | rfl)
      · obtain ⟨outcome, hi⟩ := h.listening_registered i (.inl hi)
        exact ⟨outcome, (List.getElem?_append_left (List.getElem?_eq_some_iff.mp hi).1).trans hi⟩
      · exact ⟨none, List.getElem?_concat_length⟩
      · obtain ⟨outcome, hi⟩ := h.listening_registered i (.inr hi)
        exact ⟨outcome, (List.getElem?_append_left (List.getElem?_eq_some_iff.mp hi).1).trans hi⟩
      · exact ⟨none, List.getElem?_concat_length⟩

theorem PromiseInv.credentialsRefreshed {c : MqttConnectionLifecycle} (h : PromiseInv c)
    (promise : Nat) : PromiseInv (c.credentialsRefreshed promise) := by
  unfold MqttConnectionLifecycle.credentialsRefreshed
  split
  next outcome hp =>
    have hlt := (List.getElem?_eq_some_iff.mp hp).1
    refine ⟨fun i hi => ?_, fun i hi => ?_⟩
    · simp only [listen, List.mem_append, List.mem_singleton] at hi ⊢
      by_cases hi' : promise = i
      · exact ⟨.inr hi'.symm, .inr hi'.symm⟩
      · rw [List.getElem?_set_ne hi'] at hi
        obtain ⟨he, hc⟩ := h.pending_listening i hi
        exact ⟨.inl he, .inl hc⟩
    · simp only [listen, List.mem_append, List.mem_singleton] at hi ⊢
      by_cases hi' : promise = i
      · subst hi'
        exact ⟨outcome, List.getElem?_set_self hlt⟩
      · simp only [Ne.symm hi', or_false] at hi
        rw [List.getElem?_set_ne hi']
        exact h.listening_registered i hi
  next => exact h

theorem PromiseInv.credentialsFailed {c : MqttConnectionLifecycle} (h : PromiseInv c)
    (promise : Nat) : PromiseInv (c.credentialsFailed promise) := by
  unfold MqttConnectionLifecycle.credentialsFailed
  split
  next outcome hp =>
    refine ⟨fun i hi => ?_, fun i hi => ?_⟩
    · by_cases hi' : promise = i
      · subst hi'
        rw [List.getElem?_set_self (List.getElem?_eq_some_iff.mp hp).1] at hi
        cases hi
      · rw [List.getElem?_set_ne hi'] at hi
        exact h.pending_listening i hi
    · -- a listed promise is past its refresh, so it is not the one that failed
      obtain ⟨outcome', hi⟩ := h.listening_registered i hi
      have hi' : promise ≠ i := by
        rintro rfl
        rw [hp] at hi
        cases hi
      exact ⟨outcome', by rw [List.getElem?_set_ne hi']; exact hi⟩
  next => exact h

theorem onOnline_promises (c : MqttConnectionLifecycle) (session_present : Bool) :
    (c.onOnline session_present).1.promises = c.promises ∧
      (c.onOnline session_present).1.errorListeners = c.errorListeners := by
  rw [onOnline_eq]
  split <;> exact ⟨rfl, rfl⟩

/-- mqtt-js 'connect' settles the promises of its listeners with the session flag, empties the
'connect' listeners and leaves only 'error' listeners that were there. -/
theorem mqttConnect_promises (c : MqttConnectionLifecycle) (sessionPresent : Bool) :
    (∀ i, (c.mqttConnect sessionPresent).1.promises[i]? =
      if i ∈ c.connectListeners then c.promises[i]?.map (·.settleWith (.resolve sessionPresent))
      else c.promises[i]?) ∧
    (c.mqttConnect sessionPresent).1.connectListeners = [] ∧
    (c.mqttConnect sessionPresent).1.errorListeners ⊆ c.errorListeners := by
  obtain ⟨hp, he⟩ := onOnline_promises c sessionPresent
  obtain ⟨ps, el, hsub, h⟩ := run_onConnectListener_frame sessionPresent
    { (c.onOnline sessionPresent).1 with connectListeners := [] } c.connectListeners
  refine ⟨fun i => ?_, ?_, ?_⟩
  · simp only [mqttConnect]
    rw [run_settle_getElem? (onConnectListener_getElem? sessionPresent)]
    simp only [hp]
  · simp only [mqttConnect, h]
  · simp only [mqttConnect, h]
    rw [← he]
    exact hsub

/-- With no 'error' listener on the connection, `on_error` throws: mqtt-js 'error' keeps the error
and nothing else changes. -/
theorem mqttError_unheard (c : MqttConnectionLifecycle) (error : String)
    (hunheard : c.userErrorListeners = []) :
    c.mqttError error = ({ c with lastError := some error }, [.thrown error]) := by
  simp only [mqttError, if_pos hunheard]

/-- With an 'error' listener on the connection, mqtt-js 'error' rejects the promises of its
listeners with the error and empties the 'error' listeners. -/
theorem mqttError_promises (c : MqttConnectionLifecycle) (error : String)
    (hheard : c.userErrorListeners ≠ []) :
    (∀ i, (c.mqttError error).1.promises[i]? =
      if i ∈ c.errorListeners then c.promises[i]?.map (·.settleWith (.reject error))
      else c.promises[i]?) ∧
    (c.mqttError error).1.errorListeners = [] ∧
    (c.mqttError error).1.connectListeners = c.connectListeners := by
  obtain ⟨ps, h⟩ := run_onConnectError_frame error
    { c with lastError := some error, errorListeners := [] } c.errorListeners
  refine ⟨fun i => ?_, ?_, ?_⟩
  · simp only [mqttError, if_neg hheard]
    exact run_settle_getElem? (onConnectError_getElem? error) _ _ i
  · simp only [mqttError, if_neg hheard, h]
  · simp only [mqttError, if_neg hheard, h]

theorem PromiseInv.mqttConnect {c : MqttConnectionLifecycle} (h : PromiseInv c)
    (sessionPresent : Bool) : PromiseInv (c.mqttConnect sessionPresent).1 := by
  obtain ⟨hp, hc, he⟩ := mqttConnect_promises c sessionPresent
  refine ⟨fun i hi => ?_, fun i hi => ?_⟩
  · -- every pending promise past its refresh had a 'connect' listener, which settled it
    rw [hp] at hi
    split_ifs at hi with hin
    · obtain ⟨q, -, hq⟩ := Option.map_eq_some_iff.mp hi
      exact absurd hq (settleWith_ne_pending _ _ _)
    · exact absurd (h.pending_listening i hi).2 hin
  · rw [hc] at hi
    obtain ⟨outcome, hi'⟩ := h.listening_registered i (.inl (he (hi.resolve_right (by simp))))
    rw [hp]
    split_ifs
    · exact ⟨_, by rw [hi']; rfl⟩
    · exact ⟨outcome, hi'⟩

theorem PromiseInv.mqttError {c : MqttConnectionLifecycle} (h : PromiseInv c) (error : String) :
    PromiseInv (c.mqttError error).1 := by
  by_cases hunheard : c.userErrorListeners = []
  · -- `on_error` threw before any `once` listener ran
    rw [mqttError_unheard c error hunheard]
    exact h.of_eq rfl rfl rfl
  obtain ⟨hp, he, hc⟩ := mqttError_promises c error hunheard
  refine ⟨fun i hi => ?_, fun i hi => ?_⟩
  · -- every pending promise past its refresh had an 'error' listener, which settled it
    rw [hp] at hi
    split_ifs at hi with hin
    · obtain ⟨q, -, hq⟩ := Option.map_eq_some_iff.mp hi
      exact absurd hq (settleWith_ne_pending _ _ _)
    · exact absurd (h.pending_listening i hi).1 hin
  · rw [he, hc] at hi
    obtain ⟨outcome, hi'⟩ := h.listening_registered i (.inr (hi.resolve_left (by simp)))
    rw [hp]
    split_ifs
    · exact ⟨_, by rw [hi']; rfl⟩
    · exact ⟨outcome, hi'⟩

/-- Every call keeps the promise invariant. -/
theorem PromiseInv.step {c : MqttConnectionLifecycle} (h : PromiseInv c)
    (call : MqttConnectionCall) : PromiseInv (c.step call).1 := by
  cases call with
  | connect => exact h.connect
  | addErrorListener listener => exact h.of_eq rfl rfl rfl
  | removeErrorListener listener => exact h.of_eq rfl rfl rfl
  | credentialsRefreshed promise => exact h.credentialsRefreshed promise
  | credentialsFailed promise => exact h.credentialsFailed promise
  | mqttConnect sessionPresent => exact h.mqttConnect sessionPresent
  | mqttError error => exact h.mqttError error
  | disconnect =>
    simp only [MqttConnectionLifecycle.step, disconnect]
    split <;> exact h.of_eq rfl rfl rfl
  | mqttClose random =>
    simp only [MqttConnectionLifecycle.step, onClose]
    split_ifs <;> exact h.of_eq rfl rfl rfl
  | mqttEnd => exact h
  | reconnectTimer timer =>
    simp only [MqttConnectionLifecycle.step, reconnectTimer]
    split_ifs <;> exact h.of_eq rfl rfl rfl

theorem PromiseInv.run (config : MqttConnectionConfig) (credentials : Bool)
    (calls : List MqttConnectionCall) :
    PromiseInv (Machine.run MqttConnectionLifecycle.step
      (MqttConnectionLifecycle.init config credentials) calls).1 :=
  Machine.run_invariant _ PromiseInv (fun _ call h => h.step call) (PromiseInv.init _ _) calls

/-- On every run, an mqtt-js 'connect' resolves every pending `connect()` promise past its
credentials refresh with the CONNACK's session flag. An mqtt-js 'error' rejects it with the error
when the user listens for 'error' on the connection; when nobody does, `on_error`'s `emit` throws
before the promise's listener runs, and the promise stays pending. -/
theorem connect_promises_settle (config : MqttConnectionConfig) (credentials : Bool)
    (calls : List MqttConnectionCall) (i : Nat) (sessionPresent : Bool) (error : String)
    (h : (Machine.run step (init config credentials) calls).1.promises[i]? =
      some ⟨.registered, none⟩) :
    ((Machine.run step (init config credentials) calls).1.step
        (.mqttConnect sessionPresent)).1.promises[i]? =
      some ⟨.registered, some (.resolve sessionPresent)⟩ ∧
    ((Machine.run step (init config credentials) calls).1.step (.mqttError error)).1.promises[i]? =
      some ⟨.registered, if (Machine.run step (init config credentials) calls).1.userErrorListeners = []
        then none else some (.reject error)⟩ := by
  have hinv := PromiseInv.run config credentials calls
  generalize Machine.run step (init config credentials) calls = r at h hinv ⊢
  obtain ⟨he, hc⟩ := hinv.pending_listening i h
  constructor
  · simp only [step, (mqttConnect_promises _ sessionPresent).1 i, hc, if_true, h]
    rfl
  · by_cases hunheard : r.1.userErrorListeners = []
    · simp only [step, mqttError_unheard _ error hunheard, h, if_pos hunheard]
    · simp only [step, (mqttError_promises _ error hunheard).1 i, he, if_true, h, if_neg hunheard]
      rfl

theorem connect_promises_settle_first :
    (Machine.run step (init { host_name := "", port := 0 } false)
        [.addErrorListener 0, .connect]).1.promises[0]? = some ⟨.registered, none⟩ ∧
      ((Machine.run step (init { host_name := "", port := 0 } false)
          [.addErrorListener 0, .connect]).1.step (.mqttConnect true)).1.promises[0]? =
        some ⟨.registered, some (.resolve true)⟩ ∧
      ((Machine.run step (init { host_name := "", port := 0 } false)
          [.addErrorListener 0, .connect]).1.step (.mqttError "ECONNREFUSED")).1.promises[0]? =
        some ⟨.registered, if (Machine.run step (init { host_name := "", port := 0 } false)
          [.addErrorListener 0, .connect]).1.userErrorListeners = [] then none
          else some (.reject "ECONNREFUSED")⟩ :=
  ⟨rfl, connect_promises_settle _ _ [.addErrorListener 0, .connect] 0 true "ECONNREFUSED" rfl⟩

/-- With no 'error' listener on the connection a refused connection leaves the promise pending,
its `once('error')` listener still on the client. -/
example :
    let r := Machine.run step (init { host_name := "", port := 0 } false) [.connect]
    (r.1.step (.mqttError "ECONNREFUSED")).1.promises[0]? = some ⟨.registered, none⟩ ∧
      (r.1.step (.mqttError "ECONNREFUSED")).1.errorListeners = [0] ∧
      (r.1.step (.mqttError "ECONNREFUSED")).2 = [.thrown "ECONNREFUSED"] :=
  ⟨rfl, rfl, rfl⟩

/-- A promise whose refresh threw registered no listener, so no call settles it. -/
theorem thrown_step {c : MqttConnectionLifecycle} (h : PromiseInv c) {i : Nat}
    (hi : c.promises[i]? = some ⟨.thrown, none⟩) (call : MqttConnectionCall) :
    (c.step call).1.promises[i]? = some ⟨.thrown, none⟩ := by
  -- a promise on a listener list is past its refresh
  have hunlisted : i ∉ c.errorListeners ∧ i ∉ c.connectListeners := by
    constructor <;> intro hl
    · obtain ⟨outcome, ho⟩ := h.listening_registered i (.inl hl)
      rw [hi] at ho
      cases ho
    · obtain ⟨outcome, ho⟩ := h.listening_registered i (.inr hl)
      rw [hi] at ho
      cases ho
  cases call with
  | connect =>
    simp only [step, connect]
    split <;> exact (List.getElem?_append_left (List.getElem?_eq_some_iff.mp hi).1).trans hi
  | credentialsRefreshed promise =>
    simp only [step, credentialsRefreshed]
    split
    next outcome hp =>
      have hne : promise ≠ i := by
        rintro rfl
        rw [hp] at hi
        cases hi
      simp only [listen]
      rw [List.getElem?_set_ne hne, hi]
    next => exact hi
  | credentialsFailed promise =>
    simp only [step, credentialsFailed]
    split
    next outcome hp =>
      have hne : promise ≠ i := by
        rintro rfl
        rw [hp] at hi
        cases hi
      rw [List.getElem?_set_ne hne, hi]
    next => exact hi
  | mqttConnect sessionPresent =>
    simp only [step, (mqttConnect_promises c sessionPresent).1 i, if_neg hunlisted.2, hi]
  | mqttError error =>
    by_cases hunheard : c.userErrorListeners = []
    · simp only [step, mqttError_unheard c error hunheard, hi]
    · simp only [step, (mqttError_promises c error hunheard).1 i, if_neg hunlisted.1, hi]
  | addErrorListener listener => exact hi
  | removeErrorListener listener => exact hi
  | disconnect =>
    simp only [step, disconnect]
    split <;> exact hi
  | mqttClose random =>
    simp only [step, onClose]
    split_ifs <;> exact hi
  | mqttEnd => exact hi
  | reconnectTimer timer =>
    simp only [step, reconnectTimer]
    split_ifs <;> exact hi

/-- A `connect()` whose `refreshCredentials()` rejected is never settled by what follows: its
executor threw before putting a listener on the mqtt-js client. -/
theorem thrown_promise_pending (config : MqttConnectionConfig) (credentials : Bool)
    (pre post : List MqttConnectionCall) (i : Nat)
    (h : (Machine.run step (init config credentials) pre).1.promises[i]? = some ⟨.thrown, none⟩) :
    (Machine.run step (init config credentials) (pre ++ post)).1.promises[i]? =
      some ⟨.thrown, none⟩ := by
  rw [Machine.run_append]
  exact (Machine.run_invariant step
    (fun c => PromiseInv c ∧ c.promises[i]? = some ⟨.thrown, none⟩)
    (fun c call hc => ⟨hc.1.step call, thrown_step hc.1 hc.2 call⟩)
    ⟨PromiseInv.run config credentials pre, h⟩ post).2

theorem thrown_promise_pending_after_reports :
    (Machine.run step (init { host_name := "", port := 0 } true)
        [.connect, .credentialsFailed 0]).1.promises[0]? = some ⟨.thrown, none⟩ ∧
      (Machine.run step (init { host_name := "", port := 0 } true)
        ([.connect, .credentialsFailed 0] ++ [.mqttConnect true, .mqttError "ECONNREFUSED"])).1.promises[0]? =
        some ⟨.thrown, none⟩ :=
  ⟨rfl, thrown_promise_pending _ _ [.connect, .credentialsFailed 0]
    [.mqttConnect true, .mqttError "ECONNREFUSED"] 0 rfl⟩

/-! ## Backoff -/

/-- The reconnect count after one output: one more for a reconnect, zero after a 'resume'. -/
def reconnectCount (n : Nat) : MqttConnectionOutput → Nat
  | .reconnect => n + 1
  | .emit (.resume _ _) => 0
  | _ => n

theorem foldl_reconnectCount_of_keeps {os : List MqttConnectionOutput}
    (h : ∀ o ∈ os, ∀ n, reconnectCount n o = n) (n : Nat) : os.foldl reconnectCount n = n := by
  induction os with
  | nil => rfl
  | cons o os ih =>
    rw [List.foldl_cons, h o List.mem_cons_self]
    exact ih fun o' ho' => h o' (List.mem_cons_of_mem o ho')

/-- The reconnect count of the connection is its count before the call, moved by the call's
outputs. -/
theorem reconnect_count_step (c : MqttConnectionLifecycle) (call : MqttConnectionCall) :
    (c.step call).1.reconnect.reconnect_count =
      (c.step call).2.foldl reconnectCount c.reconnect.reconnect_count := by
  cases call with
  | mqttConnect sessionPresent =>
    obtain ⟨ps, el, -, h⟩ := run_onConnectListener_frame sessionPresent
      { (c.onOnline sessionPresent).1 with connectListeners := [] } c.connectListeners
    simp only [step, mqttConnect, h, List.foldl_append]
    -- the listeners only settle promises
    rw [foldl_reconnectCount_of_keeps (fun o ho n => by
      obtain ⟨promise, rfl⟩ := run_onConnectListener_outputs _ _ _ o ho
      rfl)]
    rw [onOnline_eq]
    split <;> rfl
  | mqttError error =>
    obtain ⟨⟨ps, el, h⟩, hout⟩ := mqttError_frame c error
    simp only [step, h]
    rw [foldl_reconnectCount_of_keeps (fun o ho n => by
      rcases hout o ho with rfl | rfl | rfl | ⟨promise, rfl⟩ <;> rfl)]
  | connect =>
    simp only [step, connect]
    split <;> rfl
  | credentialsRefreshed promise =>
    simp only [step, credentialsRefreshed]
    split <;> rfl
  | addErrorListener listener => rfl
  | removeErrorListener listener => rfl
  | credentialsFailed promise =>
    simp only [step, credentialsFailed]
    split <;> rfl
  | disconnect =>
    simp only [step, disconnect]
    split <;> rfl
  | mqttClose random =>
    cases hc : c.currentState <;> cases hd : c.desiredState <;>
      simp [step, onClose, hc, hd, reconnectCount]
  | mqttEnd =>
    simp only [step, onDisconnected]
    split <;> rfl
  | reconnectTimer timer =>
    simp only [step, reconnectTimer]
    split <;> rfl

theorem reconnect_count_run (c : MqttConnectionLifecycle) (calls : List MqttConnectionCall) :
    (Machine.run step c calls).1.reconnect.reconnect_count =
      (Machine.run step c calls).2.foldl reconnectCount c.reconnect.reconnect_count := by
  induction calls generalizing c with
  | nil => rfl
  | cons call calls ih =>
    rw [Machine.run_cons, ih, List.foldl_append, ← reconnect_count_step]

/-- Exponential backoff: a reconnect timer set after `k` reconnects with no 'resume' since (or
since the constructor) waits at most `min + max(min, 1) · 2 ^ k` seconds. A first 'connect' does
not reset the count. -/
theorem reconnect_wait_backoff (config : MqttConnectionConfig) (credentials : Bool)
    (pre : List MqttConnectionCall) (call : MqttConnectionCall) (timer : Nat) (delay : ℚ)
    (h : .setTimeout timer delay ∈
      ((Machine.run step (init config credentials) pre).1.step call).2) :
    delay ≤ (config.reconnectBounds.1 + max config.reconnectBounds.1 1 *
      2 ^ (Machine.run step (init config credentials) pre).2.foldl reconnectCount 0) * 1000 := by
  obtain ⟨random, rfl⟩ := setTimeout_step h
  have hbound := get_reconnect_time_sec_le (Machine.run step (init config credentials) pre).1.reconnect
    random
  rw [(run_reconnect_bounds _ pre).1, reconnect_count_run] at hbound
  have hdelay := mul_le_mul_of_nonneg_right hbound (by norm_num : (0 : ℚ) ≤ 1000)
  exact hdelay

theorem reconnect_wait_backoff_first_close :
    MqttConnectionOutput.setTimeout 0 1000 ∈ ((Machine.run step
        (init { host_name := "", port := 0 } false) [.connect]).1.step
        (.mqttClose ⟨0, le_refl 0, zero_lt_one⟩)).2 ∧
      (1000 : ℚ) ≤ (({ host_name := "", port := 0 } : MqttConnectionConfig).reconnectBounds.1 +
        max ({ host_name := "", port := 0 } : MqttConnectionConfig).reconnectBounds.1 1 *
          2 ^ (Machine.run step (init { host_name := "", port := 0 } false) [.connect]).2.foldl
            reconnectCount 0) * 1000 :=
  have hmem : MqttConnectionOutput.setTimeout 0 1000 ∈ ((Machine.run step
      (init { host_name := "", port := 0 } false) [.connect]).1.step
      (.mqttClose ⟨0, le_refl 0, zero_lt_one⟩)).2 := by decide +kernel
  ⟨hmem, reconnect_wait_backoff _ _ [.connect] _ 0 1000 hmem⟩

end MqttConnectionLifecycle

end AwsCrt
