import AwsCrt.Eventstream.Client
import AwsCrt.Lib.SharedRef

/-!
# The native side of an eventstream connection (`src/source/event_stream.c`)

`ClientConnection` (`src/lib/native/eventstream.ts`) drives a native binding,
`struct aws_event_stream_client_connection_binding`, through `connect`, `send_protocol_message`
and `close`. The binding asks aws-c-event-stream for a connection, whose callbacks run on an event
loop thread; each of them only queues an item on one of the binding's N-API threadsafe functions
(`on_connection_setup`, `on_connection_shutdown`, `on_protocol_message`, and one
`on_message_flushed` per send), and the libuv thread later runs the item, calls JavaScript unless
the binding is closed, and releases what the item held. The binding is reference counted
(`AwsCrt.Lib.SharedRef`): JavaScript holds one reference from `new` to `close()`, `connect()` one
until the libuv thread runs a failed setup or the shutdown, every queued protocol message and every
send one each; the setup of a connection holds none of its own.

* **The code**: the binding's functions on each thread (`ConnectionWorld`, with the source's
  names) and `ConnectionSystem.step`, which runs the JS `ClientConnection` over them. A call from
  JavaScript reaches the binding exactly when the JS code calls it, and its exception comes back as
  the JS code's `nativeError`. What the library does is an input: its answers to `connect` and
  `send_protocol_message`, its callbacks, as its contract allows them (`LibraryContract`), and which
  queued item the libuv thread runs next, any whose threadsafe function has no older item
  (`SharedRef.Runnable`): N-API keeps the order of one threadsafe function, not of two.
* `Inv`: the count of the binding is JavaScript's reference plus the pending ones
  (`pendingRefs`), the binding is closed exactly when the JS object is, and it holds a connection
  exactly between the setup item that brings one and the shutdown item (`connectionHeld`); the
  queue holds what the library's reports put there (`QueueAgrees`). `Inv.step_cases`: every step
  keeps it, but the one that runs the shutdown item first (`shutdownFirst`), which aborts;
  `reachable_inv` carries it over every run the contract allows (`Reachable`).
* `binding_faults_iff`: no call, callback or item ever reads the freed binding, and the only fatal
  assertion that can fail is the shutdown callback's `binding->connection != NULL`: exactly when the
  libuv thread runs the shutdown item while the setup item, queued earlier on another threadsafe
  function, is still waiting. `binding_fifo_no_fault`: run in the order they were queued, the items
  never fault.
* `binding_freed_iff`: the binding is freed exactly when the JS object is closed and no reference
  is pending. `closed_connection_silent`: after `close()`, JavaScript is never called back, whatever
  happens next (`ClosedQuiet`).
-/

namespace AwsCrt

open SharedRef

/-! ## The binding and what reaches it -/

/-- The fields of `struct aws_event_stream_client_connection_binding` that its lifecycle reads,
beside its `ref_count`: `is_closed`, and whether `connection` is set. -/
structure ConnectionBinding where
  is_closed : Bool
  connection : Bool
  deriving DecidableEq, Repr

/-- The threadsafe functions of a connection: the three of the binding, and the one each
`send_protocol_message` creates for its flush. -/
inductive ConnectionTsfn
  | on_connection_setup
  | on_connection_shutdown
  | on_protocol_message
  | on_message_flushed (send : Nat)
  deriving DecidableEq, Repr

/-- What the event loop thread hands the libuv thread: the `aws_event_stream_connection_event_data`
of a setup, with whether it carries a connection, or of a shutdown; an
`aws_event_stream_protocol_message_event`; and the flushed callback data of a send. -/
inductive ConnectionWork
  | setup (connection : Bool) (error_code : Nat)
  | shutdown (error_code : Nat)
  | protocolMessage
  | messageFlushed (send : Nat) (error_code : Nat)
  deriving DecidableEq, Repr

namespace ConnectionWork

/-- The threadsafe function the item is queued on. -/
def tsfn : ConnectionWork → ConnectionTsfn
  | .setup .. => .on_connection_setup
  | .shutdown _ => .on_connection_shutdown
  | .protocolMessage => .on_protocol_message
  | .messageFlushed send _ => .on_message_flushed send

/-- The item holds a reference on the binding: all but a setup with a connection, which runs on the
reference `connect()` took and leaves it to the shutdown. -/
def holdsRef : ConnectionWork → Bool
  | .setup connection _ => !connection
  | _ => true

def isSetup : ConnectionWork → Bool
  | .setup .. => true
  | _ => false

def isSetupSuccess : ConnectionWork → Bool
  | .setup connection _ => connection
  | _ => false

def isShutdown : ConnectionWork → Bool
  | .shutdown _ => true
  | _ => false

end ConnectionWork

/-- What aws-c-event-stream has reported of the connection the binding asked for. -/
inductive LibraryPhase
  /-- No `connect` accepted. -/
  | idle
  /-- `aws_event_stream_rpc_client_connection_connect` accepted; the setup is not reported. -/
  | connecting
  /-- The setup was reported with a connection, the shutdown was not. -/
  | established
  /-- The setup was reported without a connection. -/
  | failed
  /-- The shutdown was reported. -/
  | shutDown
  deriving DecidableEq, Repr

/-- The library owes the binding its setup or its shutdown, for which `connect()`'s reference
waits. -/
def LibraryPhase.owesReport : LibraryPhase → Bool
  | .connecting | .established => true
  | _ => false

/-- The native side of a connection: the binding, `none` once `on_zero` has freed it; what the
library has reported; the sends whose flush it still owes; the number of sends so far; and the
items queued for the libuv thread, oldest first. -/
structure ConnectionWorld where
  binding : Option (Counted ConnectionBinding)
  library : LibraryPhase
  owed : List Nat
  sends : Nat
  queue : List ConnectionWork
  deriving DecidableEq, Repr

/-- The `AWS_FATAL_ASSERT`s on `binding->connection`: `NULL` in `connect`, set in
`send_protocol_message` and in the shutdown callback. -/
inductive AssertSite
  | connect
  | send
  | shutdown
  deriving DecidableEq, Repr

/-- A fault: the freed binding is read, or a fatal assertion aborts the process. -/
inductive BindingFault
  | useAfterFree
  | fatalAssert (site : AssertSite)
  deriving DecidableEq, Repr

/-- A failed fatal assertion ends the process. -/
def BindingFault.aborts : BindingFault → Bool
  | .useAfterFree => false
  | .fatalAssert _ => true

/-- How `connect` goes after its checks: the threadsafe function of the setup callback cannot be
created, or `aws_event_stream_rpc_client_connection_connect` refuses (with the strings of
`aws_last_error()`) or takes the connection. -/
inductive RpcConnectOutcome
  | noCallback
  | accepted
  | rejected (error_str debug_str : String)
  deriving DecidableEq, Repr

/-- How `send_protocol_message` goes after its checks: the options hold no `message` object, the
message cannot be read (`s_aws_event_stream_message_storage_init_from_js`), the threadsafe
function of the flushed callback cannot be created, the library refuses the message, or takes
it. -/
inductive SendOutcome
  | invalidMessage
  | unreadableMessage
  | noCallback
  | rejected
  | accepted
  deriving DecidableEq, Repr

/-- What a call of the binding from JavaScript leaves: the native side, the exception it throws,
and a fault on the way. -/
structure NativeResult where
  world : ConnectionWorld
  thrown : Option String := none
  fault : Option BindingFault := none

/-- What the libuv thread's run of an item leaves: the binding, the JS callback it calls, and a
fault. -/
structure ItemHandled where
  binding : Option (Counted ConnectionBinding)
  dispatched : Option ClientConnectionCall := none
  fault : Option BindingFault := none

/-- The JS callback is called only while the binding is not closed (`!binding->is_closed`). -/
def dispatchUnlessClosed (b : ConnectionBinding) (call : ClientConnectionCall) :
    Option ClientConnectionCall :=
  if b.is_closed then none else some call

namespace ConnectionWorld

/-- A successful `aws_napi_event_stream_client_connection_new`: the allocation reference. -/
def init : ConnectionWorld := ⟨some ⟨⟨false, false⟩, 1⟩, .idle, [], 0, []⟩

/-! ### Calls from JavaScript, on the libuv thread -/

/-- `aws_napi_event_stream_client_connection_close`: `s_close_connection_binding` marks the binding
closed, its connection, if any, is closed (the library reports the shutdown later), and the
allocation reference is released. -/
def aws_napi_event_stream_client_connection_close (w : ConnectionWorld) : NativeResult :=
  match w.binding with
  | none => { world := w, fault := some .useAfterFree }
  | some b =>
    { world := { w with binding := (b.modify fun v => { v with is_closed := true }).release } }

/-- `aws_napi_event_stream_client_connection_connect`: a reference for the connect interval, given
back when the library refuses at once. -/
def aws_napi_event_stream_client_connection_connect (w : ConnectionWorld)
    (outcome : RpcConnectOutcome) : NativeResult :=
  match w.binding with
  | none => { world := w, fault := some .useAfterFree }
  | some b =>
    if b.value.is_closed then
      { world := w,
        thrown := some "aws_napi_event_stream_client_connection_connect - connection already closed" }
    else if b.value.connection then { world := w, fault := some (.fatalAssert .connect) }
    else
      match outcome with
      | .noCallback =>
        { world := w,
          thrown := some "aws_napi_event_stream_client_connection_connect - failed to create threadsafe callback function" }
      | .accepted => { world := { w with binding := some b.acquire, library := .connecting } }
      | .rejected error_str debug_str =>
        { world := { w with binding := b.acquire.release },
          thrown := some s!"aws_napi_event_stream_client_connection_connect - synchronous failure invoking aws_event_stream_rpc_client_connection_connect : ({error_str} - {debug_str})" }

/-- `aws_napi_event_stream_client_connection_send_protocol_message`: the flushed callback data
takes a reference, which its destruction gives back when the send fails at once. -/
def aws_napi_event_stream_client_connection_send_protocol_message (w : ConnectionWorld)
    (outcome : SendOutcome) : NativeResult :=
  match w.binding with
  | none => { world := w, fault := some .useAfterFree }
  | some b =>
    if b.value.is_closed then
      { world := w,
        thrown := some "aws_napi_event_stream_client_connection_send_protocol_message - connection already closed" }
    else if !b.value.connection then { world := w, fault := some (.fatalAssert .send) }
    else
      match outcome with
      | .invalidMessage =>
        { world := w,
          thrown := some "aws_napi_event_stream_client_connection_send_protocol_message - message options with invalid message parameter" }
      | .unreadableMessage =>
        { world := { w with binding := b.acquire.release },
          thrown := some "aws_napi_event_stream_client_connection_send_protocol_message - failed to read message properties from JS object" }
      | .noCallback =>
        { world := { w with binding := b.acquire.release },
          thrown := some "aws_napi_event_stream_client_connection_send_protocol_message - failed to create threadsafe callback function" }
      | .rejected =>
        { world := { w with binding := b.acquire.release },
          thrown := some "aws_napi_event_stream_client_connection_send_protocol_message - synchronous error invoking native send_protocol_message" }
      | .accepted =>
        { world :=
            { w with
              binding := some b.acquire
              owed := w.owed ++ [w.sends]
              sends := w.sends + 1 } }

/-! ### Callbacks of the library, on its event loop thread -/

/-- `s_aws_event_stream_rpc_client_on_connection_setup_fn`: the setup goes to the libuv thread on
the binding's `on_connection_setup`. -/
def s_aws_event_stream_rpc_client_on_connection_setup_fn (w : ConnectionWorld) (connection : Bool)
    (error_code : Nat) : ConnectionWorld × Option BindingFault :=
  match w.binding with
  | none => (w, some .useAfterFree)
  | some _ =>
    ({ w with
        library := if connection then .established else .failed
        queue := w.queue ++ [.setup connection error_code] }, none)

/-- `s_aws_event_stream_rpc_client_connection_protocol_message_fn`: the event takes a reference; a
message whose storage cannot be made is dropped with it. -/
def s_aws_event_stream_rpc_client_connection_protocol_message_fn (w : ConnectionWorld)
    (stored : Bool) : ConnectionWorld × Option BindingFault :=
  match w.binding with
  | none => (w, some .useAfterFree)
  | some b =>
    if stored then ({ w with binding := some b.acquire, queue := w.queue ++ [.protocolMessage] }, none)
    else ({ w with binding := b.acquire.release }, none)

/-- `s_aws_event_stream_rpc_client_on_connection_shutdown_fn`: the shutdown goes to the libuv thread
on the binding's `on_connection_shutdown`, with the reference `connect()` took. -/
def s_aws_event_stream_rpc_client_on_connection_shutdown_fn (w : ConnectionWorld)
    (error_code : Nat) : ConnectionWorld × Option BindingFault :=
  match w.binding with
  | none => (w, some .useAfterFree)
  | some _ => ({ w with library := .shutDown, queue := w.queue ++ [.shutdown error_code] }, none)

/-- `s_aws_event_stream_on_protocol_message_flushed`: only the send's callback data is read. -/
def s_aws_event_stream_on_protocol_message_flushed (w : ConnectionWorld) (send error_code : Nat) :
    ConnectionWorld :=
  { w with owed := w.owed.erase send, queue := w.queue ++ [.messageFlushed send error_code] }

end ConnectionWorld

/-! ### The items, on the libuv thread -/

/-- `s_napi_on_event_stream_client_connection_setup`: the binding takes the connection; a closed
binding closes it rather than call JavaScript; a setup without a connection releases the
reference of `connect()`. -/
def s_napi_on_event_stream_client_connection_setup (b : Counted ConnectionBinding)
    (connection : Bool) (error_code : Nat) : ItemHandled :=
  let b := b.modify fun v => { v with connection := connection }
  { binding := if connection then some b else b.release,
    dispatched := dispatchUnlessClosed b.value (.onConnectionSetup error_code) }

/-- `s_napi_event_stream_connection_on_connection_shutdown`: the connection is released and the
reference of `connect()` with it. -/
def s_napi_event_stream_connection_on_connection_shutdown (b : Counted ConnectionBinding)
    (error_code : Nat) : ItemHandled :=
  if !b.value.connection then { binding := some b, fault := some (.fatalAssert .shutdown) }
  else
    { binding := (b.modify fun v => { v with connection := false }).release,
      dispatched := dispatchUnlessClosed b.value (.onDisconnect error_code) }

/-- `s_napi_event_stream_connection_on_protocol_message`; the event's destruction releases its
reference. -/
def s_napi_event_stream_connection_on_protocol_message (b : Counted ConnectionBinding) :
    ItemHandled :=
  { binding := b.release, dispatched := dispatchUnlessClosed b.value .onProtocolMessage }

/-- `s_napi_on_event_stream_client_connection_message_flushed`; the callback data's destruction
releases its reference. -/
def s_napi_on_event_stream_client_connection_message_flushed (b : Counted ConnectionBinding)
    (error_code : Nat) : ItemHandled :=
  { binding := b.release,
    dispatched := dispatchUnlessClosed b.value (.onSendProtocolMessageCompletion error_code) }

/-- The libuv thread runs an item on the live binding. -/
def runWork (b : Counted ConnectionBinding) : ConnectionWork → ItemHandled
  | .setup connection error_code => s_napi_on_event_stream_client_connection_setup b connection error_code
  | .shutdown error_code => s_napi_event_stream_connection_on_connection_shutdown b error_code
  | .protocolMessage => s_napi_event_stream_connection_on_protocol_message b
  | .messageFlushed _ error_code => s_napi_on_event_stream_client_connection_message_flushed b error_code

/-! ## The connection: the JS object over its binding -/

/-- A connection: the state of the JS `ClientConnection`, its native side, and whether a fatal
assertion has aborted the process. -/
structure ConnectionSystem where
  state : ClientConnectionState
  world : ConnectionWorld
  aborted : Bool
  deriving DecidableEq, Repr

/-- What reaches a connection: a call on the JS object, with what the binding's library answers; a
callback of the library; or the libuv thread running the `i`-th queued item. -/
inductive ConnectionEvent
  | close
  | connect (options : Bool) (outcome : RpcConnectOutcome)
  | sendProtocolMessage (options : Bool) (outcome : SendOutcome)
  | onConnectionSetup (connection : Bool) (error_code : Nat)
  | onProtocolMessage (stored : Bool)
  | onConnectionShutdown (error_code : Nat)
  | onMessageFlushed (send error_code : Nat)
  | run (i : Nat)
  deriving DecidableEq, Repr

/-- What can be seen: what the JS object does, or a fault of the binding. -/
inductive ConnectionEffect
  | js (o : ClientOutput)
  | fault (f : BindingFault)
  deriving DecidableEq, Repr

/-- What aws-c-event-stream promises: a setup once after an accepted connect, carrying a connection
exactly when its error code is zero; protocol messages and one shutdown only on an established
connection; one flush for each send it took. -/
def LibraryContract (s : ConnectionSystem) : ConnectionEvent → Prop
  | .onConnectionSetup connection error_code =>
    s.world.library = .connecting ∧ (connection = true ↔ error_code = 0)
  | .onProtocolMessage _ => s.world.library = .established
  | .onConnectionShutdown _ => s.world.library = .established
  | .onMessageFlushed send _ => send ∈ s.world.owed
  | _ => True

instance (s : ConnectionSystem) : (e : ConnectionEvent) → Decidable (LibraryContract s e)
  | .onConnectionSetup connection error_code =>
    inferInstanceAs (Decidable (s.world.library = .connecting ∧ (connection = true ↔ error_code = 0)))
  | .onProtocolMessage _ => inferInstanceAs (Decidable (s.world.library = .established))
  | .onConnectionShutdown _ => inferInstanceAs (Decidable (s.world.library = .established))
  | .onMessageFlushed send _ => inferInstanceAs (Decidable (send ∈ s.world.owed))
  | .close | .connect .. | .sendProtocolMessage .. | .run _ => isTrue trivial

namespace ConnectionSystem

/-- The JS object right after `new ClientConnection(config)`. -/
def init : ConnectionSystem := ⟨.None, ConnectionWorld.init, false⟩

/-- A call on the JS object, `ts nativeError`, that calls the binding's `native` when its outputs
hold the native call `call`; the binding's exception reaches it as `nativeError`. -/
def jsCall (s : ConnectionSystem) (ts : Option String → ClientConnectionState × List ClientOutput)
    (call : ClientOutput) (native : ConnectionWorld → NativeResult) :
    ConnectionSystem × List ConnectionEffect :=
  if call ∈ (ts none).2 then
    let r := native s.world
    let t := ts r.thrown
    (⟨t.1, r.world, r.fault.any BindingFault.aborts⟩, t.2.map .js ++ r.fault.toList.map .fault)
  else
    let t := ts none
    ({ s with state := t.1 }, t.2.map .js)

/-- A callback of the library, which JavaScript does not see. -/
def libraryCall (s : ConnectionSystem) (r : ConnectionWorld × Option BindingFault) :
    ConnectionSystem × List ConnectionEffect :=
  ({ s with world := r.1 }, r.2.toList.map .fault)

/-- The JS object runs the callback an item dispatches, if any. -/
def callback (state : ClientConnectionState) (call : Option ClientConnectionCall) :
    ClientConnectionState × List ClientOutput :=
  (call.map (ClientConnection.step state)).getD (state, [])

/-- The libuv thread runs the item `x`, taken out of the queue of `w`, on the live binding `b`. -/
def runOn (s : ConnectionSystem) (w : ConnectionWorld) (b : Counted ConnectionBinding)
    (x : ConnectionWork) : ConnectionSystem × List ConnectionEffect :=
  let h := runWork b x
  let t := callback s.state h.dispatched
  (⟨t.1, { w with binding := h.binding }, h.fault.any BindingFault.aborts⟩,
    t.2.map .js ++ h.fault.toList.map .fault)

/-- The libuv thread runs the `i`-th item, if no older item waits on its threadsafe function. -/
def runItem (s : ConnectionSystem) (i : Nat) : ConnectionSystem × List ConnectionEffect :=
  match s.world.queue[i]? with
  | none => (s, [])
  | some x =>
    if Runnable ConnectionWork.tsfn s.world.queue i x then
      let w := { s.world with queue := s.world.queue.eraseIdx i }
      match w.binding with
      | none => ({ s with world := w }, [.fault .useAfterFree])
      | some b => s.runOn w b x
    else (s, [])

/-- One event; nothing happens once the process has aborted. -/
def step (s : ConnectionSystem) (e : ConnectionEvent) : ConnectionSystem × List ConnectionEffect :=
  if s.aborted then (s, [])
  else
    match e with
    | .close =>
      s.jsCall (fun _ => ClientConnection.close s.state) .nativeClose
        ConnectionWorld.aws_napi_event_stream_client_connection_close
    | .connect options outcome =>
      s.jsCall (ClientConnection.connect s.state options) .nativeConnect
        (·.aws_napi_event_stream_client_connection_connect outcome)
    | .sendProtocolMessage options outcome =>
      s.jsCall (fun e => (s.state, ClientConnection.sendProtocolMessage s.state options e)) .nativeSend
        (·.aws_napi_event_stream_client_connection_send_protocol_message outcome)
    | .onConnectionSetup connection error_code =>
      s.libraryCall (s.world.s_aws_event_stream_rpc_client_on_connection_setup_fn connection error_code)
    | .onProtocolMessage stored =>
      s.libraryCall (s.world.s_aws_event_stream_rpc_client_connection_protocol_message_fn stored)
    | .onConnectionShutdown error_code =>
      s.libraryCall (s.world.s_aws_event_stream_rpc_client_on_connection_shutdown_fn error_code)
    | .onMessageFlushed send error_code =>
      s.libraryCall (s.world.s_aws_event_stream_on_protocol_message_flushed send error_code, none)
    | .run i => s.runItem i

end ConnectionSystem

/-! ## What the JS object asks of the binding -/

namespace ClientConnection

theorem nativeClose_mem_close (state : ClientConnectionState) :
    .nativeClose ∈ (close state).2 ↔ state ≠ .Closed := by
  unfold close closeWith
  split <;> simp_all

theorem nativeConnect_mem_connect (state : ClientConnectionState) (options : Bool)
    (nativeError : Option String) :
    .nativeConnect ∈ (connect state options nativeError).2 ↔ options = true ∧ state = .None := by
  unfold connect
  split
  · simp_all
  · split
    · simp_all
    · split <;> simp_all

/-- A `connect()` that does not call the binding leaves the state alone. -/
theorem connect_fst_of_not (state : ClientConnectionState) (options : Bool)
    (nativeError : Option String) (h : ¬(options = true ∧ state = .None)) :
    (connect state options nativeError).1 = state := by
  unfold connect
  split
  · rfl
  · split
    · rfl
    · simp_all

theorem connect_fst_none (nativeError : Option String) :
    (connect .None true nativeError).1 =
      if nativeError.isSome then .Disconnected else .Connecting := by
  cases nativeError <;> rfl

theorem nativeSend_mem_sendProtocolMessage (state : ClientConnectionState) (options : Bool)
    (nativeError : Option String) :
    .nativeSend ∈ sendProtocolMessage state options nativeError ↔
      options = true ∧ state = .Connected := by
  unfold sendProtocolMessage sendWith isConnected
  split
  · simp_all
  · split
    · simp_all
    · split <;> simp_all

/-- A callback the binding makes leaves a connection that is not closed open, and connected only
after a successful setup while connecting. -/
theorem step_callback {state : ClientConnectionState} (hstate : state ≠ .Closed)
    {call : ClientConnectionCall} (hcall : call.IsCallback) :
    (step state call).1 ≠ .Closed ∧ (state ≠ .None → (step state call).1 ≠ .None) ∧
      ((step state call).1 = .Connected →
        (∃ error_code, call = .onConnectionSetup error_code ∧ error_code = 0 ∧ state = .Connecting) ∨
          (state = .Connected ∧ (call = .onProtocolMessage ∨
            ∃ error_code, call = .onSendProtocolMessageCompletion error_code))) := by
  cases call with
  | onConnectionSetup error_code =>
    simp only [step, onConnectionSetup, settleWith]
    split
    · simp_all
    · simp_all
  | onDisconnect error_code => simp [step, onDisconnect, hstate]
  | onProtocolMessage => simp [step, hstate]
  | onSendProtocolMessageCompletion error_code => simp [step, hstate]
  | _ => simp [ClientConnectionCall.IsCallback] at hcall

end ClientConnection

/-! ## The invariant -/

namespace ConnectionWorld

/-- The binding's references other than JavaScript's: `connect()`'s while the library owes its
setup or its shutdown, one for each queued item that holds one, and one for each send the library
has not flushed. -/
def pendingRefs (w : ConnectionWorld) : Nat :=
  (if w.library.owesReport then 1 else 0) + w.queue.countP ConnectionWork.holdsRef + w.owed.length

/-- The binding holds a connection: the setup item that brings one has run, and the shutdown item
has not. -/
def connectionHeld (w : ConnectionWorld) : Bool :=
  !w.queue.any ConnectionWork.isSetupSuccess &&
    (w.library == .established || (w.library == .shutDown && w.queue.any ConnectionWork.isShutdown))

/-- The items that the library's reports so far have queued: a setup at most once, after the
library reported it, with a connection exactly when its error code is zero; a shutdown at most once,
after the library reported it, and queued behind the setup; and while a setup with a connection
waits after the shutdown was reported, the shutdown waits too. -/
structure QueueAgrees (library : LibraryPhase) (queue : List ConnectionWork) : Prop where
  setup_success : ∀ x ∈ queue, x.isSetupSuccess = true → library = .established ∨ library = .shutDown
  setup_failure : ∀ x ∈ queue, x.isSetup = true → x.isSetupSuccess = false → library = .failed
  shutdown : ∀ x ∈ queue, x.isShutdown = true → library = .shutDown
  shutdown_waits : library = .shutDown → queue.any ConnectionWork.isSetupSuccess = true →
    queue.any ConnectionWork.isShutdown = true
  setups : queue.countP ConnectionWork.isSetup ≤ 1
  shutdowns : queue.countP ConnectionWork.isShutdown ≤ 1
  error_codes : ∀ connection error_code, .setup connection error_code ∈ queue →
    (connection = true ↔ error_code = 0)
  ordered : queue.Pairwise fun x y => x.isShutdown = true → y.isSetupSuccess = false

theorem isSetup_of_isSetupSuccess {x : ConnectionWork} (h : x.isSetupSuccess = true) :
    x.isSetup = true := by
  cases x <;> simp_all [ConnectionWork.isSetupSuccess, ConnectionWork.isSetup]

theorem holdsRef_of_not_isSetupSuccess {x : ConnectionWork} (h : x.isSetupSuccess = false) :
    x.holdsRef = true := by
  cases x <;> simp_all [ConnectionWork.isSetupSuccess, ConnectionWork.holdsRef]

namespace QueueAgrees

variable {library : LibraryPhase} {queue : List ConnectionWork}

theorem countP_setupSuccess_le (h : QueueAgrees library queue) :
    queue.countP ConnectionWork.isSetupSuccess ≤ 1 :=
  le_trans (List.countP_mono_left fun _ _ hx => isSetup_of_isSetupSuccess hx) h.setups

/-- Before the library reports a setup, nothing of the connection is queued but flushes and
protocol messages. -/
theorem no_setup_of_owes (h : QueueAgrees library queue)
    (hl : library = .idle ∨ library = .connecting) :
    ∀ x ∈ queue, x.isSetup = false ∧ x.isShutdown = false := by
  intro x hx
  constructor
  · by_contra hs
    cases hss : x.isSetupSuccess
    · have := h.setup_failure x hx (by simpa using hs) hss
      rcases hl with hl | hl <;> simp_all
    · rcases h.setup_success x hx hss with h' | h' <;> rcases hl with hl | hl <;> simp_all
  · by_contra hs
    have := h.shutdown x hx (by simpa using hs)
    rcases hl with hl | hl <;> simp_all

/-- The oldest item is never a shutdown ahead of a waiting setup with a connection. -/
theorem head_shutdown (h : QueueAgrees library queue) {x : ConnectionWork}
    {rest : List ConnectionWork} (hq : queue = x :: rest) (hx : x.isShutdown = true) :
    rest.any ConnectionWork.isSetupSuccess = false := by
  have hord := h.ordered
  rw [hq, List.pairwise_cons] at hord
  simpa using fun y hy => hord.1 y hy hx

/-! ### How the queue changes -/

/-- An accepted `connect`. -/
theorem accept_connect (h : QueueAgrees .idle queue) : QueueAgrees .connecting queue := by
  have hnone := h.no_setup_of_owes (.inl rfl)
  refine ⟨?_, ?_, ?_, by simp, h.setups, h.shutdowns, h.error_codes, h.ordered⟩
  · intro x hx hs
    have := (hnone x hx).1
    rw [isSetup_of_isSetupSuccess hs] at this
    cases this
  · intro x hx hs
    rw [(hnone x hx).1] at hs
    cases hs
  · intro x hx hs
    rw [(hnone x hx).2] at hs
    cases hs

/-- The library reports the setup. -/
theorem report_setup (h : QueueAgrees .connecting queue) {connection : Bool} {error_code : Nat}
    (hcode : connection = true ↔ error_code = 0) :
    QueueAgrees (if connection then .established else .failed)
      (queue ++ [.setup connection error_code]) := by
  have hnone := h.no_setup_of_owes (.inr rfl)
  have hsetups : queue.countP ConnectionWork.isSetup = 0 :=
    List.countP_eq_zero.mpr fun x hx => by simp [(hnone x hx).1]
  have hshutdowns : queue.countP ConnectionWork.isShutdown = 0 :=
    List.countP_eq_zero.mpr fun x hx => by simp [(hnone x hx).2]
  refine ⟨?_, ?_, ?_, ?_, ?_, ?_, ?_, ?_⟩
  · intro x hx hs
    rcases List.mem_append.mp hx with hx | hx
    · have := (hnone x hx).1
      rw [isSetup_of_isSetupSuccess hs] at this
      cases this
    · simp only [List.mem_singleton] at hx
      subst hx
      simp only [ConnectionWork.isSetupSuccess] at hs
      simp [hs]
  · intro x hx hs hss
    rcases List.mem_append.mp hx with hx | hx
    · rw [(hnone x hx).1] at hs
      cases hs
    · simp only [List.mem_singleton] at hx
      subst hx
      simp only [ConnectionWork.isSetupSuccess] at hss
      simp [hss]
  · intro x hx hs
    rcases List.mem_append.mp hx with hx | hx
    · rw [(hnone x hx).2] at hs
      cases hs
    · simp [List.mem_singleton.mp hx, ConnectionWork.isShutdown] at hs
  · intro hshut
    cases connection <;> simp at hshut
  · simp [List.countP_append, hsetups, ConnectionWork.isSetup]
  · simp [List.countP_append, hshutdowns, ConnectionWork.isShutdown]
  · intro c e hmem
    rcases List.mem_append.mp hmem with hx | hx
    · exact h.error_codes c e hx
    · simp only [List.mem_singleton, ConnectionWork.setup.injEq] at hx
      obtain ⟨rfl, rfl⟩ := hx
      exact hcode
  · refine List.pairwise_append.mpr ⟨h.ordered, by simp, ?_⟩
    intro x hx y _ hs
    rw [(hnone x hx).2] at hs
    cases hs

/-- The library reports the shutdown. -/
theorem report_shutdown (h : QueueAgrees .established queue) (error_code : Nat) :
    QueueAgrees .shutDown (queue ++ [.shutdown error_code]) := by
  have hnone : ∀ x ∈ queue, x.isShutdown = false := fun x hx => by
    by_contra hs
    have := h.shutdown x hx (by simpa using hs)
    cases this
  have hshutdowns : queue.countP ConnectionWork.isShutdown = 0 :=
    List.countP_eq_zero.mpr fun x hx => by simp [hnone x hx]
  refine ⟨?_, ?_, fun _ _ _ => rfl, ?_, ?_, ?_, ?_, ?_⟩
  · intro x hx hs
    rcases List.mem_append.mp hx with hx | hx
    · exact .inr rfl
    · simp [List.mem_singleton.mp hx, ConnectionWork.isSetupSuccess] at hs
  · intro x hx hs hss
    rcases List.mem_append.mp hx with hx | hx
    · cases h.setup_failure x hx hs hss
    · simp [List.mem_singleton.mp hx, ConnectionWork.isSetup] at hs
  · intro _ _
    simp [ConnectionWork.isShutdown]
  · simpa [List.countP_append, ConnectionWork.isSetup] using h.setups
  · simp [List.countP_append, hshutdowns, ConnectionWork.isShutdown]
  · intro c e hmem
    rcases List.mem_append.mp hmem with hx | hx
    · exact h.error_codes c e hx
    · simp at hx
  · exact List.pairwise_append.mpr ⟨h.ordered, by simp, by simp [ConnectionWork.isSetupSuccess]⟩

/-- A protocol message or a flush is queued. -/
theorem append_other (h : QueueAgrees library queue) {x : ConnectionWork}
    (hsetup : x.isSetup = false) (hshutdown : x.isShutdown = false) :
    QueueAgrees library (queue ++ [x]) := by
  have hss : x.isSetupSuccess = false := by
    cases hs : x.isSetupSuccess
    · rfl
    · rw [isSetup_of_isSetupSuccess hs] at hsetup
      cases hsetup
  refine ⟨?_, ?_, ?_, ?_, ?_, ?_, ?_, ?_⟩
  · intro y hy hs
    rcases List.mem_append.mp hy with hy | hy
    · exact h.setup_success y hy hs
    · rw [List.mem_singleton.mp hy, hss] at hs
      cases hs
  · intro y hy hs hss'
    rcases List.mem_append.mp hy with hy | hy
    · exact h.setup_failure y hy hs hss'
    · rw [List.mem_singleton.mp hy, hsetup] at hs
      cases hs
  · intro y hy hs
    rcases List.mem_append.mp hy with hy | hy
    · exact h.shutdown y hy hs
    · rw [List.mem_singleton.mp hy, hshutdown] at hs
      cases hs
  · intro hl hany
    simp only [List.any_append, List.any_cons, List.any_nil, hss, hshutdown, Bool.or_false] at hany ⊢
    exact h.shutdown_waits hl hany
  · simpa [List.countP_append, hsetup] using h.setups
  · simpa [List.countP_append, hshutdown] using h.shutdowns
  · intro c e hmem
    rcases List.mem_append.mp hmem with hy | hy
    · exact h.error_codes c e hy
    · rw [List.mem_singleton] at hy
      rw [← hy] at hsetup
      simp [ConnectionWork.isSetup] at hsetup
  · exact List.pairwise_append.mpr ⟨h.ordered, by simp, by simp [hss]⟩

/-- The libuv thread takes an item out; a shutdown only once no setup with a connection waits. -/
theorem eraseIdx (h : QueueAgrees library queue) {i : Nat} {x : ConnectionWork}
    (hi : queue[i]? = some x)
    (hx : x.isShutdown = true → (queue.eraseIdx i).any ConnectionWork.isSetupSuccess = false) :
    QueueAgrees library (queue.eraseIdx i) := by
  have hmem : ∀ y ∈ queue.eraseIdx i, y ∈ queue := fun _ hy => List.mem_of_mem_eraseIdx hy
  refine ⟨fun y hy => h.setup_success y (hmem y hy), fun y hy => h.setup_failure y (hmem y hy),
    fun y hy => h.shutdown y (hmem y hy), ?_, ?_, ?_, fun c e hy => h.error_codes c e (hmem _ hy),
    h.ordered.sublist (List.eraseIdx_sublist _ _)⟩
  · intro hl hany
    cases hsd : x.isShutdown
    · have hany' : queue.any ConnectionWork.isSetupSuccess = true := by
        obtain ⟨y, hy, hys⟩ := List.any_eq_true.mp hany
        exact List.any_eq_true.mpr ⟨y, hmem y hy, hys⟩
      rw [SharedRef.any_eraseIdx_of_not _ hi hsd]
      exact h.shutdown_waits hl hany'
    · rw [hx hsd] at hany
      cases hany
  · have := SharedRef.countP_eraseIdx ConnectionWork.isSetup hi
    have := h.setups
    omega
  · have := SharedRef.countP_eraseIdx ConnectionWork.isShutdown hi
    have := h.shutdowns
    omega

end QueueAgrees

end ConnectionWorld

namespace ConnectionWorld

theorem binding_eq_self {w : ConnectionWorld} {b : Counted ConnectionBinding}
    (hb : w.binding = some b) : { w with binding := some b } = w := by
  cases w
  simp_all

@[simp] theorem pendingRefs_binding (w : ConnectionWorld) (b : Option (Counted ConnectionBinding)) :
    { w with binding := b }.pendingRefs = w.pendingRefs := rfl

@[simp] theorem connectionHeld_binding (w : ConnectionWorld)
    (b : Option (Counted ConnectionBinding)) :
    { w with binding := b }.connectionHeld = w.connectionHeld := rfl

/-- Running an item takes it out of the pending references if it held one. -/
theorem pendingRefs_eraseIdx (w : ConnectionWorld) {i : Nat} {x : ConnectionWork}
    (hi : w.queue[i]? = some x) :
    { w with queue := w.queue.eraseIdx i }.pendingRefs + (if x.holdsRef then 1 else 0) =
      w.pendingRefs := by
  have := SharedRef.countP_eraseIdx ConnectionWork.holdsRef hi
  simp only [pendingRefs]
  omega

/-- Running an item other than a setup or a shutdown leaves the connection as it was. -/
theorem connectionHeld_eraseIdx_of_other (w : ConnectionWorld) {i : Nat} {x : ConnectionWork}
    (hi : w.queue[i]? = some x) (hss : x.isSetupSuccess = false) (hsd : x.isShutdown = false) :
    { w with queue := w.queue.eraseIdx i }.connectionHeld = w.connectionHeld := by
  simp only [connectionHeld, SharedRef.any_eraseIdx_of_not _ hi hss,
    SharedRef.any_eraseIdx_of_not _ hi hsd]

/-- A queued item keeps the binding referenced: by itself, or, for the setup with a connection, by
the reference of `connect()` while the library owes the shutdown, and by the shutdown's item after. -/
theorem pendingRefs_pos_of_mem {w : ConnectionWorld} (hq : QueueAgrees w.library w.queue)
    {x : ConnectionWork} (hx : x ∈ w.queue) : 0 < w.pendingRefs := by
  have hheld : ∃ y ∈ w.queue, y.holdsRef = true ∨ w.library = .established := by
    cases hss : x.isSetupSuccess
    · exact ⟨x, hx, .inl (holdsRef_of_not_isSetupSuccess hss)⟩
    · rcases hq.setup_success x hx hss with hl | hl
      · exact ⟨x, hx, .inr hl⟩
      · obtain ⟨y, hy, hys⟩ :=
          List.any_eq_true.mp (hq.shutdown_waits hl (List.any_eq_true.mpr ⟨x, hx, hss⟩))
        refine ⟨y, hy, .inl ?_⟩
        cases y <;> simp_all [ConnectionWork.isShutdown, ConnectionWork.holdsRef]
  obtain ⟨y, hy, hy' | hl⟩ := hheld
  · have := List.countP_pos_iff.mpr ⟨y, hy, hy'⟩
    simp only [pendingRefs]
    omega
  · simp [pendingRefs, hl, LibraryPhase.owesReport]

end ConnectionWorld

namespace ConnectionSystem

/-- What every reachable connection that has not aborted satisfies. -/
structure Inv (s : ConnectionSystem) : Prop where
  queue : ConnectionWorld.QueueAgrees s.world.library s.world.queue
  /-- A live binding is counted once for JavaScript until `close()`, and once for each pending
  reference. -/
  count : ∀ b, s.world.binding = some b →
    b.count = (if b.value.is_closed then 0 else 1) + s.world.pendingRefs
  count_pos : ∀ b, s.world.binding = some b → 1 ≤ b.count
  /-- A freed binding was closed, and nothing refers to it. -/
  freed : s.world.binding = none → s.state = .Closed ∧ s.world.pendingRefs = 0
  closed : ∀ b, s.world.binding = some b → (b.value.is_closed = true ↔ s.state = .Closed)
  connection : ∀ b, s.world.binding = some b → b.value.connection = s.world.connectionHeld
  fresh : s.state = .None → s.world.library = .idle
  connected : s.state = .Connected → s.world.connectionHeld = true

theorem inv_init : init.Inv where
  queue := ⟨by simp [init, ConnectionWorld.init], by simp [init, ConnectionWorld.init],
    by simp [init, ConnectionWorld.init], by simp [init, ConnectionWorld.init],
    by simp [init, ConnectionWorld.init], by simp [init, ConnectionWorld.init],
    by simp [init, ConnectionWorld.init], by simp [init, ConnectionWorld.init]⟩
  count := by
    rintro b hb
    cases hb
    rfl
  count_pos := by
    rintro b hb
    cases hb
    decide
  freed := by simp [init, ConnectionWorld.init]
  closed := by
    rintro b hb
    cases hb
    decide
  connection := by
    rintro b hb
    cases hb
    rfl
  fresh := fun _ => rfl
  connected := by simp [init]

variable {s : ConnectionSystem}

/-- The binding is live while the JS object is open or a reference is pending. -/
theorem Inv.live (h : s.Inv) (hp : s.state ≠ .Closed ∨ 0 < s.world.pendingRefs) :
    ∃ b, s.world.binding = some b := by
  cases hb : s.world.binding with
  | none =>
    obtain ⟨hc, hz⟩ := h.freed hb
    rcases hp with hp | hp <;> simp_all
  | some b => exact ⟨b, rfl⟩

/-- Once the library has been asked for a connection, the JS object is past `None`. -/
theorem Inv.state_ne_none (h : s.Inv) (hl : s.world.library ≠ .idle) : s.state ≠ .None :=
  fun hn => hl (h.fresh hn)

/-- A queued item finds the binding live. -/
theorem Inv.live_of_queued (h : s.Inv) {i : Nat} {x : ConnectionWork}
    (hi : s.world.queue[i]? = some x) : ∃ b, s.world.binding = some b :=
  h.live (.inr (ConnectionWorld.pendingRefs_pos_of_mem h.queue (List.mem_of_getElem? hi)))

/-- The binding of an open JS object is live and not closed. -/
theorem Inv.open_binding (h : s.Inv) (hs : s.state ≠ .Closed) :
    ∃ b, s.world.binding = some b ∧ b.value.is_closed = false := by
  obtain ⟨b, hb⟩ := h.live (.inl hs)
  refine ⟨b, hb, ?_⟩
  cases hc : b.value.is_closed
  · rfl
  · exact absurd ((h.closed b hb).mp hc) hs

end ConnectionSystem

namespace ConnectionSystem

variable {s : ConnectionSystem}

/-- A step that keeps the invariant, does not abort, and shows no fault. -/
def SafeStep (r : ConnectionSystem × List ConnectionEffect) : Prop :=
  r.1.Inv ∧ r.1.aborted = false ∧ ∀ f, .fault f ∉ r.2

theorem step_of_not_aborted (ha : s.aborted = false) (e : ConnectionEvent) :
    step s e = match e with
      | .close =>
        s.jsCall (fun _ => ClientConnection.close s.state) .nativeClose
          ConnectionWorld.aws_napi_event_stream_client_connection_close
      | .connect options outcome =>
        s.jsCall (ClientConnection.connect s.state options) .nativeConnect
          (·.aws_napi_event_stream_client_connection_connect outcome)
      | .sendProtocolMessage options outcome =>
        s.jsCall (fun e => (s.state, ClientConnection.sendProtocolMessage s.state options e))
          .nativeSend (·.aws_napi_event_stream_client_connection_send_protocol_message outcome)
      | .onConnectionSetup connection error_code =>
        s.libraryCall
          (s.world.s_aws_event_stream_rpc_client_on_connection_setup_fn connection error_code)
      | .onProtocolMessage stored =>
        s.libraryCall (s.world.s_aws_event_stream_rpc_client_connection_protocol_message_fn stored)
      | .onConnectionShutdown error_code =>
        s.libraryCall (s.world.s_aws_event_stream_rpc_client_on_connection_shutdown_fn error_code)
      | .onMessageFlushed send error_code =>
        s.libraryCall (s.world.s_aws_event_stream_on_protocol_message_flushed send error_code, none)
      | .run i => s.runItem i := by
  simp only [step, ha, Bool.false_eq_true, if_false]

/-- A JS call that does not reach the binding. -/
theorem jsCall_of_not_mem (ts : Option String → ClientConnectionState × List ClientOutput)
    (call : ClientOutput) (native : ConnectionWorld → NativeResult) (h : call ∉ (ts none).2) :
    s.jsCall ts call native = ({ s with state := (ts none).1 }, (ts none).2.map .js) := by
  simp [jsCall, h]

/-- A JS call that reaches the binding. -/
theorem jsCall_of_mem (ts : Option String → ClientConnectionState × List ClientOutput)
    (call : ClientOutput) (native : ConnectionWorld → NativeResult) (h : call ∈ (ts none).2) :
    s.jsCall ts call native =
      (⟨(ts (native s.world).thrown).1, (native s.world).world,
          (native s.world).fault.any BindingFault.aborts⟩,
        (ts (native s.world).thrown).2.map .js ++ (native s.world).fault.toList.map .fault) := by
  simp [jsCall, h]

/-- A step that leaves the connection as it was is safe. -/
theorem Inv.safe_self (h : s.Inv) (ha : s.aborted = false) (outs : List ClientOutput) :
    SafeStep ({ s with state := s.state }, outs.map .js) :=
  ⟨h, ha, by simp⟩

/-! ### Calls from JavaScript -/

theorem Inv.step_close (h : s.Inv) (ha : s.aborted = false) : SafeStep (step s .close) := by
  rw [step_of_not_aborted ha]
  by_cases hc : s.state = .Closed
  · -- a second `close()` does nothing
    have hnot : .nativeClose ∉ (ClientConnection.close s.state).2 := by
      rw [ClientConnection.nativeClose_mem_close]
      simpa using hc
    have hstate : (ClientConnection.close s.state).1 = s.state := by
      rw [ClientConnection.close, closeWith_fst, hc]
    rw [jsCall_of_not_mem (fun _ => ClientConnection.close s.state) _ _ hnot]
    dsimp only
    rw [hstate]
    exact h.safe_self ha _
  · obtain ⟨b, hb, hopen⟩ := h.open_binding hc
    rw [jsCall_of_mem (fun _ => ClientConnection.close s.state) _ _
      ((ClientConnection.nativeClose_mem_close _).mpr hc)]
    dsimp only
    have hcount : b.count = 1 + s.world.pendingRefs := by simpa [hopen] using h.count b hb
    obtain ⟨hnone, hsome⟩ := Counted.release_holder ConnectionBinding.is_closed
      (c := b.modify fun v => { v with is_closed := true }) (n := s.world.pendingRefs) (by simp; omega)
    have hstate : (ClientConnection.close s.state).1 = .Closed := closeWith_fst _ _
    simp only [ConnectionWorld.aws_napi_event_stream_client_connection_close, hb, hstate]
    refine ⟨⟨h.queue, ?_, ?_, ?_, ?_, ?_, by simp, by simp⟩, rfl, by simp⟩
    · intro b' hb'
      exact (hsome b' hb').2.1
    · intro b' hb'
      exact (hsome b' hb').2.2
    · intro hfreed
      exact ⟨rfl, (hnone hfreed).2⟩
    · intro b' hb'
      simp [(hsome b' hb').1]
    · intro b' hb'
      rw [(hsome b' hb').1]
      exact h.connection b hb

/-- The JS object moves, the native side stays: an open object that is not connected. -/
theorem Inv.with_state (h : s.Inv) (hs : s.state ≠ .Closed) (t : ClientConnectionState)
    (aborted : Bool) (ht : t ≠ .None ∧ t ≠ .Closed ∧ t ≠ .Connected) :
    (⟨t, s.world, aborted⟩ : ConnectionSystem).Inv := by
  obtain ⟨tn, tc, tcon⟩ := ht
  refine ⟨h.queue, h.count, h.count_pos, fun hb => absurd (h.freed hb).1 hs, ?_, h.connection,
    fun htn => absurd htn tn, fun htc => absurd htc tcon⟩
  intro b hb
  simp only [tc, iff_false]
  intro hc
  exact hs ((h.closed b hb).mp hc)

theorem Inv.step_connect (h : s.Inv) (ha : s.aborted = false) (options : Bool)
    (outcome : RpcConnectOutcome) : SafeStep (step s (.connect options outcome)) := by
  rw [step_of_not_aborted ha]
  dsimp only
  by_cases hcall : options = true ∧ s.state = .None
  · obtain ⟨rfl, hnone⟩ := hcall
    have hidle := h.fresh hnone
    have hopen_state : s.state ≠ .Closed := by simp [hnone]
    obtain ⟨b, hb, hopen⟩ := h.open_binding hopen_state
    have hconn : b.value.connection = false := by
      rw [h.connection b hb]
      simp [ConnectionWorld.connectionHeld, hidle]
    have hcount : b.count = 1 + s.world.pendingRefs := by simpa [hopen] using h.count b hb
    have hpending : s.world.pendingRefs =
        s.world.queue.countP ConnectionWork.holdsRef + s.world.owed.length := by
      simp [ConnectionWorld.pendingRefs, hidle, LibraryPhase.owesReport]
    rw [jsCall_of_mem (ClientConnection.connect s.state true) _ _
      ((ClientConnection.nativeConnect_mem_connect _ _ _).mpr ⟨rfl, hnone⟩)]
    cases outcome with
    | accepted =>
      -- the binding takes the reference of the connect interval
      simp only [ConnectionWorld.aws_napi_event_stream_client_connection_connect, hb, hopen, hconn,
        Bool.false_eq_true, if_false, hnone, ClientConnection.connect_fst_none, Option.isSome_none]
      refine ⟨⟨(hidle ▸ h.queue).accept_connect, ?_, ?_, by simp, ?_, ?_, by simp, by simp⟩, rfl,
        by simp⟩
      · rintro b' hb'
        cases hb'
        simp [ConnectionWorld.pendingRefs, LibraryPhase.owesReport, hopen]
        omega
      · rintro b' hb'
        cases hb'
        simp
      · rintro b' hb'
        cases hb'
        simp [hopen]
      · rintro b' hb'
        cases hb'
        simp [ConnectionWorld.connectionHeld, hconn]
    | noCallback | rejected _ _ =>
      -- nothing is acquired, or the acquire is undone, and the JS object is disconnected
      have hpos := h.count_pos b hb
      simp only [ConnectionWorld.aws_napi_event_stream_client_connection_connect, hb, hopen, hconn,
        Bool.false_eq_true, if_false, Counted.acquire_release b hpos,
        ConnectionWorld.binding_eq_self hb, hnone, ClientConnection.connect_fst_none,
        Option.isSome_some, if_true]
      exact ⟨h.with_state hopen_state .Disconnected false ⟨by simp, by simp, by simp⟩, rfl,
        by simp⟩
  · rw [jsCall_of_not_mem (ClientConnection.connect s.state options) _ _
      (by rw [ClientConnection.nativeConnect_mem_connect]; exact hcall)]
    rw [ClientConnection.connect_fst_of_not _ _ _ hcall]
    exact h.safe_self ha _

theorem Inv.step_send (h : s.Inv) (ha : s.aborted = false) (options : Bool)
    (outcome : SendOutcome) : SafeStep (step s (.sendProtocolMessage options outcome)) := by
  rw [step_of_not_aborted ha]
  dsimp only
  by_cases hcall : options = true ∧ s.state = .Connected
  · obtain ⟨rfl, hconnected⟩ := hcall
    have hopen_state : s.state ≠ .Closed := by simp [hconnected]
    obtain ⟨b, hb, hopen⟩ := h.open_binding hopen_state
    have hconn : b.value.connection = true := (h.connection b hb).trans (h.connected hconnected)
    have hpos := h.count_pos b hb
    rw [jsCall_of_mem (fun e => (s.state, ClientConnection.sendProtocolMessage s.state true e)) _ _
      ((ClientConnection.nativeSend_mem_sendProtocolMessage s.state true none).mpr
        ⟨rfl, hconnected⟩)]
    have hself : (⟨s.state, s.world, false⟩ : ConnectionSystem) = s := by
      cases s
      simp_all
    cases outcome with
    | invalidMessage =>
      simp only [ConnectionWorld.aws_napi_event_stream_client_connection_send_protocol_message, hb,
        hopen, hconn, Bool.false_eq_true, if_false, Bool.not_true]
      rw [Option.any_none, hself]
      exact ⟨h, ha, by simp⟩
    | unreadableMessage | noCallback | rejected =>
      -- the callback data's reference is given back at once
      simp only [ConnectionWorld.aws_napi_event_stream_client_connection_send_protocol_message, hb,
        hopen, hconn, Bool.false_eq_true, if_false, Bool.not_true, Counted.acquire_release b hpos,
        ConnectionWorld.binding_eq_self hb]
      rw [Option.any_none, hself]
      exact ⟨h, ha, by simp⟩
    | accepted =>
      -- the flush callback data takes a reference, and the library owes its flush
      simp only [ConnectionWorld.aws_napi_event_stream_client_connection_send_protocol_message, hb,
        hopen, hconn, Bool.false_eq_true, if_false, Bool.not_true]
      have hcount : b.count = 1 + s.world.pendingRefs := by simpa [hopen] using h.count b hb
      refine ⟨⟨h.queue, ?_, ?_, by simp, ?_, ?_, fun hn => h.fresh hn, fun hc => ?_⟩, rfl,
        by simp⟩
      · rintro b' hb'
        cases hb'
        simp only [Counted.acquire_count, Counted.acquire_value, hopen, ConnectionWorld.pendingRefs,
          List.length_append, List.length_singleton] at hcount ⊢
        simp only [Bool.false_eq_true, if_false] at hcount ⊢
        omega
      · rintro b' hb'
        cases hb'
        simp
      · rintro b' hb'
        cases hb'
        simp only [Counted.acquire_value, hopen, Bool.false_eq_true, false_iff]
        simp [hconnected]
      · rintro b' hb'
        cases hb'
        simpa [ConnectionWorld.connectionHeld] using h.connection b hb
      · simpa [ConnectionWorld.connectionHeld] using h.connected hc
  · rw [jsCall_of_not_mem (fun e => (s.state, ClientConnection.sendProtocolMessage s.state options e))
      _ _ (by simpa [ClientConnection.nativeSend_mem_sendProtocolMessage] using hcall)]
    exact h.safe_self ha _

/-! ### Callbacks of the library -/

/-- A callback of the library that keeps the binding, its references and its connection, and moves
the library on from where a new JS object cannot be. -/
theorem Inv.with_world (h : s.Inv) {w : ConnectionWorld}
    (hq : ConnectionWorld.QueueAgrees w.library w.queue) (hb : w.binding = s.world.binding)
    (hp : w.pendingRefs = s.world.pendingRefs) (hc : w.connectionHeld = s.world.connectionHeld)
    (hfresh : s.state = .None → w.library = .idle) : { s with world := w }.Inv := by
  refine ⟨hq, ?_, ?_, ?_, ?_, ?_, hfresh, ?_⟩
  · intro b hb'
    rw [hp]
    exact h.count b (hb ▸ hb')
  · intro b hb'
    exact h.count_pos b (hb ▸ hb')
  · intro hn
    rw [hp]
    exact h.freed (hb ▸ hn)
  · intro b hb'
    exact h.closed b (hb ▸ hb')
  · intro b hb'
    rw [hc]
    exact h.connection b (hb ▸ hb')
  · intro hcon
    rw [hc]
    exact h.connected hcon

/-- While the library owes its report, the binding is live. -/
theorem Inv.live_of_owes (h : s.Inv) (hl : s.world.library.owesReport = true) :
    ∃ b, s.world.binding = some b :=
  h.live (.inr (by simp [ConnectionWorld.pendingRefs, hl]))

theorem Inv.step_setup (h : s.Inv) (ha : s.aborted = false) {connection : Bool} {error_code : Nat}
    (hc : LibraryContract s (.onConnectionSetup connection error_code)) :
    SafeStep (step s (.onConnectionSetup connection error_code)) := by
  obtain ⟨hlib, hcode⟩ := hc
  obtain ⟨b, hb⟩ := h.live_of_owes (by simp [hlib, LibraryPhase.owesReport])
  rw [step_of_not_aborted ha]
  dsimp only
  simp only [ConnectionWorld.s_aws_event_stream_rpc_client_on_connection_setup_fn, hb, libraryCall]
  refine ⟨h.with_world ((hlib ▸ h.queue).report_setup hcode) hb.symm ?_ ?_ ?_, ha, by simp⟩
  · cases connection
    · -- the reference of `connect()` passes to the failed setup's item
      simp [ConnectionWorld.pendingRefs, hlib, LibraryPhase.owesReport, List.countP_append,
        ConnectionWork.holdsRef]
      omega
    · -- it waits for the shutdown
      simp [ConnectionWorld.pendingRefs, hlib, LibraryPhase.owesReport, List.countP_append,
        ConnectionWork.holdsRef]
  · cases connection <;>
      simp [ConnectionWorld.connectionHeld, hlib, beq_eq_decide, ConnectionWork.isSetupSuccess]
  · exact fun hn => absurd hn (h.state_ne_none (by simp [hlib]))

theorem Inv.step_protocol_message (h : s.Inv) (ha : s.aborted = false) {stored : Bool}
    (hc : LibraryContract s (.onProtocolMessage stored)) :
    SafeStep (step s (.onProtocolMessage stored)) := by
  have hlib : s.world.library = .established := hc
  obtain ⟨b, hb⟩ := h.live_of_owes (by simp [hlib, LibraryPhase.owesReport])
  rw [step_of_not_aborted ha]
  dsimp only
  have hheld :
      { s.world with queue := s.world.queue ++ [ConnectionWork.protocolMessage] }.connectionHeld =
      s.world.connectionHeld := by
    simp [ConnectionWorld.connectionHeld, ConnectionWork.isSetupSuccess, ConnectionWork.isShutdown]
  cases stored with
  | false =>
    -- a message the binding cannot store gives its reference back at once
    simp only [ConnectionWorld.s_aws_event_stream_rpc_client_connection_protocol_message_fn, hb,
      Bool.false_eq_true, if_false, Counted.acquire_release b (h.count_pos b hb),
      ConnectionWorld.binding_eq_self hb, libraryCall]
    exact ⟨h, ha, by simp⟩
  | true =>
    -- the queued event holds a reference of its own
    simp only [ConnectionWorld.s_aws_event_stream_rpc_client_connection_protocol_message_fn, hb,
      if_true, libraryCall]
    refine ⟨⟨h.queue.append_other rfl rfl, ?_, ?_, by simp, ?_, ?_, h.fresh, ?_⟩, ha, by simp⟩
    · rintro b' hb'
      cases hb'
      have := h.count b hb
      cases hcl : b.value.is_closed <;>
        simp [hcl, ConnectionWorld.pendingRefs, List.countP_append, ConnectionWork.holdsRef] at this ⊢ <;>
        omega
    · rintro b' hb'
      cases hb'
      simp
    · rintro b' hb'
      cases hb'
      exact h.closed b hb
    · rintro b' hb'
      cases hb'
      exact (h.connection b hb).trans hheld.symm
    · intro hcon
      exact hheld.trans (h.connected hcon)

theorem Inv.step_shutdown (h : s.Inv) (ha : s.aborted = false) {error_code : Nat}
    (hc : LibraryContract s (.onConnectionShutdown error_code)) :
    SafeStep (step s (.onConnectionShutdown error_code)) := by
  have hlib : s.world.library = .established := hc
  obtain ⟨b, hb⟩ := h.live_of_owes (by simp [hlib, LibraryPhase.owesReport])
  rw [step_of_not_aborted ha]
  dsimp only
  simp only [ConnectionWorld.s_aws_event_stream_rpc_client_on_connection_shutdown_fn, hb, libraryCall]
  refine ⟨h.with_world ((hlib ▸ h.queue).report_shutdown error_code) hb.symm ?_ ?_ ?_, ha,
    by simp⟩
  · -- the reference of `connect()` passes to the shutdown's item
    simp [ConnectionWorld.pendingRefs, hlib, LibraryPhase.owesReport, List.countP_append,
      ConnectionWork.holdsRef]
    omega
  · simp [ConnectionWorld.connectionHeld, hlib, beq_eq_decide, ConnectionWork.isSetupSuccess,
      ConnectionWork.isShutdown]
  · exact fun hn => absurd hn (h.state_ne_none (by simp [hlib]))

theorem Inv.step_flushed (h : s.Inv) (ha : s.aborted = false) {send error_code : Nat}
    (hc : LibraryContract s (.onMessageFlushed send error_code)) :
    SafeStep (step s (.onMessageFlushed send error_code)) := by
  have hmem : send ∈ s.world.owed := hc
  rw [step_of_not_aborted ha]
  dsimp only
  simp only [ConnectionWorld.s_aws_event_stream_on_protocol_message_flushed, libraryCall]
  refine ⟨h.with_world (h.queue.append_other rfl rfl) rfl ?_ ?_ h.fresh, ha, by simp⟩
  · -- the send's reference passes from the library to the queued flush
    have herase := List.length_erase_of_mem hmem
    have hpos := List.length_pos_of_mem hmem
    simp [ConnectionWorld.pendingRefs, List.countP_append, ConnectionWork.holdsRef, herase]
    omega
  · simp [ConnectionWorld.connectionHeld, ConnectionWork.isSetupSuccess, ConnectionWork.isShutdown]

/-! ### Items on the libuv thread -/

/-- The callback of an item runs only while the JS object is open, and then as `step_callback`
says. -/
theorem callback_state {state : ClientConnectionState} {v : ConnectionBinding}
    (hv : v.is_closed = true ↔ state = .Closed) (call : ClientConnectionCall)
    (hcall : call.IsCallback) :
    ((callback state (dispatchUnlessClosed v call)).1 = .Closed ↔ state = .Closed) ∧
      (state ≠ .None → (callback state (dispatchUnlessClosed v call)).1 ≠ .None) ∧
      ((callback state (dispatchUnlessClosed v call)).1 = .Connected →
        (∃ error_code, call = .onConnectionSetup error_code ∧ error_code = 0) ∨
          (state = .Connected ∧ (call = .onProtocolMessage ∨
            ∃ error_code, call = .onSendProtocolMessageCompletion error_code))) := by
  cases hc : v.is_closed
  · have hopen : state ≠ .Closed := fun hs => by simpa [hc] using hv.mpr hs
    obtain ⟨h1, h2, h3⟩ := ClientConnection.step_callback hopen hcall
    simp only [callback, dispatchUnlessClosed, hc, Bool.false_eq_true, if_false, Option.map_some,
      Option.getD_some]
    refine ⟨⟨fun h => absurd h h1, fun h => absurd h hopen⟩, h2, fun hcon => ?_⟩
    rcases h3 hcon with ⟨e, he, hz, _⟩ | hr
    · exact .inl ⟨e, he, hz⟩
    · exact .inr hr
  · have hclosed : state = .Closed := hv.mp hc
    simp [callback, dispatchUnlessClosed, hc, hclosed]

/-- A callback that leaves the JS object's state alone. -/
theorem callback_fst_of_keeps (state : ClientConnectionState) (v : ConnectionBinding)
    {call : ClientConnectionCall} (hcall : ∀ state, (ClientConnection.step state call).1 = state) :
    (callback state (dispatchUnlessClosed v call)).1 = state := by
  unfold callback dispatchUnlessClosed
  split <;> simp [hcall]

theorem runItem_of_none {i : Nat} (hi : s.world.queue[i]? = none) : s.runItem i = (s, []) := by
  simp [runItem, hi]

theorem runItem_of_not_runnable {i : Nat} {x : ConnectionWork} (hi : s.world.queue[i]? = some x)
    (hr : ¬Runnable ConnectionWork.tsfn s.world.queue i x) : s.runItem i = (s, []) := by
  simp [runItem, hi, hr]

theorem runItem_of_runnable {i : Nat} {x : ConnectionWork} (hi : s.world.queue[i]? = some x)
    (hr : Runnable ConnectionWork.tsfn s.world.queue i x) {b : Counted ConnectionBinding}
    (hb : s.world.binding = some b) :
    s.runItem i = s.runOn { s.world with queue := s.world.queue.eraseIdx i } b x := by
  simp [runItem, hi, hr, hb]

theorem runItem_of_freed {i : Nat} {x : ConnectionWork} (hi : s.world.queue[i]? = some x)
    (hr : Runnable ConnectionWork.tsfn s.world.queue i x) (hb : s.world.binding = none) :
    s.runItem i =
      ({ s with world := { s.world with queue := s.world.queue.eraseIdx i } },
        [.fault .useAfterFree]) := by
  simp [runItem, hi, hr, hb]

/-- An item whose run does not fault. -/
theorem runOn_of_runWork {w : ConnectionWorld} {b : Counted ConnectionBinding} {x : ConnectionWork}
    {binding : Option (Counted ConnectionBinding)} {dispatched : Option ClientConnectionCall}
    (hwork : runWork b x = { binding := binding, dispatched := dispatched }) :
    s.runOn w b x =
      (⟨(callback s.state dispatched).1, { w with binding := binding }, false⟩,
        (callback s.state dispatched).2.map .js) := by
  simp [runOn, hwork]

/-- An item that releases its reference after `f` writes the binding: the invariant holds after it
when `f` leaves the connection the queue then shows, and the JS object moves as the binding
allows. -/
theorem Inv.run_release (h : s.Inv) {i : Nat} {x : ConnectionWork}
    (hi : s.world.queue[i]? = some x) (hx : x.holdsRef = true)
    (hsd : x.isShutdown = true → (s.world.queue.eraseIdx i).any ConnectionWork.isSetupSuccess = false)
    {b : Counted ConnectionBinding} (hb : s.world.binding = some b)
    (f : ConnectionBinding → ConnectionBinding) (hf_closed : (f b.value).is_closed = b.value.is_closed)
    (hf_connection :
      (f b.value).connection = { s.world with queue := s.world.queue.eraseIdx i }.connectionHeld)
    {t : ClientConnectionState × List ClientOutput} (ht : t.1 = .Closed ↔ s.state = .Closed)
    (hfresh : t.1 = .None → s.world.library = .idle)
    (hcon : t.1 = .Connected → { s.world with queue := s.world.queue.eraseIdx i }.connectionHeld) :
    SafeStep (⟨t.1,
      { s.world with
        queue := s.world.queue.eraseIdx i
        binding := (b.modify f).release }, false⟩, t.2.map .js) := by
  have hpend := s.world.pendingRefs_eraseIdx hi
  simp only [hx, if_true] at hpend
  have hcount := h.count b hb
  obtain ⟨hfreed, hkept⟩ := Counted.release_holder ConnectionBinding.is_closed (c := b.modify f)
    (n := { s.world with queue := s.world.queue.eraseIdx i }.pendingRefs)
    (by simp only [Counted.modify_count, Counted.modify_value, hf_closed]; omega)
  refine ⟨⟨h.queue.eraseIdx hi hsd, ?_, ?_, ?_, ?_, ?_, hfresh, hcon⟩, rfl, by simp⟩
  · intro b' hb'
    exact (hkept b' hb').2.1
  · intro b' hb'
    exact (hkept b' hb').2.2
  · -- the binding is freed only once JavaScript has closed it and nothing else refers to it
    intro hn
    obtain ⟨hc, hz⟩ := hfreed hn
    rw [Counted.modify_value, hf_closed] at hc
    exact ⟨ht.mpr ((h.closed b hb).mp hc), hz⟩
  · intro b' hb'
    rw [(hkept b' hb').1, Counted.modify_value, hf_closed, ht]
    exact h.closed b hb
  · intro b' hb'
    rw [(hkept b' hb').1, Counted.modify_value]
    exact hf_connection

/-- A protocol message or a flush: its reference is released, and the JS object keeps its state. -/
theorem Inv.run_message (h : s.Inv) {i : Nat} {x : ConnectionWork}
    (hi : s.world.queue[i]? = some x) (hsetup : x.isSetup = false) (hsd : x.isShutdown = false)
    {b : Counted ConnectionBinding} (hb : s.world.binding = some b) (call : ClientConnectionCall)
    (hcall : ∀ state, (ClientConnection.step state call).1 = state)
    (hwork : runWork b x = { binding := b.release, dispatched := dispatchUnlessClosed b.value call }) :
    SafeStep (s.runOn { s.world with queue := s.world.queue.eraseIdx i } b x) := by
  have hss : x.isSetupSuccess = false := by
    cases hs : x.isSetupSuccess
    · rfl
    · rw [ConnectionWorld.isSetup_of_isSetupSuccess hs] at hsetup
      cases hsetup
  have hheld := s.world.connectionHeld_eraseIdx_of_other hi hss hsd
  have hstate := callback_fst_of_keeps s.state b.value hcall
  rw [runOn_of_runWork hwork]
  refine h.run_release hi (ConnectionWorld.holdsRef_of_not_isSetupSuccess hss)
    (fun hx => by rw [hsd] at hx; cases hx) hb id rfl ?_ ?_ ?_ ?_
  · rw [hheld]
    exact h.connection b hb
  · rw [hstate]
  · rw [hstate]
    exact h.fresh
  · rw [hstate, hheld]
    exact h.connected

/-- The setup without a connection: the binding gives back the reference of `connect()`, and the
JS object is disconnected. -/
theorem Inv.run_setup_failure (h : s.Inv) {i error_code : Nat}
    (hi : s.world.queue[i]? = some (.setup false error_code)) {b : Counted ConnectionBinding}
    (hb : s.world.binding = some b) :
    SafeStep (s.runOn { s.world with queue := s.world.queue.eraseIdx i } b
      (.setup false error_code)) := by
  have hmem := List.mem_of_getElem? hi
  have hlib : s.world.library = .failed := h.queue.setup_failure _ hmem rfl rfl
  have hcode : error_code ≠ 0 := fun hz => by simpa using (h.queue.error_codes _ _ hmem).mpr hz
  have hnotnone := h.state_ne_none (by simp [hlib])
  obtain ⟨hclosed, hnone, hcon⟩ := callback_state (v := { b.value with connection := false })
    (h.closed b hb) (.onConnectionSetup error_code) trivial
  rw [runOn_of_runWork (rfl : runWork b (.setup false error_code) =
    { binding := (b.modify fun v => { v with connection := false }).release,
      dispatched := dispatchUnlessClosed { b.value with connection := false }
        (.onConnectionSetup error_code) })]
  refine h.run_release hi rfl (fun hx => by cases hx) hb (fun v => { v with connection := false }) rfl
    ?_ hclosed
    (fun hn => absurd hn (hnone hnotnone)) ?_
  · simp [ConnectionWorld.connectionHeld, hlib, beq_eq_decide]
  · intro hc
    rcases hcon hc with ⟨e, he, hz⟩ | ⟨_, he | ⟨e, he⟩⟩
    · cases he
      exact absurd hz hcode
    · cases he
    · cases he

/-- The setup with a connection: the binding takes it, on the reference of `connect()`, which now
waits for the shutdown. -/
theorem Inv.run_setup_success (h : s.Inv) {i error_code : Nat}
    (hi : s.world.queue[i]? = some (.setup true error_code)) {b : Counted ConnectionBinding}
    (hb : s.world.binding = some b) :
    SafeStep (s.runOn { s.world with queue := s.world.queue.eraseIdx i } b
      (.setup true error_code)) := by
  have hmem := List.mem_of_getElem? hi
  have hlib := h.queue.setup_success _ hmem rfl
  have hpend := s.world.pendingRefs_eraseIdx hi
  have hnone_ss : (s.world.queue.eraseIdx i).any ConnectionWork.isSetupSuccess = false :=
    any_eraseIdx_of_countP_le_one _ hi rfl h.queue.countP_setupSuccess_le
  -- the connection is held from here to the shutdown item, which waits if it was reported
  have hheld : { s.world with queue := s.world.queue.eraseIdx i }.connectionHeld = true := by
    rcases hlib with hlib | hlib
    · simp [ConnectionWorld.connectionHeld, hnone_ss, hlib]
    · have hsd := h.queue.shutdown_waits hlib (List.any_eq_true.mpr ⟨_, hmem, rfl⟩)
      rw [← any_eraseIdx_of_not ConnectionWork.isShutdown hi rfl] at hsd
      simp [ConnectionWorld.connectionHeld, hnone_ss, hlib, hsd]
  have hnotnone := h.state_ne_none (by rcases hlib with hlib | hlib <;> simp [hlib])
  obtain ⟨hclosed, hnone, -⟩ := callback_state (v := { b.value with connection := true })
    (h.closed b hb) (.onConnectionSetup error_code) trivial
  rw [runOn_of_runWork (rfl : runWork b (.setup true error_code) =
    { binding := some (b.modify fun v => { v with connection := true }),
      dispatched := dispatchUnlessClosed { b.value with connection := true }
        (.onConnectionSetup error_code) })]
  refine ⟨⟨h.queue.eraseIdx hi (fun hx => by cases hx), ?_, ?_, (fun hn => by cases hn), ?_, ?_,
    fun hn => absurd hn (hnone hnotnone), fun _ => hheld⟩, rfl, by simp⟩
  · -- the item held no reference of its own
    rintro b' hb'
    cases hb'
    have hp : { s.world with queue := s.world.queue.eraseIdx i }.pendingRefs = s.world.pendingRefs := by
      simpa [ConnectionWork.holdsRef] using hpend
    show b.count = (if b.value.is_closed then 0 else 1) +
      { s.world with queue := s.world.queue.eraseIdx i }.pendingRefs
    rw [hp]
    exact h.count b hb
  · rintro b' hb'
    cases hb'
    exact h.count_pos b hb
  · rintro b' hb'
    cases hb'
    exact (h.closed b hb).trans hclosed.symm
  · rintro b' hb'
    cases hb'
    exact hheld.symm

/-- The shutdown, once the connection is held: the binding gives it back with the reference of
`connect()`, and the JS object is disconnected. -/
theorem Inv.run_shutdown (h : s.Inv) {i error_code : Nat}
    (hi : s.world.queue[i]? = some (.shutdown error_code))
    (hss : (s.world.queue.eraseIdx i).any ConnectionWork.isSetupSuccess = false)
    {b : Counted ConnectionBinding} (hb : s.world.binding = some b) :
    SafeStep (s.runOn { s.world with queue := s.world.queue.eraseIdx i } b
      (.shutdown error_code)) := by
  have hmem := List.mem_of_getElem? hi
  have hlib : s.world.library = .shutDown := h.queue.shutdown _ hmem rfl
  have hconn : b.value.connection = true := by
    rw [h.connection b hb]
    rw [any_eraseIdx_of_not _ hi rfl] at hss
    have hsd : s.world.queue.any ConnectionWork.isShutdown = true :=
      List.any_eq_true.mpr ⟨_, hmem, rfl⟩
    simp [ConnectionWorld.connectionHeld, hss, hlib, hsd]
  have hnone_sd : (s.world.queue.eraseIdx i).any ConnectionWork.isShutdown = false :=
    any_eraseIdx_of_countP_le_one _ hi rfl h.queue.shutdowns
  have hnotnone := h.state_ne_none (by simp [hlib])
  obtain ⟨hclosed, hnone, hcon⟩ := callback_state (h.closed b hb)
    (.onDisconnect error_code) trivial
  have hwork : runWork b (.shutdown error_code) =
      { binding := (b.modify fun v => { v with connection := false }).release,
        dispatched := dispatchUnlessClosed b.value (.onDisconnect error_code) } := by
    simp [runWork, s_napi_event_stream_connection_on_connection_shutdown, hconn]
  rw [runOn_of_runWork hwork]
  refine h.run_release hi rfl (fun _ => hss) hb (fun v => { v with connection := false }) rfl ?_
    hclosed
    (fun hn => absurd hn (hnone hnotnone)) ?_
  · simp [ConnectionWorld.connectionHeld, hlib, hnone_sd]
  · intro hc
    rcases hcon hc with ⟨e, he, -⟩ | ⟨_, he | ⟨e, he⟩⟩ <;> cases he

/-! ### Every step -/

/-- The libuv thread may run the `i`-th item, a shutdown, while the setup item with the connection
still waits on the other threadsafe function. -/
def shutdownFirst (s : ConnectionSystem) (i : Nat) : Bool :=
  match s.world.queue[i]? with
  | some x =>
    decide (Runnable ConnectionWork.tsfn s.world.queue i x) && x.isShutdown &&
      (s.world.queue.eraseIdx i).any ConnectionWork.isSetupSuccess
  | none => false

/-- The oldest item is never a shutdown run first. -/
theorem Inv.shutdownFirst_zero (h : s.Inv) : s.shutdownFirst 0 = false := by
  unfold shutdownFirst
  cases hq : s.world.queue with
  | nil => rfl
  | cons x rest =>
    cases hsd : x.isShutdown
    · simp [hsd]
    · simp [hsd, h.queue.head_shutdown hq hsd]

theorem Inv.step_run (h : s.Inv) (ha : s.aborted = false) (i : Nat)
    (hsf : s.shutdownFirst i = false) : SafeStep (step s (.run i)) := by
  rw [step_of_not_aborted ha]
  dsimp only
  cases hi : s.world.queue[i]? with
  | none =>
    rw [runItem_of_none hi]
    exact ⟨h, ha, by simp⟩
  | some x =>
    by_cases hr : Runnable ConnectionWork.tsfn s.world.queue i x
    · obtain ⟨b, hb⟩ := h.live_of_queued hi
      rw [runItem_of_runnable hi hr hb]
      cases x with
      | setup connection error_code =>
        cases connection
        · exact h.run_setup_failure hi hb
        · exact h.run_setup_success hi hb
      | shutdown error_code =>
        have hss : (s.world.queue.eraseIdx i).any ConnectionWork.isSetupSuccess = false := by
          simpa [shutdownFirst, hi, hr, ConnectionWork.isShutdown] using hsf
        exact h.run_shutdown hi hss hb
      | protocolMessage =>
        exact h.run_message hi rfl rfl hb .onProtocolMessage (fun _ => rfl) rfl
      | messageFlushed send error_code =>
        exact h.run_message hi rfl rfl hb (.onSendProtocolMessageCompletion error_code)
          (fun _ => rfl) rfl
    · rw [runItem_of_not_runnable hi hr]
      exact ⟨h, ha, by simp⟩

/-- The shutdown run ahead of the setup finds no connection on the binding: the fatal assertion
aborts the process. -/
theorem Inv.step_run_shutdownFirst (h : s.Inv) (ha : s.aborted = false) {i : Nat}
    (hsf : s.shutdownFirst i = true) :
    (step s (.run i)).1.aborted = true ∧
      (step s (.run i)).2 = [.fault (.fatalAssert .shutdown)] := by
  unfold shutdownFirst at hsf
  cases hi : s.world.queue[i]? with
  | none => simp [hi] at hsf
  | some x =>
    simp only [hi, Bool.and_eq_true, decide_eq_true_eq] at hsf
    obtain ⟨⟨hr, hsd⟩, hss⟩ := hsf
    cases x with
    | shutdown error_code =>
      obtain ⟨b, hb⟩ := h.live_of_queued hi
      have hconn : b.value.connection = false := by
        rw [h.connection b hb]
        rw [any_eraseIdx_of_not _ hi rfl] at hss
        simp [ConnectionWorld.connectionHeld, hss]
      have hwork : runWork b (.shutdown error_code) =
          { binding := some b, fault := some (.fatalAssert .shutdown) } := by
        simp [runWork, s_napi_event_stream_connection_on_connection_shutdown, hconn]
      rw [step_of_not_aborted ha]
      dsimp only
      rw [runItem_of_runnable hi hr hb]
      simp [runOn, hwork, callback, BindingFault.aborts]
    | _ => simp [ConnectionWork.isShutdown] at hsd

/-- Every step the library's contract allows keeps the invariant and shows no fault, unless the
libuv thread runs the shutdown first. -/
theorem Inv.step_safe (h : s.Inv) (ha : s.aborted = false) {e : ConnectionEvent}
    (he : LibraryContract s e) (hsf : ∀ i, e = .run i → s.shutdownFirst i = false) :
    SafeStep (step s e) := by
  cases e with
  | close => exact h.step_close ha
  | connect options outcome => exact h.step_connect ha options outcome
  | sendProtocolMessage options outcome => exact h.step_send ha options outcome
  | onConnectionSetup connection error_code => exact h.step_setup ha he
  | onProtocolMessage stored => exact h.step_protocol_message ha he
  | onConnectionShutdown error_code => exact h.step_shutdown ha he
  | onMessageFlushed send error_code => exact h.step_flushed ha he
  | run i => exact h.step_run ha i (hsf i rfl)

/-- Every step the library's contract allows is safe, or runs the shutdown first and aborts. -/
theorem Inv.step_cases (h : s.Inv) (ha : s.aborted = false) {e : ConnectionEvent}
    (he : LibraryContract s e) :
    SafeStep (step s e) ∨
      ∃ i, e = .run i ∧ s.shutdownFirst i = true ∧ (step s e).1.aborted = true ∧
        (step s e).2 = [.fault (.fatalAssert .shutdown)] := by
  by_cases hsf : ∃ i, e = .run i ∧ s.shutdownFirst i = true
  · obtain ⟨i, rfl, hsf⟩ := hsf
    exact .inr ⟨i, rfl, hsf, h.step_run_shutdownFirst ha hsf⟩
  · refine .inl (h.step_safe ha he fun i hi => ?_)
    exact Bool.eq_false_iff.mpr fun h' => hsf ⟨i, hi, h'⟩

/-- Every step keeps a connection that has aborted aborted, and the invariant otherwise. -/
theorem inv_step (s : ConnectionSystem) (e : ConnectionEvent) (h : s.aborted = true ∨ s.Inv)
    (he : LibraryContract s e) : (step s e).1.aborted = true ∨ (step s e).1.Inv := by
  cases ha : s.aborted
  · have h := h.resolve_left (by simp [ha])
    rcases h.step_cases ha he with hsafe | ⟨_, _, _, habort, _⟩
    · exact .inr hsafe.1
    · exact .inl habort
  · left
    simp [step, ha]

/-- The connections that a run of events the library's contract allows reaches from a new JS
object. -/
def Reachable (s : ConnectionSystem) : Prop :=
  ∃ events, Machine.Allowed step LibraryContract init events ∧ (Machine.run step init events).1 = s

theorem reachable_inv (hr : Reachable s) : s.aborted = true ∨ s.Inv := by
  obtain ⟨events, hallowed, rfl⟩ := hr
  exact Machine.run_invariant_allowed step _ LibraryContract inv_step (.inr inv_init) hallowed

/-! ## What the binding guarantees -/

/-- No call, callback or item reads the freed binding, and the only fatal assertion that fails is
the shutdown callback's: exactly when the libuv thread runs the shutdown item while the setup item
with the connection still waits. -/
theorem binding_faults_iff (hr : Reachable s) (ha : s.aborted = false) {e : ConnectionEvent}
    (he : LibraryContract s e) :
    (∀ f, .fault f ∈ (step s e).2 → f = .fatalAssert .shutdown) ∧
      ((∃ f, .fault f ∈ (step s e).2) ↔ ∃ i, e = .run i ∧ s.shutdownFirst i = true) := by
  have h := (reachable_inv hr).resolve_left (by simp [ha])
  rcases h.step_cases ha he with hsafe | ⟨i, rfl, hsf, -, hout⟩
  · have hnot : ¬∃ i, e = .run i ∧ s.shutdownFirst i = true := by
      rintro ⟨i, rfl, hsf⟩
      have hout := (h.step_run_shutdownFirst ha hsf).2
      exact hsafe.2.2 _ (by rw [hout]; exact List.mem_singleton_self _)
    exact ⟨fun f hf => absurd hf (hsafe.2.2 f),
      iff_of_false (fun ⟨f, hf⟩ => hsafe.2.2 f hf) hnot⟩
  · rw [hout]
    exact ⟨fun f hf => by simpa using hf,
      iff_of_true ⟨_, List.mem_singleton_self _⟩ ⟨i, rfl, hsf⟩⟩

theorem binding_faults_shutdown_ahead :
    let s := (Machine.run step init
      [.connect true .accepted, .onConnectionSetup true 0, .onConnectionShutdown 0]).1
    Reachable s ∧ s.aborted = false ∧ LibraryContract s (.run 1) ∧
      (∀ f, .fault f ∈ (step s (.run 1)).2 → f = .fatalAssert .shutdown) ∧
        ((∃ f, .fault f ∈ (step s (.run 1)).2) ↔
          ∃ i, ConnectionEvent.run 1 = .run i ∧ s.shutdownFirst i = true) := by
  intro s
  have hr : Reachable s := ⟨_, by simp only [Machine.Allowed]; decide, rfl⟩
  have ha : s.aborted = false := by decide
  have he : LibraryContract s (.run 1) := trivial
  exact ⟨hr, ha, he, binding_faults_iff hr ha he⟩

/-- Run in the order they were queued, the items never fault: a run the library's contract allows,
in which the libuv thread always takes the oldest item, shows no fault. -/
theorem binding_fifo_no_fault {events : List ConnectionEvent}
    (hallowed : Machine.Allowed step LibraryContract init events)
    (hfifo : ∀ i, ConnectionEvent.run i ∈ events → i = 0) :
    ∀ f, ConnectionEffect.fault f ∉ (Machine.run step init events).2 := by
  have hstep : ∀ s e, (s.Inv ∧ s.aborted = false) →
      (LibraryContract s e ∧ ∀ i, e = .run i → i = 0) →
      ((step s e).1.Inv ∧ (step s e).1.aborted = false) ∧
        ∀ o ∈ (step s e).2, ∀ f, o ≠ .fault f := by
    rintro s e ⟨h, ha⟩ ⟨he, hzero⟩
    have hsafe := h.step_safe ha he fun i hi => by
      rw [hzero i hi]
      exact h.shutdownFirst_zero
    exact ⟨⟨hsafe.1, hsafe.2.1⟩, fun o ho f hof => hsafe.2.2 f (hof ▸ ho)⟩
  intro f hf
  exact Machine.run_outputs_allowed step _ _ _ hstep ⟨inv_init, rfl⟩
    (Machine.allowed_and_forall step hallowed fun e he i hi => hfifo i (hi ▸ he)) _ hf f rfl

theorem binding_fifo_lifecycle :
    let events : List ConnectionEvent :=
      [.connect true .accepted, .onConnectionSetup true 0, .run 0,
        .sendProtocolMessage true .accepted, .onProtocolMessage true, .onMessageFlushed 0 0,
        .run 0, .run 0, .onConnectionShutdown 0, .close, .run 0]
    Machine.Allowed step LibraryContract init events ∧
      (∀ i, ConnectionEvent.run i ∈ events → i = 0) ∧
      ∀ f, ConnectionEffect.fault f ∉ (Machine.run step init events).2 := by
  intro events
  have hallowed : Machine.Allowed step LibraryContract init events := by
    simp only [events, Machine.Allowed]
    decide
  have hfifo : ∀ i, ConnectionEvent.run i ∈ events → i = 0 := by
    intro i hi
    simp [events] at hi
    omega
  exact ⟨hallowed, hfifo, binding_fifo_no_fault hallowed hfifo⟩

/-- The binding is freed exactly when the JS object is closed and nothing else refers to it: never
while a callback, an item or a flush may still reach it, and never left once none can. -/
theorem binding_freed_iff (hr : Reachable s) (ha : s.aborted = false) :
    s.world.binding = none ↔ s.state = .Closed ∧ s.world.pendingRefs = 0 := by
  have h := (reachable_inv hr).resolve_left (by simp [ha])
  refine ⟨h.freed, fun ⟨hc, hz⟩ => ?_⟩
  cases hb : s.world.binding with
  | none => rfl
  | some b =>
    have hcount := h.count b hb
    have hpos := h.count_pos b hb
    have hclosed := (h.closed b hb).mpr hc
    simp [hclosed, hz] at hcount
    omega

/-- A `connect()` the library accepted owes a setup report, whose reference outlives `close()`:
the closed binding is kept for it. -/
theorem binding_freed_after_close :
    let s := (Machine.run step init [.connect true .accepted, .close]).1
    s.state = .Closed ∧ s.world.pendingRefs = 1 ∧ Reachable s ∧ s.aborted = false ∧
      (s.world.binding = none ↔ s.state = .Closed ∧ s.world.pendingRefs = 0) := by
  intro s
  have hr : Reachable s := ⟨_, by simp only [Machine.Allowed]; decide, rfl⟩
  have ha : s.aborted = false := by decide
  exact ⟨by decide, by decide, hr, ha, binding_freed_iff hr ha⟩

/-! ## After `close()` -/

/-- The items write no field of the binding but its connection. -/
theorem runWork_is_closed {b b' : Counted ConnectionBinding} {x : ConnectionWork}
    (h : (runWork b x).binding = some b') : b'.value.is_closed = b.value.is_closed := by
  cases x with
  | setup connection error_code =>
    cases connection
    · simp only [runWork, s_napi_on_event_stream_client_connection_setup, Bool.false_eq_true,
        if_false] at h
      rw [Counted.value_of_release_eq_some h]
      rfl
    · simp only [runWork, s_napi_on_event_stream_client_connection_setup, if_true,
        Option.some.injEq] at h
      rw [← h]
      rfl
  | shutdown error_code =>
    simp only [runWork, s_napi_event_stream_connection_on_connection_shutdown] at h
    split at h
    · cases h
      rfl
    · rw [Counted.value_of_release_eq_some h]
      rfl
  | protocolMessage => exact congrArg ConnectionBinding.is_closed (Counted.value_of_release_eq_some h)
  | messageFlushed send error_code =>
    exact congrArg ConnectionBinding.is_closed (Counted.value_of_release_eq_some h)

/-- On a closed binding no item calls JavaScript. -/
theorem runWork_dispatched_of_closed {b : Counted ConnectionBinding} (hc : b.value.is_closed = true)
    (x : ConnectionWork) : (runWork b x).dispatched = none := by
  cases x with
  | shutdown error_code =>
    simp only [runWork, s_napi_event_stream_connection_on_connection_shutdown]
    split <;> simp [dispatchUnlessClosed, hc]
  | _ =>
    simp [runWork, s_napi_on_event_stream_client_connection_setup,
      s_napi_event_stream_connection_on_protocol_message,
      s_napi_on_event_stream_client_connection_message_flushed, dispatchUnlessClosed, hc]

/-- A connection after `close()`: the JS object closed, and the binding, while it lives, closed
too, unless the process has aborted. -/
def ClosedQuiet (s : ConnectionSystem) : Prop :=
  s.state = .Closed ∧ (s.aborted = true ∨ ∀ b, s.world.binding = some b → b.value.is_closed = true)

/-- A callback of the library that writes no field of the binding. -/
theorem libraryCall_closedQuiet (hc : s.state = .Closed) {r : ConnectionWorld × Option BindingFault}
    (hr : ∀ b', r.1.binding = some b' → b'.value.is_closed = true) :
    (s.libraryCall r).1.ClosedQuiet ∧ ∀ o, .js o ∈ (s.libraryCall r).2 → o.IsFailure :=
  ⟨⟨hc, .inr hr⟩, by simp [libraryCall]⟩

/-- Every step keeps a closed connection closed, and what JavaScript sees of it is failed calls. -/
theorem ClosedQuiet.after_step (hq : s.ClosedQuiet) (e : ConnectionEvent) :
    (step s e).1.ClosedQuiet ∧ ∀ o, .js o ∈ (step s e).2 → o.IsFailure := by
  obtain ⟨hc, hq⟩ := hq
  cases ha : s.aborted
  · have hb := hq.resolve_left (by simp [ha])
    rw [step_of_not_aborted ha]
    cases e with
    | close =>
      dsimp only
      have hnot : ClientOutput.nativeClose ∉ (ClientConnection.close s.state).2 := by
        rw [ClientConnection.nativeClose_mem_close, hc]
        simp
      rw [jsCall_of_not_mem _ _ _ hnot]
      refine ⟨⟨?_, .inr hb⟩, ?_⟩ <;> simp [hc, ClientConnection.close, closeWith]
    | connect options outcome =>
      dsimp only
      have hnot : ¬(options = true ∧ s.state = .None) := by simp [hc]
      rw [jsCall_of_not_mem _ _ _ (by rw [ClientConnection.nativeConnect_mem_connect]; exact hnot),
        ClientConnection.connect_fst_of_not _ _ _ hnot]
      refine ⟨⟨hc, .inr hb⟩, ?_⟩
      cases options <;> simp [hc, ClientConnection.connect, ClientOutput.IsFailure]
    | sendProtocolMessage options outcome =>
      dsimp only
      rw [jsCall_of_not_mem _ _ _
        (by simp [ClientConnection.nativeSend_mem_sendProtocolMessage, hc])]
      refine ⟨⟨hc, .inr hb⟩, ?_⟩
      cases options <;>
        simp [hc, ClientConnection.sendProtocolMessage, sendWith, ClientConnection.isConnected,
          ClientOutput.IsFailure]
    | onConnectionSetup connection error_code =>
      dsimp only
      refine libraryCall_closedQuiet hc fun b' hb' => ?_
      unfold ConnectionWorld.s_aws_event_stream_rpc_client_on_connection_setup_fn at hb'
      split at hb' <;> exact hb b' hb'
    | onProtocolMessage stored =>
      dsimp only
      refine libraryCall_closedQuiet hc fun b' hb' => ?_
      unfold ConnectionWorld.s_aws_event_stream_rpc_client_connection_protocol_message_fn at hb'
      split at hb'
      · exact hb b' hb'
      · rename_i b hbs
        split at hb'
        · cases hb'
          exact hb b hbs
        · rw [Counted.value_of_release_eq_some hb']
          exact hb b hbs
    | onConnectionShutdown error_code =>
      dsimp only
      refine libraryCall_closedQuiet hc fun b' hb' => ?_
      unfold ConnectionWorld.s_aws_event_stream_rpc_client_on_connection_shutdown_fn at hb'
      split at hb' <;> exact hb b' hb'
    | onMessageFlushed send error_code =>
      dsimp only
      exact libraryCall_closedQuiet hc hb
    | run i =>
      dsimp only
      cases hi : s.world.queue[i]? with
      | none =>
        rw [runItem_of_none hi]
        exact ⟨⟨hc, .inr hb⟩, by simp⟩
      | some x =>
        by_cases hr : Runnable ConnectionWork.tsfn s.world.queue i x
        · cases hbs : s.world.binding with
          | none =>
            rw [runItem_of_freed hi hr hbs]
            exact ⟨⟨hc, .inr fun b' hb' => hb b' hb'⟩, by simp⟩
          | some b =>
            -- the item runs on the closed binding, which calls no JS callback
            rw [runItem_of_runnable hi hr hbs]
            have hclosed := hb b hbs
            refine ⟨⟨?_, .inr fun b' hb' => (runWork_is_closed hb').trans hclosed⟩, ?_⟩
            · simp [runOn, runWork_dispatched_of_closed hclosed, callback, hc]
            · simp [runOn, runWork_dispatched_of_closed hclosed, callback]
        · rw [runItem_of_not_runnable hi hr]
          exact ⟨⟨hc, .inr hb⟩, by simp⟩
  · -- nothing happens once the process has aborted
    simp [step, ha, ClosedQuiet, hc]

/-- After `close()`, JavaScript is never called back: whatever the library, the libuv thread and the
JS code do next, the object stays closed and all it does is fail the calls made on it. -/
theorem closed_connection_silent (hr : Reachable s) (hc : s.state = .Closed)
    (events : List ConnectionEvent) :
    (Machine.run step s events).1.state = .Closed ∧
      ∀ o, .js o ∈ (Machine.run step s events).2 → o.IsFailure := by
  have hq : s.ClosedQuiet := by
    refine ⟨hc, ?_⟩
    rcases reachable_inv hr with ha | h
    · exact .inl ha
    · exact .inr fun b hb => (h.closed b hb).mpr hc
  have hrun := Machine.run_invariant step ClosedQuiet (fun s e hs => (hs.after_step e).1) hq events
  refine ⟨hrun.1, fun o ho => ?_⟩
  exact Machine.run_outputs_allowed step ClosedQuiet (fun _ _ => True)
    (fun o => ∀ o', o = .js o' → o'.IsFailure)
    (fun s e hs _ => ⟨(hs.after_step e).1, fun o ho o' he => (hs.after_step e).2 o' (he ▸ ho)⟩) hq
    (Machine.allowed_of_forall step (fun _ _ => trivial) s events) _ ho o rfl

theorem closed_connection_silent_after_setup :
    let s := (Machine.run step init [.connect true .accepted, .close]).1
    let events : List ConnectionEvent :=
      [.onConnectionSetup true 0, .run 0, .connect true .accepted, .onConnectionShutdown 0, .run 0]
    Reachable s ∧ s.state = .Closed ∧
      (Machine.run step s events).1.state = .Closed ∧
        ∀ o, .js o ∈ (Machine.run step s events).2 → o.IsFailure := by
  intro s events
  have hr : Reachable s := ⟨_, by simp only [Machine.Allowed]; decide, rfl⟩
  have hc : s.state = .Closed := by decide
  exact ⟨hr, hc, closed_connection_silent hr hc events⟩

end ConnectionSystem

end AwsCrt
