import AwsCrt.Lib.Machine

/-!
# Eventstream connections and streams (`src/lib/native/eventstream.ts`)

`ClientConnection` and `ClientStream` guard the native binding with a state value, so that it sees
the calls of a handle in one order: in the words of the source, (1) `close()` may be called once
and nothing after it, (2) sending (and, for a connection, creating streams) only while connected
or activated, (3) `connect()` / `activate()` once, and first.

The native binding is the environment: its callbacks (`_s_on_connection_setup`,
`_s_on_disconnect`, …) are inputs, and whether a native call throws is part of the call.
Cancellation (`options.cancelController`) is not modelled.

* `ClientConnection.step`, `ClientStream.step`: every public call and native callback, with its
  outputs: the settling of the call's promise, an exception, a native call, or an event.
* `HandlePhase.next`: the order that constraints (1)–(3) allow for the native calls of a handle.
  `connection_native_calls`, `stream_native_calls`: on every run, the native calls are in that
  order.
* `connection_fails_after_close`, `stream_fails_after_close`: after `close()`, with the native
  binding silent once closed (it checks `is_closed`), every call fails and nothing else happens.
* The members differ in two places. At the end of the native object a connection becomes
  `Disconnected` and never uses the native handle again (`connection_idle_after_disconnect`),
  while a stream's `_s_on_stream_ended` leaves it `Activated`, so it keeps passing `sendMessage`
  to the native binding (the example after it). `activate()` without options ends a stream for
  good (`activate_without_options_ends`), while `connect()` without options leaves a connection
  able to connect (the example after it).
-/

namespace AwsCrt

/-- What a call on a connection or a stream does that can be seen: its promise is resolved, or
rejected with a message or with `io.error_code_to_string(errorCode)`; an exception is thrown; the
native binding is called; or an event is emitted on the next tick. -/
inductive ClientOutput
  | resolve
  | reject (error : String)
  | rejectCode (errorCode : Nat)
  | throw (error : String)
  | nativeConnect
  | nativeSend
  | nativeNewStream
  | nativeClose
  | disconnection (errorCode : Nat)
  | protocolMessage
  | ended
  | message
  deriving DecidableEq, Repr

namespace ClientOutput

/-- A call that failed: a rejected promise or an exception. -/
def IsFailure : ClientOutput → Prop
  | .reject _ | .rejectCode _ | .throw _ => True
  | _ => False

/-- A call of the native binding. -/
def IsNative : ClientOutput → Prop
  | .nativeConnect | .nativeSend | .nativeNewStream | .nativeClose => True
  | _ => False

end ClientOutput

/-! ## What the members share -/

section Shared

variable {S : Type} [DecidableEq S]

/-- `close()`: the first call closes the native handle. -/
def closeWith (closed : S) (state : S) : S × List ClientOutput :=
  if state ≠ closed then (closed, [.nativeClose]) else (state, [])

/-- `sendProtocolMessage(options)` and `sendMessage(options)`: the options, then the state, then the
native send, whose exception rejects the promise. -/
def sendWith (invalidOptions stateError : String) (allowed : Bool) (options : Bool)
    (nativeError : Option String) : List ClientOutput :=
  if !options then [.reject invalidOptions]
  else if !allowed then [.reject stateError]
  else
    match nativeError with
    | some e => [.nativeSend, .reject e]
    | none => [.nativeSend]

/-- `_s_on_connection_setup` and `_s_on_stream_activated`: success only from the opening state; a
failure ends a handle that is not closed. -/
def settleWith (opening opened ended closed : S) (state : S) (errorCode : Nat) :
    S × List ClientOutput :=
  if errorCode = 0 ∧ state = opening then (opened, [.resolve])
  else (if state ≠ closed then ended else state, [.rejectCode errorCode])

/-- The completion callbacks of the sends. -/
def completion (errorCode : Nat) : List ClientOutput :=
  if errorCode = 0 then [.resolve] else [.rejectCode errorCode]

theorem closeWith_fst (closed state : S) : (closeWith closed state).1 = closed := by
  unfold closeWith
  split <;> simp_all

theorem closeWith_snd (closed state : S) : ∀ o ∈ (closeWith closed state).2, o = .nativeClose := by
  unfold closeWith
  split <;> simp

/-- Outside the opening state a native settle callback only fails. -/
theorem settleWith_of_ne {opening opened ended closed state : S} (h : state ≠ opening)
    (errorCode : Nat) :
    settleWith opening opened ended closed state errorCode =
      (if state ≠ closed then ended else state, [.rejectCode errorCode]) := by
  simp [settleWith, h]

end Shared

/-! ## Connections -/

/-- `ClientConnectionState`. -/
inductive ClientConnectionState
  | None
  | Connecting
  | Connected
  | Disconnected
  | Closed
  deriving DecidableEq, Repr

/-- The number of a state, as error messages print it. -/
def ClientConnectionState.toNat : ClientConnectionState → Nat
  | .None => 0
  | .Connecting => 1
  | .Connected => 2
  | .Disconnected => 3
  | .Closed => 4

/-- A public call on a connection, with whether its options were given and the exception of its
native call, if any; or a callback of the native binding. -/
inductive ClientConnectionCall
  | close
  | connect (options : Bool) (nativeError : Option String)
  | sendProtocolMessage (options : Bool) (nativeError : Option String)
  | newStream
  | onConnectionSetup (errorCode : Nat)
  | onDisconnect (errorCode : Nat)
  | onProtocolMessage
  | onSendProtocolMessageCompletion (errorCode : Nat)
  deriving DecidableEq, Repr

namespace ClientConnection

/-- `isConnected()`. -/
def isConnected (state : ClientConnectionState) : Bool := state = .Connected

/-- `close()`. -/
def close (state : ClientConnectionState) : ClientConnectionState × List ClientOutput :=
  closeWith .Closed state

/-- `connect(options)`: the options are checked before the state. -/
def connect (state : ClientConnectionState) (options : Bool) (nativeError : Option String) :
    ClientConnectionState × List ClientOutput :=
  if !options then (state, [.reject "Invalid options passed to event stream ClientConnection.connect"])
  else if state ≠ .None then
    (state,
      [.reject s!"Event stream connection in a state ({state.toNat}) where connect() is not allowed."])
  else
    match nativeError with
    | some e => (.Disconnected, [.nativeConnect, .reject e])
    | none => (.Connecting, [.nativeConnect])

/-- `sendProtocolMessage(options)`. -/
def sendProtocolMessage (state : ClientConnectionState) (options : Bool)
    (nativeError : Option String) : List ClientOutput :=
  sendWith "Invalid options passed to event stream ClientConnection.sendProtocolMessage"
    s!"Event stream connection in a state ({state.toNat}) where sending protocol messages is not allowed."
    (isConnected state) options nativeError

/-- `newStream()`. -/
def newStream (state : ClientConnectionState) : List ClientOutput :=
  if !isConnected state then
    [.throw s!"Event stream connection in a state ({state.toNat}) where creating new streams is forbidden."]
  else [.nativeNewStream]

/-- `_s_on_connection_setup`. -/
def onConnectionSetup (state : ClientConnectionState) (errorCode : Nat) :
    ClientConnectionState × List ClientOutput :=
  settleWith .Connecting .Connected .Disconnected .Closed state errorCode

/-- `_s_on_disconnect`: the connection is no longer connected. -/
def onDisconnect (state : ClientConnectionState) (errorCode : Nat) :
    ClientConnectionState × List ClientOutput :=
  (if state ≠ .Closed then .Disconnected else state, [.disconnection errorCode])

/-- One call or callback. -/
def step (state : ClientConnectionState) : ClientConnectionCall → ClientConnectionState × List ClientOutput
  | .close => close state
  | .connect options nativeError => connect state options nativeError
  | .sendProtocolMessage options nativeError =>
    (state, sendProtocolMessage state options nativeError)
  | .newStream => (state, newStream state)
  | .onConnectionSetup errorCode => onConnectionSetup state errorCode
  | .onDisconnect errorCode => onDisconnect state errorCode
  | .onProtocolMessage => (state, [.protocolMessage])
  | .onSendProtocolMessageCompletion errorCode => (state, completion errorCode)

end ClientConnection

/-! ## Streams -/

/-- `ClientStreamState`. -/
inductive ClientStreamState
  | None
  | Activating
  | Activated
  | Ended
  | Closed
  deriving DecidableEq, Repr

/-- The number of a state, as error messages print it. -/
def ClientStreamState.toNat : ClientStreamState → Nat
  | .None => 0
  | .Activating => 1
  | .Activated => 2
  | .Ended => 3
  | .Closed => 4

/-- A public call on a stream, or a callback of the native binding. -/
inductive ClientStreamCall
  | close
  | activate (options : Bool) (nativeError : Option String)
  | sendMessage (options : Bool) (nativeError : Option String)
  | onStreamActivated (errorCode : Nat)
  | onStreamEnded
  | onStreamMessage
  | onStreamSendMessageCompletion (errorCode : Nat)
  deriving DecidableEq, Repr

namespace ClientStream

/-- `isActive()`. -/
def isActive (state : ClientStreamState) : Bool := state = .Activated

/-- `close()`. -/
def close (state : ClientStreamState) : ClientStreamState × List ClientOutput :=
  closeWith .Closed state

/-- `activate(options)`: the state is checked before the options, and missing options end the
stream as a failed native activation does. -/
def activate (state : ClientStreamState) (options : Bool) (nativeError : Option String) :
    ClientStreamState × List ClientOutput :=
  if state ≠ .None then
    (state, [.reject s!"Event stream in a state ({state.toNat}) where activation is not allowed."])
  else if !options then (.Ended, [.reject "Invalid options passed to ClientStream.activate"])
  else
    match nativeError with
    | some e => (.Ended, [.nativeConnect, .reject e])
    | none => (.Activating, [.nativeConnect])

/-- `sendMessage(options)`. -/
def sendMessage (state : ClientStreamState) (options : Bool) (nativeError : Option String) :
    List ClientOutput :=
  sendWith "Invalid options passed to ClientStream.sendMessage"
    s!"Event stream in a state ({state.toNat}) where sending messages is not allowed."
    (state = .Activated) options nativeError

/-- `_s_on_stream_activated`. -/
def onStreamActivated (state : ClientStreamState) (errorCode : Nat) :
    ClientStreamState × List ClientOutput :=
  settleWith .Activating .Activated .Ended .Closed state errorCode

/-- `_s_on_stream_ended`: the event only; the state is left as it is. -/
def onStreamEnded (state : ClientStreamState) : ClientStreamState × List ClientOutput :=
  (state, [.ended])

/-- One call or callback. -/
def step (state : ClientStreamState) : ClientStreamCall → ClientStreamState × List ClientOutput
  | .close => close state
  | .activate options nativeError => activate state options nativeError
  | .sendMessage options nativeError => (state, sendMessage state options nativeError)
  | .onStreamActivated errorCode => onStreamActivated state errorCode
  | .onStreamEnded => onStreamEnded state
  | .onStreamMessage => (state, [.message])
  | .onStreamSendMessageCompletion errorCode => (state, completion errorCode)

end ClientStream

/-! ## The order of native calls -/

/-- The phases of a native handle under constraints (1)–(3). -/
inductive HandlePhase
  | fresh
  | opened
  | closed
  deriving DecidableEq, Repr

/-- Constraints (1)–(3) as an automaton over the outputs: the handle is opened at most once and
before anything else, used only once opened, and closed at most once, with nothing after; other
outputs leave the phase alone. -/
def HandlePhase.next (p : HandlePhase) (o : ClientOutput) : Option HandlePhase :=
  match o, p with
  | .nativeConnect, .fresh => some .opened
  | .nativeConnect, _ => none
  | .nativeSend, .opened => some .opened
  | .nativeSend, _ => none
  | .nativeNewStream, .opened => some .opened
  | .nativeNewStream, _ => none
  | .nativeClose, .fresh => some .closed
  | .nativeClose, .opened => some .closed
  | .nativeClose, .closed => none
  | _, p => some p

namespace HandlePhase

theorem next_quiet {o : ClientOutput} (ho : ¬o.IsNative) (p : HandlePhase) : p.next o = some p := by
  cases o <;> simp only [ClientOutput.IsNative, not_true_eq_false] at ho <;> cases p <;> rfl

/-- Outputs that call nothing native leave the phase alone. -/
theorem foldlM_quiet {l : List ClientOutput} (hl : ∀ o ∈ l, ¬o.IsNative) (p : HandlePhase) :
    l.foldlM next p = some p := by
  induction l with
  | nil => rfl
  | cons o l ih =>
    rw [List.foldlM_cons, next_quiet (hl o (by simp))]
    exact ih (fun o' ho' => hl o' (by simp [ho']))

end HandlePhase

theorem sendWith_quiet_of_not_allowed (invalidOptions stateError : String) (options : Bool)
    (nativeError : Option String) :
    ∀ o ∈ sendWith invalidOptions stateError false options nativeError, ¬o.IsNative := by
  unfold sendWith
  split <;> simp [ClientOutput.IsNative]

/-- A send that is allowed calls the native send once, and otherwise fails. -/
theorem sendWith_allowed (invalidOptions stateError : String) (options : Bool)
    (nativeError : Option String) :
    (sendWith invalidOptions stateError true options nativeError).foldlM HandlePhase.next .opened =
      some .opened := by
  unfold sendWith
  split
  · rfl
  · cases nativeError <;> rfl

theorem completion_quiet (errorCode : Nat) : ∀ o ∈ completion errorCode, ¬o.IsNative := by
  unfold completion
  split <;> simp [ClientOutput.IsNative]

/-- The phase of a connection's native handle in each state: opened from the call of the native
connect; a disconnected connection may or may not have called it. -/
def connectionPhase : ClientConnectionState → HandlePhase → Prop
  | .None, p => p = .fresh
  | .Connecting, p => p = .opened
  | .Connected, p => p = .opened
  | .Disconnected, p => p ≠ .closed
  | .Closed, p => p = .closed

theorem connectionPhase_ne_closed {state : ClientConnectionState} {p : HandlePhase}
    (h : connectionPhase state p) (hs : state ≠ .Closed) : p ≠ .closed := by
  cases state <;> simp_all [connectionPhase]

/-- Every call takes the native handle along `HandlePhase.next`. -/
theorem connection_step_phase {state : ClientConnectionState} {p : HandlePhase}
    (h : connectionPhase state p) (call : ClientConnectionCall) :
    ∃ q, (ClientConnection.step state call).2.foldlM HandlePhase.next p = some q ∧
      connectionPhase (ClientConnection.step state call).1 q := by
  cases call with
  | close =>
    simp only [ClientConnection.step, ClientConnection.close, closeWith]
    split
    · -- the first `close()` closes the handle from a phase that is not closed
      rename_i hs
      have hp := connectionPhase_ne_closed h hs
      refine ⟨.closed, ?_, rfl⟩
      cases p <;> simp_all [HandlePhase.next]
    · exact ⟨p, rfl, h⟩
  | connect options nativeError =>
    simp only [ClientConnection.step, ClientConnection.connect]
    split
    · exact ⟨p, rfl, h⟩
    split
    · exact ⟨p, rfl, h⟩
    · -- a fresh connection calls the native connect
      rename_i hs
      obtain rfl : state = .None := by simpa using hs
      obtain rfl : p = .fresh := h
      cases nativeError <;> exact ⟨.opened, rfl, by simp [connectionPhase]⟩
  | sendProtocolMessage options nativeError =>
    simp only [ClientConnection.step, ClientConnection.sendProtocolMessage]
    cases hc : ClientConnection.isConnected state
    · exact ⟨p, HandlePhase.foldlM_quiet (sendWith_quiet_of_not_allowed _ _ _ _) p, h⟩
    · obtain rfl : state = .Connected := by simpa [ClientConnection.isConnected] using hc
      obtain rfl : p = .opened := h
      exact ⟨.opened, sendWith_allowed _ _ _ _, rfl⟩
  | newStream =>
    simp only [ClientConnection.step, ClientConnection.newStream]
    split
    · exact ⟨p, rfl, h⟩
    · rename_i hc
      obtain rfl : state = .Connected := by simpa [ClientConnection.isConnected] using hc
      obtain rfl : p = .opened := h
      exact ⟨.opened, rfl, rfl⟩
  | onConnectionSetup errorCode =>
    simp only [ClientConnection.step, ClientConnection.onConnectionSetup, settleWith]
    split
    · rename_i hs
      obtain rfl := hs.2
      exact ⟨p, rfl, h⟩
    · refine ⟨p, rfl, ?_⟩
      split
      · exact connectionPhase_ne_closed h ‹_›
      · exact h
  | onDisconnect errorCode =>
    refine ⟨p, rfl, ?_⟩
    simp only [ClientConnection.step, ClientConnection.onDisconnect]
    split
    · exact connectionPhase_ne_closed h ‹_›
    · exact h
  | onProtocolMessage => exact ⟨p, rfl, h⟩
  | onSendProtocolMessageCompletion errorCode =>
    exact ⟨p, HandlePhase.foldlM_quiet (completion_quiet errorCode) p, h⟩

/-- The phase of a stream's native handle in each state. -/
def streamPhase : ClientStreamState → HandlePhase → Prop
  | .None, p => p = .fresh
  | .Activating, p => p = .opened
  | .Activated, p => p = .opened
  | .Ended, p => p ≠ .closed
  | .Closed, p => p = .closed

theorem streamPhase_ne_closed {state : ClientStreamState} {p : HandlePhase}
    (h : streamPhase state p) (hs : state ≠ .Closed) : p ≠ .closed := by
  cases state <;> simp_all [streamPhase]

theorem stream_step_phase {state : ClientStreamState} {p : HandlePhase}
    (h : streamPhase state p) (call : ClientStreamCall) :
    ∃ q, (ClientStream.step state call).2.foldlM HandlePhase.next p = some q ∧
      streamPhase (ClientStream.step state call).1 q := by
  cases call with
  | close =>
    simp only [ClientStream.step, ClientStream.close, closeWith]
    split
    · rename_i hs
      have hp := streamPhase_ne_closed h hs
      refine ⟨.closed, ?_, rfl⟩
      cases p <;> simp_all [HandlePhase.next]
    · exact ⟨p, rfl, h⟩
  | activate options nativeError =>
    simp only [ClientStream.step, ClientStream.activate]
    split
    · exact ⟨p, rfl, h⟩
    rename_i hs
    obtain rfl : state = .None := by simpa using hs
    obtain rfl : p = .fresh := h
    split
    · -- missing options end the stream before anything native
      exact ⟨.fresh, rfl, by simp [streamPhase]⟩
    · cases nativeError <;> exact ⟨.opened, rfl, by simp [streamPhase]⟩
  | sendMessage options nativeError =>
    simp only [ClientStream.step, ClientStream.sendMessage]
    by_cases hs : state = .Activated
    · subst hs
      obtain rfl : p = .opened := h
      exact ⟨.opened, sendWith_allowed _ _ _ _, rfl⟩
    · simp only [hs, decide_false]
      exact ⟨p, HandlePhase.foldlM_quiet (sendWith_quiet_of_not_allowed _ _ _ _) p, h⟩
  | onStreamActivated errorCode =>
    simp only [ClientStream.step, ClientStream.onStreamActivated, settleWith]
    split
    · rename_i hs
      obtain rfl := hs.2
      exact ⟨p, rfl, h⟩
    · refine ⟨p, rfl, ?_⟩
      split
      · exact streamPhase_ne_closed h ‹_›
      · exact h
  | onStreamEnded => exact ⟨p, rfl, h⟩
  | onStreamMessage => exact ⟨p, rfl, h⟩
  | onStreamSendMessageCompletion errorCode =>
    exact ⟨p, HandlePhase.foldlM_quiet (completion_quiet errorCode) p, h⟩

/-- The native calls among `outs`, in order, keep constraints (1)–(3). -/
def HandlePhase.Follows (outs : List ClientOutput) : Prop := (outs.foldlM next .fresh).isSome

/-- On every run of a connection, its native calls keep constraints (1)–(3): at most one
`connect`, and before anything else; sends and new streams only after it; at most one close,
and nothing after it. -/
theorem connection_native_calls (calls : List ClientConnectionCall) :
    HandlePhase.Follows (Machine.run ClientConnection.step .None calls).2 := by
  obtain ⟨q, hq, -⟩ := Machine.run_accepted ClientConnection.step HandlePhase.next connectionPhase
    (fun _ _ call h => connection_step_phase h call) (s := .None) (p := .fresh) rfl calls
  simp [HandlePhase.Follows, hq]

/-- The same for a stream, from its creation. -/
theorem stream_native_calls (calls : List ClientStreamCall) :
    HandlePhase.Follows (Machine.run ClientStream.step .None calls).2 := by
  obtain ⟨q, hq, -⟩ := Machine.run_accepted ClientStream.step HandlePhase.next streamPhase
    (fun _ _ call h => stream_step_phase h call) (s := .None) (p := .fresh) rfl calls
  simp [HandlePhase.Follows, hq]

/-! ## After `close()` -/

/-- A callback of the native binding. -/
def ClientConnectionCall.IsCallback : ClientConnectionCall → Prop
  | .onConnectionSetup _ | .onDisconnect _ | .onProtocolMessage
  | .onSendProtocolMessageCompletion _ => True
  | _ => False

/-- A callback of the native binding. -/
def ClientStreamCall.IsCallback : ClientStreamCall → Prop
  | .onStreamActivated _ | .onStreamEnded | .onStreamMessage | .onStreamSendMessageCompletion _ => True
  | _ => False

/-- The native binding calls back only while the binding is not closed
(`!binding->is_closed`). -/
def ClientConnection.QuietWhenClosed (state : ClientConnectionState) (call : ClientConnectionCall) :
    Prop :=
  state = .Closed → ¬call.IsCallback

/-- The same for streams. -/
def ClientStream.QuietWhenClosed (state : ClientStreamState) (call : ClientStreamCall) : Prop :=
  state = .Closed → ¬call.IsCallback

theorem sendWith_failure (invalidOptions stateError : String) (options : Bool)
    (nativeError : Option String) :
    ∀ o ∈ sendWith invalidOptions stateError false options nativeError, o.IsFailure := by
  unfold sendWith
  split <;> simp [ClientOutput.IsFailure]

theorem connection_closed_step {call : ClientConnectionCall} (hc : ¬call.IsCallback) :
    (ClientConnection.step .Closed call).1 = .Closed ∧
      ∀ o ∈ (ClientConnection.step .Closed call).2, o.IsFailure := by
  cases call with
  | close => simp [ClientConnection.step, ClientConnection.close, closeWith]
  | connect options nativeError =>
    cases options <;> simp [ClientConnection.step, ClientConnection.connect, ClientOutput.IsFailure]
  | sendProtocolMessage options nativeError =>
    exact ⟨rfl, sendWith_failure _ _ _ _⟩
  | newStream =>
    simp [ClientConnection.step, ClientConnection.newStream, ClientConnection.isConnected,
      ClientOutput.IsFailure]
  | _ => simp [ClientConnectionCall.IsCallback] at hc

theorem stream_closed_step {call : ClientStreamCall} (hc : ¬call.IsCallback) :
    (ClientStream.step .Closed call).1 = .Closed ∧
      ∀ o ∈ (ClientStream.step .Closed call).2, o.IsFailure := by
  cases call with
  | close => simp [ClientStream.step, ClientStream.close, closeWith]
  | activate options nativeError =>
    simp [ClientStream.step, ClientStream.activate, ClientOutput.IsFailure]
  | sendMessage options nativeError => exact ⟨rfl, sendWith_failure _ _ _ _⟩
  | _ => simp [ClientStreamCall.IsCallback] at hc

/-- Once `close()` has been called, whatever the state before it, every later call on the
connection fails and nothing else happens, as long as the native binding keeps quiet on a closed
connection. -/
theorem connection_fails_after_close (state : ClientConnectionState)
    (calls : List ClientConnectionCall)
    (hcalls : Machine.Allowed ClientConnection.step ClientConnection.QuietWhenClosed
      (ClientConnection.close state).1 calls) :
    ∀ o ∈ (Machine.run ClientConnection.step (ClientConnection.close state).1 calls).2,
      o.IsFailure := by
  have hclosed : (ClientConnection.close state).1 = .Closed := closeWith_fst _ _
  refine Machine.run_outputs_allowed _ (· = .Closed) _ _ ?_ hclosed hcalls
  rintro s call rfl hc
  exact connection_closed_step (hc rfl)

theorem connection_fails_after_close_calls :
    let calls : List ClientConnectionCall := [.connect true none, .newStream, .close]
    Machine.Allowed ClientConnection.step ClientConnection.QuietWhenClosed
        (ClientConnection.close .Connected).1 calls ∧
      ∀ o ∈ (Machine.run ClientConnection.step (ClientConnection.close .Connected).1 calls).2,
        o.IsFailure := by
  intro calls
  have h : Machine.Allowed ClientConnection.step ClientConnection.QuietWhenClosed
      (ClientConnection.close .Connected).1 calls := by
    simp [calls, Machine.Allowed, ClientConnection.QuietWhenClosed,
      ClientConnectionCall.IsCallback]
  exact ⟨h, connection_fails_after_close .Connected calls h⟩

/-- The same for a stream. -/
theorem stream_fails_after_close (state : ClientStreamState) (calls : List ClientStreamCall)
    (hcalls : Machine.Allowed ClientStream.step ClientStream.QuietWhenClosed
      (ClientStream.close state).1 calls) :
    ∀ o ∈ (Machine.run ClientStream.step (ClientStream.close state).1 calls).2, o.IsFailure := by
  have hclosed : (ClientStream.close state).1 = .Closed := closeWith_fst _ _
  refine Machine.run_outputs_allowed _ (· = .Closed) _ _ ?_ hclosed hcalls
  rintro s call rfl hc
  exact stream_closed_step (hc rfl)

theorem stream_fails_after_close_calls :
    let calls : List ClientStreamCall := [.activate true none, .sendMessage true none, .close]
    Machine.Allowed ClientStream.step ClientStream.QuietWhenClosed
        (ClientStream.close .Activated).1 calls ∧
      ∀ o ∈ (Machine.run ClientStream.step (ClientStream.close .Activated).1 calls).2,
        o.IsFailure := by
  intro calls
  have h : Machine.Allowed ClientStream.step ClientStream.QuietWhenClosed
      (ClientStream.close .Activated).1 calls := by
    simp [calls, Machine.Allowed, ClientStream.QuietWhenClosed, ClientStreamCall.IsCallback]
  exact ⟨h, stream_fails_after_close .Activated calls h⟩

/-! ## Where the members differ -/

/-- The native calls that use a handle: opening it, sending, creating streams. -/
def ClientOutput.IsUse (o : ClientOutput) : Prop :=
  o = .nativeConnect ∨ o = .nativeSend ∨ o = .nativeNewStream

theorem ClientOutput.IsUse.isNative {o : ClientOutput} (h : o.IsUse) : o.IsNative := by
  rcases h with rfl | rfl | rfl <;> trivial

/-- From `Disconnected` or `Closed`, every call is refused or only reported, and the
connection stays in one of the two. -/
theorem connection_done_step {state : ClientConnectionState}
    (hs : state = .Disconnected ∨ state = .Closed) (call : ClientConnectionCall) :
    ((ClientConnection.step state call).1 = .Disconnected ∨
        (ClientConnection.step state call).1 = .Closed) ∧
      ∀ o ∈ (ClientConnection.step state call).2, ¬o.IsUse := by
  have hconn : ClientConnection.isConnected state = false := by rcases hs with rfl | rfl <;> rfl
  have hfresh : state ≠ .None := by rcases hs with rfl | rfl <;> simp
  have hopening : state ≠ .Connecting := by rcases hs with rfl | rfl <;> simp
  cases call with
  | close =>
    refine ⟨.inr (closeWith_fst _ _), fun o ho => ?_⟩
    rw [closeWith_snd _ _ o ho]
    simp [ClientOutput.IsUse]
  | connect options nativeError =>
    -- only a fresh connection calls the native connect
    cases options <;>
      simp [ClientConnection.step, ClientConnection.connect, hfresh, hs, ClientOutput.IsUse]
  | sendProtocolMessage options nativeError =>
    refine ⟨hs, fun o ho huse => ?_⟩
    simp only [ClientConnection.step, ClientConnection.sendProtocolMessage, hconn] at ho
    exact sendWith_quiet_of_not_allowed _ _ _ _ o ho huse.isNative
  | newStream =>
    simp [ClientConnection.step, ClientConnection.newStream, hconn, hs, ClientOutput.IsUse]
  | onConnectionSetup errorCode =>
    simp only [ClientConnection.step, ClientConnection.onConnectionSetup,
      settleWith_of_ne hopening]
    refine ⟨?_, by simp [ClientOutput.IsUse]⟩
    split <;> simp_all
  | onDisconnect errorCode =>
    simp only [ClientConnection.step, ClientConnection.onDisconnect]
    refine ⟨?_, by simp [ClientOutput.IsUse]⟩
    split <;> simp_all
  | onProtocolMessage => exact ⟨hs, by simp [ClientConnection.step, ClientOutput.IsUse]⟩
  | onSendProtocolMessageCompletion errorCode =>
    exact ⟨hs, fun o ho huse => completion_quiet errorCode o ho huse.isNative⟩

/-- A connection whose native object has disconnected never opens, sends or creates a stream
again, whatever comes next. -/
theorem connection_idle_after_disconnect (state : ClientConnectionState) (errorCode : Nat)
    (calls : List ClientConnectionCall) :
    ∀ o ∈ (Machine.run ClientConnection.step
      (ClientConnection.onDisconnect state errorCode).1 calls).2, ¬o.IsUse := by
  have hs : (ClientConnection.onDisconnect state errorCode).1 = .Disconnected ∨
      (ClientConnection.onDisconnect state errorCode).1 = .Closed := by
    simp only [ClientConnection.onDisconnect]
    split <;> simp_all
  exact Machine.run_outputs_allowed _ (fun s => s = .Disconnected ∨ s = .Closed)
    (fun _ _ => True) _ (fun _ call hs _ => connection_done_step hs call) hs
    (Machine.allowed_of_forall _ (fun _ _ => trivial) _ calls)

theorem connection_idle_after_disconnect_message :
    ClientOutput.protocolMessage ∈ (Machine.run ClientConnection.step
      (ClientConnection.onDisconnect .Connected 0).1 [.connect true none, .onProtocolMessage]).2 ∧
    ¬ClientOutput.protocolMessage.IsUse :=
  ⟨by decide, connection_idle_after_disconnect .Connected 0 [.connect true none, .onProtocolMessage]
    _ (by decide)⟩

/-- A stream's `_s_on_stream_ended` leaves it `Activated`, so `sendMessage` still reaches the
native send; a connection's `_s_on_disconnect` makes it `Disconnected`, and
`sendProtocolMessage` is rejected. -/
example :
    Machine.run ClientStream.step .None
        [.activate true none, .onStreamActivated 0, .onStreamEnded, .sendMessage true none] =
      (.Activated, [.nativeConnect, .resolve, .ended, .nativeSend]) ∧
    Machine.run ClientConnection.step .None
        [.connect true none, .onConnectionSetup 0, .onDisconnect 0, .sendProtocolMessage true none] =
      (.Disconnected, [.nativeConnect, .resolve, .disconnection 0,
        .reject "Event stream connection in a state (3) where sending protocol messages is not allowed."]) :=
  ⟨rfl, rfl⟩

/-- From `Ended` or `Closed` a stream stays in one of the two and never activates. -/
theorem stream_ended_step {state : ClientStreamState} (hs : state = .Ended ∨ state = .Closed)
    (call : ClientStreamCall) :
    ((ClientStream.step state call).1 = .Ended ∨ (ClientStream.step state call).1 = .Closed) ∧
      ∀ o ∈ (ClientStream.step state call).2, o ≠ .nativeConnect := by
  have hfresh : state ≠ .None := by rcases hs with rfl | rfl <;> simp
  have hopening : state ≠ .Activating := by rcases hs with rfl | rfl <;> simp
  have hactive : state ≠ .Activated := by rcases hs with rfl | rfl <;> simp
  -- a native connect is a native call, which the quiet outputs are not
  have hquiet : ∀ {l : List ClientOutput}, (∀ o ∈ l, ¬o.IsNative) → ∀ o ∈ l, o ≠ .nativeConnect :=
    fun hl o ho h => hl o ho (h ▸ trivial)
  cases call with
  | close =>
    refine ⟨.inr (closeWith_fst _ _), fun o ho => ?_⟩
    rw [closeWith_snd _ _ o ho]
    simp
  | activate options nativeError =>
    simp [ClientStream.step, ClientStream.activate, hfresh, hs]
  | sendMessage options nativeError =>
    refine ⟨hs, hquiet ?_⟩
    simp only [ClientStream.step, ClientStream.sendMessage, hactive, decide_false]
    exact sendWith_quiet_of_not_allowed _ _ _ _
  | onStreamActivated errorCode =>
    simp only [ClientStream.step, ClientStream.onStreamActivated, settleWith_of_ne hopening]
    refine ⟨?_, by simp⟩
    split <;> simp_all
  | onStreamEnded => exact ⟨hs, by simp [ClientStream.step, ClientStream.onStreamEnded]⟩
  | onStreamMessage => exact ⟨hs, by simp [ClientStream.step]⟩
  | onStreamSendMessageCompletion errorCode => exact ⟨hs, hquiet (completion_quiet errorCode)⟩

/-- `activate()` without options ends a fresh stream for good: no later call activates it. -/
theorem activate_without_options_ends (nativeError : Option String)
    (calls : List ClientStreamCall) :
    ∀ o ∈ (Machine.run ClientStream.step (ClientStream.activate .None false nativeError).1 calls).2,
      o ≠ .nativeConnect :=
  Machine.run_outputs_allowed _ (fun s => s = .Ended ∨ s = .Closed) (fun _ _ => True) _
    (fun _ call hs _ => stream_ended_step hs call) (.inl rfl)
    (Machine.allowed_of_forall _ (fun _ _ => trivial) _ calls)

theorem activate_without_options_ends_message :
    ClientOutput.message ∈ (Machine.run ClientStream.step (ClientStream.activate .None false none).1
      [.activate true none, .onStreamMessage]).2 ∧ ClientOutput.message ≠ .nativeConnect :=
  ⟨by decide, activate_without_options_ends none [.activate true none, .onStreamMessage] _
    (by decide)⟩

/-- `connect()` without options leaves a connection fresh: the next `connect()` opens it. -/
example :
    Machine.run ClientConnection.step .None [.connect false none, .connect true none] =
      (.Connecting, [.reject "Invalid options passed to event stream ClientConnection.connect",
        .nativeConnect]) :=
  rfl

end AwsCrt
