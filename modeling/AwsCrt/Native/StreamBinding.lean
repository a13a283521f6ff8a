import AwsCrt.Native.EventStreamBinding

/-!
# The native side of an eventstream stream (`src/source/event_stream.c`)

`ClientStream` (`src/lib/native/eventstream.ts`) drives a native binding,
`struct aws_event_stream_client_stream_binding`, through `activate`, `send_message` and `close`.
The binding holds the stream's continuation from aws-c-event-stream, whose callbacks run on the
event loop thread and only queue items on the binding's threadsafe functions (`on_stream_activated`,
`on_stream_ended`, `on_stream_message`, and one `on_message_flushed` per send). The binding is
reference counted (`AwsCrt.Lib.SharedRef`): JavaScript holds one reference from `new` to `close()`,
`activate()` one until the libuv thread runs a failed activation or the end of the stream, and every
queued message and every send one each. The item of a successful activation holds none: it runs on
the reference of `activate()` (`/* we already have a ref from the original activate call */`), which
the item of the stream's end gives back.

* **The code**: the binding's functions (`StreamWorld`, with the source's names) and
  `StreamSystem.step`, which runs the JS `ClientStream` over them as `ConnectionSystem.step` does for
  connections. The library is an input that its contract bounds (`StreamContract`): one flush of the
  activation after an accepted `activate`, messages and the end of the stream only after a
  successful one, one flush for each send.
* `Inv`: the binding's count is JavaScript's reference plus the pending ones (`pendingRefs`), the
  binding is closed exactly when the JS object is, and the queue holds what the library's reports put
  there (`QueueAgrees`). Every step keeps it, whatever order the libuv thread runs the items in
  (`inv_step`), and `reachable_inv` carries it over every run.
* `stream_faults_iff`: no call, callback or item reads the freed binding but one: the successful
  activation's item, run once the JS object is closed and no reference is pending, that is, after the
  item of the stream's end, queued behind it on another threadsafe function, gave the last one back.
  `stream_fifo_no_fault`: run in the order they were queued, the items never fault, for the end of
  the stream then waits behind the successful activation (`ActivationWaits`).
* `Inv.ended_after_failure_undercounts`: the binding relies on the library never closing a
  continuation whose activation failed; if it did, the binding would hold one reference fewer than it
  has holders, and the example after it frees the binding under the open JS object.
-/

namespace AwsCrt

open SharedRef

/-! ## The binding and what reaches it -/

/-- The fields of `struct aws_event_stream_client_stream_binding` that its lifecycle reads, beside
its `ref_count`: `is_closed`, and whether `stream`, the continuation, is still held. -/
structure StreamBinding where
  is_closed : Bool
  stream : Bool
  deriving DecidableEq, Repr

/-- The threadsafe functions of a stream: the three of the binding, and the one each
`send_message` creates for its flush. -/
inductive StreamTsfn
  | on_stream_activated
  | on_stream_ended
  | on_stream_message
  | on_message_flushed (send : Nat)
  deriving DecidableEq, Repr

/-- What the event loop thread hands the libuv thread: the `aws_event_stream_activation_event_data`
of the activation's flush, the binding itself at the stream's end, an
`aws_event_stream_stream_message_event`, and the flushed callback data of a send. -/
inductive StreamWork
  | activation (error_code : Nat)
  | ended
  | message
  | messageFlushed (send : Nat) (error_code : Nat)
  deriving DecidableEq, Repr

namespace StreamWork

/-- The threadsafe function the item is queued on. -/
def tsfn : StreamWork → StreamTsfn
  | .activation _ => .on_stream_activated
  | .ended => .on_stream_ended
  | .message => .on_stream_message
  | .messageFlushed send _ => .on_message_flushed send

/-- The item holds a reference on the binding: all but a successful activation. -/
def holdsRef : StreamWork → Bool
  | .activation error_code => error_code != 0
  | _ => true

def isActivation : StreamWork → Bool
  | .activation _ => true
  | _ => false

def isEnded : StreamWork → Bool
  | .ended => true
  | _ => false

end StreamWork

/-- What aws-c-event-stream has reported of the stream's continuation. -/
inductive ContinuationPhase
  /-- No `activate` accepted. -/
  | idle
  /-- `aws_event_stream_rpc_client_continuation_activate` accepted; the flush is not reported. -/
  | activating
  /-- The activation message was flushed; the continuation is open. -/
  | active
  /-- The flush of the activation message failed. -/
  | failed
  /-- The continuation was closed (`on_continuation_closed`). -/
  | closed
  deriving DecidableEq, Repr

/-- The library owes the report for which the reference of `activate()` waits: the failed flush or
the continuation's closing. -/
def ContinuationPhase.owesReport : ContinuationPhase → Bool
  | .activating | .active => true
  | _ => false

/-- The native side of a stream: the binding, `none` once `on_zero` has freed it; what the library
has reported; the sends whose flush it still owes; the number of sends so far; and the items queued
for the libuv thread, oldest first. -/
structure StreamWorld where
  binding : Option (Counted StreamBinding)
  library : ContinuationPhase
  owed : List Nat
  sends : Nat
  queue : List StreamWork
  deriving DecidableEq, Repr

/-- How `activate` goes after its checks: the activation options cannot be read
(`s_aws_extract_activation_options_from_js`), the threadsafe function of the activation callback
cannot be created, the library refuses at once with the strings of `aws_last_error()`, or takes
the activation. -/
inductive ActivateOutcome
  | unreadableOptions
  | noCallback
  | rejected (error_str debug_str : String)
  | accepted
  deriving DecidableEq, Repr

/-- What a call of the stream binding from JavaScript leaves: the native side, the exception it
throws, and a fault on the way. -/
structure StreamResult where
  world : StreamWorld
  thrown : Option String := none
  fault : Option BindingFault := none

/-- What the libuv thread's run of an item leaves: the binding and the JS callback it calls. -/
structure StreamHandled where
  binding : Option (Counted StreamBinding)
  dispatched : Option ClientStreamCall := none

/-- The JS callback is called only while the binding is not closed (`!binding->is_closed`). -/
def dispatchUnlessStreamClosed (b : StreamBinding) (call : ClientStreamCall) :
    Option ClientStreamCall :=
  if b.is_closed then none else some call

namespace StreamWorld

/-- A successful `aws_napi_event_stream_client_stream_new`: the allocation reference, and the
continuation of `aws_event_stream_rpc_client_connection_new_stream`. -/
def init : StreamWorld := ⟨some ⟨⟨false, true⟩, 1⟩, .idle, [], 0, []⟩

/-! ### Calls from JavaScript, on the libuv thread -/

/-- `aws_napi_event_stream_client_stream_close`: `s_close_stream_binding` marks the binding closed,
the continuation is released, and so is the allocation reference. -/
def aws_napi_event_stream_client_stream_close (w : StreamWorld) : StreamResult :=
  match w.binding with
  | none => { world := w, fault := some .useAfterFree }
  | some b =>
    { world :=
        { w with binding := (b.modify fun v => { v with is_closed := true, stream := false }).release } }

/-- `aws_napi_event_stream_client_stream_activate`: a reference for the activation, given back when
the library refuses at once. -/
def aws_napi_event_stream_client_stream_activate (w : StreamWorld) (outcome : ActivateOutcome) :
    StreamResult :=
  match w.binding with
  | none => { world := w, fault := some .useAfterFree }
  | some b =>
    if b.value.is_closed || !b.value.stream then
      { world := w,
        thrown := some "aws_napi_event_stream_client_stream_activate - stream already closed" }
    else
      match outcome with
      | .unreadableOptions =>
        { world := w,
          thrown := some "aws_napi_event_stream_client_stream_activate - unable to unpack activation options from JS object" }
      | .noCallback =>
        { world := w,
          thrown := some "aws_napi_event_stream_client_stream_activate - failed to create threadsafe callback function" }
      | .rejected error_str debug_str =>
        { world := { w with binding := b.acquire.release },
          thrown := some s!"aws_napi_event_stream_client_stream_activate - synchronous failure invoking aws_event_stream_rpc_client_continuation_activate : ({error_str} - {debug_str})" }
      | .accepted => { world := { w with binding := some b.acquire, library := .activating } }

/-- `aws_napi_event_stream_client_stream_send_message`: the flushed callback data takes a
reference, which its destruction gives back when the send fails at once. -/
def aws_napi_event_stream_client_stream_send_message (w : StreamWorld) (outcome : SendOutcome) :
    StreamResult :=
  match w.binding with
  | none => { world := w, fault := some .useAfterFree }
  | some b =>
    if b.value.is_closed || !b.value.stream then
      { world := w,
        thrown := some "aws_napi_event_stream_client_stream_send_message - connection already closed" }
    else
      match outcome with
      | .invalidMessage =>
        { world := w,
          thrown := some "aws_napi_event_stream_client_stream_send_message - message options with invalid message parameter" }
      | .unreadableMessage =>
        { world := { w with binding := b.acquire.release },
          thrown := some "aws_napi_event_stream_client_stream_send_message - failed to read message properties from JS object" }
      | .noCallback =>
        { world := { w with binding := b.acquire.release },
          thrown := some "aws_napi_event_stream_client_stream_send_message - failed to create threadsafe callback function" }
      | .rejected =>
        { world := { w with binding := b.acquire.release },
          thrown := some "aws_napi_event_stream_client_stream_send_message - synchronous error invoking native send_message" }
      | .accepted =>
        { world :=
            { w with
              binding := some b.acquire
              owed := w.owed ++ [w.sends]
              sends := w.sends + 1 } }

/-! ### Callbacks of the library, on its event loop thread -/

/-- `s_aws_event_stream_on_stream_activation_flush`: the flush goes to the libuv thread on the
binding's `on_stream_activated`, with the reference of `activate()`. -/
def s_aws_event_stream_on_stream_activation_flush (w : StreamWorld) (error_code : Nat) :
    StreamWorld × Option BindingFault :=
  match w.binding with
  | none => (w, some .useAfterFree)
  | some _ =>
    ({ w with
        library := if error_code = 0 then .active else .failed
        queue := w.queue ++ [.activation error_code] }, none)

/-- `s_event_stream_on_stream_message`: the event takes a reference; a message whose storage cannot
be made is dropped with it. -/
def s_event_stream_on_stream_message (w : StreamWorld) (stored : Bool) :
    StreamWorld × Option BindingFault :=
  match w.binding with
  | none => (w, some .useAfterFree)
  | some b =>
    if stored then ({ w with binding := some b.acquire, queue := w.queue ++ [.message] }, none)
    else ({ w with binding := b.acquire.release }, none)

/-- `s_event_stream_on_stream_ended`: the binding itself goes to the libuv thread on its
`on_stream_ended`. -/
def s_event_stream_on_stream_ended (w : StreamWorld) : StreamWorld × Option BindingFault :=
  match w.binding with
  | none => (w, some .useAfterFree)
  | some _ => ({ w with library := .closed, queue := w.queue ++ [.ended] }, none)

/-- `s_aws_event_stream_on_stream_message_flushed`: only the send's callback data is read. -/
def s_aws_event_stream_on_stream_message_flushed (w : StreamWorld) (send error_code : Nat) :
    StreamWorld :=
  { w with owed := w.owed.erase send, queue := w.queue ++ [.messageFlushed send error_code] }

end StreamWorld

/-! ### The items, on the libuv thread -/

/-- `s_napi_on_event_stream_client_stream_activation`: a failed activation gives back the reference
of `activate()`; a successful one leaves it to the stream's end. -/
def s_napi_on_event_stream_client_stream_activation (b : Counted StreamBinding) (error_code : Nat) :
    StreamHandled :=
  { binding := if error_code ≠ 0 then b.release else some b,
    dispatched := dispatchUnlessStreamClosed b.value (.onStreamActivated error_code) }

/-- `s_napi_event_stream_on_stream_ended`: the continuation is released, and the reference of
`activate()` with it. -/
def s_napi_event_stream_on_stream_ended (b : Counted StreamBinding) : StreamHandled :=
  { binding := (b.modify fun v => { v with stream := false }).release,
    dispatched := dispatchUnlessStreamClosed b.value .onStreamEnded }

/-- `s_napi_event_stream_on_stream_message`; the event's destruction releases its reference. -/
def s_napi_event_stream_on_stream_message (b : Counted StreamBinding) : StreamHandled :=
  { binding := b.release, dispatched := dispatchUnlessStreamClosed b.value .onStreamMessage }

/-- `s_napi_on_event_stream_client_stream_message_flushed`; the callback data's destruction
releases its reference. -/
def s_napi_on_event_stream_client_stream_message_flushed (b : Counted StreamBinding)
    (error_code : Nat) : StreamHandled :=
  { binding := b.release,
    dispatched := dispatchUnlessStreamClosed b.value (.onStreamSendMessageCompletion error_code) }

/-- The libuv thread runs an item on the live binding. -/
def runStreamWork (b : Counted StreamBinding) : StreamWork → StreamHandled
  | .activation error_code => s_napi_on_event_stream_client_stream_activation b error_code
  | .ended => s_napi_event_stream_on_stream_ended b
  | .message => s_napi_event_stream_on_stream_message b
  | .messageFlushed _ error_code => s_napi_on_event_stream_client_stream_message_flushed b error_code

/-! ## The stream: the JS object over its binding -/

/-- A stream: the state of the JS `ClientStream` and its native side. -/
structure StreamSystem where
  state : ClientStreamState
  world : StreamWorld
  deriving DecidableEq, Repr

/-- What reaches a stream: a call on the JS object, with what the library answers; a callback of the
library; or the libuv thread running the `i`-th queued item. -/
inductive StreamEvent
  | close
  | activate (options : Bool) (outcome : ActivateOutcome)
  | sendMessage (options : Bool) (outcome : SendOutcome)
  | onActivationFlush (error_code : Nat)
  | onStreamMessage (stored : Bool)
  | onStreamEnded
  | onMessageFlushed (send error_code : Nat)
  | run (i : Nat)
  deriving DecidableEq, Repr

/-- What can be seen: what the JS object does, or a fault of the binding. -/
inductive StreamEffect
  | js (o : ClientOutput)
  | fault (f : BindingFault)
  deriving DecidableEq, Repr

/-- What aws-c-event-stream promises a continuation: one flush of the activation message after an
accepted `activate`; messages, and its closing, only after the activation was flushed; one flush for
each send it took. -/
def StreamContract (s : StreamSystem) : StreamEvent → Prop
  | .onActivationFlush _ => s.world.library = .activating
  | .onStreamMessage _ => s.world.library = .active
  | .onStreamEnded => s.world.library = .active
  | .onMessageFlushed send _ => send ∈ s.world.owed
  | _ => True

instance (s : StreamSystem) : (e : StreamEvent) → Decidable (StreamContract s e)
  | .onActivationFlush _ => inferInstanceAs (Decidable (s.world.library = .activating))
  | .onStreamMessage _ => inferInstanceAs (Decidable (s.world.library = .active))
  | .onStreamEnded => inferInstanceAs (Decidable (s.world.library = .active))
  | .onMessageFlushed send _ => inferInstanceAs (Decidable (send ∈ s.world.owed))
  | .close | .activate .. | .sendMessage .. | .run _ => isTrue trivial

namespace StreamSystem

/-- The JS object right after `new ClientStream(connection)`. -/
def init : StreamSystem := ⟨.None, StreamWorld.init⟩

/-- A call on the JS object, `ts nativeError`, that calls the binding's `native` when its outputs
hold the native call `call`; the binding's exception reaches it as `nativeError`. -/
def jsCall (s : StreamSystem) (ts : Option String → ClientStreamState × List ClientOutput)
    (call : ClientOutput) (native : StreamWorld → StreamResult) : StreamSystem × List StreamEffect :=
  if call ∈ (ts none).2 then
    let r := native s.world
    let t := ts r.thrown
    (⟨t.1, r.world⟩, t.2.map .js ++ r.fault.toList.map .fault)
  else
    let t := ts none
    ({ s with state := t.1 }, t.2.map .js)

/-- A callback of the library, which JavaScript does not see. -/
def libraryCall (s : StreamSystem) (r : StreamWorld × Option BindingFault) :
    StreamSystem × List StreamEffect :=
  ({ s with world := r.1 }, r.2.toList.map .fault)

/-- The JS object runs the callback an item dispatches, if any. -/
def callback (state : ClientStreamState) (call : Option ClientStreamCall) :
    ClientStreamState × List ClientOutput :=
  (call.map (ClientStream.step state)).getD (state, [])

/-- The libuv thread runs the item `x`, taken out of the queue of `w`, on the live binding `b`. -/
def runOn (s : StreamSystem) (w : StreamWorld) (b : Counted StreamBinding) (x : StreamWork) :
    StreamSystem × List StreamEffect :=
  let h := runStreamWork b x
  let t := callback s.state h.dispatched
  (⟨t.1, { w with binding := h.binding }⟩, t.2.map .js)

/-- The libuv thread runs the `i`-th item, if no older item waits on its threadsafe function. -/
def runItem (s : StreamSystem) (i : Nat) : StreamSystem × List StreamEffect :=
  match s.world.queue[i]? with
  | none => (s, [])
  | some x =>
    if Runnable StreamWork.tsfn s.world.queue i x then
      let w := { s.world with queue := s.world.queue.eraseIdx i }
      match w.binding with
      | none => ({ s with world := w }, [.fault .useAfterFree])
      | some b => s.runOn w b x
    else (s, [])

/-- One event. -/
def step (s : StreamSystem) : StreamEvent → StreamSystem × List StreamEffect
  | .close =>
    s.jsCall (fun _ => ClientStream.close s.state) .nativeClose
      StreamWorld.aws_napi_event_stream_client_stream_close
  | .activate options outcome =>
    s.jsCall (ClientStream.activate s.state options) .nativeConnect
      (·.aws_napi_event_stream_client_stream_activate outcome)
  | .sendMessage options outcome =>
    s.jsCall (fun e => (s.state, ClientStream.sendMessage s.state options e)) .nativeSend
      (·.aws_napi_event_stream_client_stream_send_message outcome)
  | .onActivationFlush error_code =>
    s.libraryCall (s.world.s_aws_event_stream_on_stream_activation_flush error_code)
  | .onStreamMessage stored => s.libraryCall (s.world.s_event_stream_on_stream_message stored)
  | .onStreamEnded => s.libraryCall s.world.s_event_stream_on_stream_ended
  | .onMessageFlushed send error_code =>
    s.libraryCall (s.world.s_aws_event_stream_on_stream_message_flushed send error_code, none)
  | .run i => s.runItem i

end StreamSystem

/-! ## What the JS object asks of the binding -/

namespace ClientStream

theorem nativeClose_mem_close (state : ClientStreamState) :
    .nativeClose ∈ (close state).2 ↔ state ≠ .Closed := by
  unfold close closeWith
  split <;> simp_all

theorem nativeConnect_mem_activate (state : ClientStreamState) (options : Bool)
    (nativeError : Option String) :
    .nativeConnect ∈ (activate state options nativeError).2 ↔ options = true ∧ state = .None := by
  unfold activate
  split
  · simp_all
  · split
    · simp_all
    · split <;> simp_all

/-- `activate()` always leaves `None`, and closes nothing. -/
theorem activate_fst (state : ClientStreamState) (options : Bool) (nativeError : Option String) :
    (activate state options nativeError).1 ≠ .None ∧
      ((activate state options nativeError).1 = .Closed ↔ state = .Closed) := by
  unfold activate
  split
  · simp_all
  · rename_i hnone
    have hstate : state = .None := by simpa using hnone
    split
    · simp [hstate]
    · split <;> simp [hstate]

theorem activate_fst_none (nativeError : Option String) :
    (activate .None true nativeError).1 = if nativeError.isSome then .Ended else .Activating := by
  cases nativeError <;> rfl

theorem nativeSend_mem_sendMessage (state : ClientStreamState) (options : Bool)
    (nativeError : Option String) :
    .nativeSend ∈ sendMessage state options nativeError ↔ options = true ∧ state = .Activated := by
  unfold sendMessage sendWith
  split
  · simp_all
  · split
    · simp_all
    · split <;> simp_all

/-- A callback the binding makes leaves a stream that is not closed open, and past `None`. -/
theorem step_callback {state : ClientStreamState} (hstate : state ≠ .Closed)
    {call : ClientStreamCall} (hcall : call.IsCallback) :
    (step state call).1 ≠ .Closed ∧ (step state call).1 ≠ .None ∨ (step state call).1 = state := by
  cases call with
  | onStreamActivated error_code =>
    left
    simp only [step, onStreamActivated, settleWith]
    split
    · simp
    · simp
  | onStreamEnded => exact .inr rfl
  | onStreamMessage => exact .inr rfl
  | onStreamSendMessageCompletion error_code => exact .inr rfl
  | _ => simp [ClientStreamCall.IsCallback] at hcall

end ClientStream

/-! ## The invariant -/

namespace StreamWorld

/-- The binding's references other than JavaScript's: `activate()`'s while the library owes its
report, one for each queued item that holds one, and one for each send the library has not flushed. -/
def pendingRefs (w : StreamWorld) : Nat :=
  (if w.library.owesReport then 1 else 0) + w.queue.countP StreamWork.holdsRef + w.owed.length

/-- The items that the library's reports so far have queued: the activation's flush at most once,
after the library reported it, successful exactly when the continuation went on; the end of the
stream after the library reported it, and behind the activation. -/
structure QueueAgrees (library : ContinuationPhase) (queue : List StreamWork) : Prop where
  activation : ∀ error_code, .activation error_code ∈ queue →
    (error_code = 0 ∧ (library = .active ∨ library = .closed)) ∨
      (error_code ≠ 0 ∧ library = .failed)
  ended : .ended ∈ queue → library = .closed
  activations : queue.countP StreamWork.isActivation ≤ 1
  ordered : queue.Pairwise fun x y => x.isEnded = true → y.isActivation = false

namespace QueueAgrees

variable {library : ContinuationPhase} {queue : List StreamWork}

theorem nil : QueueAgrees library [] :=
  ⟨by simp, by simp, by simp, List.Pairwise.nil⟩

/-- Before the library reports the flush, nothing of the continuation is queued but flushes of
sends and messages. -/
theorem no_report_of_activating (h : QueueAgrees .activating queue) :
    ∀ x ∈ queue, x.isActivation = false ∧ x.isEnded = false := by
  intro x hx
  cases x with
  | activation error_code =>
    rcases h.activation error_code hx with ⟨-, hl | hl⟩ | ⟨-, hl⟩ <;> cases hl
  | ended => cases h.ended hx
  | message => exact ⟨rfl, rfl⟩
  | messageFlushed send error_code => exact ⟨rfl, rfl⟩

/-- The library reports the flush of the activation. -/
theorem report_flush (h : QueueAgrees .activating queue) (error_code : Nat) :
    QueueAgrees (if error_code = 0 then .active else .failed)
      (queue ++ [.activation error_code]) := by
  have hnone := h.no_report_of_activating
  have hzero : queue.countP StreamWork.isActivation = 0 :=
    List.countP_eq_zero.mpr fun x hx => by simp [(hnone x hx).1]
  refine ⟨?_, ?_, ?_, ?_⟩
  · intro e hmem
    rcases List.mem_append.mp hmem with hx | hx
    · exact absurd (hnone _ hx).1 (by simp [StreamWork.isActivation])
    · simp only [List.mem_singleton, StreamWork.activation.injEq] at hx
      subst hx
      by_cases hz : e = 0 <;> simp [hz]
  · intro hmem
    rcases List.mem_append.mp hmem with hx | hx
    · exact absurd (hnone _ hx).2 (by simp [StreamWork.isEnded])
    · simp at hx
  · simp [List.countP_append, hzero, StreamWork.isActivation]
  · refine List.pairwise_append.mpr ⟨h.ordered, by simp, ?_⟩
    intro x hx y _ he
    rw [(hnone x hx).2] at he
    cases he

/-- The library reports the continuation's closing. -/
theorem report_ended (h : QueueAgrees .active queue) :
    QueueAgrees .closed (queue ++ [.ended]) := by
  refine ⟨?_, fun _ => rfl, ?_, ?_⟩
  · intro e hmem
    rcases List.mem_append.mp hmem with hx | hx
    · rcases h.activation e hx with ⟨hz, -⟩ | ⟨-, hl⟩
      · exact .inl ⟨hz, .inr rfl⟩
      · cases hl
    · simp at hx
  · simpa [List.countP_append, StreamWork.isActivation] using h.activations
  · exact List.pairwise_append.mpr ⟨h.ordered, by simp, by simp [StreamWork.isActivation]⟩

/-- A message or a flush is queued. -/
theorem append_other (h : QueueAgrees library queue) {x : StreamWork}
    (hx : x.isActivation = false) (he : x.isEnded = false) : QueueAgrees library (queue ++ [x]) := by
  refine ⟨?_, ?_, ?_, ?_⟩
  · intro e hmem
    rcases List.mem_append.mp hmem with hy | hy
    · exact h.activation e hy
    · rw [List.mem_singleton] at hy
      rw [← hy] at hx
      cases hx
  · intro hmem
    rcases List.mem_append.mp hmem with hy | hy
    · exact h.ended hy
    · rw [List.mem_singleton] at hy
      rw [← hy] at he
      cases he
  · simpa [List.countP_append, hx] using h.activations
  · exact List.pairwise_append.mpr ⟨h.ordered, by simp, by simp [hx]⟩

/-- The libuv thread takes an item out, in whatever order. -/
theorem eraseIdx (h : QueueAgrees library queue) {i : Nat} {x : StreamWork}
    (hi : queue[i]? = some x) : QueueAgrees library (queue.eraseIdx i) := by
  have hmem : ∀ y ∈ queue.eraseIdx i, y ∈ queue := fun _ hy => List.mem_of_mem_eraseIdx hy
  refine ⟨fun e he => h.activation e (hmem _ he), fun he => h.ended (hmem _ he), ?_,
    h.ordered.sublist (List.eraseIdx_sublist _ _)⟩
  have := SharedRef.countP_eraseIdx StreamWork.isActivation hi
  have := h.activations
  omega

end QueueAgrees

theorem binding_eq_self {w : StreamWorld} {b : Counted StreamBinding} (hb : w.binding = some b) :
    { w with binding := some b } = w := by
  cases w
  simp_all

@[simp] theorem pendingRefs_binding (w : StreamWorld) (b : Option (Counted StreamBinding)) :
    { w with binding := b }.pendingRefs = w.pendingRefs := rfl

/-- Running an item takes it out of the pending references if it held one. -/
theorem pendingRefs_eraseIdx (w : StreamWorld) {i : Nat} {x : StreamWork}
    (hi : w.queue[i]? = some x) :
    { w with queue := w.queue.eraseIdx i }.pendingRefs + (if x.holdsRef then 1 else 0) =
      w.pendingRefs := by
  have := SharedRef.countP_eraseIdx StreamWork.holdsRef hi
  simp only [pendingRefs]
  omega

/-- Running the successful activation leaves the pending references as they were. -/
theorem pendingRefs_eraseIdx_activation (w : StreamWorld) {i : Nat}
    (hi : w.queue[i]? = some (.activation 0)) :
    { w with queue := w.queue.eraseIdx i }.pendingRefs = w.pendingRefs := by
  simpa [StreamWork.holdsRef] using w.pendingRefs_eraseIdx hi

/-- A queued item that holds a reference keeps the binding referenced. -/
theorem pendingRefs_pos_of_holdsRef {w : StreamWorld} {x : StreamWork} (hx : x ∈ w.queue)
    (hh : x.holdsRef = true) : 0 < w.pendingRefs := by
  have := List.countP_pos_iff.mpr ⟨x, hx, hh⟩
  simp only [pendingRefs]
  omega

/-! ### What the calls from JavaScript leave of the library and the queue -/

theorem aws_napi_event_stream_client_stream_close_world (w : StreamWorld) :
    w.aws_napi_event_stream_client_stream_close.world.queue = w.queue ∧
      w.aws_napi_event_stream_client_stream_close.world.library = w.library := by
  unfold aws_napi_event_stream_client_stream_close
  split <;> exact ⟨rfl, rfl⟩

/-- Only an accepted `activate` moves the library, to `activating`. -/
theorem aws_napi_event_stream_client_stream_activate_world (w : StreamWorld)
    (outcome : ActivateOutcome) :
    (w.aws_napi_event_stream_client_stream_activate outcome).world.queue = w.queue ∧
      ((w.aws_napi_event_stream_client_stream_activate outcome).world.library = w.library ∨
        (w.aws_napi_event_stream_client_stream_activate outcome).world.library = .activating) := by
  unfold aws_napi_event_stream_client_stream_activate
  split
  · exact ⟨rfl, .inl rfl⟩
  · split
    · exact ⟨rfl, .inl rfl⟩
    · cases outcome with
      | accepted => exact ⟨rfl, .inr rfl⟩
      | _ => exact ⟨rfl, .inl rfl⟩

theorem aws_napi_event_stream_client_stream_send_message_world (w : StreamWorld)
    (outcome : SendOutcome) :
    (w.aws_napi_event_stream_client_stream_send_message outcome).world.queue = w.queue ∧
      (w.aws_napi_event_stream_client_stream_send_message outcome).world.library = w.library := by
  unfold aws_napi_event_stream_client_stream_send_message
  split
  · exact ⟨rfl, rfl⟩
  · split
    · exact ⟨rfl, rfl⟩
    · cases outcome <;> exact ⟨rfl, rfl⟩

end StreamWorld

namespace StreamSystem

/-- What every reachable stream satisfies. -/
structure Inv (s : StreamSystem) : Prop where
  queue : StreamWorld.QueueAgrees s.world.library s.world.queue
  /-- A live binding is counted once for JavaScript until `close()`, and once for each pending
  reference. -/
  count : ∀ b, s.world.binding = some b →
    b.count = (if b.value.is_closed then 0 else 1) + s.world.pendingRefs
  count_pos : ∀ b, s.world.binding = some b → 1 ≤ b.count
  /-- A freed binding was closed, and nothing refers to it. -/
  freed : s.world.binding = none → s.state = .Closed ∧ s.world.pendingRefs = 0
  closed : ∀ b, s.world.binding = some b → (b.value.is_closed = true ↔ s.state = .Closed)
  fresh : s.state = .None → s.world.library = .idle ∧ s.world.queue = [] ∧ s.world.owed = []

theorem inv_init : init.Inv where
  queue := .nil
  count := by
    rintro b hb
    cases hb
    rfl
  count_pos := by
    rintro b hb
    cases hb
    decide
  freed := by simp [init, StreamWorld.init]
  closed := by
    rintro b hb
    cases hb
    decide
  fresh := fun _ => ⟨rfl, rfl, rfl⟩

variable {s : StreamSystem}

/-- The binding is live while the JS object is open or a reference is pending. -/
theorem Inv.live (h : s.Inv) (hp : s.state ≠ .Closed ∨ 0 < s.world.pendingRefs) :
    ∃ b, s.world.binding = some b := by
  cases hb : s.world.binding with
  | none =>
    obtain ⟨hc, hz⟩ := h.freed hb
    rcases hp with hp | hp <;> simp_all
  | some b => exact ⟨b, rfl⟩

/-- The binding is freed exactly when the JS object is closed and nothing refers to it. -/
theorem Inv.freed_iff (h : s.Inv) :
    s.world.binding = none ↔ s.state = .Closed ∧ s.world.pendingRefs = 0 := by
  refine ⟨h.freed, fun ⟨hc, hz⟩ => ?_⟩
  cases hb : s.world.binding with
  | none => rfl
  | some b =>
    have hcount := h.count b hb
    have hpos := h.count_pos b hb
    have hclosed := (h.closed b hb).mpr hc
    simp [hclosed, hz] at hcount
    omega

/-- The binding of an open JS object is live and not closed. -/
theorem Inv.open_binding (h : s.Inv) (hs : s.state ≠ .Closed) :
    ∃ b, s.world.binding = some b ∧ b.value.is_closed = false := by
  obtain ⟨b, hb⟩ := h.live (.inl hs)
  refine ⟨b, hb, ?_⟩
  cases hc : b.value.is_closed
  · rfl
  · exact absurd ((h.closed b hb).mp hc) hs

/-- While the library owes its report, the binding is live. -/
theorem Inv.live_of_owes (h : s.Inv) (hl : s.world.library.owesReport = true) :
    ∃ b, s.world.binding = some b :=
  h.live (.inr (by simp [StreamWorld.pendingRefs, hl]))

/-- Once anything is queued, the JS object is past `None`. -/
theorem Inv.state_ne_none_of_queued (h : s.Inv) {i : Nat} {x : StreamWork}
    (hi : s.world.queue[i]? = some x) : s.state ≠ .None := by
  intro hn
  rw [(h.fresh hn).2.1] at hi
  cases hi

/-- A step that keeps the invariant and shows no fault. -/
def SafeStep (r : StreamSystem × List StreamEffect) : Prop :=
  r.1.Inv ∧ ∀ f, .fault f ∉ r.2

/-- A JS call that does not reach the binding. -/
theorem jsCall_of_not_mem (ts : Option String → ClientStreamState × List ClientOutput)
    (call : ClientOutput) (native : StreamWorld → StreamResult) (h : call ∉ (ts none).2) :
    s.jsCall ts call native = ({ s with state := (ts none).1 }, (ts none).2.map .js) := by
  simp [jsCall, h]

/-- A JS call that reaches the binding. -/
theorem jsCall_of_mem (ts : Option String → ClientStreamState × List ClientOutput)
    (call : ClientOutput) (native : StreamWorld → StreamResult) (h : call ∈ (ts none).2) :
    s.jsCall ts call native =
      (⟨(ts (native s.world).thrown).1, (native s.world).world⟩,
        (ts (native s.world).thrown).2.map .js ++ (native s.world).fault.toList.map .fault) := by
  simp [jsCall, h]

/-- The JS object moves, the native side stays: an open object that stays open and past `None`. -/
theorem Inv.with_state (h : s.Inv) (hs : s.state ≠ .Closed) (t : ClientStreamState)
    (ht : t ≠ .None ∧ t ≠ .Closed) : (⟨t, s.world⟩ : StreamSystem).Inv := by
  obtain ⟨tn, tc⟩ := ht
  refine ⟨h.queue, h.count, h.count_pos, fun hb => absurd (h.freed hb).1 hs, ?_,
    fun htn => absurd htn tn⟩
  intro b hb
  simp only [tc, iff_false]
  intro hc
  exact hs ((h.closed b hb).mp hc)

/-! ### Calls from JavaScript -/

theorem Inv.step_close (h : s.Inv) : SafeStep (step s .close) := by
  by_cases hc : s.state = .Closed
  · -- a second `close()` does nothing
    have hnot : .nativeClose ∉ (ClientStream.close s.state).2 := by
      rw [ClientStream.nativeClose_mem_close]
      simpa using hc
    have hstate : (ClientStream.close s.state).1 = s.state := by
      rw [ClientStream.close, closeWith_fst, hc]
    simp only [step]
    rw [jsCall_of_not_mem (fun _ => ClientStream.close s.state) _ _ hnot]
    rw [hstate]
    exact ⟨h, by simp⟩
  · obtain ⟨b, hb, hopen⟩ := h.open_binding hc
    simp only [step]
    rw [jsCall_of_mem (fun _ => ClientStream.close s.state) _ _
      ((ClientStream.nativeClose_mem_close _).mpr hc)]
    have hcount : b.count = 1 + s.world.pendingRefs := by simpa [hopen] using h.count b hb
    obtain ⟨hnone, hsome⟩ := Counted.release_holder StreamBinding.is_closed
      (c := b.modify fun v => { v with is_closed := true, stream := false })
      (n := s.world.pendingRefs) (by simp; omega)
    have hstate : (ClientStream.close s.state).1 = .Closed := closeWith_fst _ _
    simp only [StreamWorld.aws_napi_event_stream_client_stream_close, hb, hstate]
    refine ⟨⟨h.queue, ?_, ?_, ?_, ?_, by simp⟩, by simp⟩
    · intro b' hb'
      exact (hsome b' hb').2.1
    · intro b' hb'
      exact (hsome b' hb').2.2
    · intro hfreed
      exact ⟨rfl, (hnone hfreed).2⟩
    · intro b' hb'
      simp [(hsome b' hb').1]

theorem Inv.step_activate (h : s.Inv) (options : Bool) (outcome : ActivateOutcome) :
    SafeStep (step s (.activate options outcome)) := by
  simp only [step]
  by_cases hcall : options = true ∧ s.state = .None
  · obtain ⟨rfl, hnone⟩ := hcall
    obtain ⟨hidle, hqueue, -⟩ := h.fresh hnone
    have hopen_state : s.state ≠ .Closed := by simp [hnone]
    obtain ⟨b, hb, hopen⟩ := h.open_binding hopen_state
    have hpos := h.count_pos b hb
    rw [jsCall_of_mem (ClientStream.activate s.state true) _ _
      ((ClientStream.nativeConnect_mem_activate _ _ _).mpr ⟨rfl, hnone⟩)]
    cases hstream : b.value.stream with
    | false =>
      simp only [StreamWorld.aws_napi_event_stream_client_stream_activate, hb, hopen, hstream,
        Bool.not_false, Bool.or_true, if_true, hnone, ClientStream.activate_fst_none,
        Option.isSome_some]
      exact ⟨h.with_state hopen_state .Ended ⟨by decide, by decide⟩, by simp⟩
    | true =>
      cases outcome with
      | unreadableOptions | noCallback | rejected _ _ =>
        -- nothing is acquired, or the acquire is undone, and the JS object ends
        simp only [StreamWorld.aws_napi_event_stream_client_stream_activate, hb, hopen, hstream,
          Bool.not_true, Bool.or_false, Bool.false_eq_true, if_false, Counted.acquire_release b hpos,
          StreamWorld.binding_eq_self hb, hnone, ClientStream.activate_fst_none, Option.isSome_some,
          if_true]
        exact ⟨h.with_state hopen_state .Ended ⟨by decide, by decide⟩, by simp⟩
      | accepted =>
        -- the binding takes the reference of `activate()`, which the library's report gives back
        simp only [StreamWorld.aws_napi_event_stream_client_stream_activate, hb, hopen, hstream,
          Bool.not_true, Bool.or_false, Bool.false_eq_true, if_false, hnone,
          ClientStream.activate_fst_none, Option.isSome_none]
        have hcount : b.count = 1 + s.world.pendingRefs := by simpa [hopen] using h.count b hb
        refine ⟨⟨hqueue ▸ .nil, ?_, ?_, by simp, ?_, by simp⟩, by simp⟩
        · rintro b' hb'
          cases hb'
          simp [StreamWorld.pendingRefs, ContinuationPhase.owesReport, hidle, hopen] at hcount ⊢
          omega
        · rintro b' hb'
          cases hb'
          simp
        · rintro b' hb'
          cases hb'
          simp [hopen]
  · rw [jsCall_of_not_mem (ClientStream.activate s.state options) _ _
      (by rw [ClientStream.nativeConnect_mem_activate]; exact hcall)]
    obtain ⟨hne, hclosed⟩ := ClientStream.activate_fst s.state options none
    refine ⟨⟨h.queue, h.count, h.count_pos, ?_, ?_, fun hn => absurd hn hne⟩, by simp⟩
    · intro hb
      exact ⟨hclosed.mpr (h.freed hb).1, (h.freed hb).2⟩
    · intro b hb
      exact (h.closed b hb).trans hclosed.symm


theorem Inv.step_send (h : s.Inv) (options : Bool) (outcome : SendOutcome) :
    SafeStep (step s (.sendMessage options outcome)) := by
  simp only [step]
  by_cases hcall : options = true ∧ s.state = .Activated
  · obtain ⟨rfl, hactivated⟩ := hcall
    have hopen_state : s.state ≠ .Closed := by simp [hactivated]
    obtain ⟨b, hb, hopen⟩ := h.open_binding hopen_state
    have hpos := h.count_pos b hb
    rw [jsCall_of_mem (fun e => (s.state, ClientStream.sendMessage s.state true e)) _ _
      ((ClientStream.nativeSend_mem_sendMessage s.state true none).mpr ⟨rfl, hactivated⟩)]
    have hself : (⟨s.state, s.world⟩ : StreamSystem) = s := rfl
    cases hstream : b.value.stream with
    | false =>
      -- the stream's end has released the continuation: the binding throws
      simp only [StreamWorld.aws_napi_event_stream_client_stream_send_message, hb, hopen, hstream,
        Bool.not_false, Bool.or_true, if_true]
      exact ⟨h, by simp⟩
    | true =>
      cases outcome with
      | invalidMessage =>
        simp only [StreamWorld.aws_napi_event_stream_client_stream_send_message, hb, hopen, hstream,
          Bool.not_true, Bool.or_false, Bool.false_eq_true, if_false]
        exact ⟨h, by simp⟩
      | unreadableMessage | noCallback | rejected =>
        -- the callback data's reference is given back at once
        simp only [StreamWorld.aws_napi_event_stream_client_stream_send_message, hb, hopen, hstream,
          Bool.not_true, Bool.or_false, Bool.false_eq_true, if_false, Counted.acquire_release b hpos,
          StreamWorld.binding_eq_self hb]
        exact ⟨h, by simp⟩
      | accepted =>
        -- the flush callback data takes a reference, and the library owes its flush
        simp only [StreamWorld.aws_napi_event_stream_client_stream_send_message, hb, hopen, hstream,
          Bool.not_true, Bool.or_false, Bool.false_eq_true, if_false]
        have hcount : b.count = 1 + s.world.pendingRefs := by simpa [hopen] using h.count b hb
        refine ⟨⟨h.queue, ?_, ?_, by simp, ?_, ?_⟩, by simp⟩
        · rintro b' hb'
          cases hb'
          simp only [Counted.acquire_count, Counted.acquire_value, hopen, StreamWorld.pendingRefs,
            List.length_append, List.length_singleton, Bool.false_eq_true, if_false] at hcount ⊢
          omega
        · rintro b' hb'
          cases hb'
          simp
        · rintro b' hb'
          cases hb'
          simp [hopen, hactivated]
        · intro hn
          rw [hactivated] at hn
          cases hn
  · rw [jsCall_of_not_mem (fun e => (s.state, ClientStream.sendMessage s.state options e))
      _ _ (by simpa [ClientStream.nativeSend_mem_sendMessage] using hcall)]
    exact ⟨h, by simp⟩

/-! ### Callbacks of the library -/

/-- A callback of the library that keeps the binding and its references, and moves the library on
from where a new JS object cannot be. -/
theorem Inv.with_world (h : s.Inv) {w : StreamWorld}
    (hq : StreamWorld.QueueAgrees w.library w.queue) (hb : w.binding = s.world.binding)
    (hp : w.pendingRefs = s.world.pendingRefs) (hnone : s.state ≠ .None) :
    { s with world := w }.Inv := by
  refine ⟨hq, ?_, ?_, ?_, ?_, fun hn => absurd hn hnone⟩
  · intro b hb'
    rw [hp]
    exact h.count b (hb ▸ hb')
  · intro b hb'
    exact h.count_pos b (hb ▸ hb')
  · intro hn
    rw [hp]
    exact h.freed (hb ▸ hn)
  · intro b hb'
    exact h.closed b (hb ▸ hb')

/-- Once the library has been asked to activate, the JS object is past `None`. -/
theorem Inv.state_ne_none (h : s.Inv) (hl : s.world.library ≠ .idle) : s.state ≠ .None :=
  fun hn => hl (h.fresh hn).1

theorem Inv.step_flush (h : s.Inv) {error_code : Nat}
    (hc : StreamContract s (.onActivationFlush error_code)) :
    SafeStep (step s (.onActivationFlush error_code)) := by
  have hlib : s.world.library = .activating := hc
  obtain ⟨b, hb⟩ := h.live_of_owes (by simp [hlib, ContinuationPhase.owesReport])
  simp only [step, StreamWorld.s_aws_event_stream_on_stream_activation_flush, hb, libraryCall]
  refine ⟨h.with_world ((hlib ▸ h.queue).report_flush error_code) hb.symm ?_
    (h.state_ne_none (by simp [hlib])), by simp⟩
  by_cases hz : error_code = 0
  · -- the reference of `activate()` now waits for the continuation's closing
    simp [StreamWorld.pendingRefs, hlib, hz, ContinuationPhase.owesReport, List.countP_append,
      StreamWork.holdsRef]
  · -- it passes to the failed activation's item
    simp [StreamWorld.pendingRefs, hlib, hz, ContinuationPhase.owesReport, List.countP_append,
      StreamWork.holdsRef]
    omega

theorem Inv.step_stream_message (h : s.Inv) {stored : Bool}
    (hc : StreamContract s (.onStreamMessage stored)) :
    SafeStep (step s (.onStreamMessage stored)) := by
  have hlib : s.world.library = .active := hc
  obtain ⟨b, hb⟩ := h.live_of_owes (by simp [hlib, ContinuationPhase.owesReport])
  cases stored with
  | false =>
    -- a message the binding cannot store gives its reference back at once
    simp only [step, StreamWorld.s_event_stream_on_stream_message, hb, Bool.false_eq_true, if_false,
      Counted.acquire_release b (h.count_pos b hb), StreamWorld.binding_eq_self hb, libraryCall]
    exact ⟨h, by simp⟩
  | true =>
    -- the queued event holds a reference of its own
    simp only [step, StreamWorld.s_event_stream_on_stream_message, hb, if_true, libraryCall]
    refine ⟨⟨h.queue.append_other rfl rfl, ?_, ?_, by simp, ?_,
      fun hn => absurd hn (h.state_ne_none (by simp [hlib]))⟩, by simp⟩
    · rintro b' hb'
      cases hb'
      have := h.count b hb
      cases hcl : b.value.is_closed <;>
        simp [hcl, StreamWorld.pendingRefs, List.countP_append, StreamWork.holdsRef] at this ⊢ <;>
        omega
    · rintro b' hb'
      cases hb'
      simp
    · rintro b' hb'
      cases hb'
      exact h.closed b hb

theorem Inv.step_ended (h : s.Inv) (hc : StreamContract s .onStreamEnded) :
    SafeStep (step s .onStreamEnded) := by
  have hlib : s.world.library = .active := hc
  obtain ⟨b, hb⟩ := h.live_of_owes (by simp [hlib, ContinuationPhase.owesReport])
  simp only [step, StreamWorld.s_event_stream_on_stream_ended, hb, libraryCall]
  refine ⟨h.with_world ((hlib ▸ h.queue).report_ended) hb.symm ?_
    (h.state_ne_none (by simp [hlib])), by simp⟩
  -- the reference of `activate()` passes to the item of the stream's end
  simp [StreamWorld.pendingRefs, hlib, ContinuationPhase.owesReport, List.countP_append,
    StreamWork.holdsRef]
  omega

theorem Inv.step_flushed (h : s.Inv) {send error_code : Nat}
    (hc : StreamContract s (.onMessageFlushed send error_code)) :
    SafeStep (step s (.onMessageFlushed send error_code)) := by
  have hmem : send ∈ s.world.owed := hc
  have hnone : s.state ≠ .None := fun hn => by simp [(h.fresh hn).2.2] at hmem
  simp only [step, StreamWorld.s_aws_event_stream_on_stream_message_flushed, libraryCall]
  refine ⟨h.with_world (h.queue.append_other rfl rfl) rfl ?_ hnone, by simp⟩
  -- the send's reference passes from the library to the queued flush
  have herase := List.length_erase_of_mem hmem
  have hpos := List.length_pos_of_mem hmem
  simp [StreamWorld.pendingRefs, List.countP_append, StreamWork.holdsRef, herase]
  omega

/-! ### Items on the libuv thread -/

/-- The callback of an item runs only while the JS object is open, and leaves it open and past
`None`. -/
theorem callback_state {state : ClientStreamState} {v : StreamBinding}
    (hv : v.is_closed = true ↔ state = .Closed) (hnone : state ≠ .None) (call : ClientStreamCall)
    (hcall : call.IsCallback) :
    ((callback state (dispatchUnlessStreamClosed v call)).1 = .Closed ↔ state = .Closed) ∧
      (callback state (dispatchUnlessStreamClosed v call)).1 ≠ .None := by
  cases hc : v.is_closed
  · have hopen : state ≠ .Closed := fun hs => by simpa [hc] using hv.mpr hs
    simp only [callback, dispatchUnlessStreamClosed, hc, Bool.false_eq_true, if_false,
      Option.map_some, Option.getD_some]
    rcases ClientStream.step_callback hopen hcall with ⟨h1, h2⟩ | hkeep
    · exact ⟨⟨fun h => absurd h h1, fun h => absurd h hopen⟩, h2⟩
    · rw [hkeep]
      exact ⟨Iff.rfl, hnone⟩
  · have hclosed : state = .Closed := hv.mp hc
    simp [callback, dispatchUnlessStreamClosed, hc, hclosed]

theorem runItem_of_none {i : Nat} (hi : s.world.queue[i]? = none) : s.runItem i = (s, []) := by
  simp [runItem, hi]

theorem runItem_of_not_runnable {i : Nat} {x : StreamWork} (hi : s.world.queue[i]? = some x)
    (hr : ¬Runnable StreamWork.tsfn s.world.queue i x) : s.runItem i = (s, []) := by
  simp [runItem, hi, hr]

theorem runItem_of_runnable {i : Nat} {x : StreamWork} (hi : s.world.queue[i]? = some x)
    (hr : Runnable StreamWork.tsfn s.world.queue i x) {b : Counted StreamBinding}
    (hb : s.world.binding = some b) :
    s.runItem i = s.runOn { s.world with queue := s.world.queue.eraseIdx i } b x := by
  simp [runItem, hi, hr, hb]

theorem runItem_of_freed {i : Nat} {x : StreamWork} (hi : s.world.queue[i]? = some x)
    (hr : Runnable StreamWork.tsfn s.world.queue i x) (hb : s.world.binding = none) :
    s.runItem i =
      ({ s with world := { s.world with queue := s.world.queue.eraseIdx i } },
        [.fault .useAfterFree]) := by
  simp [runItem, hi, hr, hb]

/-- The activation's item may always run: no other activation is queued ahead of it. -/
theorem Inv.runnable_activation (h : s.Inv) {i error_code : Nat}
    (hi : s.world.queue[i]? = some (.activation error_code)) :
    Runnable StreamWork.tsfn s.world.queue i (.activation error_code) :=
  runnable_of_countP_le_one StreamWork.tsfn StreamWork.isActivation hi rfl
    (fun y hy => by cases y <;> simp_all [StreamWork.tsfn, StreamWork.isActivation])
    h.queue.activations

/-- An item that releases its reference after `f` writes the binding: the invariant holds after it
when the JS object moves as the binding allows. -/
theorem Inv.run_release (h : s.Inv) {i : Nat} {x : StreamWork}
    (hi : s.world.queue[i]? = some x) (hx : x.holdsRef = true) {b : Counted StreamBinding}
    (hb : s.world.binding = some b) (f : StreamBinding → StreamBinding)
    (hf_closed : (f b.value).is_closed = b.value.is_closed)
    {t : ClientStreamState × List ClientOutput} (ht : t.1 = .Closed ↔ s.state = .Closed)
    (htn : t.1 ≠ .None) :
    SafeStep (⟨t.1,
      { s.world with
        queue := s.world.queue.eraseIdx i
        binding := (b.modify f).release }⟩, t.2.map .js) := by
  have hpend := s.world.pendingRefs_eraseIdx hi
  simp only [hx, if_true] at hpend
  have hcount := h.count b hb
  obtain ⟨hfreed, hkept⟩ := Counted.release_holder StreamBinding.is_closed (c := b.modify f)
    (n := { s.world with queue := s.world.queue.eraseIdx i }.pendingRefs)
    (by simp only [Counted.modify_count, Counted.modify_value, hf_closed]; omega)
  refine ⟨⟨h.queue.eraseIdx hi, ?_, ?_, ?_, ?_, fun hn => absurd hn htn⟩, by simp⟩
  · intro b' hb'
    exact (hkept b' hb').2.1
  · intro b' hb'
    exact (hkept b' hb').2.2
  · -- the binding is freed only once JavaScript has closed it and nothing else refers to it
    intro hn
    obtain ⟨hc, hz⟩ := hfreed hn
    rw [Counted.modify_value, hf_closed] at hc
    exact ⟨ht.mpr ((h.closed b hb).mp hc), hz⟩
  · intro b' hb'
    rw [(hkept b' hb').1, Counted.modify_value, hf_closed, ht]
    exact h.closed b hb

/-- An item that holds a reference: the failed activation, the stream's end, a message, a flush. -/
theorem Inv.run_holding (h : s.Inv) {i : Nat} {x : StreamWork}
    (hi : s.world.queue[i]? = some x) (hx : x.holdsRef = true) {b : Counted StreamBinding}
    (hb : s.world.binding = some b) (f : StreamBinding → StreamBinding)
    (hf_closed : (f b.value).is_closed = b.value.is_closed) (call : ClientStreamCall)
    (hcall : call.IsCallback)
    (hwork : runStreamWork b x =
      { binding := (b.modify f).release, dispatched := dispatchUnlessStreamClosed b.value call }) :
    SafeStep (s.runOn { s.world with queue := s.world.queue.eraseIdx i } b x) := by
  obtain ⟨hclosed, hnone⟩ :=
    callback_state (h.closed b hb) (h.state_ne_none_of_queued hi) call hcall
  simp only [runOn, hwork]
  exact h.run_release hi hx hb f hf_closed hclosed hnone

/-- The successful activation: it runs on the reference of `activate()`, and keeps it. -/
theorem Inv.run_activation_success (h : s.Inv) {i : Nat}
    (hi : s.world.queue[i]? = some (.activation 0)) {b : Counted StreamBinding}
    (hb : s.world.binding = some b) :
    SafeStep (s.runOn { s.world with queue := s.world.queue.eraseIdx i } b (.activation 0)) := by
  obtain ⟨hclosed, hnone⟩ :=
    callback_state (h.closed b hb) (h.state_ne_none_of_queued hi) (.onStreamActivated 0) trivial
  simp only [runOn, runStreamWork, s_napi_on_event_stream_client_stream_activation, ne_eq,
    not_true_eq_false, if_false]
  refine ⟨⟨h.queue.eraseIdx hi, ?_, ?_, (fun hn => by cases hn), ?_, fun hn => absurd hn hnone⟩,
    by simp⟩
  · -- the item held no reference of its own
    rintro b' hb'
    cases hb'
    show b.count = (if b.value.is_closed then 0 else 1) +
      { s.world with queue := s.world.queue.eraseIdx i }.pendingRefs
    rw [s.world.pendingRefs_eraseIdx_activation hi]
    exact h.count b hb
  · rintro b' hb'
    cases hb'
    exact h.count_pos b hb
  · rintro b' hb'
    cases hb'
    exact (h.closed b hb).trans hclosed.symm

/-! ### Every step -/

/-- The libuv thread may run the `i`-th item, the successful activation, on the freed binding. -/
def activationAfterFree (s : StreamSystem) (i : Nat) : Prop :=
  s.world.queue[i]? = some (.activation 0) ∧ s.world.binding = none

instance (s : StreamSystem) (i : Nat) : Decidable (s.activationAfterFree i) :=
  inferInstanceAs (Decidable (s.world.queue[i]? = some (.activation 0) ∧ s.world.binding = none))

/-- Every item but the successful activation holds a reference. -/
theorem holdsRef_of_ne {x : StreamWork} (hx : x ≠ .activation 0) : x.holdsRef = true := by
  cases x with
  | activation error_code =>
    have hz : error_code ≠ 0 := fun hz => hx (by rw [hz])
    simpa [StreamWork.holdsRef] using hz
  | _ => rfl

theorem Inv.step_run (h : s.Inv) (i : Nat) (hfree : ¬s.activationAfterFree i) :
    SafeStep (step s (.run i)) := by
  simp only [step]
  cases hi : s.world.queue[i]? with
  | none =>
    rw [runItem_of_none hi]
    exact ⟨h, by simp⟩
  | some x =>
    by_cases hr : Runnable StreamWork.tsfn s.world.queue i x
    · cases hb : s.world.binding with
      | none =>
        -- only the successful activation can find the binding freed
        have hx : x ≠ .activation 0 := fun hx => hfree ⟨hx ▸ hi, hb⟩
        have hpos := StreamWorld.pendingRefs_pos_of_holdsRef (List.mem_of_getElem? hi)
          (holdsRef_of_ne hx)
        have := (h.freed hb).2
        omega
      | some b =>
        rw [runItem_of_runnable hi hr hb]
        cases x with
        | activation error_code =>
          by_cases hz : error_code = 0
          · subst hz
            exact h.run_activation_success hi hb
          · -- the failed activation gives back the reference of `activate()`
            refine h.run_holding hi (by simpa [StreamWork.holdsRef] using hz) hb id rfl
              (.onStreamActivated error_code) trivial ?_
            simp [runStreamWork, s_napi_on_event_stream_client_stream_activation, hz]
            rfl
        | ended =>
          exact h.run_holding hi rfl hb (fun v => { v with stream := false }) rfl .onStreamEnded
            trivial rfl
        | message => exact h.run_holding hi rfl hb id rfl .onStreamMessage trivial rfl
        | messageFlushed send error_code =>
          exact h.run_holding hi rfl hb id rfl (.onStreamSendMessageCompletion error_code) trivial rfl
    · rw [runItem_of_not_runnable hi hr]
      exact ⟨h, by simp⟩

/-- The successful activation run on the freed binding reads it; the invariant still holds. -/
theorem Inv.step_run_freed (h : s.Inv) {i : Nat} (hfree : s.activationAfterFree i) :
    (step s (.run i)).1.Inv ∧ (step s (.run i)).2 = [.fault .useAfterFree] := by
  obtain ⟨hi, hb⟩ := hfree
  simp only [step]
  rw [runItem_of_freed hi (h.runnable_activation hi) hb]
  obtain ⟨hc, hz⟩ := h.freed hb
  refine ⟨⟨h.queue.eraseIdx hi, fun b' hb' => by simp [hb] at hb', fun b' hb' => by simp [hb] at hb',
    fun _ => ⟨hc, ?_⟩, fun b' hb' => by simp [hb] at hb', fun hn => by simp [hc] at hn⟩, rfl⟩
  -- the item held no reference, so none is pending still
  show { s.world with queue := s.world.queue.eraseIdx i }.pendingRefs = 0
  rw [s.world.pendingRefs_eraseIdx_activation hi, hz]

/-- Every step the library's contract allows keeps the invariant and shows no fault, unless the
libuv thread runs the successful activation on the freed binding. -/
theorem Inv.step_safe (h : s.Inv) {e : StreamEvent} (he : StreamContract s e)
    (hfree : ∀ i, e = .run i → ¬s.activationAfterFree i) : SafeStep (step s e) := by
  cases e with
  | close => exact h.step_close
  | activate options outcome => exact h.step_activate options outcome
  | sendMessage options outcome => exact h.step_send options outcome
  | onActivationFlush error_code => exact h.step_flush he
  | onStreamMessage stored => exact h.step_stream_message he
  | onStreamEnded => exact h.step_ended he
  | onMessageFlushed send error_code => exact h.step_flushed he
  | run i => exact h.step_run i (hfree i rfl)

/-- Every step the library's contract allows keeps the invariant, in whatever order the libuv
thread runs the items. -/
theorem inv_step (s : StreamSystem) (e : StreamEvent) (h : s.Inv) (he : StreamContract s e) :
    (step s e).1.Inv := by
  by_cases hfree : ∃ i, e = .run i ∧ s.activationAfterFree i
  · obtain ⟨i, rfl, hfree⟩ := hfree
    exact (h.step_run_freed hfree).1
  · exact (h.step_safe he fun i hi hf => hfree ⟨i, hi, hf⟩).1

/-- The streams that a run of events the library's contract allows reaches from a new JS object. -/
def Reachable (s : StreamSystem) : Prop :=
  ∃ events, Machine.Allowed step StreamContract init events ∧ (Machine.run step init events).1 = s

theorem reachable_inv (hr : Reachable s) : s.Inv := by
  obtain ⟨events, hallowed, rfl⟩ := hr
  exact Machine.run_invariant_allowed step _ StreamContract inv_step inv_init hallowed

/-! ## What the binding guarantees -/

/-- No call, callback or item reads the freed binding but the successful activation's item, and that
one exactly when it runs after the JS object was closed and the last reference given back: the item
of the stream's end, queued behind it on another threadsafe function, has run first. -/
theorem stream_faults_iff (hr : Reachable s) {e : StreamEvent} (he : StreamContract s e) :
    (∀ f, .fault f ∈ (step s e).2 → f = .useAfterFree) ∧
      ((∃ f, .fault f ∈ (step s e).2) ↔
        ∃ i, e = .run i ∧ s.world.queue[i]? = some (.activation 0) ∧ s.state = .Closed ∧
          s.world.pendingRefs = 0) := by
  have h := reachable_inv hr
  by_cases hfree : ∃ i, e = .run i ∧ s.activationAfterFree i
  · obtain ⟨i, rfl, hf⟩ := hfree
    have hout := (h.step_run_freed hf).2
    rw [hout]
    exact ⟨fun f hf' => by simpa using hf',
      iff_of_true ⟨_, List.mem_singleton_self _⟩ ⟨i, rfl, hf.1, h.freed hf.2⟩⟩
  · have hsafe := h.step_safe he fun i hi hf => hfree ⟨i, hi, hf⟩
    refine ⟨fun f hf => absurd hf (hsafe.2 f), iff_of_false (fun ⟨f, hf⟩ => hsafe.2 f hf) ?_⟩
    rintro ⟨i, rfl, hi, hc, hz⟩
    exact hfree ⟨i, rfl, hi, h.freed_iff.mpr ⟨hc, hz⟩⟩

theorem stream_faults_activation_behind_end :
    let s := (Machine.run step init
      [.activate true .accepted, .onActivationFlush 0, .onStreamEnded, .close, .run 1]).1
    Reachable s ∧ StreamContract s (.run 0) ∧
      (∀ f, .fault f ∈ (step s (.run 0)).2 → f = .useAfterFree) ∧
        ((∃ f, .fault f ∈ (step s (.run 0)).2) ↔
          ∃ i, StreamEvent.run 0 = .run i ∧ s.world.queue[i]? = some (.activation 0) ∧
            s.state = .Closed ∧ s.world.pendingRefs = 0) := by
  intro s
  have hr : Reachable s := ⟨_, by simp only [Machine.Allowed]; decide, rfl⟩
  have he : StreamContract s (.run 0) := trivial
  exact ⟨hr, he, stream_faults_iff hr he⟩


/-! ## In the order they were queued -/

/-- After the continuation's closing, the successful activation's item does not wait alone: the
item of the stream's end, which holds the reference it runs on, waits behind it. -/
def ActivationWaits (w : StreamWorld) : Prop :=
  w.library = .closed → w.queue.any StreamWork.isActivation = true →
    w.queue.any StreamWork.isEnded = true

/-- A call from JavaScript queues nothing, and only moves the library to `activating`. -/
theorem jsCall_world (ts : Option String → ClientStreamState × List ClientOutput)
    (call : ClientOutput) (native : StreamWorld → StreamResult)
    (hnative : ∀ w, (native w).world.queue = w.queue ∧
      ((native w).world.library = w.library ∨ (native w).world.library = .activating)) :
    (s.jsCall ts call native).1.world.queue = s.world.queue ∧
      ((s.jsCall ts call native).1.world.library = s.world.library ∨
        (s.jsCall ts call native).1.world.library = .activating) := by
  unfold jsCall
  split
  · exact hnative s.world
  · exact ⟨rfl, .inl rfl⟩

/-- Running an item takes it out of the queue and leaves the library alone. -/
theorem runItem_world (i : Nat) :
    (s.runItem i).1.world.library = s.world.library ∧
      ((s.runItem i).1.world.queue = s.world.queue ∨
        ∃ x, s.world.queue[i]? = some x ∧ (s.runItem i).1.world.queue = s.world.queue.eraseIdx i) := by
  cases hi : s.world.queue[i]? with
  | none =>
    rw [runItem_of_none hi]
    exact ⟨rfl, .inl rfl⟩
  | some x =>
    by_cases hr : Runnable StreamWork.tsfn s.world.queue i x
    · cases hb : s.world.binding with
      | none =>
        rw [runItem_of_freed hi hr hb]
        exact ⟨rfl, .inr ⟨x, rfl, rfl⟩⟩
      | some b =>
        rw [runItem_of_runnable hi hr hb]
        exact ⟨rfl, .inr ⟨x, rfl, rfl⟩⟩
    · rw [runItem_of_not_runnable hi hr]
      exact ⟨rfl, .inl rfl⟩

namespace ActivationWaits

variable {w w' : StreamWorld}

theorem of_queue_eq (hw : ActivationWaits w) (hq : w'.queue = w.queue)
    (hl : w'.library = w.library ∨ w'.library = .activating) : ActivationWaits w' := by
  intro hc ha
  rcases hl with hl | hl
  · rw [hq] at ha ⊢
    exact hw (hl ▸ hc) ha
  · rw [hl] at hc
    cases hc

/-- A message or a flush is queued. -/
theorem append_other (hw : ActivationWaits w) {x : StreamWork} (hl : w'.library = w.library)
    (hq : w'.queue = w.queue ++ [x]) (hx : x.isActivation = false) (he : x.isEnded = false) :
    ActivationWaits w' := by
  intro hc ha
  rw [hq, List.any_append] at ha ⊢
  simp only [List.any_cons, List.any_nil, hx, he, Bool.or_false] at ha ⊢
  exact hw (hl ▸ hc) ha

/-- The oldest item runs. -/
theorem run_zero (hw : ActivationWaits w) (hq : StreamWorld.QueueAgrees w.library w.queue)
    {x : StreamWork} (hi : w.queue[0]? = some x) (hl : w'.library = w.library)
    (hq' : w'.queue = w.queue.eraseIdx 0) : ActivationWaits w' := by
  intro hc ha
  rw [hq'] at ha ⊢
  cases hx : x.isActivation
  · cases he : x.isEnded
    · rw [SharedRef.any_eraseIdx_of_not _ hi he]
      rw [SharedRef.any_eraseIdx_of_not _ hi hx] at ha
      exact hw (hl ▸ hc) ha
    · -- the stream's end runs: no activation waits behind it
      obtain ⟨rest, hrest⟩ : ∃ rest, w.queue = x :: rest := by
        cases hqueue : w.queue with
        | nil => simp [hqueue] at hi
        | cons y rest =>
          rw [hqueue] at hi
          cases hi
          exact ⟨rest, rfl⟩
      have hord := hq.ordered
      rw [hrest, List.pairwise_cons] at hord
      rw [hrest] at ha
      obtain ⟨y, hy, hya⟩ := List.any_eq_true.mp ha
      rw [hord.1 y hy he] at hya
      cases hya
  · -- the activation runs: it was the only one
    rw [SharedRef.any_eraseIdx_of_countP_le_one _ hi hx hq.activations] at ha
    cases ha

end ActivationWaits

/-- Run in the order they were queued, every step keeps the end of the stream behind the successful
activation. -/
theorem ActivationWaits.after_step (h : s.Inv) (hw : ActivationWaits s.world) {e : StreamEvent}
    (hzero : ∀ i, e = .run i → i = 0) : ActivationWaits (step s e).1.world := by
  cases e with
  | close =>
    simp only [step]
    obtain ⟨hq, hl⟩ := jsCall_world (s := s) (fun _ => ClientStream.close s.state) .nativeClose
      StreamWorld.aws_napi_event_stream_client_stream_close fun w =>
        ⟨(w.aws_napi_event_stream_client_stream_close_world).1,
          .inl (w.aws_napi_event_stream_client_stream_close_world).2⟩
    exact hw.of_queue_eq hq hl
  | activate options outcome =>
    simp only [step]
    obtain ⟨hq, hl⟩ := jsCall_world (s := s) (ClientStream.activate s.state options) .nativeConnect
      (·.aws_napi_event_stream_client_stream_activate outcome)
      fun w => w.aws_napi_event_stream_client_stream_activate_world outcome
    exact hw.of_queue_eq hq hl
  | sendMessage options outcome =>
    simp only [step]
    obtain ⟨hq, hl⟩ := jsCall_world (s := s)
      (fun e => (s.state, ClientStream.sendMessage s.state options e)) .nativeSend
      (·.aws_napi_event_stream_client_stream_send_message outcome) fun w =>
        ⟨(w.aws_napi_event_stream_client_stream_send_message_world outcome).1,
          .inl (w.aws_napi_event_stream_client_stream_send_message_world outcome).2⟩
    exact hw.of_queue_eq hq hl
  | onActivationFlush error_code =>
    -- the continuation is not closed after its flush
    simp only [step, libraryCall]
    unfold StreamWorld.s_aws_event_stream_on_stream_activation_flush
    split
    · exact hw
    · intro hc
      dsimp only at hc
      split at hc <;> cases hc
  | onStreamMessage stored =>
    simp only [step, libraryCall]
    unfold StreamWorld.s_event_stream_on_stream_message
    split
    · exact hw
    · split
      · exact hw.append_other rfl rfl rfl rfl
      · exact hw.of_queue_eq rfl (.inl rfl)
  | onStreamEnded =>
    simp only [step, libraryCall]
    unfold StreamWorld.s_event_stream_on_stream_ended
    split
    · exact hw
    · intro _ _
      simp [StreamWork.isEnded]
  | onMessageFlushed send error_code =>
    simp only [step, libraryCall, StreamWorld.s_aws_event_stream_on_stream_message_flushed]
    exact hw.append_other rfl rfl rfl rfl
  | run i =>
    obtain rfl := hzero i rfl
    simp only [step]
    obtain ⟨hl, hq | ⟨x, hi, hq⟩⟩ := runItem_world (s := s) 0
    · exact hw.of_queue_eq hq (.inl hl)
    · exact hw.run_zero h.queue hi hl hq

/-- While the end of the stream waits behind the successful activation, no item finds the binding
freed. -/
theorem Inv.not_activationAfterFree (h : s.Inv) (hw : ActivationWaits s.world) (i : Nat) :
    ¬s.activationAfterFree i := by
  rintro ⟨hi, hb⟩
  have hmem := List.mem_of_getElem? hi
  have hz := (h.freed hb).2
  rcases h.queue.activation 0 hmem with ⟨-, hl | hl⟩ | ⟨hne, -⟩
  · -- the library still owes the continuation's closing
    simp [StreamWorld.pendingRefs, hl, ContinuationPhase.owesReport] at hz
  · -- the item of the stream's end still holds a reference
    obtain ⟨y, hy, hye⟩ := List.any_eq_true.mp (hw hl (List.any_eq_true.mpr ⟨_, hmem, rfl⟩))
    have hpos := StreamWorld.pendingRefs_pos_of_holdsRef hy (by
      cases y <;> simp_all [StreamWork.isEnded, StreamWork.holdsRef])
    omega
  · exact hne rfl

/-- Run in the order they were queued, the items never fault: a run the library's contract allows,
in which the libuv thread always takes the oldest item, shows no fault. -/
theorem stream_fifo_no_fault {events : List StreamEvent}
    (hallowed : Machine.Allowed step StreamContract init events)
    (hfifo : ∀ i, StreamEvent.run i ∈ events → i = 0) :
    ∀ f, StreamEffect.fault f ∉ (Machine.run step init events).2 := by
  have hstep : ∀ s e, (s.Inv ∧ ActivationWaits s.world) →
      (StreamContract s e ∧ ∀ i, e = .run i → i = 0) →
      ((step s e).1.Inv ∧ ActivationWaits (step s e).1.world) ∧
        ∀ o ∈ (step s e).2, ∀ f, o ≠ .fault f := by
    rintro s e ⟨h, hw⟩ ⟨he, hzero⟩
    have hsafe := h.step_safe he fun i _ => h.not_activationAfterFree hw i
    exact ⟨⟨hsafe.1, hw.after_step h hzero⟩, fun o ho f hof => hsafe.2 f (hof ▸ ho)⟩
  intro f hf
  exact Machine.run_outputs_allowed step _ _ _ hstep ⟨inv_init, fun hl => by cases hl⟩
    (Machine.allowed_and_forall step hallowed fun e he i hi => hfifo i (hi ▸ he)) _ hf f rfl

theorem stream_fifo_lifecycle :
    let events : List StreamEvent :=
      [.activate true .accepted, .onActivationFlush 0, .run 0, .sendMessage true .accepted,
        .onStreamMessage true, .onMessageFlushed 0 0, .run 0, .run 0, .onStreamEnded, .close, .run 0]
    Machine.Allowed step StreamContract init events ∧
      (∀ i, StreamEvent.run i ∈ events → i = 0) ∧
      ∀ f, StreamEffect.fault f ∉ (Machine.run step init events).2 := by
  intro events
  have hallowed : Machine.Allowed step StreamContract init events := by
    simp only [events, Machine.Allowed]
    decide
  have hfifo : ∀ i, StreamEvent.run i ∈ events → i = 0 := by
    intro i hi
    simp [events] at hi
    omega
  exact ⟨hallowed, hfifo, stream_fifo_no_fault hallowed hfifo⟩

/-! ## What the binding relies on -/

/-- The binding relies on the library never closing a continuation whose activation failed: the
failed activation's item gives back the reference of `activate()`, and the item of the stream's end
would give it back again, so the binding would hold one reference fewer than it has holders. -/
theorem Inv.ended_after_failure_undercounts (h : s.Inv) (hl : s.world.library = .failed) :
    ∀ b, (step s .onStreamEnded).1.world.binding = some b →
      b.count + 1 = (if b.value.is_closed then 0 else 1) + (step s .onStreamEnded).1.world.pendingRefs := by
  intro b' hb'
  cases hb : s.world.binding with
  | none => simp [step, libraryCall, StreamWorld.s_event_stream_on_stream_ended, hb] at hb'
  | some b =>
    simp only [step, libraryCall, StreamWorld.s_event_stream_on_stream_ended, hb,
      Option.some.injEq] at hb' ⊢
    subst hb'
    have hcount := h.count b hb
    simp [StreamWorld.pendingRefs, hl, ContinuationPhase.owesReport, List.countP_append,
      StreamWork.holdsRef] at hcount ⊢
    omega

/-- So a library that closed a failed continuation would have the binding freed under the open JS
object, whose `close()` then reads it. -/
example :
    let r := Machine.run step init
      [.activate true .accepted, .onActivationFlush 5, .onStreamEnded, .run 0, .run 0, .close]
    StreamEffect.fault .useAfterFree ∈ r.2 := by
  decide

end StreamSystem

end AwsCrt
