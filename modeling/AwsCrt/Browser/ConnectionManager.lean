import AwsCrt.Lib.Machine
import AwsCrt.Lib.JsCollections

/-!
# The browser `HttpClientConnectionManager`

The pool of `src/lib/browser/http.ts`: the connections being established
(`pending_connections`), the established ones (`live_connections`), those free to hand out
(`free_connections`) and the queue of `acquire()` promises not yet settled (`pending_requests`).
A connection or a promise is named by the number of those the manager made before it.

`on_connect` pushes the new connection onto `free_connections` and then hands it to the oldest
waiting promise, so the connection stays free while that promise's holder uses it, and the next
`acquire()` is handed it as well.

* `HttpClientConnectionManager.step`: `acquire`, `release`, `close` and the 'connect', 'error' and
  'close' events of the connections the manager made; the outputs are the calls it makes to the
  promises' `resolve` and `reject`.
* `connections_le_max`: on every run in which a connection emits 'connect' only while it is being
  established, `live_connections.size + pending_connections.size ≤ max_connections` holds.
* `acquire_shares_connection`: `acquire()`, 'connect', `acquire()` hands one connection to both
  promises.
-/

namespace AwsCrt

open JsSet

/-- The manager's mutable state; `connections` and `requests` count the connections and promises
made. Its `readonly` configuration is a parameter of the methods that read it. -/
structure HttpClientConnectionManager where
  pending_connections : JsSet Nat
  live_connections : JsSet Nat
  free_connections : List Nat
  pending_requests : List Nat
  connections : Nat
  requests : Nat

/-- A call on the manager, or an event of one of its connections. -/
inductive PoolCall
  | acquire
  | release (connection : Nat)
  | close
  | connect (connection : Nat)
  | error (connection : Nat)
  | closed (connection : Nat)

/-- A call the manager makes on a pending request's promise. -/
inductive PoolOutput
  | resolve (request connection : Nat)
  | reject (request : Nat)
  deriving DecidableEq, Repr

namespace HttpClientConnectionManager

/-- `new HttpClientConnectionManager(…)`. -/
def init : HttpClientConnectionManager := ⟨JsSet.empty, JsSet.empty, [], [], 0, 0⟩

/-- `remove(connection)`. -/
def remove (m : HttpClientConnectionManager) (connection : Nat) : HttpClientConnectionManager :=
  { m with
    pending_connections := m.pending_connections.delete connection
    live_connections := m.live_connections.delete connection
    free_connections := m.free_connections.erase connection }

/-- `resolve(connection)`: the oldest waiting promise gets the connection, or it becomes free. -/
def resolve (m : HttpClientConnectionManager) (connection : Nat) :
    HttpClientConnectionManager × List PoolOutput :=
  match m.pending_requests with
  | request :: rest => ({ m with pending_requests := rest }, [.resolve request connection])
  | [] => ({ m with free_connections := m.free_connections ++ [connection] }, [])

/-- `reject(error)`. -/
def reject (m : HttpClientConnectionManager) : HttpClientConnectionManager × List PoolOutput :=
  match m.pending_requests with
  | request :: rest => ({ m with pending_requests := rest }, [.reject request])
  | [] => (m, [])

variable (max_connections : Nat)

/-- `pump()`: serve the oldest request from the last free connection, or start a connection if
there is room. -/
def pump (m : HttpClientConnectionManager) : HttpClientConnectionManager × List PoolOutput :=
  if m.pending_requests = [] then (m, [])
  else
    match m.free_connections.getLast? with
    | some connection => resolve { m with free_connections := m.free_connections.dropLast } connection
    | none =>
      if m.live_connections.size + m.pending_connections.size = max_connections then (m, [])
      else
        ({ m with
          pending_connections := m.pending_connections.add m.connections
          connections := m.connections + 1 }, [])

/-- `acquire()`. -/
def acquire (m : HttpClientConnectionManager) : HttpClientConnectionManager × List PoolOutput :=
  pump max_connections
    { m with pending_requests := m.pending_requests ++ [m.requests], requests := m.requests + 1 }

/-- `release(connection)`. -/
def release (m : HttpClientConnectionManager) (connection : Nat) :
    HttpClientConnectionManager × List PoolOutput :=
  pump max_connections { m with free_connections := m.free_connections ++ [connection] }

/-- `close()`: every waiting promise is rejected; the queue itself is left as it is. -/
def close (m : HttpClientConnectionManager) : HttpClientConnectionManager × List PoolOutput :=
  (m, m.pending_requests.map .reject)

/-- The connection's `on_connect` listener. -/
def onConnect (m : HttpClientConnectionManager) (connection : Nat) :
    HttpClientConnectionManager × List PoolOutput :=
  resolve { m with
    pending_connections := m.pending_connections.delete connection
    live_connections := m.live_connections.add connection
    free_connections := m.free_connections ++ [connection] } connection

/-- The connection's `on_error` listener. -/
def onError (m : HttpClientConnectionManager) (connection : Nat) :
    HttpClientConnectionManager × List PoolOutput :=
  if m.pending_connections.has connection then reject m
  else pump max_connections (m.remove connection)

/-- The connection's `on_close` listener. -/
def onClose (m : HttpClientConnectionManager) (connection : Nat) :
    HttpClientConnectionManager × List PoolOutput :=
  pump max_connections (m.remove connection)

/-- One call or event; only the connections the manager made have its listeners. -/
def step (m : HttpClientConnectionManager) : PoolCall → HttpClientConnectionManager × List PoolOutput
  | .acquire => m.acquire max_connections
  | .release connection => m.release max_connections connection
  | .close => m.close
  | .connect connection => if connection < m.connections then m.onConnect connection else (m, [])
  | .error connection =>
    if connection < m.connections then m.onError max_connections connection else (m, [])
  | .closed connection =>
    if connection < m.connections then m.onClose max_connections connection else (m, [])

/-! ## The connection count stays within `max_connections` -/

/-- `live_connections.size + pending_connections.size`. -/
def connectionCount (m : HttpClientConnectionManager) : Nat :=
  m.live_connections.size + m.pending_connections.size

/-- The connections the manager holds, live or being established, stay within its limit. -/
def Bounded (m : HttpClientConnectionManager) : Prop := m.connectionCount ≤ max_connections

/-- The environment of a run: a connection emits 'connect' only while it is being established,
as the browser connection does, once, from its constructor. -/
def ConnectsWhilePending (m : HttpClientConnectionManager) : PoolCall → Prop
  | .connect connection => connection ∈ m.pending_connections.elems
  | _ => True

theorem resolve_count (m : HttpClientConnectionManager) (connection : Nat) :
    (m.resolve connection).1.connectionCount = m.connectionCount := by
  unfold resolve
  split <;> rfl

theorem reject_count (m : HttpClientConnectionManager) :
    (m.reject).1.connectionCount = m.connectionCount := by
  unfold reject
  split <;> rfl

theorem remove_count_le (m : HttpClientConnectionManager) (connection : Nat) :
    (m.remove connection).connectionCount ≤ m.connectionCount := by
  simp only [connectionCount, remove, size_delete]
  split <;> split <;> omega

variable {max_connections}

theorem bounded_resolve {m : HttpClientConnectionManager} (hm : m.Bounded max_connections)
    (connection : Nat) : (m.resolve connection).1.Bounded max_connections := by
  unfold Bounded at hm ⊢
  rw [resolve_count]
  exact hm

theorem bounded_reject {m : HttpClientConnectionManager} (hm : m.Bounded max_connections) :
    (m.reject).1.Bounded max_connections := by
  unfold Bounded at hm ⊢
  rw [reject_count]
  exact hm

theorem bounded_remove {m : HttpClientConnectionManager} (hm : m.Bounded max_connections)
    (connection : Nat) : (m.remove connection).Bounded max_connections :=
  Nat.le_trans (remove_count_le m connection) hm

/-- `pump` starts a connection only when the count is not at the limit, so below it. -/
theorem bounded_pump {m : HttpClientConnectionManager} (hm : m.Bounded max_connections) :
    (m.pump max_connections).1.Bounded max_connections := by
  unfold pump
  split
  · exact hm
  · split
    · -- the free connection is handed out; the sets are untouched
      exact bounded_resolve (m := { m with free_connections := m.free_connections.dropLast }) hm _
    · split
      · exact hm
      · rename_i hne
        unfold Bounded connectionCount at hm ⊢
        simp only [size_add]
        split <;> omega

theorem bounded_onConnect {m : HttpClientConnectionManager} (hm : m.Bounded max_connections)
    {connection : Nat} (hp : connection ∈ m.pending_connections.elems) :
    (m.onConnect connection).1.Bounded max_connections := by
  apply bounded_resolve
  unfold Bounded connectionCount at hm ⊢
  simp only [size_add, size_delete, if_pos hp]
  have : 0 < m.pending_connections.size := List.length_pos_of_mem hp
  split <;> omega

/-- One admitted step keeps the bound. -/
theorem bounded_step {m : HttpClientConnectionManager} (hm : m.Bounded max_connections)
    (c : PoolCall) (hc : m.ConnectsWhilePending c) :
    (m.step max_connections c).1.Bounded max_connections := by
  cases c with
  | acquire => exact bounded_pump hm
  | release connection => exact bounded_pump hm
  | close => exact hm
  | connect connection =>
    simp only [step]
    split
    · exact bounded_onConnect hm hc
    · exact hm
  | error connection =>
    simp only [step, onError]
    split
    · split
      · exact bounded_reject hm
      · exact bounded_pump (bounded_remove hm connection)
    · exact hm
  | closed connection =>
    simp only [step, onClose]
    split
    · exact bounded_pump (bounded_remove hm connection)
    · exact hm

/-- On every run in which connections emit 'connect' only while being established, the manager
never holds more than `max_connections` connections, live or being established. -/
theorem connections_le_max (max_connections : Nat) {calls : List PoolCall}
    (hcalls : Machine.Allowed (step max_connections) ConnectsWhilePending init calls) :
    (Machine.run (step max_connections) init calls).1.connectionCount ≤ max_connections :=
  Machine.run_invariant_allowed (step max_connections) (Bounded max_connections)
    ConnectsWhilePending (fun _ c hm hc => bounded_step hm c hc)
    (by simp [Bounded, connectionCount, init]) hcalls

theorem connections_le_max_shared :
    Machine.Allowed (step 1) ConnectsWhilePending init
        [.acquire, .connect 0, .acquire, .release 0] ∧
      (Machine.run (step 1) init [.acquire, .connect 0, .acquire, .release 0]).1.connectionCount
        ≤ 1 :=
  have h : Machine.Allowed (step 1) ConnectsWhilePending init
      [.acquire, .connect 0, .acquire, .release 0] := by
    simp [Machine.Allowed, ConnectsWhilePending]
    decide
  ⟨h, connections_le_max 1 h⟩

/-! ## One connection handed to two promises -/

/-- With room for a connection, `acquire()` starts one; its 'connect' hands it to that promise
and leaves it free, and the next `acquire()` is handed the same connection. -/
theorem acquire_shares_connection (max_connections : Nat) (hmax : 0 < max_connections) :
    (Machine.run (step max_connections) init [.acquire, .connect 0, .acquire]).2 =
      [.resolve 0 0, .resolve 1 0] := by
  have hroom : ¬(0 = max_connections) := by omega
  simp [step, acquire, pump, init, onConnect, resolve, hroom, JsSet.add, JsSet.size, JsSet.empty]

theorem acquire_shares_connection_one :
    0 < 1 ∧ (Machine.run (step 1) init [.acquire, .connect 0, .acquire]).2 =
      [.resolve 0 0, .resolve 1 0] :=
  ⟨by decide, acquire_shares_connection 1 (by decide)⟩

end HttpClientConnectionManager

end AwsCrt
