import AwsCrt.Lib.Machine

/-!
# The native body input stream

`InputStream` (`src/lib/native/io.ts`) copies every 'data' chunk of a `Readable` into a native
`aws_input_stream` (`src/source/io.c`) with `io_input_stream_append`, and marks its 'end' by
appending `undefined`. The native side keeps the bytes in a buffer of 16 KiB; `read` copies from
its front and then seeks past what it copied, and `seek` drops the bytes before the new position.

aws-c-common's `aws_byte_buf_append` is not part of this repository: it is a parameter
(`ByteBufLib`) whose fields state its contract, a chunk copied whole when it fits in the room left
and a failure that leaves the buffer unchanged otherwise. Over it, three defects of the code:
* `io_input_stream_append` ignores the append's failure, so a chunk that does not fit is dropped;
* `get_status` reports the end-of-stream flag as it is, also while bytes remain to be read;
* a seek that drops part of the buffer does not add what it drops to `bytes_read` (only one that
  empties the buffer does), so after a partial read `bytes_read` lags behind, against the field's
  comment (`bytes already consumed by the reader, flushed from the buffer`).

* `InputStreamImpl.step`: append, read, seek and get_status; reads and seeks are atomic here.
* `ByteQueue`: a byte queue of 16 KiB that drops a chunk that does not fit, whose status is the
  end-of-stream flag; `stream_refines_queue`: on every run without external seeks the stream
  answers as the queue does, and what has been read followed by what is buffered is the
  concatenation of the chunks the queue accepted.
* `status_before_drained`: end-of-stream is reported while a byte is still unread, and a chunk
  larger than the buffer is lost.
* `partial_read_seek`: after a partial read `bytes_read + buffer.len` falls short of the bytes
  appended, and `seek(1, AWS_SSB_BEGIN)` skips a byte.
-/

namespace AwsCrt

/-- The capacity of the buffer `aws_napi_io_input_stream_new` allocates: `16 * 1024`. -/
def STREAM_BUFFER_SIZE : Nat := 16 * 1024

/-- aws-c-common's `aws_byte_buf_append(to, from)` on a buffer of `capacity` bytes, as its contract
states it: all of `from` is copied if it fits in the room left, else the call fails (with
`AWS_ERROR_DEST_COPY_TOO_SMALL`) and `to` is unchanged. -/
structure ByteBufLib where
  aws_byte_buf_append : (capacity : Nat) → (buf data : List UInt8) → Except String (List UInt8)
  append_of_fits : ∀ capacity buf data, buf.length + data.length ≤ capacity →
    aws_byte_buf_append capacity buf data = .ok (buf ++ data)
  append_of_too_long : ∀ capacity buf data, capacity < buf.length + data.length →
    ∃ e, aws_byte_buf_append capacity buf data = .error e

/-- The contract can be met. -/
example : Nonempty ByteBufLib :=
  ⟨{ aws_byte_buf_append := fun capacity buf data =>
        if buf.length + data.length ≤ capacity then .ok (buf ++ data)
        else .error "AWS_ERROR_DEST_COPY_TOO_SMALL"
     append_of_fits := fun _ _ _ h => if_pos h
     append_of_too_long := fun _ _ _ h => ⟨"AWS_ERROR_DEST_COPY_TOO_SMALL", if_neg (Nat.not_le.mpr h)⟩ }⟩

/-- A successful append copied the whole chunk into the room left. -/
theorem ByteBufLib.eq_of_append_ok (B : ByteBufLib) {capacity : Nat} {buf data out : List UInt8}
    (h : B.aws_byte_buf_append capacity buf data = .ok out) :
    out = buf ++ data ∧ out.length ≤ capacity := by
  by_cases hfit : buf.length + data.length ≤ capacity
  · rw [B.append_of_fits _ _ _ hfit] at h
    cases h
    exact ⟨rfl, by rw [List.length_append]; exact hfit⟩
  · obtain ⟨e, he⟩ := B.append_of_too_long capacity buf data (by omega)
    rw [he] at h
    cases h

/-- `enum aws_stream_seek_basis`. -/
inductive SeekBasis
  | AWS_SSB_BEGIN
  | AWS_SSB_END
  deriving DecidableEq, Repr

/-- `struct aws_napi_input_stream_impl`: the buffered bytes, `bytes_read` and `eos`; the buffer
never holds more than its capacity. -/
structure InputStreamImpl where
  buffer : List UInt8
  bytes_read : Nat
  eos : Bool
  buffer_le : buffer.length ≤ STREAM_BUFFER_SIZE

/-- A call on the stream: `io_input_stream_append` (`none` is end-of-stream), `read` into a
destination with `free` bytes of room, `seek`, `get_status`. -/
inductive StreamCall
  | append (data : Option (List UInt8))
  | read (free : Nat)
  | seek (offset : Int) (basis : SeekBasis)
  | get_status

/-- What a call returns: the bytes a read wrote, a seek's success, the end-of-stream flag. -/
inductive StreamOutput
  | read (bytes : List UInt8)
  | seek (ok : Bool)
  | status (is_end_of_stream : Bool)
  deriving DecidableEq, Repr

namespace InputStreamImpl

variable (B : ByteBufLib)

/-- `aws_napi_io_input_stream_new`: an empty buffer. -/
def init : InputStreamImpl := ⟨[], 0, false, Nat.zero_le _⟩

/-- The end of `s_input_stream_seek` at buffer offset `buf_offset`: only a seek to the end of the
buffer advances `bytes_read`; one inside it just drops the bytes before the offset. -/
def flush (impl : InputStreamImpl) (buf_offset : Nat) : InputStreamImpl :=
  if buf_offset = impl.buffer.length then
    { impl with
      bytes_read := impl.bytes_read + impl.buffer.length
      buffer := []
      buffer_le := Nat.zero_le _ }
  else if 0 < buf_offset then
    { impl with
      buffer := impl.buffer.drop buf_offset
      buffer_le := by rw [List.length_drop]; exact Nat.le_trans (Nat.sub_le _ _) impl.buffer_le }
  else impl

/-- `INT64_MIN`. -/
def INT64_MIN : Int := -2 ^ 63

/-- `s_input_stream_seek(stream, offset, basis)`. -/
def seek (impl : InputStreamImpl) (offset : Int) : SeekBasis → Except String InputStreamImpl
  | .AWS_SSB_BEGIN =>
    if offset < 0 ∨ offset > impl.bytes_read + impl.buffer.length ∨ offset < impl.bytes_read then
      .error "AWS_IO_STREAM_INVALID_SEEK_POSITION"
    else .ok (impl.flush (offset.toNat - impl.bytes_read))
  | .AWS_SSB_END =>
    if offset > 0 ∨ offset = INT64_MIN ∨ -offset > impl.buffer.length then
      .error "AWS_IO_STREAM_INVALID_SEEK_POSITION"
    else .ok (impl.flush (impl.buffer.length - (-offset).toNat))

/-- `s_input_stream_read(stream, dest)`: copy as much of the buffer as the destination has room
for, then seek to `bytes_read` plus that. -/
def read (impl : InputStreamImpl) (free : Nat) : List UInt8 × InputStreamImpl :=
  let bytes_to_read := min free impl.buffer.length
  (impl.buffer.take bytes_to_read,
    match impl.seek (impl.bytes_read + bytes_to_read) .AWS_SSB_BEGIN with
    | .ok impl' => impl'
    | .error _ => impl)

/-- `aws_napi_io_input_stream_append(stream, data)`: `undefined` sets `eos`; a buffer is appended,
and a failed append is ignored. -/
def append (impl : InputStreamImpl) : Option (List UInt8) → InputStreamImpl
  | none => { impl with eos := true }
  | some data =>
    match h : B.aws_byte_buf_append STREAM_BUFFER_SIZE impl.buffer data with
    | .ok buffer =>
      { impl with
        buffer := buffer
        buffer_le := (B.eq_of_append_ok h).2 }
    | .error _ => impl

/-- One call. -/
def step (impl : InputStreamImpl) : StreamCall → InputStreamImpl × List StreamOutput
  | .append data => (impl.append B data, [])
  | .read free => ((impl.read free).2, [.read (impl.read free).1])
  | .seek offset basis =>
    match impl.seek offset basis with
    | .ok impl' => (impl', [.seek true])
    | .error _ => (impl, [.seek false])
  | .get_status => (impl, [.status impl.eos])

/-! ## Reads are seeks to the end of what they copied -/

/-- The seek a read makes always succeeds and drops exactly the bytes it copied. -/
theorem read_eq (impl : InputStreamImpl) (free : Nat) :
    ((impl.read free).1 = impl.buffer.take (min free impl.buffer.length)) ∧
      (impl.read free).2.buffer = impl.buffer.drop (min free impl.buffer.length) ∧
      (impl.read free).2.eos = impl.eos := by
  have hseek : impl.seek (impl.bytes_read + min free impl.buffer.length) .AWS_SSB_BEGIN =
      .ok (impl.flush (min free impl.buffer.length)) := by
    have hk : min free impl.buffer.length ≤ impl.buffer.length := Nat.min_le_right _ _
    simp only [seek]
    rw [if_neg (by omega)]
    congr 2
    omega
  refine ⟨rfl, ?_, ?_⟩
  · simp only [read, hseek, flush]
    split
    · rename_i h; simp [h]
    · split
      · rfl
      · rename_i _ h; simp [show min free impl.buffer.length = 0 by omega]
  · simp only [read, hseek, flush]
    split
    · rfl
    · split <;> rfl

/-- A chunk that fits in the room left is appended. -/
theorem append_of_fits {impl : InputStreamImpl} {d : List UInt8}
    (h : impl.buffer.length + d.length ≤ STREAM_BUFFER_SIZE) :
    impl.append B (some d) =
      { impl with buffer := impl.buffer ++ d, buffer_le := by rw [List.length_append]; exact h } := by
  simp only [append]
  split
  · rename_i buf hb
    rw [B.append_of_fits _ _ _ h] at hb
    cases hb
    rfl
  · rename_i e hb
    rw [B.append_of_fits _ _ _ h] at hb
    cases hb

/-- A chunk that does not fit in the room left is dropped. -/
theorem append_too_long {impl : InputStreamImpl} {d : List UInt8}
    (h : STREAM_BUFFER_SIZE < impl.buffer.length + d.length) : impl.append B (some d) = impl := by
  obtain ⟨e, he⟩ := B.append_of_too_long _ _ _ h
  simp only [append]
  split
  · rename_i buf hb
    rw [he] at hb
    cases hb
  · rfl

theorem append_eq (impl : InputStreamImpl) (data : Option (List UInt8)) :
    (impl.append B data).buffer =
        (match data with
          | some d => if impl.buffer.length + d.length ≤ STREAM_BUFFER_SIZE then impl.buffer ++ d
            else impl.buffer
          | none => impl.buffer) ∧
      (impl.append B data).eos = (impl.eos || data.isNone) := by
  cases data with
  | none => simp [append]
  | some d =>
    by_cases hfit : impl.buffer.length + d.length ≤ STREAM_BUFFER_SIZE
    · rw [append_of_fits B hfit]
      simp [hfit]
    · rw [append_too_long B (by omega)]
      simp [hfit]

end InputStreamImpl

/-! ## The byte queue the stream implements -/

/-- A byte queue of `STREAM_BUFFER_SIZE` bytes that drops a chunk which does not fit whole, with an
end-of-stream flag; `accepted` is the concatenation of the chunks it took, `delivered` of what it
gave out. -/
structure ByteQueue where
  queue : List UInt8
  eos : Bool
  accepted : List UInt8
  delivered : List UInt8

namespace ByteQueue

/-- The empty queue. -/
def init : ByteQueue := ⟨[], false, [], []⟩

/-- Appends, reads and status requests on the queue; it has no seeks of its own. -/
def step (q : ByteQueue) : StreamCall → ByteQueue × List StreamOutput
  | .append none => ({ q with eos := true }, [])
  | .append (some d) =>
    if q.queue.length + d.length ≤ STREAM_BUFFER_SIZE then
      ({ q with queue := q.queue ++ d, accepted := q.accepted ++ d }, [])
    else (q, [])
  | .read free =>
    ({ q with queue := q.queue.drop free, delivered := q.delivered ++ q.queue.take free },
      [.read (q.queue.take free)])
  | .seek _ _ => (q, [.seek false])
  | .get_status => (q, [.status q.eos])

/-- Nothing is lost or made up: what was delivered, followed by what is queued, is what was
accepted. -/
def Conserves (q : ByteQueue) : Prop := q.delivered ++ q.queue = q.accepted

theorem conserves_step {q : ByteQueue} (hq : q.Conserves) (c : StreamCall) :
    (q.step c).1.Conserves := by
  unfold Conserves at hq ⊢
  cases c with
  | append data =>
    cases data with
    | none => exact hq
    | some d =>
      simp only [step]
      split
      · simp [← hq]
      · exact hq
  | read free => simp [step, ← hq]
  | seek offset basis => exact hq
  | get_status => exact hq

/-- The bytes of the read outputs. -/
def readBytes : List StreamOutput → List UInt8
  | [] => []
  | .read bs :: os => bs ++ readBytes os
  | _ :: os => readBytes os

theorem readBytes_append (os os' : List StreamOutput) :
    readBytes (os ++ os') = readBytes os ++ readBytes os' := by
  induction os with
  | nil => rfl
  | cons o os ih => cases o <;> simp [readBytes, ih]

/-- The queue's `delivered` is what its reads gave out. -/
theorem delivered_run (q : ByteQueue) (calls : List StreamCall) :
    (Machine.run step q calls).1.delivered = q.delivered ++ readBytes (Machine.run step q calls).2 := by
  induction calls generalizing q with
  | nil => simp [readBytes]
  | cons c cs ih =>
    rw [Machine.run_cons, ih, readBytes_append]
    cases c with
    | append data =>
      cases data with
      | none => simp [step, readBytes]
      | some d => simp only [step]; split <;> simp [readBytes]
    | read free => simp [step, readBytes]
    | seek offset basis => simp [step, readBytes]
    | get_status => simp [step, readBytes]

end ByteQueue

/-- The stream holds the queue's bytes and flag. -/
def Holds (impl : InputStreamImpl) (q : ByteQueue) : Prop :=
  impl.buffer = q.queue ∧ impl.eos = q.eos

section Refinement

variable (B : ByteBufLib)

/-- One call other than a seek keeps `Holds` and answers as the queue does. -/
theorem step_holds {impl : InputStreamImpl} {q : ByteQueue} (h : Holds impl q) (c : StreamCall)
    (hc : ∀ offset basis, c ≠ .seek offset basis) :
    Holds (impl.step B c).1 (q.step c).1 ∧ (impl.step B c).2 = (q.step c).2 := by
  obtain ⟨hbuf, heos⟩ := h
  cases c with
  | append data =>
    obtain ⟨hb, he⟩ := impl.append_eq B data
    cases data with
    | none =>
      refine ⟨⟨?_, ?_⟩, rfl⟩
      · simp [InputStreamImpl.step, ByteQueue.step, hb, hbuf]
      · simp [InputStreamImpl.step, ByteQueue.step, he]
    | some d =>
      simp only [Option.isNone_some, Bool.or_false] at he
      simp only at hb
      rw [hbuf] at hb
      simp only [InputStreamImpl.step, ByteQueue.step]
      -- the chunk is taken by both or by neither
      split
      · rename_i hfit
        rw [if_pos hfit] at hb
        exact ⟨⟨hb, he.trans heos⟩, rfl⟩
      · rename_i hfit
        rw [if_neg hfit] at hb
        exact ⟨⟨hb, he.trans heos⟩, rfl⟩
  | read free =>
    obtain ⟨h1, h2, h3⟩ := impl.read_eq free
    refine ⟨⟨?_, ?_⟩, ?_⟩
    · simp [InputStreamImpl.step, ByteQueue.step, h2, hbuf]
    · simp [InputStreamImpl.step, ByteQueue.step, h3, heos]
    · simp [InputStreamImpl.step, ByteQueue.step, h1, hbuf]
  | seek offset basis => exact absurd rfl (hc offset basis)
  | get_status => exact ⟨⟨hbuf, heos⟩, by simp [InputStreamImpl.step, ByteQueue.step, heos]⟩

/-- On every run without external seeks the native stream answers every append, read and status
request as the byte queue does, and the bytes returned by its reads followed by those still
buffered are the concatenation of the chunks the queue accepted: every chunk that fitted whole in
the room left when it was appended. `get_status` reports whether end-of-stream was appended. -/
theorem stream_refines_queue (calls : List StreamCall)
    (hcalls : ∀ c ∈ calls, ∀ offset basis, c ≠ .seek offset basis) :
    (Machine.run (InputStreamImpl.step B) InputStreamImpl.init calls).2 =
        (Machine.run ByteQueue.step ByteQueue.init calls).2 ∧
      ByteQueue.readBytes (Machine.run (InputStreamImpl.step B) InputStreamImpl.init calls).2 ++
          (Machine.run (InputStreamImpl.step B) InputStreamImpl.init calls).1.buffer =
        (Machine.run ByteQueue.step ByteQueue.init calls).1.accepted ∧
      (Machine.run (InputStreamImpl.step B) InputStreamImpl.init calls).1.eos =
        (Machine.run ByteQueue.step ByteQueue.init calls).1.eos := by
  obtain ⟨⟨hbuf, heos⟩, hout⟩ := Machine.run_simulates_on (InputStreamImpl.step B) ByteQueue.step
    Holds (fun c => ∀ offset basis, c ≠ .seek offset basis) Eq
    (fun _ _ c hc h => by
      obtain ⟨hh, ho⟩ := step_holds B h c hc
      exact ⟨hh, ho ▸ List.forall₂_refl _⟩)
    (show Holds InputStreamImpl.init ByteQueue.init from ⟨rfl, rfl⟩) hcalls
  have hout' := List.forall₂_eq_eq_eq ▸ hout
  have hcons := Machine.run_invariant ByteQueue.step ByteQueue.Conserves
    (fun q c hq => ByteQueue.conserves_step hq c) (show ByteQueue.init.Conserves from rfl) calls
  refine ⟨hout', ?_, heos⟩
  rw [hout', hbuf, ← hcons, ByteQueue.delivered_run]
  rfl

end Refinement

/-! ## Where the stream is not a lossless queue -/

/-- `get_status` reports end-of-stream while an appended byte is still unread; and a chunk larger
than the buffer is dropped whole, so that end-of-stream is reported when none of its bytes has
been read. -/
theorem status_before_drained (B : ByteBufLib) :
    (Machine.run (InputStreamImpl.step B) InputStreamImpl.init
        [.append (some [7]), .append none, .get_status]).2 = [.status true] ∧
      (Machine.run (InputStreamImpl.step B) InputStreamImpl.init
        [.append (some (List.replicate (STREAM_BUFFER_SIZE + 1) 0)), .append none,
          .read (STREAM_BUFFER_SIZE + 1), .get_status]).2 = [.read [], .status true] := by
  constructor
  · have happend : InputStreamImpl.init.append B (some [7]) =
        ⟨[7], 0, false, by simp [STREAM_BUFFER_SIZE]⟩ := by
      rw [InputStreamImpl.append_of_fits B (by simp [InputStreamImpl.init, STREAM_BUFFER_SIZE])]
      rfl
    simp only [Machine.run_cons, InputStreamImpl.step, happend]
    rfl
  · -- the chunk is one byte longer than the buffer; its length is rewritten, never computed
    have hlen : InputStreamImpl.init.buffer.length +
        (List.replicate (STREAM_BUFFER_SIZE + 1) (0 : UInt8)).length = STREAM_BUFFER_SIZE + 1 := by
      rw [List.length_replicate]
      exact Nat.zero_add _
    have hdrop : InputStreamImpl.init.append B (some (List.replicate (STREAM_BUFFER_SIZE + 1) 0)) =
        InputStreamImpl.init := by
      apply InputStreamImpl.append_too_long
      rw [hlen]
      exact Nat.lt_succ_self _
    simp only [Machine.run_cons, InputStreamImpl.step, hdrop]
    rfl

/-- A read that leaves bytes in the buffer does not move `bytes_read`: after two bytes are appended
and one is read, `bytes_read + buffer.len` is 1, so `seek(1, AWS_SSB_BEGIN)` then drops the second
byte too, and the next read returns nothing. -/
theorem partial_read_seek (B : ByteBufLib) (a b : UInt8) :
    (Machine.run (InputStreamImpl.step B) InputStreamImpl.init
          [.append (some [a, b]), .read 1]).1.bytes_read +
        (Machine.run (InputStreamImpl.step B) InputStreamImpl.init
          [.append (some [a, b]), .read 1]).1.buffer.length = 1 ∧
      (Machine.run (InputStreamImpl.step B) InputStreamImpl.init
        [.append (some [a, b]), .read 1, .seek 1 .AWS_SSB_BEGIN, .read 1]).2 =
        [.read [a], .seek true, .read []] := by
  -- the states one after the other, each computed once
  have happend : InputStreamImpl.init.append B (some [a, b]) =
      ⟨[a, b], 0, false, by simp [STREAM_BUFFER_SIZE]⟩ := by
    rw [InputStreamImpl.append_of_fits B (by simp [InputStreamImpl.init, STREAM_BUFFER_SIZE])]
    rfl
  have hread : InputStreamImpl.read ⟨[a, b], 0, false, by simp [STREAM_BUFFER_SIZE]⟩ 1 =
      ([a], ⟨[b], 0, false, by simp [STREAM_BUFFER_SIZE]⟩) := rfl
  have hseek : InputStreamImpl.seek ⟨[b], 0, false, by simp [STREAM_BUFFER_SIZE]⟩ 1 .AWS_SSB_BEGIN =
      .ok ⟨[], 1, false, by simp [STREAM_BUFFER_SIZE]⟩ := rfl
  have hread' : InputStreamImpl.read ⟨[], 1, false, by simp [STREAM_BUFFER_SIZE]⟩ 1 =
      ([], ⟨[], 1, false, by simp [STREAM_BUFFER_SIZE]⟩) := rfl
  simp only [Machine.run_cons, Machine.run_nil, InputStreamImpl.step, happend, hread, hseek, hread']
  exact ⟨rfl, rfl⟩

end AwsCrt
