import AwsCrt.Lib.Machine
import AwsCrt.Native.Napi

/-!
# Arguments of bound methods (`src/source/class_binder.c`)

A method of a class bound through the class binder is called by `s_method_call`: it fetches at
most `AWS_NAPI_METHOD_MAX_ARGS` arguments into a zeroed array of that many
`struct aws_napi_argument`, checks that the required ones are there, parses each fetched one
against the type the method declares for it, and passes the method the array with the number of
arguments, `num_args`. The method walks the array with `aws_napi_method_next_argument`, whose
iterator is a pointer into it: `NULL` before the first call, then moved one slot per call.

* The code: an argument is its type (the value and its native form are not read by the
  iteration). `aws_napi_method_next_argument` reports which slot it reads; a slot outside the
  array is a read past it, with no result (`NextArgument.result` is `none`). Unwrapping the
  native object of an instance method is assumed to succeed.
* `s_method_call_arguments`: the array a bound method receives holds the types of the
  `num_args` arguments, then zeroed slots, whose type is `napi_undefined`.
* `nextArguments_getElem?`: the `j`-th call of a walk from `NULL` reads slot `j` when
  `j ≤ num_args`; `nextArgumentAt_of_lt`: for `j < num_args`, it reports whether argument `j`
  has the expected type; `nextArgumentAt_of_gt`: past slot `num_args` it reads nothing.
* `next_argument_reads_past_end`: the call after the last argument passes the bound check
  `current_index <= num_args`, reads slot `num_args`, and returns true when any type is expected;
  after `AWS_NAPI_METHOD_MAX_ARGS` arguments that slot lies past the array.
-/

namespace AwsCrt

/-- `AWS_NAPI_METHOD_MAX_ARGS`. -/
def AWS_NAPI_METHOD_MAX_ARGS : Nat := 9

/-- `struct aws_napi_argument`, by its type. -/
structure aws_napi_argument where
  type : napi_valuetype
  deriving DecidableEq, Repr

/-- `struct aws_napi_callback_info`: the argument array and the number of arguments. -/
structure aws_napi_callback_info where
  arguments : List aws_napi_argument
  num_args : Nat
  deriving DecidableEq, Repr

/-- `struct aws_napi_method_info`: the number of required arguments and the declared types,
zero (`napi_undefined`) beyond those given. -/
structure aws_napi_method_info where
  num_arguments : Nat
  arg_types : List napi_valuetype

/-- `s_argument_parse(env, value, expected_type, accept_undefined, out_value)`, for a value of
type `type`: a type other than the expected one (unless the expected one is `napi_undefined`, or
the argument is optional and `undefined`) throws a `TypeError`. -/
def s_argument_parse (type expected_type : napi_valuetype) (accept_undefined : Bool) :
    Except String aws_napi_argument :=
  if expected_type ≠ .napi_undefined ∧ type ≠ expected_type ∧
      ¬(accept_undefined = true ∧ type = .napi_undefined) then
    match expected_type with
    | .napi_string => .error "Class binder argument expected a string"
    | .napi_number => .error "Class binder argument expected a number"
    | _ => .error "Class binder argument wrong type"
  else .ok ⟨type⟩

/-- `s_method_call`, up to the call of the method: the `aws_napi_callback_info` the method gets,
for arguments of the types `node_args`, or the error it throws instead. -/
def s_method_call (method : aws_napi_method_info) (node_args : List napi_valuetype) :
    Except String aws_napi_callback_info := do
  let num_args := min node_args.length AWS_NAPI_METHOD_MAX_ARGS
  if num_args < method.num_arguments then
    throw "Bound class's method requires more arguments"
  let args ← (List.range num_args).mapM fun i =>
    s_argument_parse (node_args.getD i .napi_undefined) (method.arg_types.getD i .napi_undefined)
      (decide (i ≥ method.num_arguments))
  -- `AWS_ZERO_ARRAY(args)`: the slots past `num_args` stay zeroed
  pure ⟨args ++ List.replicate (AWS_NAPI_METHOD_MAX_ARGS - num_args) ⟨.napi_undefined⟩, num_args⟩

/-- One call of `aws_napi_method_next_argument`: where `*next_arg` points after it, as an index
into `cb_info->arguments`, the slot whose type it reads, and what it returns (`none` when that
slot lies past the array). -/
structure NextArgument where
  next_arg : Nat
  read : Option Nat
  result : Option Bool
  deriving DecidableEq, Repr

/-- What `aws_napi_method_next_argument` does once `*next_arg` points at slot `current_index`. -/
def nextArgumentAt (expected_type : napi_valuetype) (cb_info : aws_napi_callback_info)
    (current_index : Nat) : NextArgument :=
  if current_index ≤ cb_info.num_args then
    ⟨current_index, some current_index, cb_info.arguments[current_index]?.map fun arg =>
      (expected_type == .napi_undefined && arg.type != .napi_undefined) ||
        expected_type == arg.type⟩
  else ⟨current_index, none, some false⟩

/-- `aws_napi_method_next_argument(expected_type, cb_info, next_arg)`: `*next_arg` (`none` for
`NULL`) moves to the first argument, or to the next one. -/
def aws_napi_method_next_argument (expected_type : napi_valuetype)
    (cb_info : aws_napi_callback_info) (next_arg : Option Nat) : NextArgument :=
  nextArgumentAt expected_type cb_info
    (match next_arg with
      | none => 0
      | some i => i + 1)

/-- Successive calls of `aws_napi_method_next_argument` with the types `expected_types`, from
the iterator `next_arg`. -/
def nextArguments (cb_info : aws_napi_callback_info) :
    Option Nat → List napi_valuetype → List NextArgument
  | _, [] => []
  | next_arg, expected_type :: expected_types =>
    let call := aws_napi_method_next_argument expected_type cb_info next_arg
    call :: nextArguments cb_info (some call.next_arg) expected_types

/-! ## The argument array of a bound method -/

theorem s_argument_parse_ok {type expected_type : napi_valuetype} {accept_undefined : Bool}
    {arg : aws_napi_argument} (h : s_argument_parse type expected_type accept_undefined = .ok arg) :
    arg = ⟨type⟩ := by
  unfold s_argument_parse at h
  split at h
  next => split at h <;> cases h
  next => exact (Except.ok.inj h).symm

/-- The array a bound method gets holds the types of its `num_args` arguments, then zeroed slots
up to `AWS_NAPI_METHOD_MAX_ARGS`. -/
theorem s_method_call_arguments {method : aws_napi_method_info} {node_args : List napi_valuetype}
    {cb_info : aws_napi_callback_info} (h : s_method_call method node_args = .ok cb_info) :
    cb_info.num_args = min node_args.length AWS_NAPI_METHOD_MAX_ARGS ∧
      cb_info.arguments =
        (List.range cb_info.num_args).map (fun i => ⟨node_args.getD i .napi_undefined⟩) ++
          List.replicate (AWS_NAPI_METHOD_MAX_ARGS - cb_info.num_args) ⟨.napi_undefined⟩ := by
  unfold s_method_call at h
  dsimp only at h
  split at h
  next => cases h
  next =>
    obtain ⟨args, hargs, hpure⟩ := Machine.bind_eq_ok h
    cases hpure
    refine ⟨rfl, ?_⟩
    rw [Machine.map_of_mapM_eq_ok _ (fun _ _ => s_argument_parse_ok) hargs]

/-- The slots of the array a bound method gets: its arguments, zeroed slots up to
`AWS_NAPI_METHOD_MAX_ARGS`, and nothing past the array. -/
theorem s_method_call_getElem? {method : aws_napi_method_info} {node_args : List napi_valuetype}
    {cb_info : aws_napi_callback_info} (h : s_method_call method node_args = .ok cb_info) (j : Nat) :
    cb_info.arguments[j]? =
      if j < cb_info.num_args then some ⟨node_args.getD j .napi_undefined⟩
      else if j < AWS_NAPI_METHOD_MAX_ARGS then some ⟨.napi_undefined⟩
      else none := by
  obtain ⟨hn, ha⟩ := s_method_call_arguments h
  have hle : cb_info.num_args ≤ AWS_NAPI_METHOD_MAX_ARGS := hn ▸ Nat.min_le_right _ _
  rw [ha]
  by_cases hj : j < cb_info.num_args
  · rw [if_pos hj, List.getElem?_append_left (by simpa using hj)]
    simp [hj]
  · rw [if_neg hj, List.getElem?_append_right (by simp; omega)]
    simp only [List.length_map, List.length_range, List.getElem?_replicate]
    by_cases hmax : j < AWS_NAPI_METHOD_MAX_ARGS
    · rw [if_pos (by omega), if_pos hmax]
    · rw [if_neg (by omega), if_neg hmax]

/-! ## Walking the arguments -/

@[simp] theorem next_arg_nextArgumentAt (expected_type : napi_valuetype)
    (cb_info : aws_napi_callback_info) (current_index : Nat) :
    (nextArgumentAt expected_type cb_info current_index).next_arg = current_index := by
  unfold nextArgumentAt
  split <;> rfl

/-- After the iterator has reached slot `i`, the `j`-th further call points at slot `i + 1 + j`. -/
theorem nextArguments_some_getElem? (cb_info : aws_napi_callback_info) (i : Nat)
    (expected_types : List napi_valuetype) (j : Nat) :
    (nextArguments cb_info (some i) expected_types)[j]? =
      expected_types[j]?.map fun t => nextArgumentAt t cb_info (i + 1 + j) := by
  induction expected_types generalizing i j with
  | nil => rfl
  | cons t expected_types ih =>
    cases j with
    | zero => rfl
    | succ j =>
      have hindex : i + 1 + 1 + j = i + 1 + (j + 1) := by omega
      simp only [nextArguments, aws_napi_method_next_argument, next_arg_nextArgumentAt,
        List.getElem?_cons_succ, ih, hindex]

/-- The `j`-th call of a walk from `NULL` points at slot `j`. -/
theorem nextArguments_getElem? (cb_info : aws_napi_callback_info)
    (expected_types : List napi_valuetype) (j : Nat) :
    (nextArguments cb_info none expected_types)[j]? =
      expected_types[j]?.map fun t => nextArgumentAt t cb_info j := by
  cases expected_types with
  | nil => rfl
  | cons t expected_types =>
    cases j with
    | zero => rfl
    | succ j =>
      have hindex : 0 + 1 + j = j + 1 := by omega
      simp only [nextArguments, aws_napi_method_next_argument, next_arg_nextArgumentAt,
        List.getElem?_cons_succ, nextArguments_some_getElem?, hindex]

/-- The type test: `napi_undefined` expects any type, and another type expects itself. -/
theorem expected_type_test (expected_type type : napi_valuetype) :
    ((expected_type == .napi_undefined && type != .napi_undefined) || expected_type == type) =
      (expected_type == .napi_undefined || expected_type == type) := by
  cases hu : expected_type == .napi_undefined with
  | false => simp
  | true =>
    -- any type passes, `undefined` included
    have he : expected_type = .napi_undefined := by simpa using hu
    subst he
    by_cases ht : type = .napi_undefined
    · simp [ht]
    · simp [ht]

/-- A call at one of the `num_args` arguments reads it and says whether it has the expected
type, any type when that is `napi_undefined`. -/
theorem nextArgumentAt_of_lt {method : aws_napi_method_info} {node_args : List napi_valuetype}
    {cb_info : aws_napi_callback_info} (h : s_method_call method node_args = .ok cb_info)
    (expected_type : napi_valuetype) {j : Nat} (hj : j < cb_info.num_args) :
    nextArgumentAt expected_type cb_info j =
      ⟨j, some j, some (expected_type == .napi_undefined ||
        expected_type == node_args.getD j .napi_undefined)⟩ := by
  simp [nextArgumentAt, Nat.le_of_lt hj, s_method_call_getElem? h, hj, expected_type_test]

/-- A call past slot `num_args` reads nothing and returns false. -/
theorem nextArgumentAt_of_gt (expected_type : napi_valuetype) {cb_info : aws_napi_callback_info}
    {j : Nat} (hj : cb_info.num_args < j) :
    nextArgumentAt expected_type cb_info j = ⟨j, none, some false⟩ := by
  simp [nextArgumentAt, Nat.not_le.mpr hj]

/-- The call after the last argument still passes the bound check `current_index <= num_args`:
it reads slot `num_args`, a zeroed slot of type `napi_undefined`, so that it returns true when
any type is expected, or, after all `AWS_NAPI_METHOD_MAX_ARGS` arguments, lies past the array. -/
theorem next_argument_reads_past_end {method : aws_napi_method_info}
    {node_args : List napi_valuetype} {cb_info : aws_napi_callback_info}
    (h : s_method_call method node_args = .ok cb_info) (expected_types : List napi_valuetype) :
    (nextArguments cb_info none expected_types)[cb_info.num_args]? =
      expected_types[cb_info.num_args]?.map fun t =>
        ⟨cb_info.num_args, some cb_info.num_args,
          if cb_info.num_args < AWS_NAPI_METHOD_MAX_ARGS then some (t == .napi_undefined)
          else none⟩ := by
  rw [nextArguments_getElem?]
  congr 1
  funext t
  by_cases hmax : cb_info.num_args < AWS_NAPI_METHOD_MAX_ARGS
  · simp [nextArgumentAt, s_method_call_getElem? h, hmax, expected_type_test]
  · simp [nextArgumentAt, s_method_call_getElem? h, hmax]

theorem next_argument_reads_past_end_zero_max :
    (∃ cb_info, s_method_call ⟨0, []⟩ [] = .ok cb_info ∧ cb_info.num_args = 0 ∧
      (nextArguments cb_info none [.napi_undefined])[0]? = some ⟨0, some 0, some true⟩) ∧
    (∃ cb_info, s_method_call ⟨0, []⟩ (List.replicate 9 .napi_number) = .ok cb_info ∧
      cb_info.num_args = 9 ∧
      (nextArguments cb_info none (List.replicate 10 .napi_number))[9]? =
        some ⟨9, some 9, none⟩) :=
  ⟨⟨_, rfl, rfl, @next_argument_reads_past_end ⟨0, []⟩ [] _ rfl [.napi_undefined]⟩,
    ⟨_, rfl, rfl, @next_argument_reads_past_end ⟨0, []⟩ (List.replicate 9 .napi_number) _ rfl
      (List.replicate 10 .napi_number)⟩⟩

end AwsCrt
