import AwsCrt.Lib.Machine
import AwsCrt.Common.IotShared

/-!
# The MQTT 3.1.1 IoT config builders (`src/lib/native/aws_iot.ts`, `src/lib/browser/aws_iot.ts`)

Both `AwsIotMqttConnectionConfigBuilder`s keep one `params` object. `with_username` sets its
username; `with_custom_authorizer` rebuilds it with `populate_username_string_with_custom_authorizer`
(`src/lib/common/aws_iot_shared.ts`), falling back to the username already in `params` when given an
empty one; and `build()` appends the metrics parameters `SDK=NodeJSv2&Version=<crt_version>` to
`params.username` in place and returns `params`.

* The code: `add_to_username_parameter`, `populate_username_string_with_custom_authorizer`,
  `canonicalizeCustomAuthTokenSignature`, and each builder's state and `step` on its calls. The
  setters both builders share are one definition (`IotBuilderParams.apply`); the metrics block of
  both `build()`s is `withMetrics`. The version is the parameter `crt_version`. The setters of
  fields that these calls never read (will, keep-alive, socket and proxy options, timeouts, TLS
  and websocket options other than the ALPN list and the custom-auth protocol) are left out.
* `withMetrics_iterate`: appending the metrics to a username that has them appends them again.
  `run_builds`: the `k`-th of consecutive `build()` calls returns the username with `k` metrics
  suffixes, for both builders (`NativeIotBuilder.run_builds`, `BrowserIotBuilder.run_builds`).
* `populate_custom_authorizer_name`: with an empty username and only an authorizer name,
  `with_custom_authorizer` keeps the builder's username, metrics suffixes included.
-/

namespace AwsCrt

/-- `is_string_and_not_empty(item)`: defined, a string, and not empty. -/
def is_string_and_not_empty (item : Option String) : Bool := truthy item

/-- `add_to_username_parameter(current_username, parameter_value, parameter_pre_text)`: the
parameter goes after `?`, or after `&` once the username has a `?`; the pre-text is left out when
the value already holds it. -/
def add_to_username_parameter (current_username parameter_value parameter_pre_text : String) :
    String :=
  let return_string := current_username ++ if '?' ∈ current_username.toList then "&" else "?"
  if JsString.includes parameter_value parameter_pre_text then return_string ++ parameter_value
  else return_string ++ parameter_pre_text ++ parameter_value

/-- The message of the error thrown when some but not all token fields are set. -/
def customAuthTokenError : String :=
  "Signing-based custom authentication requires all token-related properties to be set"

/-- `populate_username_string_with_custom_authorizer(current_username, input_username,
input_authorizer, input_signature, input_builder_username, input_token_key_name,
input_token_value)`. -/
def populate_username_string_with_custom_authorizer
    (current_username input_username input_authorizer input_signature input_builder_username
      input_token_key_name input_token_value : Option String) : Except String String := do
  let username_string := if truthy current_username then current_username.getD "" else ""
  -- an empty username falls back to the builder's
  let username_string :=
    if is_string_and_not_empty input_username = false then
      if is_string_and_not_empty input_builder_username then
        username_string ++ input_builder_username.getD ""
      else username_string
    else username_string ++ input_username.getD ""
  let username_string :=
    if is_string_and_not_empty input_authorizer then
      add_to_username_parameter username_string (input_authorizer.getD "")
        "x-amz-customauthorizer-name="
    else username_string
  if (is_string_and_not_empty input_signature || is_string_and_not_empty input_token_value ||
      is_string_and_not_empty input_token_key_name) &&
      !(truthy input_token_value && truthy input_token_key_name && truthy input_signature) then
    throw customAuthTokenError
  let username_string :=
    if is_string_and_not_empty input_signature then
      add_to_username_parameter username_string (input_signature.getD "")
        "x-amz-customauthorizer-signature="
    else username_string
  let username_string :=
    if is_string_and_not_empty input_token_value && is_string_and_not_empty input_token_key_name then
      add_to_username_parameter username_string (input_token_value.getD "")
        (input_token_key_name.getD "" ++ "=")
    else username_string
  return username_string

/-- `canonicalizeCustomAuthTokenSignature(signature)`: URI-encoded unless it already holds a
`%`. -/
def canonicalizeCustomAuthTokenSignature : Option String → Option String
  | some signature =>
    if '%' ∈ signature.toList then some signature else some (JsString.encodeURIComponent signature)
  | none => none

/-- The "Add the metrics string" block of both `build()`s, on `params.username`. -/
def withMetrics (crt_version username : String) : String :=
  (if is_string_and_not_empty (some username) = false then "?SDK=NodeJSv2&Version="
  else if '?' ∈ username.toList then username ++ "&SDK=NodeJSv2&Version="
  else username ++ "?SDK=NodeJSv2&Version=") ++ crt_version

/-- The fields of `params` that the username calls and `build()` of both builders read or write.
`client_id` and `host_name` are `undefined` only when a caller passes that. -/
structure IotBuilderParams where
  client_id : Option String
  host_name : Option String
  port : Nat
  username : String
  password : Option String
  deriving DecidableEq, Repr

/-- The setters both builders have, each of which writes one field of `params`. -/
inductive IotBuilderSetter
  | with_endpoint (endpoint : Option String)
  | with_client_id (client_id : Option String)
  | with_port (port : Nat)
  | with_username (username : String)
  | with_password (password : String)
  deriving DecidableEq, Repr

/-- The calls of a builder that touch the fields `build()` reads. -/
inductive IotBuilderCall
  | setter (s : IotBuilderSetter)
  | with_custom_authorizer (username authorizer_name authorizer_signature password : String)
      (token_key_name token_value : Option String)
  | build
  deriving DecidableEq, Repr

/-- A shared setter on `params`. -/
def IotBuilderParams.apply (params : IotBuilderParams) : IotBuilderSetter → IotBuilderParams
  | .with_endpoint endpoint => { params with host_name := endpoint }
  | .with_client_id client_id => { params with client_id := client_id }
  | .with_port port => { params with port := port }
  | .with_username username => { params with username := username }
  | .with_password password => { params with password := some password }

/-- The username both `with_custom_authorizer`s compute. -/
def IotBuilderParams.customAuthorizerUsername (params : IotBuilderParams)
    (username authorizer_name authorizer_signature : String)
    (token_key_name token_value : Option String) : Except String String :=
  populate_username_string_with_custom_authorizer (some "") (some username) (some authorizer_name)
    (canonicalizeCustomAuthTokenSignature (some authorizer_signature)) (some params.username)
    token_key_name token_value

/-- The error `build()` throws when `client_id` or the endpoint is `undefined`. -/
def buildError : String := "client_id and endpoint are required"

/-! ## The native builder -/

/-- The native builder: `params` (with `use_websocket` and whether `tls_ctx` is set), the ALPN list
of its TLS options, and `is_using_custom_authorizer`. -/
structure NativeIotBuilder where
  params : IotBuilderParams
  use_websocket : Bool
  tls_ctx : Bool
  alpn_list : List String
  is_using_custom_authorizer : Bool
  deriving DecidableEq, Repr

namespace NativeIotBuilder

/-- The private constructor on TLS options with this ALPN list. -/
def new (alpn_list : List String) : NativeIotBuilder :=
  ⟨⟨some "", some "", 8883, "", none⟩, false, false, alpn_list, false⟩

/-- `with_custom_authorizer(...)`: the flag is set before the username is computed, so a throw
leaves it set. -/
def with_custom_authorizer (b : NativeIotBuilder)
    (username authorizer_name authorizer_signature password : String)
    (token_key_name token_value : Option String) : NativeIotBuilder × Except String Unit :=
  let b := { b with is_using_custom_authorizer := true }
  match b.params.customAuthorizerUsername username authorizer_name authorizer_signature
      token_key_name token_value with
  | .error e => (b, .error e)
  | .ok username_string =>
    ({ b with
        params :=
          { b.params with username := username_string, password := some password, port := 443 }
        alpn_list := if b.use_websocket then b.alpn_list else ["mqtt"] }, .ok ())

/-- `build()`: a username that names a custom authorizer marks the builder as using one (which
only prints a warning on a port other than 443), the TLS context is made once, and the metrics are
appended to `params.username`, which is returned. -/
def build (crt_version : String) (b : NativeIotBuilder) : Except String (NativeIotBuilder × String) :=
  if b.params.client_id.isNone || b.params.host_name.isNone then .error buildError
  else
    let is_using_custom_authorizer := b.is_using_custom_authorizer ||
      is_string_and_not_empty (some b.params.username) &&
        (JsString.includes b.params.username "x-amz-customauthorizer-name=" ||
          JsString.includes b.params.username "x-amz-customauthorizer-signature=")
    let username := withMetrics crt_version b.params.username
    .ok ({ b with
      params := { b.params with username := username }
      tls_ctx := true
      is_using_custom_authorizer := is_using_custom_authorizer }, username)

/-- A call; `build()` outputs the username of the config it returns, and a throw its message. -/
def step (crt_version : String) (b : NativeIotBuilder) :
    IotBuilderCall → NativeIotBuilder × List (Except String String)
  | .setter s => ({ b with params := b.params.apply s }, [])
  | .with_custom_authorizer username authorizer_name authorizer_signature password token_key_name
      token_value =>
    match b.with_custom_authorizer username authorizer_name authorizer_signature password
        token_key_name token_value with
    | (b', .ok ()) => (b', [])
    | (b', .error e) => (b', [.error e])
  | .build =>
    match b.build crt_version with
    | .ok (b', username) => (b', [.ok username])
    | .error e => (b, [.error e])

end NativeIotBuilder

/-! ## The browser builder -/

/-- The browser builder: `params`, and the protocol of `params.websocket`. -/
structure BrowserIotBuilder where
  params : IotBuilderParams
  websocket_protocol : Option String
  deriving DecidableEq, Repr

namespace BrowserIotBuilder

/-- `new_builder_for_websocket()`. -/
def new : BrowserIotBuilder := ⟨⟨some "", some "", 443, "", none⟩, none⟩

/-- `with_custom_authorizer(...)`: `params.websocket` is always defined, so its protocol is set. -/
def with_custom_authorizer (b : BrowserIotBuilder)
    (username authorizer_name authorizer_signature password : String)
    (token_key_name token_value : Option String) : Except String BrowserIotBuilder := do
  let username_string ← b.params.customAuthorizerUsername username authorizer_name
    authorizer_signature token_key_name token_value
  return { b with
    params := { b.params with username := username_string, password := some password }
    websocket_protocol := some "wss-custom-auth" }

/-- `build()`: the metrics are appended to `params.username`, which is returned. -/
def build (crt_version : String) (b : BrowserIotBuilder) : Except String (BrowserIotBuilder × String) :=
  if b.params.client_id.isNone || b.params.host_name.isNone then .error buildError
  else
    let username := withMetrics crt_version b.params.username
    .ok ({ b with params := { b.params with username := username } }, username)

def step (crt_version : String) (b : BrowserIotBuilder) :
    IotBuilderCall → BrowserIotBuilder × List (Except String String)
  | .setter s => ({ b with params := b.params.apply s }, [])
  | .with_custom_authorizer username authorizer_name authorizer_signature password token_key_name
      token_value =>
    match b.with_custom_authorizer username authorizer_name authorizer_signature password
        token_key_name token_value with
    | .ok b' => (b', [])
    | .error e => (b, [.error e])
  | .build =>
    match b.build crt_version with
    | .ok (b', username) => (b', [.ok username])
    | .error e => (b, [.error e])

end BrowserIotBuilder

/-! ## Repeated builds -/

section Metrics

variable (crt_version : String)

theorem mem_withMetrics (username : String) : '?' ∈ (withMetrics crt_version username).toList := by
  unfold withMetrics
  split_ifs with hne hq
  · simp
  · simp [hq]
  · simp

theorem withMetrics_empty : withMetrics crt_version "" = "?SDK=NodeJSv2&Version=" ++ crt_version := by
  simp [withMetrics, is_string_and_not_empty, truthy]

/-- A username with a query gets the metrics after `&`. -/
theorem withMetrics_of_mem {username : String} (h : '?' ∈ username.toList) :
    withMetrics crt_version username = username ++ "&SDK=NodeJSv2&Version=" ++ crt_version := by
  have hne : username ≠ "" := by
    rintro rfl
    simp at h
  simp [withMetrics, is_string_and_not_empty, truthy, hne, h]

/-- Appending the metrics to a username that has them appends them once more: after `k + 1`
rounds the username holds `k + 1` copies. -/
theorem withMetrics_iterate (username : String) (k : Nat) :
    (withMetrics crt_version)^[k + 1] username =
      withMetrics crt_version username ++
        String.join (List.replicate k ("&SDK=NodeJSv2&Version=" ++ crt_version)) := by
  induction k with
  | zero => simp
  | succ k ih =>
    have hmem : '?' ∈ ((withMetrics crt_version)^[k + 1] username).toList := by
      rw [ih, String.toList_append]
      exact List.mem_append_left _ (mem_withMetrics crt_version username)
    rw [Function.iterate_succ_apply', withMetrics_of_mem crt_version hmem, ih,
      List.replicate_succ', String.join_append]
    simp [String.append_assoc]

/-- The `k`-th of consecutive `build()` calls, on a builder whose `build()` succeeds and keeps
the username it returns, returns the username with `k` metrics suffixes. -/
theorem run_builds {σ : Type} (step : σ → IotBuilderCall → σ × List (Except String String))
    (username : σ → String) (Ready : σ → Prop)
    (hstep : ∀ s, Ready s → Ready (step s .build).1 ∧
      username (step s .build).1 = withMetrics crt_version (username s) ∧
      (step s .build).2 = [.ok (withMetrics crt_version (username s))])
    (n : Nat) {s : σ} (hs : Ready s) :
    (Machine.run step s (List.replicate n .build)).2 =
      (List.range n).map fun k => .ok ((withMetrics crt_version)^[k + 1] (username s)) := by
  induction n generalizing s with
  | zero => simp
  | succ n ih =>
    obtain ⟨hready, husername, hout⟩ := hstep s hs
    rw [List.replicate_succ, Machine.run_cons, ih hready, hout, husername, List.range_succ_eq_map]
    simp [Function.iterate_succ_apply]

end Metrics

/-- `build()` as a call: the builder and the username `build` returns, or the throw. -/
theorem NativeIotBuilder.step_build_eq (crt_version : String) (b : NativeIotBuilder) :
    b.step crt_version .build =
      match b.build crt_version with
      | .ok (b', username) => (b', [.ok username])
      | .error e => (b, [.error e]) := rfl

/-- `build()` with a client id and an endpoint succeeds. -/
theorem NativeIotBuilder.build_of_isSome {crt_version : String} {b : NativeIotBuilder}
    (hc : b.params.client_id.isSome) (hh : b.params.host_name.isSome) :
    b.build crt_version =
      .ok ({ b with
          params := { b.params with username := withMetrics crt_version b.params.username }
          tls_ctx := true
          is_using_custom_authorizer := b.is_using_custom_authorizer ||
            is_string_and_not_empty (some b.params.username) &&
              (JsString.includes b.params.username "x-amz-customauthorizer-name=" ||
                JsString.includes b.params.username "x-amz-customauthorizer-signature=") },
        withMetrics crt_version b.params.username) := by
  have hnone : (b.params.client_id.isNone || b.params.host_name.isNone) = false := by
    simp [hc, hh]
  rw [NativeIotBuilder.build, hnone]
  rfl

theorem NativeIotBuilder.step_build {crt_version : String} {b : NativeIotBuilder}
    (hc : b.params.client_id.isSome) (hh : b.params.host_name.isSome) :
    b.step crt_version .build =
      ({ b with
          params := { b.params with username := withMetrics crt_version b.params.username }
          tls_ctx := true
          is_using_custom_authorizer := b.is_using_custom_authorizer ||
            is_string_and_not_empty (some b.params.username) &&
              (JsString.includes b.params.username "x-amz-customauthorizer-name=" ||
                JsString.includes b.params.username "x-amz-customauthorizer-signature=") },
        [.ok (withMetrics crt_version b.params.username)]) := by
  rw [step_build_eq, build_of_isSome hc hh]

/-- `build()` as a call: the builder and the username `build` returns, or the throw. -/
theorem BrowserIotBuilder.step_build_eq (crt_version : String) (b : BrowserIotBuilder) :
    b.step crt_version .build =
      match b.build crt_version with
      | .ok (b', username) => (b', [.ok username])
      | .error e => (b, [.error e]) := rfl

/-- `build()` with a client id and an endpoint succeeds. -/
theorem BrowserIotBuilder.build_of_isSome {crt_version : String} {b : BrowserIotBuilder}
    (hc : b.params.client_id.isSome) (hh : b.params.host_name.isSome) :
    b.build crt_version =
      .ok ({ b with params := { b.params with username := withMetrics crt_version b.params.username } },
        withMetrics crt_version b.params.username) := by
  have hnone : (b.params.client_id.isNone || b.params.host_name.isNone) = false := by
    simp [hc, hh]
  rw [BrowserIotBuilder.build, hnone]
  rfl

theorem BrowserIotBuilder.step_build {crt_version : String} {b : BrowserIotBuilder}
    (hc : b.params.client_id.isSome) (hh : b.params.host_name.isSome) :
    b.step crt_version .build =
      ({ b with params := { b.params with username := withMetrics crt_version b.params.username } },
        [.ok (withMetrics crt_version b.params.username)]) := by
  rw [step_build_eq, build_of_isSome hc hh]

/-- The native builder: the `k`-th of consecutive `build()` calls returns the username with `k`
metrics suffixes. -/
theorem NativeIotBuilder.run_builds (crt_version : String) {b : NativeIotBuilder}
    (hc : b.params.client_id.isSome) (hh : b.params.host_name.isSome) (n : Nat) :
    (Machine.run (NativeIotBuilder.step crt_version) b (List.replicate n .build)).2 =
      (List.range n).map fun k => .ok ((withMetrics crt_version)^[k + 1] b.params.username) :=
  AwsCrt.run_builds crt_version _ (fun b : NativeIotBuilder => b.params.username)
    (fun b => b.params.client_id.isSome ∧ b.params.host_name.isSome)
    (fun _ hb => by simp [NativeIotBuilder.step_build hb.1 hb.2, hb.1, hb.2]) n ⟨hc, hh⟩

/-- The browser builder: the `k`-th of consecutive `build()` calls returns the username with `k`
metrics suffixes. -/
theorem BrowserIotBuilder.run_builds (crt_version : String) {b : BrowserIotBuilder}
    (hc : b.params.client_id.isSome) (hh : b.params.host_name.isSome) (n : Nat) :
    (Machine.run (BrowserIotBuilder.step crt_version) b (List.replicate n .build)).2 =
      (List.range n).map fun k => .ok ((withMetrics crt_version)^[k + 1] b.params.username) :=
  AwsCrt.run_builds crt_version _ (fun b : BrowserIotBuilder => b.params.username)
    (fun b => b.params.client_id.isSome ∧ b.params.host_name.isSome)
    (fun _ hb => by simp [BrowserIotBuilder.step_build hb.1 hb.2, hb.1, hb.2]) n ⟨hc, hh⟩

/-- From a new builder, native or browser, the `k + 1`-th of consecutive `build()` calls returns
the metrics parameters followed by `k` more copies of them: the second `build()` returns them twice,
and differs from the first. -/
theorem build_repeats_metrics (crt_version : String) (alpn_list : List String) (n : Nat) :
    (Machine.run (NativeIotBuilder.step crt_version) (NativeIotBuilder.new alpn_list)
        (List.replicate n .build)).2 =
      (List.range n).map (fun k => .ok ("?SDK=NodeJSv2&Version=" ++ crt_version ++
        String.join (List.replicate k ("&SDK=NodeJSv2&Version=" ++ crt_version)))) ∧
    (Machine.run (BrowserIotBuilder.step crt_version) BrowserIotBuilder.new
        (List.replicate n .build)).2 =
      (List.range n).map (fun k => .ok ("?SDK=NodeJSv2&Version=" ++ crt_version ++
        String.join (List.replicate k ("&SDK=NodeJSv2&Version=" ++ crt_version)))) := by
  constructor
  · rw [NativeIotBuilder.run_builds crt_version rfl rfl n]
    simp [withMetrics_iterate, withMetrics_empty, NativeIotBuilder.new]
  · rw [BrowserIotBuilder.run_builds crt_version rfl rfl n]
    simp [withMetrics_iterate, withMetrics_empty, BrowserIotBuilder.new]

/-- `with_custom_authorizer` with an empty username and signature and only an authorizer name
keeps the builder's username, whatever `build()` has appended to it, and adds the name to it. -/
theorem populate_custom_authorizer_name (params : IotBuilderParams) {authorizer_name : String} (hname : authorizer_name ≠ "") :
    params.customAuthorizerUsername "" authorizer_name "" none none =
      .ok (add_to_username_parameter params.username authorizer_name
        "x-amz-customauthorizer-name=") := by
  have hsig : canonicalizeCustomAuthTokenSignature (some "") = some "" := by
    simp [canonicalizeCustomAuthTokenSignature, JsString.encodeURIComponent]
  -- the builder's username is taken as it is, or left out when empty
  by_cases hu : params.username = "" <;>
    simp [IotBuilderParams.customAuthorizerUsername, populate_username_string_with_custom_authorizer,
      hsig, is_string_and_not_empty, truthy, hu, hname, pure, Except.pure]

end AwsCrt
