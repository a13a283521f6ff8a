import AwsCrt.Lib.JsString

/-!
# The MQTT5 custom-auth username (`src/lib/common/aws_iot_shared.ts`)

`buildMqtt5FinalUsername` splits the user's username at `?` into a path and a query, parses the
query into `key=value` pairs (`split("&")`, then `split("=")` keeping the first two pieces), adds
the authorizer, token and SDK metrics parameters, and joins everything back with `&`.

- **The code** (`addParam`, `parseQueryItem`, `customAuthParams`, `buildMqtt5FinalUsername`).
  Strings are Lean strings; `split` is `JsString.split`, `join` is `String.intercalate`. JS
  truthiness of an optional string is `truthy`. The version string of `platform.crt_version()`
  (read from `package.json`) is the parameter `crtVersion`.
- **Errors** (`buildMqtt5FinalUsername_error_iff`): the builder throws exactly when some but not
  all token fields are set, or when the username has two or more `?`.
- **The round trip** (`mqtt5_username_round_trip`): for a username `p` or `p?q` with `q` the
  `&`-join of items with at most one `=` each, the result is `p?` followed by the items, each
  written back as `normalizeItem` does (an item without `=` gets one appended), then the added
  parameters in order (`addedParams`).
-/

namespace AwsCrt

/-- The fields of `MqttConnectCustomAuthConfig` that `buildMqtt5FinalUsername` reads. -/
structure MqttConnectCustomAuthConfig where
  authorizerName : Option String := none
  username : Option String := none
  tokenKeyName : Option String := none
  tokenValue : Option String := none
  tokenSignature : Option String := none
  deriving Repr, DecidableEq

/-- JavaScript truthiness of an optional string: defined and not empty. -/
def truthy : Option String → Bool
  | some s => s != ""
  | none => false

/-- `addParam(paramName, paramValue, paramSet)`: push the pair when the value is truthy. -/
def addParam (paramName : String) (paramValue : Option String) (paramSet : List (String × String)) :
    List (String × String) :=
  match paramValue with
  | some v => if v = "" then paramSet else paramSet ++ [(paramName, v)]
  | none => paramSet

/-- One query item: `let kvPair = keyValue.split("="); [kvPair[0], kvPair[1] ?? ""]`. -/
def parseQueryItem (keyValue : String) : String × String :=
  let kvPair := JsString.split keyValue '='
  (kvPair.headD "", kvPair.getD 1 "")

namespace MqttConnectCustomAuthConfig

variable (cfg : MqttConnectCustomAuthConfig)

/-- `usingSigning`: one of the token fields is truthy. -/
def usingSigning : Bool := truthy cfg.tokenValue || truthy cfg.tokenKeyName || truthy cfg.tokenSignature

/-- All three token fields are truthy. -/
def allTokenFields : Bool := truthy cfg.tokenValue && truthy cfg.tokenKeyName && truthy cfg.tokenSignature

end MqttConnectCustomAuthConfig

/-- The user's query parameters: `params[0].split("&")`, each item parsed, when there is a query. -/
def queryParams (params : List String) : List (String × String) :=
  if params.length = 1 then (JsString.split (params.headD "") '&').map parseQueryItem else []

/-- The parameters added after the user's: the authorizer name, then the token and the signature
when signing. -/
def authParams (cfg : MqttConnectCustomAuthConfig) (paramList : List (String × String)) :
    List (String × String) :=
  let paramList := addParam "x-amz-customauthorizer-name" cfg.authorizerName paramList
  if cfg.usingSigning then
    addParam "x-amz-customauthorizer-signature" cfg.tokenSignature
      (addParam (cfg.tokenKeyName.getD "") cfg.tokenValue paramList)
  else paramList

/-- The `if (customAuthConfig)` block of `buildMqtt5FinalUsername`: the path and the parameters
before the SDK metrics, or the error it throws. -/
def customAuthParams (cfg : MqttConnectCustomAuthConfig) :
    Except String (String × List (String × String)) :=
  if cfg.usingSigning && !cfg.allTokenFields then
    .error "Token-based custom authentication requires all token-related properties to be set"
  else
    let pathSplit := JsString.split (cfg.username.getD "") '?'
    let params := pathSplit.drop 1
    if params.length > 1 then
      .error "Custom auth username property value is invalid"
    else
      .ok (pathSplit.headD "", authParams cfg (queryParams params))

/-- `${value[0]}=${value[1]}`, as the final `map` writes a pair. -/
def renderParam (kv : String × String) : String := kv.1 ++ "=" ++ kv.2

/-- `buildMqtt5FinalUsername(customAuthConfig)`. -/
def buildMqtt5FinalUsername (crtVersion : String) (customAuthConfig : Option MqttConnectCustomAuthConfig) :
    Except String String := do
  let (path, paramList) ← match customAuthConfig with
    | some cfg => customAuthParams cfg
    | none => pure ("", [])
  let paramList := paramList ++ [("SDK", "NodeJSv2"), ("Version", crtVersion)]
  pure (path ++ "?" ++ String.intercalate "&" (paramList.map renderParam))

/-! ## Errors -/

/-- The query pieces after the path are one fewer than the pieces of the split. -/
theorem length_drop_split (u : String) : ((JsString.split u '?').drop 1).length = u.toList.count '?' := by
  simp [JsString.length_split]

section Spec

variable {cfg : MqttConnectCustomAuthConfig}

theorem customAuthParams_token_error (ht : (cfg.usingSigning && !cfg.allTokenFields) = true) :
    customAuthParams cfg =
      .error "Token-based custom authentication requires all token-related properties to be set" := by
  simp [customAuthParams, ht]

theorem customAuthParams_query_error (ht : (cfg.usingSigning && !cfg.allTokenFields) = false)
    (hq : 2 ≤ (cfg.username.getD "").toList.count '?') :
    customAuthParams cfg = .error "Custom auth username property value is invalid" := by
  unfold customAuthParams
  dsimp only
  rw [if_neg (by simp [ht]), length_drop_split, if_pos (by omega)]

/-- Past both checks: the path is the first piece, then the parsed query and the added
parameters. -/
theorem customAuthParams_ok (ht : (cfg.usingSigning && !cfg.allTokenFields) = false)
    (hq : (cfg.username.getD "").toList.count '?' ≤ 1) :
    customAuthParams cfg =
      .ok ((JsString.split (cfg.username.getD "") '?').headD "",
        authParams cfg (queryParams ((JsString.split (cfg.username.getD "") '?').drop 1))) := by
  unfold customAuthParams
  dsimp only
  rw [if_neg (by simp [ht]), if_neg (by rw [length_drop_split]; omega)]

end Spec

theorem buildMqtt5FinalUsername_some (crtVersion : String) (cfg : MqttConnectCustomAuthConfig) :
    buildMqtt5FinalUsername crtVersion (some cfg) =
      (customAuthParams cfg).map fun r => r.1 ++ "?" ++ String.intercalate "&"
        ((r.2 ++ [("SDK", "NodeJSv2"), ("Version", crtVersion)]).map renderParam) := by
  simp only [buildMqtt5FinalUsername]
  cases customAuthParams cfg <;> rfl

/-- The builder throws exactly when some but not all token fields are set, or when the username
has two or more `?`. -/
theorem buildMqtt5FinalUsername_error_iff (crtVersion : String) (cfg : MqttConnectCustomAuthConfig) :
    (∃ e, buildMqtt5FinalUsername crtVersion (some cfg) = .error e) ↔
      (cfg.usingSigning && !cfg.allTokenFields) = true ∨
        2 ≤ (cfg.username.getD "").toList.count '?' := by
  rw [buildMqtt5FinalUsername_some]
  cases ht : (cfg.usingSigning && !cfg.allTokenFields)
  · by_cases hq : 2 ≤ (cfg.username.getD "").toList.count '?'
    · simp [customAuthParams_query_error ht hq, hq, Except.map]
    · simp [customAuthParams_ok ht (by omega), hq, Except.map]
  · simp [customAuthParams_token_error ht, Except.map]

/-! ## The round trip -/

/-- A query item as the builder writes it back: verbatim when it has an `=`, with `=` appended when
it has none. -/
def normalizeItem (item : String) : String := if '=' ∈ item.toList then item else item ++ "="

/-- The parameters the builder adds after the user's query, each as `key=value`: the authorizer
name when set, the token and the signature when signing, then the SDK metrics. -/
def addedParams (crtVersion : String) (cfg : MqttConnectCustomAuthConfig) : List String :=
  (match cfg.authorizerName with
    | some a => if a = "" then [] else ["x-amz-customauthorizer-name=" ++ a]
    | none => []) ++
  (if cfg.allTokenFields then
    [cfg.tokenKeyName.getD "" ++ "=" ++ cfg.tokenValue.getD "",
      "x-amz-customauthorizer-signature=" ++ cfg.tokenSignature.getD ""]
  else []) ++
  ["SDK=NodeJSv2", "Version=" ++ crtVersion]

theorem map_renderParam_addParam (n : String) (v : Option String) (l : List (String × String)) :
    (addParam n v l).map renderParam =
      l.map renderParam ++
        (match v with | some a => if a = "" then [] else [n ++ "=" ++ a] | none => []) := by
  cases v with
  | none => simp [addParam]
  | some a => by_cases ha : a = "" <;> simp [addParam, ha, renderParam]

/-- An item with at most one `=` is written back as `normalizeItem` says. -/
theorem renderParam_parseQueryItem {item : String} (h : item.toList.count '=' ≤ 1) :
    renderParam (parseQueryItem item) = normalizeItem item := by
  have hlen := JsString.length_splitOn item.toList '='
  have hjoin : ['='].intercalate (item.toList.splitOn '=') = item.toList :=
    List.intercalate_splitOn '='
  rcases Nat.le_one_iff_eq_zero_or_eq_one.mp h with h0 | h1
  · -- no `=`: one piece, and an empty value
    have hm : '=' ∉ item.toList := List.count_eq_zero.mp h0
    simp [renderParam, parseQueryItem, JsString.split_of_not_mem hm, normalizeItem, hm]
  · -- one `=`: two pieces `k` and `v`, and `item = k ++ "=" ++ v`
    rw [h1] at hlen
    obtain ⟨k, v, hkv⟩ : ∃ k v, item.toList.splitOn '=' = [k, v] := by
      match hs : item.toList.splitOn '=', hlen with
      | [k, v], _ => exact ⟨k, v, rfl⟩
    have hm : '=' ∈ item.toList := List.count_pos_iff.mp (by omega)
    rw [hkv] at hjoin
    simp only [renderParam, parseQueryItem, JsString.split, hkv, normalizeItem, hm, if_true]
    rw [← String.toList_inj]
    simp [← hjoin]

/-- The path split of `p?q`. -/
theorem split_query {p q : String} (hp : '?' ∉ p.toList) (hq : '?' ∉ q.toList) :
    JsString.split (p ++ "?" ++ q) '?' = [p, q] := by
  have h : JsString.split (String.intercalate (String.singleton '?') [p, q]) '?' = [p, q] :=
    JsString.split_intercalate (by simp [hp, hq]) (by simp)
  rwa [String.intercalate_cons_cons, String.intercalate_singleton,
    show String.singleton '?' = "?" from rfl] at h

theorem count_query {p q : String} (hp : '?' ∉ p.toList) (hq : '?' ∉ q.toList) :
    (p ++ "?" ++ q).toList.count '?' = 1 := by
  simp [List.count_eq_zero.mpr hp, List.count_eq_zero.mpr hq]

theorem truthy_iff {o : Option String} : truthy o = true ↔ ∃ s, o = some s ∧ s ≠ "" := by
  cases o <;> simp [truthy]

/-- The parameters after the user's query, rendered, are `addedParams`. -/
theorem map_renderParam_authParams (crtVersion : String) (cfg : MqttConnectCustomAuthConfig)
    (htok : (cfg.usingSigning && !cfg.allTokenFields) = false) (l : List (String × String)) :
    (authParams cfg l ++ [("SDK", "NodeJSv2"), ("Version", crtVersion)]).map renderParam =
      l.map renderParam ++ addedParams crtVersion cfg := by
  -- with all-or-none token fields, `usingSigning` is `allTokenFields`
  have hsig : cfg.usingSigning = cfg.allTokenFields := by
    revert htok
    simp only [MqttConnectCustomAuthConfig.usingSigning, MqttConnectCustomAuthConfig.allTokenFields]
    cases truthy cfg.tokenValue <;> cases truthy cfg.tokenKeyName <;>
      cases truthy cfg.tokenSignature <;> decide
  have hsdk : [("SDK", "NodeJSv2"), ("Version", crtVersion)].map renderParam =
      ["SDK=NodeJSv2", "Version=" ++ crtVersion] := by
    simp only [List.map_cons, List.map_nil, renderParam, String.append_assoc]
    rfl
  have hname : "x-amz-customauthorizer-name" ++ "=" = "x-amz-customauthorizer-name=" := rfl
  have hsign : "x-amz-customauthorizer-signature" ++ "=" = "x-amz-customauthorizer-signature=" := rfl
  rw [authParams, hsig, List.map_append, hsdk, addedParams]
  by_cases hall : cfg.allTokenFields = true
  · -- signing: the value and the signature are non-empty strings
    obtain ⟨⟨hv, -⟩, hs⟩ : (truthy cfg.tokenValue = true ∧ truthy cfg.tokenKeyName = true) ∧
        truthy cfg.tokenSignature = true := by
      simpa [MqttConnectCustomAuthConfig.allTokenFields] using hall
    obtain ⟨v, hv, hv0⟩ := truthy_iff.mp hv
    obtain ⟨t, hs, hs0⟩ := truthy_iff.mp hs
    simp only [hall, if_true, map_renderParam_addParam, hv, hs, hv0, hs0, if_false,
      Option.getD_some, List.append_assoc, List.cons_append, List.nil_append, hname, hsign]
  · simp only [hall, Bool.false_eq_true, if_false, map_renderParam_addParam, List.append_assoc,
      List.nil_append, hname]

/-- The parsed query, rendered back, is the items normalised. -/
theorem map_renderParam_query {is : List String} (hne : is ≠ [])
    (hitems : ∀ i ∈ is, '&' ∉ i.toList ∧ '?' ∉ i.toList ∧ i.toList.count '=' ≤ 1) :
    ((JsString.split (String.intercalate "&" is) '&').map parseQueryItem).map renderParam =
      is.map normalizeItem := by
  rw [show ("&" : String) = String.singleton '&' from rfl,
    JsString.split_intercalate (fun i hi => (hitems i hi).1) hne, List.map_map]
  exact List.map_congr_left fun i hi => renderParam_parseQueryItem (hitems i hi).2.2

/-- The builder throws exactly when some but not all token fields are set or the
username has two or more `?`; otherwise, for a username `p` or `p?q` with `q` the `&`-join of one or
more items having at most one `=` each, the result is `p?`, the items as `normalizeItem` writes
them back, then `addedParams`, joined by `&`. -/
theorem mqtt5_username_round_trip (crtVersion : String) (cfg : MqttConnectCustomAuthConfig) :
    ((∃ e, buildMqtt5FinalUsername crtVersion (some cfg) = .error e) ↔
      (cfg.usingSigning && !cfg.allTokenFields) = true ∨
        2 ≤ (cfg.username.getD "").toList.count '?') ∧
    ∀ (p : String) (items : Option (List String)), '?' ∉ p.toList →
      (∀ is, items = some is →
        is ≠ [] ∧ ∀ i ∈ is, '&' ∉ i.toList ∧ '?' ∉ i.toList ∧ i.toList.count '=' ≤ 1) →
      cfg.username = some (match items with
        | none => p
        | some is => p ++ "?" ++ String.intercalate "&" is) →
      (cfg.usingSigning && !cfg.allTokenFields) = false →
      buildMqtt5FinalUsername crtVersion (some cfg) =
        .ok (p ++ "?" ++ String.intercalate "&"
          ((items.getD []).map normalizeItem ++ addedParams crtVersion cfg)) := by
  refine ⟨buildMqtt5FinalUsername_error_iff crtVersion cfg, fun p items hp hitems hu ht => ?_⟩
  rw [buildMqtt5FinalUsername_some]
  cases items with
  | none =>
    -- no query: the path is the whole username, and only the added parameters follow
    have hc : p.toList.count '?' = 0 := List.count_eq_zero.mpr hp
    have hu' : cfg.username.getD "" = p := by simp [hu]
    rw [customAuthParams_ok ht (by rw [hu']; omega), hu', JsString.split_of_not_mem hp]
    have hq : queryParams (List.drop 1 [p]) = [] := rfl
    simp only [Except.map, List.headD_cons, hq, map_renderParam_authParams crtVersion cfg ht,
      List.map_nil, List.nil_append, Option.getD_none]
  | some is =>
    obtain ⟨hne, hitems⟩ := hitems is rfl
    have hq : '?' ∉ (String.intercalate "&" is).toList := by
      rw [show ("&" : String) = String.singleton '&' from rfl]
      exact JsString.not_mem_intercalate (by decide) (fun i hi => (hitems i hi).2.1)
    have hu' : cfg.username.getD "" = p ++ "?" ++ String.intercalate "&" is := by simp [hu]
    rw [customAuthParams_ok ht (Nat.le_of_eq (by rw [hu', count_query hp hq])), hu', split_query hp hq]
    have hq' : queryParams (List.drop 1 [p, String.intercalate "&" is]) =
        (JsString.split (String.intercalate "&" is) '&').map parseQueryItem := rfl
    simp only [Except.map, List.headD_cons, hq', map_renderParam_authParams crtVersion cfg ht,
      map_renderParam_query hne hitems, Option.getD_some]

/-- `Derp?Param1=Value1` with no authorizer: the query is kept and the metrics follow. -/
theorem mqtt5_username_round_trip_derp :
    buildMqtt5FinalUsername "1.0.0" (some { username := some "Derp?Param1=Value1" }) =
      .ok ("Derp" ++ "?" ++ String.intercalate "&" (["Param1=Value1"].map normalizeItem ++
        addedParams "1.0.0" { username := some "Derp?Param1=Value1" })) :=
  (mqtt5_username_round_trip "1.0.0" _).2 "Derp" (some ["Param1=Value1"]) (by decide)
    (fun is h => by cases h; exact ⟨by simp, by decide⟩) rfl rfl

/-- An item without `=` does not come back as it was: `p?flag` comes back as `p?flag=`. -/
theorem mqtt5_username_flag_item :
    buildMqtt5FinalUsername "1.0.0" (some { username := some "p?flag" }) =
        .ok "p?flag=&SDK=NodeJSv2&Version=1.0.0" ∧
      buildMqtt5FinalUsername "1.0.0" (some { username := some "p?flag" }) ≠
        .ok ("p" ++ "?" ++ "flag" ++ "&" ++ "SDK=NodeJSv2&Version=1.0.0") := by
  decide

/-! ## The region of an endpoint -/

/-- A character of the class `[\w\-]`: an ASCII letter or digit, `_` or `-`. -/
def isLabelChar (c : Char) : Bool := c.isAlphanum || c == '_' || c == '-'

/-- `extractRegionFromEndpoint(endpoint)`: the capture of
`^[\w\-]+\.[\w\-]+\.([\w+\-]+)\.`. None of the classes holds a dot, so a match is
three nonempty labels of those characters at the start of the endpoint, each followed by a dot,
and the region is the third. -/
def extractRegionFromEndpoint (endpoint : String) : Except String String :=
  match JsString.split endpoint '.' with
  | l₀ :: l₁ :: l₂ :: _ :: _ =>
    if l₀ ≠ "" ∧ l₀.toList.all isLabelChar ∧ l₁ ≠ "" ∧ l₁.toList.all isLabelChar ∧ l₂ ≠ "" ∧
        l₂.toList.all (fun c => isLabelChar c || c == '+') then .ok l₂
    else .error regionError
  | _ => .error regionError
where
  regionError : String :=
    "AWS region could not be extracted from endpoint.  Use \x27region\x27 property on WebsocketConfig to set manually."

theorem extractRegionFromEndpoint_ne_empty {endpoint region : String}
    (h : extractRegionFromEndpoint endpoint = .ok region) : region ≠ "" := by
  unfold extractRegionFromEndpoint at h
  split at h
  · split at h
    · rename_i hl
      cases h
      exact hl.2.2.2.2.1
    · cases h
  · cases h

end AwsCrt
