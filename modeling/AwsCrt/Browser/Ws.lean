import AwsCrt.Common.IotShared
import AwsCrt.Browser.Mqtt5Utils

/-!
# Signed websocket URLs in the browser (`src/lib/browser/ws.ts`)

`create_websocket_url` (MQTT 3.1.1, protocol `wss`) and `create_mqtt5_websocket_url` (the `Sigv4`
url factory) write an `X-Amz-Credential` scope into the query of the URL and hand it to
`sign_url`, which writes a scope line into the string to sign and derives the key in
`make_signing_key`. Each takes its region from a different place: the URL from the factory's
`region` or the endpoint (MQTT5) or from `credentials.aws_region` (MQTT 3.1.1), the scope line
from `credentials.aws_region ?? signing_config.region`, the key from
`credentials.aws_region || ''`.

* The code: `canonical_time`, `canonical_day`, `make_signing_key`, `sign_url`,
  `create_websocket_url`, `create_mqtt5_websocket_url`. crypto-js's `HmacSHA256` and `SHA256`
  are abstract (`CryptoJs`), and so is the WHATWG `URL` parser (`newURL`), which every theorem
  holds for; the current time is the input `now`.
* `CredentialScope`, `ScopesAgree`, `presignedUrl`: a SigV4 presigned URL written with the
  scope of its credential, of its string to sign and of its key given apart; a correct one has
  the three equal.
* `sign_url_eq`, `create_mqtt5_websocket_url_sigv4`, `create_websocket_url_wss`: what the code
  computes, stated with those three scopes.
* `mqtt5_scopes_agree_iff`, `wss_scopesAgree_iff`: the scopes agree exactly when `aws_region` is
  the URL's region (MQTT5), or when it and the service are defined (MQTT 3.1.1), and
  `mqtt311_scopes_agree_iff` says so of the URL `create_websocket_url` returns; `mqtt5_sigv4_without_aws_region`, `mqtt5_sigv4_key_without_region`: without
  `aws_region` the key is derived for the empty region.
-/

namespace AwsCrt

/-- The fields of a `Date` that `canonical_time` reads: `getUTCFullYear()`, `getUTCMonth()`
(from 0), `getUTCDate()`, `getUTCHours()`, `getUTCMinutes()`, `getUTCSeconds()`. -/
structure UtcDate where
  fullYear : Int
  month : Nat
  date : Nat
  hours : Nat
  minutes : Nat
  seconds : Nat
  deriving DecidableEq, Repr

/-- `AwsSigningConfig` as the code builds it, or as `create_signing_config` returns it; a field
it lacks is `none`. -/
structure AwsSigningConfig where
  region : Option String := none
  service : Option String := none
  date : Option UtcDate := none
  credentials : Option AWSCredentials := none

/-- The parts of a `URL` object that `sign_url` reads. -/
structure Url where
  protocol : String
  hostname : String
  pathname : String
  search : String

/-- crypto-js over its word arrays `W`: `Utf8.parse` of a string key, `HmacSHA256(message, key)`,
`SHA256(message)` and `toString()` (hexadecimal). -/
structure CryptoJs (W : Type) where
  parse : String → W
  hmacSHA256 : String → W → W
  sha256 : String → W
  toString : W → String

/-- A value in a template literal: `undefined` prints as such. -/
def jsTemplate : Option String → String
  | some s => s
  | none => "undefined"

/-- `a || d` for an optional string `a`: `d` when `a` is undefined or empty. -/
def orFalsy (a : Option String) (d : String) : String := if truthy a then a.getD d else d

/-- `zero_pad(n)`. -/
def zero_pad (n : Nat) : String := if n > 9 then toString n else "0" ++ toString n

/-- `canonical_time(time)`, with `time ?? new Date()`. -/
def canonical_time (now : UtcDate) (time : Option UtcDate) : String :=
  let t := time.getD now
  let year := t.fullYear
  let month := zero_pad (t.month + 1)
  let date := zero_pad t.date
  let hours := zero_pad t.hours
  let minutes := zero_pad t.minutes
  let seconds := zero_pad t.seconds
  s!"{year}{month}{date}T{hours}{minutes}{seconds}Z"

/-- `canonical_day(time)`: `time.substring(0, time.indexOf('T'))`, empty when there is no `T`. -/
def canonical_day (time : String) : String :=
  if 'T' ∈ time.toList then String.ofList (time.toList.takeWhile (· ≠ 'T')) else ""

/-- The query of the request, written the same way by both url builders. -/
def query_params (access_id day region service time : String) : String :=
  s!"X-Amz-Algorithm=AWS4-HMAC-SHA256&X-Amz-Credential={access_id}" ++
    s!"%2F{day}%2F{region}%2F{service}%2Faws4_request&X-Amz-Date={time}&X-Amz-SignedHeaders=host"

/-- `url.search.replace(new RegExp('^\\?'), '')`. -/
def dropQuestionMark (search : String) : String :=
  match search.toList with
  | '?' :: rest => String.ofList rest
  | _ => search

section Signing

variable {W : Type} (C : CryptoJs W)

/-- `make_signing_key(credentials, day, service_name)`. crypto-js skips an undefined message, so
an undefined service is hashed as the empty string. -/
def make_signing_key (credentials : AWSCredentials) (day : String) (service_name : Option String) :
    W :=
  let hash := C.hmacSHA256 day (C.parse ("AWS4" ++ credentials.aws_secret_key))
  let hash := C.hmacSHA256 (orFalsy credentials.aws_region "") hash
  let hash := C.hmacSHA256 (service_name.getD "") hash
  C.hmacSHA256 "aws4_request" hash

/-- `sign_url(method, url, signing_config, time, day, payload)`. Reading `credentials.aws_region`
of a config without credentials throws. -/
def sign_url (method : String) (url : Url) (signing_config : AwsSigningConfig) (time day : String)
    (payload : String := "") : Except String String :=
  match signing_config.credentials with
  | none => .error "TypeError: Cannot read properties of undefined (reading \x27aws_region\x27)"
  | some credentials =>
    let region := jsTemplate (credentials.aws_region.orElse fun _ => signing_config.region)
    let signed_headers := "host"
    let service := jsTemplate signing_config.service
    let host := url.hostname
    let lowerHost := host.toLower
    let canonical_headers := s!"host:{lowerHost}\n"
    let payload_hash := C.toString (C.sha256 payload)
    let canonical_params := dropQuestionMark url.search
    let pathname := url.pathname
    let canonical_request :=
      s!"{method}\n{pathname}\n{canonical_params}\n{canonical_headers}\n{signed_headers}\n{payload_hash}"
    let canonical_request_hash := C.toString (C.sha256 canonical_request)
    let signature_raw :=
      s!"AWS4-HMAC-SHA256\n{time}\n{day}/{region}/{service}/aws4_request\n{canonical_request_hash}"
    let signing_key := make_signing_key C credentials day signing_config.service
    let signature := C.toString (C.hmacSHA256 signature_raw signing_key)
    let search := url.search
    let query_params := s!"{search}&X-Amz-Signature={signature}"
    let query_params :=
      if truthy credentials.aws_sts_token then
        let token := JsString.encodeURIComponent (credentials.aws_sts_token.getD "")
        query_params ++ s!"&X-Amz-Security-Token={token}"
      else query_params
    let protocol := url.protocol
    .ok s!"{protocol}//{host}{pathname}{query_params}"

end Signing

/-! ## The url builders -/

/-- The fields of `WebsocketOptions` that `create_websocket_url` reads; `create_signing_config` is
the object the factory returns, when it is set and returns one. -/
structure WebsocketOptions where
  protocol : Option String := none
  create_signing_config : Option AwsSigningConfig := none
  service : Option String := none

/-- A `CredentialsProvider`, by what its `getCredentials()` returns. -/
structure CredentialsProvider where
  getCredentials : Option AWSCredentials

/-- The fields of `MqttConnectionConfig` that `create_websocket_url` and the constructor's
reconnect bounds read. -/
structure MqttConnectionConfig where
  host_name : String
  port : Nat
  websocket : Option WebsocketOptions := none
  credentials_provider : Option CredentialsProvider := none
  reconnect_min_sec : Option ℚ := none
  reconnect_max_sec : Option ℚ := none

/-- `sigv4Options.region ?? iot_shared.extractRegionFromEndpoint(config.hostName)`. -/
def sigv4Region (region : Option String) (hostName : String) : Except String String :=
  match region with
  | some region => .ok region
  | none => extractRegionFromEndpoint hostName

section Builders

variable {W : Type} (C : CryptoJs W) (newURL : String → Except String Url) (now : UtcDate)

/-- `create_mqtt5_websocket_url(config)`. -/
def create_mqtt5_websocket_url (config : Mqtt5ClientConfig) : Except String String :=
  let path := "/mqtt"
  let hostName := config.hostName
  let port := config.port
  match config.websocketOptions.getD .Ws with
  | .Ws => .ok s!"ws://{hostName}:{port}{path}"
  | .Wss => .ok s!"wss://{hostName}:{port}{path}"
  | .Sigv4 region credentials =>
    match credentials with
    | none => .error "Websockets with sigv4 requires valid AWS credentials"
    | some credentials => do
      let region ← sigv4Region region hostName
      let signingConfig : AwsSigningConfig :=
        { service := some "iotdevicegateway", region := some region,
          credentials := some credentials, date := some now }
      let time := canonical_time now signingConfig.date
      let day := canonical_day time
      let query := query_params credentials.aws_access_id day region
        (jsTemplate signingConfig.service) time
      let url ← newURL s!"wss://{hostName}:{port}{path}?{query}"
      sign_url C "GET" url signingConfig time day
  | .Custom url => .ok url

/-- The signing config of `create_websocket_url`: the factory's, or the default one. -/
def websocketSigningConfig (websocketoptions : WebsocketOptions)
    (credentials : Option AWSCredentials) : AwsSigningConfig :=
  websocketoptions.create_signing_config.getD
    { service := some (websocketoptions.service.getD "iotdevicegateway"),
      credentials := credentials, date := some now }

/-- `create_websocket_url(config)`. -/
def create_websocket_url (config : MqttConnectionConfig) : Except String String :=
  let path := "/mqtt"
  let host_name := config.host_name
  let port := config.port
  let protocol := orFalsy (config.websocket.bind (·.protocol)) "wss"
  if protocol = "wss" then
    match config.websocket with
    | none =>
      .error "TypeError: Cannot read properties of undefined (reading \x27create_signing_config\x27)"
    | some websocketoptions =>
      let credentials := config.credentials_provider.bind (·.getCredentials)
      let signing_config := websocketSigningConfig now websocketoptions credentials
      let time := canonical_time now signing_config.date
      let day := canonical_day time
      match signing_config.credentials with
      | none => .error "TypeError: Cannot read properties of undefined (reading \x27aws_access_id\x27)"
      | some credentials => do
        let query := query_params credentials.aws_access_id day (jsTemplate credentials.aws_region)
          (jsTemplate signing_config.service) time
        let url ← newURL s!"wss://{host_name}:{port}{path}?{query}"
        sign_url C "GET" url signing_config time day
  else if protocol = "wss-custom-auth" then .ok s!"wss://{host_name}:{port}{path}"
  else .error s!"URIError: Invalid protocol requested: {protocol}"

end Builders

/-! ## Three scopes -/

/-- A SigV4 credential scope: the day, region and service a signature is made for. -/
structure CredentialScope where
  day : String
  region : String
  service : String
  deriving DecidableEq, Repr

/-- The scope of the credential, of the string to sign and of the key are one: what a server
that derives the key from the request's credential can verify. -/
def ScopesAgree (credential line key : CredentialScope) : Prop := credential = line ∧ line = key

instance (credential line key : CredentialScope) : Decidable (ScopesAgree credential line key) :=
  inferInstanceAs (Decidable (_ ∧ _))

/-- Scopes of one day agree when their regions and their services do. -/
theorem scopesAgree_iff (day r₁ r₂ r₃ s₁ s₂ s₃ : String) :
    ScopesAgree ⟨day, r₁, s₁⟩ ⟨day, r₂, s₂⟩ ⟨day, r₃, s₃⟩ ↔
      (r₁ = r₂ ∧ r₂ = r₃) ∧ (s₁ = s₂ ∧ s₂ = s₃) := by
  simp only [ScopesAgree, CredentialScope.mk.injEq, true_and]
  constructor
  · rintro ⟨⟨h₁, h₂⟩, h₃, h₄⟩
    exact ⟨⟨h₁, h₃⟩, h₂, h₄⟩
  · rintro ⟨⟨h₁, h₃⟩, h₂, h₄⟩
    exact ⟨⟨h₁, h₂⟩, h₃, h₄⟩

/-- The URL a builder parses, with its credential written for `scope`. -/
def requestUrl (host : String) (port : Nat) (access_id : String) (scope : CredentialScope)
    (time : String) : String :=
  let path := "/mqtt"
  let query := query_params access_id scope.day scope.region scope.service time
  s!"wss://{host}:{port}{path}?{query}"

section Scopes

variable {W : Type} (C : CryptoJs W)

/-- The SigV4 key of a scope: HMAC-SHA256 of the day, the region, the service and
`aws4_request` in turn, keyed first by `AWS4` and the secret. -/
def CredentialScope.signingKey (scope : CredentialScope) (secret : String) : W :=
  C.hmacSHA256 "aws4_request" (C.hmacSHA256 scope.service
    (C.hmacSHA256 scope.region (C.hmacSHA256 scope.day (C.parse ("AWS4" ++ secret)))))

/-- A presigned URL for `url`: the scope `line` in its string to sign, and its signature made with
the key of the scope `key`. -/
def presignedUrl (method : String) (url : Url) (credentials : AWSCredentials) (time : String)
    (line key : CredentialScope) : String :=
  let signed_headers := "host"
  let host := url.hostname
  let lowerHost := host.toLower
  let canonical_headers := s!"host:{lowerHost}\n"
  let payload_hash := C.toString (C.sha256 "")
  let canonical_params := dropQuestionMark url.search
  let pathname := url.pathname
  let canonical_request :=
    s!"{method}\n{pathname}\n{canonical_params}\n{canonical_headers}\n{signed_headers}\n{payload_hash}"
  let canonical_request_hash := C.toString (C.sha256 canonical_request)
  let day := line.day
  let region := line.region
  let service := line.service
  let signature_raw :=
    s!"AWS4-HMAC-SHA256\n{time}\n{day}/{region}/{service}/aws4_request\n{canonical_request_hash}"
  let signature := C.toString (C.hmacSHA256 signature_raw (key.signingKey C credentials.aws_secret_key))
  let search := url.search
  let query_params := s!"{search}&X-Amz-Signature={signature}"
  let query_params :=
    if truthy credentials.aws_sts_token then
      let token := JsString.encodeURIComponent (credentials.aws_sts_token.getD "")
      query_params ++ s!"&X-Amz-Security-Token={token}"
    else query_params
  let protocol := url.protocol
  s!"{protocol}//{host}{pathname}{query_params}"

/-- The key of `make_signing_key` is the key of the scope of `aws_region || ''`. -/
theorem make_signing_key_eq (credentials : AWSCredentials) (day : String)
    (service_name : Option String) :
    make_signing_key C credentials day service_name =
      (⟨day, orFalsy credentials.aws_region "", service_name.getD ""⟩ : CredentialScope).signingKey
        C credentials.aws_secret_key := rfl

/-- `sign_url` writes the scope of `aws_region ?? region` into the string to sign and signs with
the key of the scope of `aws_region || ''`. -/
theorem sign_url_eq (method : String) (url : Url) {signing_config : AwsSigningConfig}
    {credentials : AWSCredentials} (h : signing_config.credentials = some credentials)
    (time day : String) :
    sign_url C method url signing_config time day =
      .ok (presignedUrl C method url credentials time
        ⟨day, jsTemplate (credentials.aws_region.orElse fun _ => signing_config.region),
          jsTemplate signing_config.service⟩
        ⟨day, orFalsy credentials.aws_region "", signing_config.service.getD ""⟩) := by
  unfold sign_url
  rw [h]
  rfl

theorem jsTemplate_orElse_some (a : Option String) (r : String) :
    jsTemplate (a.orElse fun _ => some r) = a.getD r := by
  cases a <;> rfl

section Builders

variable (newURL : String → Except String Url) (now : UtcDate)

/-- The `Sigv4` factory writes the credential for the factory's region or the endpoint's, the
string to sign for `aws_region` if it is set and that region if not, and derives the key for
`aws_region || ''`. -/
theorem create_mqtt5_websocket_url_sigv4 {config : Mqtt5ClientConfig} {region : Option String}
    {credentials : AWSCredentials}
    (h : config.websocketOptions = some (.Sigv4 region (some credentials))) :
    create_mqtt5_websocket_url C newURL now config =
      let time := canonical_time now (some now)
      let day := canonical_day time
      sigv4Region region config.hostName >>= fun region =>
        newURL (requestUrl config.hostName config.port credentials.aws_access_id
          ⟨day, region, "iotdevicegateway"⟩ time) >>= fun url =>
          .ok (presignedUrl C "GET" url credentials time
            ⟨day, credentials.aws_region.getD region, "iotdevicegateway"⟩
            ⟨day, orFalsy credentials.aws_region "", "iotdevicegateway"⟩) := by
  simp only [create_mqtt5_websocket_url, h, Option.getD_some, requestUrl, jsTemplate]
  refine congrArg (sigv4Region region config.hostName >>= ·) (funext fun r => ?_)
  refine congrArg (newURL _ >>= ·) (funext fun url => ?_)
  rw [sign_url_eq C _ _ rfl, jsTemplate_orElse_some]
  rfl

/-- The three scopes of the `Sigv4` factory agree exactly when `aws_region`, read as `''` when
undefined, is the URL's region. -/
theorem mqtt5_scopes_agree_iff (aws_region : Option String) (day region service : String) :
    ScopesAgree ⟨day, region, service⟩ ⟨day, aws_region.getD region, service⟩
        ⟨day, orFalsy aws_region "", service⟩ ↔ aws_region.getD "" = region := by
  rw [scopesAgree_iff]
  simp only [and_self, and_true]
  rcases aws_region with _ | a
  · -- the string to sign takes the URL's region and the key the empty one
    simp only [Option.getD_none, orFalsy, truthy, Bool.false_eq_true, if_false, true_and]
    exact eq_comm
  · by_cases ha : a = ""
    · subst ha
      simp only [Option.getD_some, orFalsy, truthy, bne_self_eq_false, Bool.false_eq_true,
        if_false, and_true]
      exact eq_comm
    · have hs : truthy (some a) = true := by simpa [truthy] using ha
      simp only [Option.getD_some, orFalsy, hs, if_true, and_true]
      exact eq_comm

/-- Without `aws_region` and without a region of its own, the `Sigv4` factory names the
endpoint's region, never empty, in the URL and the string to sign, and signs with the key of the
empty region. -/
theorem mqtt5_sigv4_without_aws_region {config : Mqtt5ClientConfig}
    {credentials : AWSCredentials}
    (h : config.websocketOptions = some (.Sigv4 none (some credentials)))
    (hr : credentials.aws_region = none) {region : String}
    (hreg : extractRegionFromEndpoint config.hostName = .ok region) :
    let time := canonical_time now (some now)
    let day := canonical_day time
    create_mqtt5_websocket_url C newURL now config =
        newURL (requestUrl config.hostName config.port credentials.aws_access_id
          ⟨day, region, "iotdevicegateway"⟩ time) >>= (fun url =>
          .ok (presignedUrl C "GET" url credentials time ⟨day, region, "iotdevicegateway"⟩
            ⟨day, "", "iotdevicegateway"⟩)) ∧
      ¬ScopesAgree ⟨day, region, "iotdevicegateway"⟩ ⟨day, region, "iotdevicegateway"⟩
        ⟨day, "", "iotdevicegateway"⟩ := by
  intro time day
  have hagree := mqtt5_scopes_agree_iff credentials.aws_region day region "iotdevicegateway"
  simp only [hr, Option.getD_none, orFalsy, truthy, Bool.false_eq_true, if_false] at hagree
  refine ⟨?_, fun hs => extractRegionFromEndpoint_ne_empty hreg (hagree.1 hs).symm⟩
  rw [create_mqtt5_websocket_url_sigv4 C newURL now h, hr]
  simp only [sigv4Region, hreg, Option.getD_none, orFalsy, truthy, Bool.false_eq_true, if_false]
  rfl

/-- `create_websocket_url` with protocol `wss`: the credential names `aws_region` and the
config's service as they print, the string to sign `aws_region ?? region`, and the key is derived
for `aws_region || ''` and the service, the empty one if undefined. -/
theorem create_websocket_url_wss {config : MqttConnectionConfig}
    {websocketoptions : WebsocketOptions} {credentials : AWSCredentials}
    (hw : config.websocket = some websocketoptions)
    (hp : orFalsy websocketoptions.protocol "wss" = "wss")
    (hc : (websocketSigningConfig now websocketoptions
      (config.credentials_provider.bind (·.getCredentials))).credentials = some credentials) :
    let signing_config := websocketSigningConfig now websocketoptions
      (config.credentials_provider.bind (·.getCredentials))
    let time := canonical_time now signing_config.date
    let day := canonical_day time
    create_websocket_url C newURL now config =
      newURL (requestUrl config.host_name config.port credentials.aws_access_id
          ⟨day, jsTemplate credentials.aws_region, jsTemplate signing_config.service⟩ time) >>=
        fun url => .ok (presignedUrl C "GET" url credentials time
          ⟨day, jsTemplate (credentials.aws_region.orElse fun _ => signing_config.region),
            jsTemplate signing_config.service⟩
          ⟨day, orFalsy credentials.aws_region "", signing_config.service.getD ""⟩) := by
  simp only [create_websocket_url, hw, Option.bind_some, hp, if_true, requestUrl]
  rw [hc]
  refine congrArg (newURL _ >>= ·) (funext fun url => ?_)
  rw [sign_url_eq C _ _ hc]

/-- The three scopes that `create_websocket_url` writes agree exactly when `aws_region` and the
service are defined. -/
theorem wss_scopesAgree_iff (aws_region region service : Option String) (day : String) :
    ScopesAgree ⟨day, jsTemplate aws_region, jsTemplate service⟩
        ⟨day, jsTemplate (aws_region.orElse fun _ => region), jsTemplate service⟩
        ⟨day, orFalsy aws_region "", service.getD ""⟩ ↔ aws_region.isSome ∧ service.isSome := by
  rw [scopesAgree_iff]
  rcases aws_region with _ | a
  · -- the credential prints `undefined` and the key takes the empty region
    simp only [Option.isSome_none, Bool.false_eq_true, false_and, iff_false]
    rintro ⟨⟨h₁, h₂⟩, -⟩
    have h := h₁.trans h₂
    simp [jsTemplate, orFalsy, truthy] at h
  · have hr : orFalsy (some a) "" = a := by by_cases ha : a = "" <;> simp [orFalsy, truthy, ha]
    simp only [jsTemplate, Option.orElse_some, hr, and_self, Option.isSome_some, true_and]
    -- an undefined service prints as such but is hashed as the empty string
    rcases service with _ | v <;> simp

/-- The URL of an MQTT 3.1.1 connection over `wss` is a presigned URL whose three scopes agree
exactly when `aws_region` and the service are both defined: otherwise the credential and the
string to sign print `undefined` where the key is derived for the empty string. -/
theorem mqtt311_scopes_agree_iff {config : MqttConnectionConfig}
    {websocketoptions : WebsocketOptions} {credentials : AWSCredentials}
    (hw : config.websocket = some websocketoptions)
    (hp : orFalsy websocketoptions.protocol "wss" = "wss")
    (hc : (websocketSigningConfig now websocketoptions
      (config.credentials_provider.bind (·.getCredentials))).credentials = some credentials) :
    let signing_config := websocketSigningConfig now websocketoptions
      (config.credentials_provider.bind (·.getCredentials))
    let time := canonical_time now signing_config.date
    ∃ credential line key : CredentialScope,
      create_websocket_url C newURL now config =
        newURL (requestUrl config.host_name config.port credentials.aws_access_id credential time) >>=
          (fun url => .ok (presignedUrl C "GET" url credentials time line key)) ∧
      (ScopesAgree credential line key ↔
        credentials.aws_region.isSome ∧ signing_config.service.isSome) := by
  intro signing_config time
  exact ⟨_, _, _, create_websocket_url_wss C newURL now hw hp hc,
    wss_scopesAgree_iff _ _ _ _⟩

end Builders

end Scopes

theorem mqtt311_scopes_agree_iff_wss :
    let C : CryptoJs String := ⟨id, fun message key => key ++ message, id, id⟩
    let newURL : String → Except String Url := fun _ => .ok ⟨"wss:", "example.com", "/mqtt", "?q"⟩
    let now : UtcDate := ⟨2024, 0, 2, 3, 4, 5⟩
    let credentials : AWSCredentials :=
      { aws_region := some "us-east-1", aws_access_id := "AKID", aws_secret_key := "SECRET" }
    let config : MqttConnectionConfig :=
      { host_name := "example.com", port := 443, websocket := some {},
        credentials_provider := some ⟨some credentials⟩ }
    let signing_config := websocketSigningConfig now {}
      (config.credentials_provider.bind (·.getCredentials))
    let time := canonical_time now signing_config.date
    ∃ credential line key : CredentialScope,
      create_websocket_url C newURL now config =
        newURL (requestUrl config.host_name config.port credentials.aws_access_id credential time) >>=
          (fun url => .ok (presignedUrl C "GET" url credentials time line key)) ∧
      (ScopesAgree credential line key ↔
        credentials.aws_region.isSome ∧ signing_config.service.isSome) := by
  intro C newURL now credentials config signing_config time
  exact @mqtt311_scopes_agree_iff String C newURL now config {} credentials rfl rfl rfl

/-- An endpoint of the usual form, the `Sigv4` factory without a region and credentials without
`aws_region`: the URL and the string to sign name `us-east-1`, and the key is derived for the
empty region. -/
theorem mqtt5_sigv4_key_without_region {W : Type} (C : CryptoJs W)
    (newURL : String → Except String Url) :
    create_mqtt5_websocket_url C newURL ⟨2024, 0, 2, 3, 4, 5⟩
        { hostName := "a1b2c3-ats.iot.us-east-1.amazonaws.com", port := 443,
          websocketOptions :=
            some (.Sigv4 none (some { aws_access_id := "AKID", aws_secret_key := "SECRET" })) } =
      newURL (requestUrl "a1b2c3-ats.iot.us-east-1.amazonaws.com" 443 "AKID"
          ⟨"20240102", "us-east-1", "iotdevicegateway"⟩ "20240102T030405Z") >>= (fun url =>
        .ok (presignedUrl C "GET" url { aws_access_id := "AKID", aws_secret_key := "SECRET" }
          "20240102T030405Z" ⟨"20240102", "us-east-1", "iotdevicegateway"⟩
          ⟨"20240102", "", "iotdevicegateway"⟩)) ∧
    ¬ScopesAgree ⟨"20240102", "us-east-1", "iotdevicegateway"⟩
      ⟨"20240102", "us-east-1", "iotdevicegateway"⟩ ⟨"20240102", "", "iotdevicegateway"⟩ := by
  refine ⟨?_, by decide⟩
  rw [create_mqtt5_websocket_url_sigv4 C newURL _ rfl]
  rfl

end AwsCrt
