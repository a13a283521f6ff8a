import AwsCrt.Browser.Mqtt5Client
import AwsCrt.Browser.PacketTransforms

/-!
# Outbound topic aliases of the browser `Mqtt5Client` (`src/lib/browser/mqtt5.ts`)

In the manual outbound aliasing mode the client's contract is that every publish carries both its
topic and its alias, while mqtt-js uses an alias binding only for a publish that carries no alias.
So `publish` keeps bindings of its own (`topicAliasBindings`, cleared at every connection success)
and deletes the alias of a packet whose alias is already bound to its topic. In every other mode
it deletes the alias.

* `AliasingClient`: the lifecycle fields of `AwsCrt.Mqtt5Client`, whether the mqtt-js client
  exists, and the bindings; `step` runs a lifecycle call through `Mqtt5Client.handle`, or a
  `publish` up to the call of mqtt-js's `publish`.
* `browserClient_run`: the mqtt-js client exists exactly when the client is not `Stopped`.
* `tracks_run`: in manual mode, after a connection success followed by calls that leave the
  lifecycle where it is, every alias is bound to the topic of the last publish with that alias
  (`lastTopic`), whether or not the transform then refused that publish (`Tracks`).
* `manual_alias_stripped_iff`: so the next publish goes out without its alias exactly when the
  last publish with that alias since the connection succeeded had the same topic, and the topic is
  not empty. A stripped publish binds the key `undefined` (`packet.topicAlias` is deleted before
  `bind_topic_alias` reads it), which no lookup reads (`fixupTopicAlias_bindings`).
* `alias_never_sent_unless_manual`: in every other mode mqtt-js is never handed an alias.
-/

namespace AwsCrt

/-- `topicAliasingOptions?.outboundBehavior ?? OutboundTopicAliasBehaviorType.Default`. -/
def Mqtt5ClientConfig.outboundBehavior (config : Mqtt5ClientConfig) :
    OutboundTopicAliasBehaviorType :=
  (config.topicAliasingOptions.bind (·.outboundBehavior)).getD .Default

/-- A topic alias that is truthy: defined and not `0` (a rational is never `NaN`). -/
def truthyAlias : Option ℚ → Bool
  | some topicAlias => topicAlias != 0
  | none => false

/-- The fields of `Mqtt5Client` that `publish` reads and writes: the lifecycle, whether
`browserClient` is set, and `topicAliasBindings`, a `Map<number, string>` that the code only reads
by key, so given by its lookup (the key `undefined` is `none`). -/
structure AliasingClient where
  client : Mqtt5Client
  browserClient : Bool
  topicAliasBindings : Option ℚ → Option String

/-- What `publish` does that is seen: its promise rejected with a message or with what the
transform threw, or mqtt-js's `publish` called with the topic and the options. The payload, and
the completion of mqtt-js's publish, are not modelled. -/
inductive PublishOutcome
  | reject (message : String)
  | rejectError (error : ConfigError)
  | mqttJsPublish (topicName : String) (publishOptions : MqttJsPublishOptions)

/-- A call on the client: one of the lifecycle, or `publish(packet)`. -/
inductive AliasingCall
  | lifecycle (call : Mqtt5Call)
  | publish (packet : PublishPacket)

namespace AliasingClient

/-- `new Mqtt5Client(config)`: an empty `Map`. -/
def init : AliasingClient := ⟨Mqtt5Client.init, false, fun _ => none⟩

/-- `is_topic_alias_bound`: an empty topic is never bound. -/
def is_topic_alias_bound (c : AliasingClient) (topicAlias : Option ℚ) (topic : String) : Bool :=
  if topic = "" then false else c.topicAliasBindings topicAlias == some topic

/-- `bind_topic_alias`: `topicAliasBindings.set(alias, topic)`. -/
def bind_topic_alias (c : AliasingClient) (topicAlias : Option ℚ) (topic : String) :
    AliasingClient :=
  { c with topicAliasBindings := Function.update c.topicAliasBindings topicAlias (some topic) }

/-- The aliasing fixup of `publish`: the bindings, and the packet handed to the transform. In
manual mode, while connected, a truthy alias already bound to the topic is deleted from the
packet, and then the alias the packet has is bound to the topic. -/
def fixupTopicAlias (config : Mqtt5ClientConfig) (c : AliasingClient) (packet : PublishPacket) :
    AliasingClient × PublishPacket :=
  if config.outboundBehavior = .Manual then
    if truthyAlias packet.topicAlias ∧ c.client.lifecycleEventState = .Connected then
      let packet :=
        if c.is_topic_alias_bound packet.topicAlias packet.topicName then
          { packet with topicAlias := none }
        else packet
      (c.bind_topic_alias packet.topicAlias packet.topicName, packet)
    else (c, packet)
  else (c, { packet with topicAlias := none })

/-- The rest of `publish`: the transform, whose exception rejects the promise, then mqtt-js's
`publish`. -/
def sendPublish (packet : PublishPacket) : PublishOutcome :=
  match transform_crt_publish_to_mqtt_js_publish_options packet with
  | .ok publishOptions => .mqttJsPublish packet.topicName publishOptions
  | .error e => .rejectError e

/-- `publish(packet)`. -/
def publish (config : Mqtt5ClientConfig) (c : AliasingClient) (packet : PublishPacket) :
    AliasingClient × PublishOutcome :=
  if c.browserClient = false then (c, .reject "Client is stopped and cannot publish")
  else
    let r := fixupTopicAlias config c packet
    (r.1, sendPublish r.2)

/-- One call. A lifecycle call runs `Mqtt5Client.handle` (its emitter calls are not followed
here); `start()` from `Stopped` creates the mqtt-js client, 'end' clears it unless a restart
creates another, and 'connect' (`on_connection_success`) clears the bindings. -/
def step (config : Mqtt5ClientConfig) (c : AliasingClient) :
    AliasingCall → AliasingClient × List PublishOutcome
  | .lifecycle call =>
    let browserClient :=
      match call with
      | .start => c.browserClient || c.client.state == .Stopped
      | .«end» => c.client.state == .Restarting
      | _ => c.browserClient
    let topicAliasBindings :=
      match call with
      | .connect => fun _ => none
      | _ => c.topicAliasBindings
    (⟨(c.client.handle call).1, browserClient, topicAliasBindings⟩, [])
  | .publish packet =>
    let r := c.publish config packet
    (r.1, [r.2])

/-! ## What each call changes -/

theorem fixupTopicAlias_client (config : Mqtt5ClientConfig) (c : AliasingClient)
    (packet : PublishPacket) :
    (fixupTopicAlias config c packet).1.client = c.client ∧
      (fixupTopicAlias config c packet).1.browserClient = c.browserClient := by
  unfold fixupTopicAlias
  split_ifs <;> exact ⟨rfl, rfl⟩

theorem publish_client (config : Mqtt5ClientConfig) (c : AliasingClient) (packet : PublishPacket) :
    (c.publish config packet).1.client = c.client ∧
      (c.publish config packet).1.browserClient = c.browserClient := by
  unfold publish
  split
  · exact ⟨rfl, rfl⟩
  · exact fixupTopicAlias_client config c packet

theorem fireTimer_fields (c : Mqtt5Client) :
    c.fireTimer.1.state = c.state ∧ c.fireTimer.1.lifecycleEventState = c.lifecycleEventState := by
  unfold Mqtt5Client.fireTimer
  split <;> exact ⟨rfl, rfl⟩

theorem onBrowserClose_state (c : Mqtt5Client) : c.onBrowserClose.state = c.state := by
  unfold Mqtt5Client.onBrowserClose
  split <;> rfl

/-- Where `handle` leaves the client `Stopped`: never after `start()`; after 'end' unless a
restart was pending; after any other call where it was. -/
theorem handle_state_eq_stopped (c : Mqtt5Client) (call : Mqtt5Call) :
    (c.handle call).1.state = .Stopped ↔
      match call with
      | .start => False
      | .«end» => c.state ≠ .Restarting
      | _ => c.state = .Stopped := by
  cases call <;> cases hs : c.state <;>
    simp [Mqtt5Client.handle, Mqtt5Client.start, Mqtt5Client.stop, Mqtt5Client.onStoppedInternal,
      Mqtt5Client.onAttemptingConnect, Mqtt5Client.onConnectionSuccess,
      onBrowserClose_state, Mqtt5Client.onBrowserDisconnectPacket,
      Mqtt5Client.onBrowserClientError, Mqtt5Client.onMessage, (fireTimer_fields c).1,
      Mqtt5Client.setTimeout, hs]

/-! ## The mqtt-js client exists while the client is not stopped -/

/-- `browserClient` is set exactly when the client is not `Stopped`. -/
def ClientExists (c : AliasingClient) : Prop := c.browserClient = true ↔ c.client.state ≠ .Stopped

theorem clientExists_step {config : Mqtt5ClientConfig} {c : AliasingClient} (h : c.ClientExists)
    (call : AliasingCall) : (step config c call).1.ClientExists := by
  cases call with
  | publish packet =>
    obtain ⟨hclient, hbrowser⟩ := publish_client config c packet
    simpa only [ClientExists, step, hclient, hbrowser] using h
  | lifecycle call =>
    unfold ClientExists at h
    simp only [ClientExists, step, ne_eq, handle_state_eq_stopped]
    cases call with
    | start =>
      -- a new mqtt-js client unless one exists already
      by_cases hs : c.client.state = .Stopped
      · simp [hs]
      · simpa [hs] using h.mpr hs
    | «end» => simp
    | stop | reconnect | connect | close | disconnect | error _ | message | timer =>
      simpa using h

theorem browserClient_run (config : Mqtt5ClientConfig) (calls : List AliasingCall) :
    (Machine.run (step config) init calls).1.ClientExists :=
  Machine.run_invariant (step config) ClientExists (fun _ call h => clientExists_step h call)
    (by simp [ClientExists, init, Mqtt5Client.init]) calls

end AliasingClient

/-! ## Manual aliasing tracks the last topic of each alias -/

/-- The calls that leave the lifecycle where it is: publishes, `stop()` (which only asks mqtt-js
to end), and mqtt-js's DISCONNECT packets, errors and messages, and timers. -/
def AliasingCall.KeepsLifecycle : AliasingCall → Prop
  | .publish _ => True
  | .lifecycle .stop | .lifecycle .disconnect | .lifecycle (.error _) | .lifecycle .message
  | .lifecycle .timer => True
  | _ => False

/-- The topic of the last publish among `calls` with the alias `topicAlias`. -/
def lastTopic (calls : List AliasingCall) (topicAlias : ℚ) : Option String :=
  (calls.filterMap fun
    | .publish packet => if packet.topicAlias = some topicAlias then some packet.topicName else none
    | .lifecycle _ => none).getLast?

theorem lastTopic_append_publish (calls : List AliasingCall) (packet : PublishPacket)
    (topicAlias : ℚ) :
    lastTopic (calls ++ [.publish packet]) topicAlias =
      if packet.topicAlias = some topicAlias then some packet.topicName
      else lastTopic calls topicAlias := by
  by_cases h : packet.topicAlias = some topicAlias <;> simp [lastTopic, h]

theorem lastTopic_append_lifecycle (calls : List AliasingCall) (call : Mqtt5Call)
    (topicAlias : ℚ) : lastTopic (calls ++ [.lifecycle call]) topicAlias = lastTopic calls topicAlias := by
  simp [lastTopic]

namespace AliasingClient

theorem handle_lifecycleEventState_of_keeps (c : Mqtt5Client) {call : Mqtt5Call}
    (h : (AliasingCall.lifecycle call).KeepsLifecycle) :
    (c.handle call).1.lifecycleEventState = c.lifecycleEventState := by
  cases call with
  | stop =>
    -- `stop()` moves only `state`
    simp only [Mqtt5Client.handle, Mqtt5Client.stop]
    split <;> rfl
  | timer => exact (fireTimer_fields c).2
  | disconnect | error _ | message => rfl
  | start | reconnect | connect | close | «end» => simp [AliasingCall.KeepsLifecycle] at h

section Manual

variable {config : Mqtt5ClientConfig} (hmanual : config.outboundBehavior = .Manual)
include hmanual

/-- In manual mode, while connected, a publish rebinds its truthy alias to its topic, and leaves
every other alias as it was; when the alias was bound to the topic already, only `undefined` is
bound, and the alias keeps its binding. -/
theorem fixupTopicAlias_bindings {c : AliasingClient}
    (hconnected : c.client.lifecycleEventState = .Connected) (packet : PublishPacket) {a : ℚ}
    (ha : a ≠ 0) :
    (fixupTopicAlias config c packet).1.topicAliasBindings (some a) =
      if packet.topicAlias = some a then some packet.topicName
      else c.topicAliasBindings (some a) := by
  unfold fixupTopicAlias
  rw [if_pos hmanual]
  by_cases htruthy : truthyAlias packet.topicAlias = true
  · rw [if_pos ⟨htruthy, hconnected⟩]
    by_cases hbound : c.is_topic_alias_bound packet.topicAlias packet.topicName = true
    · -- the packet loses its alias, so only `undefined` is bound
      have hbinding : packet.topicName ≠ "" ∧
          c.topicAliasBindings packet.topicAlias = some packet.topicName := by
        simpa [is_topic_alias_bound] using hbound
      simp only [hbound, if_true, bind_topic_alias]
      by_cases hpa : packet.topicAlias = some a
      · simp [hpa, ← hbinding.2]
      · simp [hpa]
    · simp only [hbound, Bool.false_eq_true, if_false, bind_topic_alias]
      by_cases hpa : packet.topicAlias = some a
      · simp [hpa]
      · simp [hpa, Function.update, Ne.symm hpa]
  · -- an undefined or zero alias is not tracked
    have hpa : packet.topicAlias ≠ some a := by
      rintro hpa
      simp [hpa, truthyAlias, ha] at htruthy
    simp [htruthy, hpa]

/-- After a connection success in manual mode: connected, with an mqtt-js client, and each alias
bound to the topic of the last publish with that alias among `calls`. -/
structure Tracks (c : AliasingClient) (calls : List AliasingCall) : Prop where
  connected : c.client.lifecycleEventState = .Connected
  browserClient : c.browserClient = true
  bound : ∀ a, a ≠ 0 → c.topicAliasBindings (some a) = lastTopic calls a

theorem Tracks.step {c : AliasingClient} {calls : List AliasingCall} (h : Tracks c calls)
    {call : AliasingCall} (hkeeps : call.KeepsLifecycle) :
    Tracks (AliasingClient.step config c call).1 (calls ++ [call]) := by
  cases call with
  | publish packet =>
    have hpublish : (c.publish config packet).1 = (fixupTopicAlias config c packet).1 := by
      simp [publish, h.browserClient]
    obtain ⟨hclient, hbrowser⟩ := fixupTopicAlias_client config c packet
    refine ⟨?_, ?_, fun a ha => ?_⟩
    · simp only [AliasingClient.step, hpublish, hclient, h.connected]
    · simp only [AliasingClient.step, hpublish, hbrowser, h.browserClient]
    · simp only [AliasingClient.step, hpublish,
        fixupTopicAlias_bindings hmanual h.connected packet ha, lastTopic_append_publish,
        h.bound a ha]
  | lifecycle call =>
    -- the calls that keep the lifecycle change neither the bindings nor the mqtt-js client
    have hstep : AliasingClient.step config c (.lifecycle call) =
        (⟨(c.client.handle call).1, c.browserClient, c.topicAliasBindings⟩, []) := by
      cases call <;> simp only [AliasingCall.KeepsLifecycle] at hkeeps <;> rfl
    refine ⟨?_, ?_, fun a ha => ?_⟩
    · rw [hstep]
      exact (handle_lifecycleEventState_of_keeps c.client hkeeps).trans h.connected
    · rw [hstep]
      exact h.browserClient
    · rw [hstep, lastTopic_append_lifecycle]
      exact h.bound a ha

/-- In manual mode, with the tracking of `calls`, a publish with a truthy alias goes to the
transform without its alias exactly when the last publish with that alias among `calls` had the
same topic, which is not empty. -/
theorem step_publish_of_tracks {c : AliasingClient} {calls : List AliasingCall}
    (h : Tracks c calls) {packet : PublishPacket} {a : ℚ} (ha : a ≠ 0)
    (halias : packet.topicAlias = some a) :
    (AliasingClient.step config c (.publish packet)).2 =
      [sendPublish (if packet.topicName ≠ "" ∧ lastTopic calls a = some packet.topicName then
        { packet with topicAlias := none } else packet)] := by
  have htruthy : truthyAlias packet.topicAlias = true := by simp [halias, truthyAlias, ha]
  -- the client's test is the history's
  have hbound : c.is_topic_alias_bound packet.topicAlias packet.topicName = true ↔
      packet.topicName ≠ "" ∧ lastTopic calls a = some packet.topicName := by
    rw [halias, ← h.bound a ha]
    by_cases hempty : packet.topicName = "" <;> simp [is_topic_alias_bound, hempty]
  have hfixup : (fixupTopicAlias config c packet).2 =
      if c.is_topic_alias_bound packet.topicAlias packet.topicName = true then
        { packet with topicAlias := none } else packet := by
    simp only [fixupTopicAlias, hmanual, htruthy, h.connected, and_self, if_true]
  simp only [AliasingClient.step, publish, h.browserClient, Bool.true_eq_false, if_false, hfixup]
  by_cases hb : c.is_topic_alias_bound packet.topicAlias packet.topicName = true
  · rw [if_pos hb, if_pos (hbound.mp hb)]
  · rw [if_neg hb, if_neg (mt hbound.mpr hb)]

end Manual

/-- A connection success, when there is an mqtt-js client, starts the tracking with no publish. -/
theorem tracks_connect (config : Mqtt5ClientConfig) {c : AliasingClient}
    (hexists : c.ClientExists) (hrunning : c.client.state ≠ .Stopped) :
    Tracks (AliasingClient.step config c (.lifecycle .connect)).1 [] where
  connected := rfl
  browserClient := hexists.mpr hrunning
  bound _ _ := rfl

/-- In manual mode, from any reachable state with an mqtt-js client, a connection success followed
by calls that leave the lifecycle where it is leaves the client tracking those calls. -/
theorem tracks_run {config : Mqtt5ClientConfig} (hmanual : config.outboundBehavior = .Manual)
    (pre rest : List AliasingCall)
    (hrunning : (Machine.run (step config) init pre).1.client.state ≠ .Stopped)
    (hrest : ∀ call ∈ rest, call.KeepsLifecycle) :
    Tracks (Machine.run (step config) init (pre ++ .lifecycle .connect :: rest)).1 rest := by
  have htracks := Machine.run_invariant_history (step config) AliasingCall.KeepsLifecycle Tracks
    (fun _ _ _ hkeeps h => h.step hmanual hkeeps)
    (tracks_connect config (browserClient_run config pre) hrunning) rest hrest
  rw [Machine.run_append, Machine.run_cons]
  simpa using htracks

/-- In manual mode, from any reachable state with an mqtt-js client, after a connection success
and calls that leave the lifecycle where it is, a publish with a truthy alias goes to the
transform without its alias exactly when the last publish with that alias since the connection
succeeded had the same topic and the topic is not empty, and with it otherwise. -/
theorem manual_alias_stripped_iff {config : Mqtt5ClientConfig}
    (hmanual : config.outboundBehavior = .Manual) (pre rest : List AliasingCall)
    (hrunning : (Machine.run (step config) init pre).1.client.state ≠ .Stopped)
    (hrest : ∀ call ∈ rest, call.KeepsLifecycle) (packet : PublishPacket) (a : ℚ) (ha : a ≠ 0)
    (halias : packet.topicAlias = some a) :
    (step config (Machine.run (step config) init (pre ++ .lifecycle .connect :: rest)).1
        (.publish packet)).2 =
      [sendPublish (if packet.topicName ≠ "" ∧ lastTopic rest a = some packet.topicName then
        { packet with topicAlias := none } else packet)] :=
  step_publish_of_tracks hmanual (tracks_run hmanual pre rest hrunning hrest) ha halias

theorem manual_alias_stripped_iff_republish :
    (step { hostName := "", port := 0, topicAliasingOptions := some ⟨some .Manual⟩ }
        (Machine.run (step { hostName := "", port := 0, topicAliasingOptions := some ⟨some .Manual⟩ })
          init ([.lifecycle .start] ++
            .lifecycle .connect :: [.publish ⟨"a/b", .AtMostOnce, none, none, none, some 1, none,
              none, none, none⟩])).1
        (.publish ⟨"a/b", .AtMostOnce, none, none, none, some 1, none, none, none, none⟩)).2 =
      [sendPublish (if "a/b" ≠ "" ∧ lastTopic [.publish ⟨"a/b", .AtMostOnce, none, none, none,
          some 1, none, none, none, none⟩] 1 = some "a/b" then
        { (⟨"a/b", .AtMostOnce, none, none, none, some 1, none, none, none, none⟩ : PublishPacket)
          with topicAlias := none }
        else ⟨"a/b", .AtMostOnce, none, none, none, some 1, none, none, none, none⟩)] :=
  manual_alias_stripped_iff rfl [.lifecycle .start] _ (by decide)
    (by simp [AliasingCall.KeepsLifecycle]) _ 1 one_ne_zero rfl

theorem publish_outcome (config : Mqtt5ClientConfig) (c : AliasingClient) (packet : PublishPacket) :
    (c.publish config packet).2 =
      if c.browserClient = false then .reject "Client is stopped and cannot publish"
      else sendPublish (fixupTopicAlias config c packet).2 := by
  unfold publish
  split <;> rfl

theorem transform_of_sendPublish {packet : PublishPacket} {topicName : String}
    {publishOptions : MqttJsPublishOptions}
    (h : sendPublish packet = .mqttJsPublish topicName publishOptions) :
    transform_crt_publish_to_mqtt_js_publish_options packet = .ok publishOptions := by
  unfold sendPublish at h
  split at h
  · next htransform =>
    cases h
    exact htransform
  · cases h

/-- Outside manual mode a publish reaches the transform without its alias. -/
theorem fixupTopicAlias_not_manual {config : Mqtt5ClientConfig}
    (h : config.outboundBehavior ≠ .Manual) (c : AliasingClient) (packet : PublishPacket) :
    (fixupTopicAlias config c packet).2.topicAlias = none := by
  simp [fixupTopicAlias, h]

/-- Outside manual mode mqtt-js is never handed a topic alias: on every run, the options of every
publish carry none. -/
theorem alias_never_sent_unless_manual {config : Mqtt5ClientConfig}
    (h : config.outboundBehavior ≠ .Manual) (calls : List AliasingCall) :
    ∀ outcome ∈ (Machine.run (step config) init calls).2, ∀ topicName publishOptions,
      outcome = .mqttJsPublish topicName publishOptions →
        publishOptions.properties.bind (·.topicAlias) = none := by
  refine Machine.run_outputs (step config) _ (fun c call outcome houtcome => ?_) init calls
  intro topicName publishOptions hpublish
  cases call with
  | lifecycle call => simp [step] at houtcome
  | publish packet =>
    -- the options come from the transform of the packet without its alias
    simp only [step, List.mem_singleton] at houtcome
    rw [houtcome, publish_outcome] at hpublish
    split at hpublish
    · cases hpublish
    · rw [publish_options_topicAlias (transform_of_sendPublish hpublish),
        fixupTopicAlias_not_manual h]

theorem alias_never_sent_unless_manual_default :
    let config : Mqtt5ClientConfig := { hostName := "", port := 0 }
    let calls : List AliasingCall := [.lifecycle .start,
      .publish ⟨"a/b", .AtMostOnce, none, none, none, some 1, none, none, none, none⟩]
    config.outboundBehavior ≠ .Manual ∧
      (Machine.run (step config) init calls).2 =
        [.mqttJsPublish "a/b" ⟨.AtMostOnce, false, none⟩] ∧
      (⟨.AtMostOnce, false, none⟩ : MqttJsPublishOptions).properties.bind (·.topicAlias) = none := by
  intro config calls
  have h : config.outboundBehavior ≠ .Manual := by decide
  have hrun : (Machine.run (step config) init calls).2 =
      [.mqttJsPublish "a/b" ⟨.AtMostOnce, false, none⟩] := rfl
  refine ⟨h, hrun, alias_never_sent_unless_manual h calls _ ?_ "a/b" _ rfl⟩
  rw [hrun]
  exact List.mem_singleton_self _

end AliasingClient

end AwsCrt
