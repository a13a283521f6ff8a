import AwsCrt.Lib.Machine
import AwsCrt.Lib.JsString

/-!
# The browser MQTT 3.1.1 subscription trie

`MqttClientConnection` keeps its subscription callbacks in a `TopicTrie`
(`src/lib/browser/mqtt.ts`), a `Trie` (`src/lib/browser/trie.ts`) keyed by the `/`-separated
levels of a topic filter. `TopicTrie.find_node` walks the levels of a key; at a level without a
child of that name it takes the `#` child (and stops there) or else the `+` child. It does so
for `insert` and `remove` as well as for `find`, and never backtracks.

A trie node is named by its path, the levels from the root to it; the trie is the partial map
from paths to nodes. `children.get(part)` of the node at `p` is the node at `p ++ [part]`, and
`parent.children.delete(current.key)` drops the node at `current` with everything below it.

* `findNode`, `insert`, `remove`, `find`: the trie; `MqttSubscriptions.step`: `subscribe`,
  `unsubscribe` and a received message, whose output is the callback `on_message` invokes.
* `topicMatches`: MQTT topic-filter matching; `Dispatches`: what MQTT subscription semantics ask
  of a received message, over the list of current subscriptions.
* `plain_subscriptions_refine`, `plain_message_dispatches`: over subscriptions and messages
  without wildcard levels, the trie holds exactly the subscriptions, and every message invokes
  what `Dispatches` asks; the walk's wildcard fallbacks are where it goes wrong.
* `unsubscribe_drops_subtree`: `unsubscribe` deletes the filter's node with everything below it,
  so unsubscribing `a` also drops a subscription to `a/b`; the runs above have no unsubscribe.
  `plain_trie_refines_pruned` covers them: over every run without wildcards, unsubscribes
  included, the trie delivers what an association list delivers in which an unsubscribe drops its
  filter and every filter below it (`Subscribed.trieStep`).
* `subscribe_overwrites_plus`: after `subscribe("a/+", c₁)` and `subscribe("a/b", c₂)` the node of
  `a/+` holds `c₂`, and a message on `a/c` invokes `c₂`, the callback of a filter that does not
  match it.
-/

namespace AwsCrt

/-- A trie node; its `key` is the last level of its path and its `children` are the nodes one
level below, so only its `value` is stored. -/
structure TrieNode (α : Type) where
  value : Option α

/-- `TrieOp`. -/
inductive TrieOp
  | insert
  | delete
  | find
  deriving DecidableEq, Repr

/-- The nodes of a trie by path; the root is at `[]`. -/
structure Trie (α : Type) where
  node : List String → Option (TrieNode α)

namespace Trie

variable {α : Type}

/-- `new Trie(…)`: the root alone, without a value. -/
def empty : Trie α := ⟨fun p => if p = [] then some ⟨none⟩ else none⟩

/-- `current.children.set(part, new TrieNode(part))`, for `p = current ++ [part]`. -/
def create (t : Trie α) (p : List String) : Trie α :=
  ⟨fun q => if q = p then some ⟨none⟩ else t.node q⟩

/-- `parent.children.delete(current.key)`: the node at `p` and its descendants go. -/
def deleteSubtree (t : Trie α) (p : List String) : Trie α :=
  ⟨fun q => if p <+: q then none else t.node q⟩

/-- `node.value = value`. -/
def setValue (t : Trie α) (p : List String) (value : Option α) : Trie α :=
  ⟨fun q => if q = p then some ⟨value⟩ else t.node q⟩

@[simp] theorem node_empty (q : List String) :
    (empty : Trie α).node q = if q = [] then some ⟨none⟩ else none := rfl

@[simp] theorem node_create (t : Trie α) (p q : List String) :
    (t.create p).node q = if q = p then some ⟨none⟩ else t.node q := rfl

@[simp] theorem node_setValue (t : Trie α) (p : List String) (value : Option α) (q : List String) :
    (t.setValue p value).node q = if q = p then some ⟨value⟩ else t.node q := rfl

@[simp] theorem node_deleteSubtree (t : Trie α) (p q : List String) :
    (t.deleteSubtree p).node q = if p <+: q then none else t.node q := rfl

/-- The loop of `TopicTrie.find_node` from the node at `current` over the remaining levels, and
the deletion after it; `parent` is whether the loop has moved down. Returns the trie and the
node found, if any. -/
def findNodeFrom (op : TrieOp) : Trie α → List String → Bool → List String →
    Trie α × Option (List String)
  | t, current, parent, [] =>
    -- `parent.children.delete(current.key!)`: `current` is the child of `parent` under its key
    if parent ∧ op = .delete then (t.deleteSubtree current, some current) else (t, some current)
  | t, current, _, part :: parts =>
    match t.node (current ++ [part]) with
    | some _ => findNodeFrom op t (current ++ [part]) true parts
    | none =>
      match t.node (current ++ ["#"]) with
      | some _ => (t, some (current ++ ["#"]))
      | none =>
        match t.node (current ++ ["+"]) with
        | some _ => findNodeFrom op t (current ++ ["+"]) true parts
        | none =>
          if op = .insert then
            findNodeFrom op (t.create (current ++ [part])) (current ++ [part]) true parts
          else (t, none)

/-- `find_node(key, op)`. -/
def findNode (t : Trie α) (key : String) (op : TrieOp) : Trie α × Option (List String) :=
  findNodeFrom op t [] false (JsString.split key '/')

/-- `insert(key, value)`; the walk of an insert always ends at a node. -/
def insert (t : Trie α) (key : String) (value : Option α) : Trie α :=
  match t.findNode key .insert with
  | (t', some p) => t'.setValue p value
  | (t', none) => t'

/-- `remove(key)`. -/
def remove (t : Trie α) (key : String) : Trie α := (t.findNode key .delete).1

/-- `find(key)`: the value of the node found. -/
def find (t : Trie α) (key : String) : Option α :=
  match (t.findNode key .find).2 with
  | some p => (t.node p).bind (·.value)
  | none => none

end Trie

/-- What `MqttClientConnection` does with its subscriptions. -/
inductive SubscriptionCall (α : Type)
  | subscribe (topic : String) (on_message : Option α)
  | unsubscribe (topic : String)
  | message (topic : String)

namespace MqttSubscriptions

variable {α : Type}

/-- `subscribe` and `unsubscribe` update the trie; a message on `topic` invokes the callback
`subscriptions.find(topic)` returns, if any. -/
def step (t : Trie α) : SubscriptionCall α → Trie α × List α
  | .subscribe topic on_message => (t.insert topic on_message, [])
  | .unsubscribe topic => (t.remove topic, [])
  | .message topic => (t, (t.find topic).toList)

end MqttSubscriptions

/-! ## MQTT topic filters -/

/-- Matching of the levels of a topic filter against those of a topic name: `+` matches one
level, a final `#` matches the level above it and any number below. -/
def matchLevels : List String → List String → Bool
  | ["#"], _ => true
  | "+" :: fs, _ :: ts => matchLevels fs ts
  | f :: fs, t :: ts => f == t && matchLevels fs ts
  | [], [] => true
  | _, _ => false

/-- MQTT 3.1.1 §4.7: the filter matches the topic; a filter that starts with a wildcard does
not match a topic that starts with `$`. -/
def topicMatches (filter topic : String) : Bool :=
  !(topic.toList.head? == some '$' &&
      (filter.toList.head? == some '+' || filter.toList.head? == some '#')) &&
    matchLevels (JsString.split filter '/') (JsString.split topic '/')

namespace Subscribed

variable {α : Type}

/-- The subscriptions as MQTT defines them, each filter subscribed and not since unsubscribed
with its latest callback: `subscribe` binds the filter to the callback, `unsubscribe` unbinds
it. -/
def step (s : List (String × Option α)) : SubscriptionCall α → List (String × Option α)
  | .subscribe topic on_message => (topic, on_message) :: s.filter (·.1 ≠ topic)
  | .unsubscribe topic => s.filter (·.1 ≠ topic)
  | .message _ => s

end Subscribed

/-- A message on `topic` invokes `invoked`: the callback of a subscribed filter that matches the
topic, and one whenever such a filter has a callback. -/
def Dispatches {α : Type} (s : List (String × Option α)) (topic : String) (invoked : List α) : Prop :=
  (∀ c ∈ invoked, ∃ filter, (filter, some c) ∈ s ∧ topicMatches filter topic) ∧
    ((∃ filter c, (filter, some c) ∈ s ∧ topicMatches filter topic) → invoked ≠ [])

/-! ## Filters without wildcards -/

/-- A level that is neither wildcard. -/
def PlainLevel (x : String) : Prop := x ≠ "#" ∧ x ≠ "+"

/-- A topic or filter none of whose levels is a wildcard. -/
def PlainTopic (topic : String) : Prop := ∀ x ∈ JsString.split topic '/', PlainLevel x

/-- A filter without wildcard levels matches exactly the topic with its levels. -/
theorem matchLevels_plain {fs : List String} (hfs : ∀ x ∈ fs, PlainLevel x) (ts : List String) :
    matchLevels fs ts = true ↔ fs = ts := by
  induction fs generalizing ts with
  | nil => cases ts <;> simp [matchLevels]
  | cons f fs ih =>
    obtain ⟨hhash, hplus⟩ : PlainLevel f := hfs f (by simp)
    have hrest : ∀ x ∈ fs, PlainLevel x := fun x hx => hfs x (by simp [hx])
    -- the source's first two patterns are wildcards, so only the general ones apply
    cases ts with
    | nil =>
      rw [matchLevels.eq_5 _ _ (by simp [hhash]) (by simp) (by simp) (by simp)]
      simp
    | cons t ts =>
      rw [matchLevels.eq_3 f fs t ts (fun h _ => hhash h) hplus]
      simp [ih hrest]

theorem topicMatches_plain {filter : String} (hf : PlainTopic filter) (topic : String) :
    topicMatches filter topic = true ↔ filter = topic := by
  constructor
  · intro h
    simp only [topicMatches, Bool.and_eq_true] at h
    exact JsString.split_inj ((matchLevels_plain hf _).1 h.2)
  · rintro rfl
    -- a string cannot start with `$` and with a wildcard character
    have hstart : (filter.toList.head? == some '$' &&
        (filter.toList.head? == some '+' || filter.toList.head? == some '#')) = false := by
      rcases filter.toList.head? with _ | c <;> simp
      rintro rfl
      decide
    simp [topicMatches, hstart, (matchLevels_plain hf _).2 rfl]

namespace Trie

variable {α : Type}

/-- The root exists, every node lies on a path of plain levels, and every prefix of a node is a
node. -/
structure Plain (t : Trie α) : Prop where
  root : (t.node []).isSome
  levels : ∀ p, (t.node p).isSome → ∀ x ∈ p, PlainLevel x
  prefix_closed : ∀ p q, (t.node (p ++ q)).isSome → (t.node p).isSome

/-- The value held at a path, if a node is there. -/
def valueAt (t : Trie α) (p : List String) : Option α := (t.node p).bind (·.value)

theorem plain_empty : (empty : Trie α).Plain where
  root := rfl
  levels p hp := by
    have : p = [] := by simpa using hp
    simp [this]
  prefix_closed p q hpq := by
    have : p ++ q = [] := by simpa using hpq
    simp [List.append_eq_nil_iff.1 this]

/-- Nodes at the same places make a plain trie plain. -/
theorem Plain.of_isSome {t t' : Trie α} (ht : t.Plain)
    (h : ∀ q, (t'.node q).isSome = (t.node q).isSome) : t'.Plain where
  root := by rw [h]; exact ht.root
  levels p hp := ht.levels p (by rwa [← h])
  prefix_closed p q hpq := by
    rw [h] at hpq ⊢
    exact ht.prefix_closed p q hpq

theorem Plain.wild_none {t : Trie α} (ht : t.Plain) (p : List String) :
    t.node (p ++ ["#"]) = none ∧ t.node (p ++ ["+"]) = none := by
  constructor <;> rw [← Option.not_isSome_iff_eq_none] <;> intro h <;>
    simpa [PlainLevel] using ht.levels _ h _ (List.mem_append_right p (List.mem_singleton_self _))

/-- A new child with a plain level, below a node, keeps a trie plain. -/
theorem Plain.create {t : Trie α} (ht : t.Plain) {p : List String} {x : String}
    (hp : (t.node p).isSome) (hx : PlainLevel x) : (t.create (p ++ [x])).Plain where
  root := by
    have hne : ([] : List String) ≠ p ++ [x] := by simp
    simpa [hne] using ht.root
  levels q hq := by
    by_cases hqp : q = p ++ [x]
    · subst hqp
      intro y hy
      rcases List.mem_append.1 hy with hy | hy
      · exact ht.levels p hp y hy
      · rw [List.mem_singleton.1 hy]
        exact hx
    · exact ht.levels q (by simpa [hqp] using hq)
  prefix_closed a b hab := by
    by_cases ha : a = p ++ [x]
    · simp [ha]
    simp only [node_create, ha, if_false]
    by_cases habp : a ++ b = p ++ [x]
    · -- a proper prefix of the new node is a prefix of its parent
      rcases List.append_eq_append_iff.1 habp with ⟨c, hpc, -⟩ | ⟨c, hac, hc⟩
      · exact ht.prefix_closed a c (hpc ▸ hp)
      · rcases c with _ | ⟨y, c⟩
        · simpa [hac] using hp
        · obtain ⟨rfl, rfl, rfl⟩ : x = y ∧ c = [] ∧ b = [] := by simpa using hc
          exact absurd hac ha
    · exact ht.prefix_closed a b (by simpa [habp] using hab)

theorem valueAt_create {t : Trie α} {p : List String} (hp : t.node p = none) (q : List String) :
    (t.create p).valueAt q = t.valueAt q := by
  by_cases hq : q = p
  · subst hq
    simp [valueAt, hp]
  · simp [valueAt, hq]

theorem valueAt_setValue (t : Trie α) (p : List String) (v : Option α) (q : List String) :
    (t.setValue p v).valueAt q = if q = p then v else t.valueAt q := by
  by_cases hq : q = p <;> simp [valueAt, hq]

/-- Deleting the subtree of a node other than the root keeps a trie plain. -/
theorem Plain.deleteSubtree {t : Trie α} (ht : t.Plain) {p : List String} (hp : p ≠ []) :
    (t.deleteSubtree p).Plain where
  root := by
    have hroot : ¬p <+: [] := by rwa [List.prefix_nil]
    simpa [hroot] using ht.root
  levels q hq := by
    by_cases hpq : p <+: q
    · simp [hpq] at hq
    · exact ht.levels q (by simpa [hpq] using hq)
  prefix_closed a b hab := by
    by_cases hpab : p <+: a ++ b
    · simp [hpab] at hab
    -- a node that stays keeps its prefixes, which lie outside the deleted subtree too
    have hpa : ¬p <+: a := fun h => hpab (h.trans (List.prefix_append a b))
    simp only [node_deleteSubtree, hpa, hpab, if_false] at hab ⊢
    exact ht.prefix_closed a b hab

theorem valueAt_deleteSubtree (t : Trie α) (p q : List String) :
    (t.deleteSubtree p).valueAt q = if p <+: q then none else t.valueAt q := by
  by_cases hpq : p <+: q <;> simp [valueAt, hpq]

/-- A plain trie holds no value below a path it has no node at. -/
theorem Plain.valueAt_of_prefix {t : Trie α} (ht : t.Plain) {p q : List String}
    (hp : t.node p = none) (hpq : p <+: q) : t.valueAt q = none := by
  obtain ⟨r, rfl⟩ := hpq
  cases hq : t.node (p ++ r) with
  | none => simp [valueAt, hq]
  | some n =>
    have := ht.prefix_closed p r (by simp [hq])
    simp [hp] at this

/-- On a plain trie, the walk of a `find` over plain levels reaches the node at the end of the
path, or stops where there is none. -/
theorem findNodeFrom_find {t : Trie α} (ht : t.Plain) {current : List String}
    (hcur : (t.node current).isSome) (parent : Bool) {parts : List String}
    (hparts : ∀ x ∈ parts, PlainLevel x) :
    findNodeFrom .find t current parent parts =
      (t, if (t.node (current ++ parts)).isSome then some (current ++ parts) else none) := by
  induction parts generalizing current parent with
  | nil => simp [findNodeFrom, hcur]
  | cons part parts ih =>
    have hrest : ∀ x ∈ parts, PlainLevel x := fun x hx => hparts x (by simp [hx])
    rcases hc : t.node (current ++ [part]) with _ | n
    · -- no child: no wildcard child either, and no node further down
      have hdown : (t.node (current ++ part :: parts)).isSome = false := by
        rw [Bool.eq_false_iff]
        intro h
        have := ht.prefix_closed (current ++ [part]) parts (by simpa using h)
        simp [hc] at this
      simp [findNodeFrom, hc, (ht.wild_none current).1, (ht.wild_none current).2, hdown]
    · have hnext : (t.node (current ++ [part])).isSome := by simp [hc]
      simp only [findNodeFrom, hc]
      rw [ih hnext true hrest]
      simp

/-- On a plain trie, the walk of an `insert` over plain levels ends at the node of the path,
creating the missing nodes without values. -/
theorem findNodeFrom_insert {t : Trie α} (ht : t.Plain) {current : List String}
    (hcur : (t.node current).isSome) (parent : Bool) {parts : List String}
    (hparts : ∀ x ∈ parts, PlainLevel x) :
    (findNodeFrom .insert t current parent parts).2 = some (current ++ parts) ∧
      (findNodeFrom .insert t current parent parts).1.Plain ∧
      ((findNodeFrom .insert t current parent parts).1.node (current ++ parts)).isSome ∧
      ∀ q, (findNodeFrom .insert t current parent parts).1.valueAt q = t.valueAt q := by
  induction parts generalizing t current parent with
  | nil => simp [findNodeFrom, ht, hcur]
  | cons part parts ih =>
    have hpart : PlainLevel part := hparts part (by simp)
    have hrest : ∀ x ∈ parts, PlainLevel x := fun x hx => hparts x (by simp [hx])
    rcases hc : t.node (current ++ [part]) with _ | n
    · -- the missing child is created, and the walk goes on from it
      have hnext : ((t.create (current ++ [part])).node (current ++ [part])).isSome := by simp
      obtain ⟨h1, h2, h3, h4⟩ := ih (ht.create hcur hpart) hnext true hrest
      simp only [findNodeFrom, hc, (ht.wild_none current).1, (ht.wild_none current).2,
        if_true, List.append_assoc, List.singleton_append] at h1 h2 h3 h4 ⊢
      exact ⟨h1, h2, h3, fun q => (h4 q).trans (valueAt_create hc q)⟩
    · have hnext : (t.node (current ++ [part])).isSome := by simp [hc]
      obtain ⟨h1, h2, h3, h4⟩ := ih ht hnext true hrest
      simp only [findNodeFrom, hc, List.append_assoc, List.singleton_append] at h1 h2 h3 h4 ⊢
      exact ⟨h1, h2, h3, h4⟩

/-- On a plain trie, the walk of a `delete` over plain levels deletes the subtree of the node at
the end of the path, when there is one below the node it starts from. -/
theorem findNodeFrom_delete {t : Trie α} (ht : t.Plain) {current : List String}
    (hcur : (t.node current).isSome) (parent : Bool) {parts : List String}
    (hparts : ∀ x ∈ parts, PlainLevel x) :
    (findNodeFrom .delete t current parent parts).1 =
      if (t.node (current ++ parts)).isSome ∧ (parent = true ∨ parts ≠ []) then
        t.deleteSubtree (current ++ parts)
      else t := by
  induction parts generalizing current parent with
  | nil => cases parent <;> simp [findNodeFrom, hcur]
  | cons part parts ih =>
    have hrest : ∀ x ∈ parts, PlainLevel x := fun x hx => hparts x (by simp [hx])
    rcases hc : t.node (current ++ [part]) with _ | n
    · -- no child and no wildcard child: the walk stops, with no node further down
      have hdown : (t.node (current ++ part :: parts)).isSome = false := by
        rw [Bool.eq_false_iff]
        intro h
        have := ht.prefix_closed (current ++ [part]) parts (by simpa using h)
        simp [hc] at this
      simp [findNodeFrom, hc, (ht.wild_none current).1, (ht.wild_none current).2, hdown]
    · have hnext : (t.node (current ++ [part])).isSome := by simp [hc]
      simp only [findNodeFrom, hc]
      rw [ih hnext true hrest]
      simp

/-- On a plain trie, `find` of a plain topic reads the node of its levels. -/
theorem find_plain {t : Trie α} (ht : t.Plain) {key : String} (hkey : PlainTopic key) :
    t.find key = t.valueAt (JsString.split key '/') := by
  simp only [find, findNode, findNodeFrom_find ht ht.root false hkey, List.nil_append]
  split <;> simp_all [valueAt]

/-- `insert` of a plain filter keeps the trie plain and sets the value of its node alone. -/
theorem insert_plain {t : Trie α} (ht : t.Plain) {key : String} (hkey : PlainTopic key)
    (v : Option α) :
    (t.insert key v).Plain ∧
      ∀ q, (t.insert key v).valueAt q = if q = JsString.split key '/' then v else t.valueAt q := by
  obtain ⟨h1, h2, h3, h4⟩ := findNodeFrom_insert ht ht.root false hkey
  simp only [List.nil_append] at h1 h3
  have hins : t.insert key v =
      (findNodeFrom .insert t [] false (JsString.split key '/')).1.setValue
        (JsString.split key '/') v := by
    rcases hf : findNodeFrom .insert t [] false (JsString.split key '/') with ⟨t', r⟩
    rw [hf] at h1
    subst h1
    simp only [insert, findNode, hf]
  rw [hins]
  refine ⟨h2.of_isSome fun q => ?_, fun q => ?_⟩
  · by_cases hq : q = JsString.split key '/'
    · subst hq
      simp [h3]
    · simp [hq]
  · rw [valueAt_setValue, h4]

/-- `remove` of a plain filter keeps the trie plain and takes away every value at or below its
node. -/
theorem remove_plain {t : Trie α} (ht : t.Plain) {key : String} (hkey : PlainTopic key) :
    (t.remove key).Plain ∧
      ∀ q, (t.remove key).valueAt q =
        if JsString.split key '/' <+: q then none else t.valueAt q := by
  have hne : JsString.split key '/' ≠ [] :=
    List.ne_nil_of_length_pos (by rw [JsString.length_split]; omega)
  have hremove := findNodeFrom_delete ht ht.root false hkey
  simp only [List.nil_append, Bool.false_eq_true, false_or, ne_eq, hne, not_false_eq_true,
    and_true] at hremove
  rw [remove, findNode, hremove]
  split
  · exact ⟨ht.deleteSubtree hne, valueAt_deleteSubtree t _⟩
  · -- no node for the filter, so no value below it either
    rename_i hnode
    have hnone : t.node (JsString.split key '/') = none := by simpa using hnode
    refine ⟨ht, fun q => ?_⟩
    split
    · exact ht.valueAt_of_prefix hnone (by assumption)
    · rfl

end Trie

/-- A subscription or a message whose topic has no wildcard level. Unsubscribes are left out:
`unsubscribe_drops_subtree` shows where they part from the subscriptions. -/
def PlainCall {α : Type} : SubscriptionCall α → Prop
  | .subscribe topic _ => PlainTopic topic
  | .unsubscribe _ => False
  | .message topic => PlainTopic topic

namespace Subscribed

variable {α : Type}

/-- The subscriptions with what a message delivers when no filter has a wildcard: the callback
of the filter equal to the topic. -/
def deliver (s : List (String × Option α)) : SubscriptionCall α → List (String × Option α) × List α
  | .message topic => (s, ((s.lookup topic).join).toList)
  | c => (step s c, [])

/-- Keeping the entries whose filter passes a test keeps their lookups and loses the others'. -/
theorem lookup_filter_key (s : List (String × Option α)) (p : String → Bool) (key : String) :
    (s.filter fun e => p e.1).lookup key = if p key then s.lookup key else none := by
  induction s with
  | nil => simp
  | cons e s ih =>
    obtain ⟨k, v⟩ := e
    by_cases hk : key = k
    · subst hk
      by_cases he : p key <;> simp [he, ih]
    · -- the head is skipped by both lookups, kept or not
      have hke : (key == k) = false := beq_false_of_ne hk
      by_cases he : p k <;> simp [he, List.lookup_cons, hke, ih]

theorem lookup_filter_ne (s : List (String × Option α)) {topic key : String} (h : key ≠ topic) :
    (s.filter (·.1 ≠ topic)).lookup key = s.lookup key :=
  (lookup_filter_key s (fun k => decide (k ≠ topic)) key).trans (by simp [h])

/-- The filters of the subscriptions are distinct and have no wildcard level. -/
structure Keys (s : List (String × Option α)) : Prop where
  nodup : (s.map Prod.fst).Nodup
  plain : ∀ e ∈ s, PlainTopic e.1

theorem keys_nil : Keys ([] : List (String × Option α)) := ⟨List.nodup_nil, by simp⟩

theorem keys_step {s : List (String × Option α)} (hs : Keys s) (c : SubscriptionCall α)
    (hc : PlainCall c) : Keys (step s c) := by
  cases c with
  | subscribe topic on_message =>
    refine ⟨?_, ?_⟩
    · simp only [step, List.map_cons, List.nodup_cons]
      exact ⟨by simp, hs.nodup.sublist (List.filter_sublist.map _)⟩
    · rintro ⟨k, v⟩ he
      rcases List.mem_cons.1 he with he | he
      · cases he
        exact hc
      · exact hs.plain _ (List.mem_of_mem_filter he)
  | unsubscribe topic => exact hc.elim
  | message topic => exact hs

theorem keys_foldl {s : List (String × Option α)} (hs : Keys s) {calls : List (SubscriptionCall α)}
    (hcalls : ∀ c ∈ calls, PlainCall c) : Keys (calls.foldl step s) := by
  induction calls generalizing s with
  | nil => exact hs
  | cons c calls ih =>
    exact ih (keys_step hs c (hcalls c (by simp))) fun c hc => hcalls c (by simp [hc])

/-- With distinct filters, the entry of a filter is what `lookup` finds. -/
theorem lookup_of_mem {s : List (String × Option α)} (hs : (s.map Prod.fst).Nodup)
    {k : String} {v : Option α} (h : (k, v) ∈ s) : s.lookup k = some v := by
  induction s with
  | nil => simp at h
  | cons e s ih =>
    obtain ⟨hne, hs'⟩ := List.nodup_cons.1 hs
    rcases List.mem_cons.1 h with rfl | h
    · simp
    · have hk : k ≠ e.1 := fun heq => hne (heq ▸ List.mem_map_of_mem (f := Prod.fst) h)
      rw [List.lookup_cons, beq_false_of_ne hk, ih hs' h]

theorem run_deliver_fst (s : List (String × Option α)) (calls : List (SubscriptionCall α)) :
    (Machine.run deliver s calls).1 = calls.foldl step s := by
  induction calls generalizing s with
  | nil => rfl
  | cons c calls ih =>
    rw [Machine.run_cons, ih]
    cases c <;> rfl

end Subscribed

/-- The trie answers every plain topic as the subscriptions do. -/
def Represents {α : Type} (t : Trie α) (s : List (String × Option α)) : Prop :=
  t.Plain ∧ ∀ key, PlainTopic key → t.find key = (s.lookup key).join

/-- No subscription and the new trie, which holds no value. -/
theorem represents_empty {α : Type} : Represents (Trie.empty : Trie α) [] := by
  refine ⟨Trie.plain_empty, fun key hkey => ?_⟩
  have hne : JsString.split key '/' ≠ [] :=
    List.ne_nil_of_length_pos (by rw [JsString.length_split]; omega)
  simp [Trie.find_plain Trie.plain_empty hkey, Trie.valueAt, hne]

/-- A subscription to a plain filter binds its node and leaves the other topics' answers. -/
theorem represents_subscribe {α : Type} {t : Trie α} {s : List (String × Option α)}
    (h : Represents t s) {topic : String} (htopic : PlainTopic topic) (on_message : Option α) :
    Represents (t.insert topic on_message) (Subscribed.step s (.subscribe topic on_message)) := by
  obtain ⟨ht, hfind⟩ := h
  obtain ⟨hplain, hval⟩ := Trie.insert_plain ht htopic on_message
  refine ⟨hplain, fun key hkey => ?_⟩
  simp only [Subscribed.step]
  rw [Trie.find_plain hplain hkey, hval, ← Trie.find_plain ht hkey, hfind key hkey]
  by_cases hk : key = topic
  · subst hk
    simp
  · have hsplit : JsString.split key '/' ≠ JsString.split topic '/' :=
      fun hs => hk (JsString.split_inj hs)
    rw [if_neg hsplit, List.lookup_cons, Subscribed.lookup_filter_ne s hk, beq_false_of_ne hk]

theorem represents_step {α : Type} {t : Trie α} {s : List (String × Option α)}
    (h : Represents t s) (c : SubscriptionCall α) (hc : PlainCall c) :
    Represents (MqttSubscriptions.step t c).1 (Subscribed.deliver s c).1 ∧
      (MqttSubscriptions.step t c).2 = (Subscribed.deliver s c).2 := by
  cases c with
  | subscribe topic on_message => exact ⟨represents_subscribe h hc on_message, rfl⟩
  | unsubscribe topic => exact hc.elim
  | message topic =>
    exact ⟨h, by simp [MqttSubscriptions.step, Subscribed.deliver, h.2 topic hc]⟩

/-- On every run of subscriptions and messages without wildcards, the trie delivers what the
subscriptions say: each message, the callback of the filter equal to its topic. -/
theorem plain_subscriptions_refine {α : Type} (calls : List (SubscriptionCall α))
    (hcalls : ∀ c ∈ calls, PlainCall c) :
    Represents (Machine.run MqttSubscriptions.step Trie.empty calls).1
        (calls.foldl Subscribed.step []) ∧
      (Machine.run MqttSubscriptions.step Trie.empty calls).2 =
        (Machine.run Subscribed.deliver [] calls).2 := by
  have h := Machine.run_simulates_on MqttSubscriptions.step Subscribed.deliver Represents PlainCall
    Eq (fun t s c hc h => by
      obtain ⟨hR, hout⟩ := represents_step h c hc
      exact ⟨hR, by rw [hout]; exact List.forall₂_same.2 fun _ _ => rfl⟩)
    (s := Trie.empty) (t := []) represents_empty hcalls
  rw [Subscribed.run_deliver_fst] at h
  rw [List.forall₂_eq_eq_eq] at h
  exact h

/-- Over distinct filters without wildcards, the callback of the filter equal to a topic is what
a message on it should invoke. -/
theorem dispatches_lookup {α : Type} {s : List (String × Option α)} (hs : Subscribed.Keys s)
    {topic : String} (htopic : PlainTopic topic) :
    Dispatches s topic ((s.lookup topic).join.toList) := by
  refine ⟨fun c hc => ⟨topic, ?_, (topicMatches_plain htopic topic).2 rfl⟩, ?_⟩
  · have hlookup : s.lookup topic = some (some c) := Option.join_eq_some_iff.1 (by simpa using hc)
    obtain ⟨l₁, l₂, hl, -⟩ := List.lookup_eq_some_iff.1 hlookup
    simp [hl]
  · rintro ⟨filter, c, hmem, hmatch⟩
    obtain rfl : filter = topic := (topicMatches_plain (hs.plain _ hmem) topic).1 hmatch
    simp [Subscribed.lookup_of_mem hs.nodup hmem]

/-- After subscriptions without wildcards, a message on a topic without wildcards invokes what
`Dispatches` asks: the callback of the one filter that matches it, if it has one. -/
theorem plain_message_dispatches {α : Type} (calls : List (SubscriptionCall α))
    (hcalls : ∀ c ∈ calls, PlainCall c) {topic : String} (htopic : PlainTopic topic) :
    Dispatches (calls.foldl Subscribed.step []) topic
      (MqttSubscriptions.step (Machine.run MqttSubscriptions.step Trie.empty calls).1
        (.message topic)).2 := by
  obtain ⟨⟨-, hfind⟩, -⟩ := plain_subscriptions_refine calls hcalls
  simp only [MqttSubscriptions.step, hfind topic htopic]
  exact dispatches_lookup (Subscribed.keys_foldl Subscribed.keys_nil hcalls) htopic

theorem plain_message_dispatches_exact :
    let calls : List (SubscriptionCall Nat) := [.subscribe "a/b" (some 0), .subscribe "a/c" (some 1)]
    (∀ c ∈ calls, PlainCall c) ∧ PlainTopic "a/c" ∧
      Dispatches (calls.foldl Subscribed.step []) "a/c"
        (MqttSubscriptions.step (Machine.run MqttSubscriptions.step Trie.empty calls).1
          (.message "a/c")).2 := by
  intro calls
  have hcalls : ∀ c ∈ calls, PlainCall c := by
    simp [calls, PlainCall, PlainTopic, PlainLevel]
    decide
  have htopic : PlainTopic "a/c" := by
    simp [PlainTopic, PlainLevel]
    decide
  exact ⟨hcalls, htopic, plain_message_dispatches calls hcalls htopic⟩

/-! ## Unsubscribes -/

/-- A call whose topic has no wildcard level, an unsubscribe included. -/
def PlainTopicCall {α : Type} : SubscriptionCall α → Prop
  | .subscribe topic _ | .unsubscribe topic | .message topic => PlainTopic topic

namespace Subscribed

variable {α : Type}

/-- The subscriptions the trie keeps: as `step`, except that an unsubscribe drops with its filter
every filter below it, whose levels begin with its levels. -/
def trieStep (s : List (String × Option α)) : SubscriptionCall α → List (String × Option α)
  | .unsubscribe topic => s.filter fun e => ¬JsString.split topic '/' <+: JsString.split e.1 '/'
  | c => step s c

/-- `trieStep`, with what a message delivers as in `deliver`. -/
def trieDeliver (s : List (String × Option α)) :
    SubscriptionCall α → List (String × Option α) × List α
  | .message topic => (s, ((s.lookup topic).join).toList)
  | c => (trieStep s c, [])

theorem lookup_trieStep_unsubscribe (s : List (String × Option α)) (topic key : String) :
    (trieStep s (.unsubscribe topic)).lookup key =
      if JsString.split topic '/' <+: JsString.split key '/' then none else s.lookup key :=
  (lookup_filter_key s (fun k => decide ¬JsString.split topic '/' <+: JsString.split k '/') key).trans
    (by by_cases h : JsString.split topic '/' <+: JsString.split key '/' <;> simp [h])

theorem run_trieDeliver_fst (s : List (String × Option α)) (calls : List (SubscriptionCall α)) :
    (Machine.run trieDeliver s calls).1 = calls.foldl trieStep s := by
  induction calls generalizing s with
  | nil => rfl
  | cons c calls ih =>
    rw [Machine.run_cons, ih]
    cases c <;> rfl

end Subscribed

/-- An unsubscribe of a plain filter empties its node and every node below it. -/
theorem represents_unsubscribe {α : Type} {t : Trie α} {s : List (String × Option α)}
    (h : Represents t s) {topic : String} (htopic : PlainTopic topic) :
    Represents (t.remove topic) (Subscribed.trieStep s (.unsubscribe topic)) := by
  obtain ⟨ht, hfind⟩ := h
  obtain ⟨hplain, hval⟩ := Trie.remove_plain ht htopic
  refine ⟨hplain, fun key hkey => ?_⟩
  rw [Trie.find_plain hplain hkey, hval, ← Trie.find_plain ht hkey, hfind key hkey,
    Subscribed.lookup_trieStep_unsubscribe]
  split <;> rfl

theorem represents_trieStep {α : Type} {t : Trie α} {s : List (String × Option α)}
    (h : Represents t s) (c : SubscriptionCall α) (hc : PlainTopicCall c) :
    Represents (MqttSubscriptions.step t c).1 (Subscribed.trieDeliver s c).1 ∧
      (MqttSubscriptions.step t c).2 = (Subscribed.trieDeliver s c).2 := by
  cases c with
  | subscribe topic on_message => exact ⟨represents_subscribe h hc on_message, rfl⟩
  | unsubscribe topic => exact ⟨represents_unsubscribe h hc, rfl⟩
  | message topic =>
    exact ⟨h, by simp [MqttSubscriptions.step, Subscribed.trieDeliver, h.2 topic hc]⟩

/-- On every run of subscribes, unsubscribes and messages without wildcards, the trie delivers
what the subscriptions it keeps say: each message, the callback of the filter equal to its topic,
where every unsubscribe has dropped the filters below its own as well. -/
theorem plain_trie_refines_pruned {α : Type} (calls : List (SubscriptionCall α))
    (hcalls : ∀ c ∈ calls, PlainTopicCall c) :
    Represents (Machine.run MqttSubscriptions.step Trie.empty calls).1
        (calls.foldl Subscribed.trieStep []) ∧
      (Machine.run MqttSubscriptions.step Trie.empty calls).2 =
        (Machine.run Subscribed.trieDeliver [] calls).2 := by
  have h := Machine.run_simulates_on MqttSubscriptions.step Subscribed.trieDeliver Represents
    PlainTopicCall Eq (fun t s c hc h => by
      obtain ⟨hR, hout⟩ := represents_trieStep h c hc
      exact ⟨hR, by rw [hout]; exact List.forall₂_same.2 fun _ _ => rfl⟩)
    (s := Trie.empty) (t := []) represents_empty hcalls
  rw [Subscribed.run_trieDeliver_fst, List.forall₂_eq_eq_eq] at h
  exact h

/-- The run of `unsubscribe_drops_subtree` as the trie keeps it: the unsubscribe of `a` drops
`a/b`, so the message on `a/b` delivers nothing. -/
example : (Machine.run Subscribed.trieDeliver []
    ([.subscribe "a" (some 0), .subscribe "a/b" (some 1), .unsubscribe "a", .message "a/b"] :
      List (SubscriptionCall Nat))).2 = [] := by
  decide

/-! ## A `+` node taken by a plain filter -/

/-- `subscribe("a/b", c₂)` after `subscribe("a/+", c₁)` walks into the `+` node and stores `c₂`
there; a message on `a/c` then invokes `c₂`, which no filter matching `a/c` is bound to. -/
theorem subscribe_overwrites_plus {α : Type} (c₁ c₂ : α) (hne : c₁ ≠ c₂) :
    let calls : List (SubscriptionCall α) :=
      [.subscribe "a/+" (some c₁), .subscribe "a/b" (some c₂), .message "a/c"]
    (Machine.run MqttSubscriptions.step Trie.empty calls).1.node ["a", "+"] = some ⟨some c₂⟩ ∧
      (Machine.run MqttSubscriptions.step Trie.empty calls).2 = [c₂] ∧
      ¬Dispatches ((calls.take 2).foldl Subscribed.step []) "a/c" [c₂] := by
  intro calls
  refine ⟨rfl, rfl, ?_⟩
  · -- the only filter bound to `c₂` is `a/b`, which does not match `a/c`
    rintro ⟨hsound, -⟩
    obtain ⟨filter, hmem, hmatch⟩ := hsound c₂ (by simp)
    simp [calls, Subscribed.step] at hmem
    rcases hmem with ⟨rfl, -⟩ | ⟨rfl, h⟩
    · revert hmatch; decide
    · exact hne h.symm

/-- `unsubscribe("a")` after `subscribe("a", c₁)` and `subscribe("a/b", c₂)` deletes the node of
`a` with the node of `a/b` below it: a message on `a/b` invokes nothing, though `a/b` is still
subscribed with `c₂`. -/
theorem unsubscribe_drops_subtree {α : Type} (c₁ c₂ : α) :
    let calls : List (SubscriptionCall α) :=
      [.subscribe "a" (some c₁), .subscribe "a/b" (some c₂), .unsubscribe "a", .message "a/b"]
    (Machine.run MqttSubscriptions.step Trie.empty calls).2 = [] ∧
      ¬Dispatches ((calls.take 3).foldl Subscribed.step []) "a/b" [] := by
  intro calls
  refine ⟨rfl, ?_⟩
  -- `a/b` is still bound to `c₂`, and matches itself
  rintro ⟨-, hcomplete⟩
  have hbound : ("a/b", some c₂) ∈ (calls.take 3).foldl Subscribed.step [] := by
    simp [calls, Subscribed.step]
  exact hcomplete ⟨"a/b", c₂, hbound, by decide⟩ rfl

theorem subscribe_overwrites_plus_nat :
    (0 : Nat) ≠ 1 ∧
      let calls : List (SubscriptionCall Nat) :=
        [.subscribe "a/+" (some 0), .subscribe "a/b" (some 1), .message "a/c"]
      (Machine.run MqttSubscriptions.step Trie.empty calls).1.node ["a", "+"] = some ⟨some 1⟩ ∧
        (Machine.run MqttSubscriptions.step Trie.empty calls).2 = [1] ∧
        ¬Dispatches ((calls.take 2).foldl Subscribed.step []) "a/c" [1] :=
  ⟨by decide, subscribe_overwrites_plus 0 1 (by decide)⟩

end AwsCrt
