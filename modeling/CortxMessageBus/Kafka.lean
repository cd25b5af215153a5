import Mathlib.Data.Rat.Defs
import CortxMessageBus.Dict

/-!
# The Kafka side of the adapter

What `KafkaMessageBroker` exchanges with `confluent_kafka`: the client objects it builds
and the configuration it builds them from, `ConfigResource`s, metadata snapshots, the calls
it makes on its clients, and the exceptions it raises.  The broker is modelled by the topics
it holds and their configurations (`Cluster`); an answer that does not depend on them (a
metadata snapshot, a task outcome, a delivery report) is an input of the method that asks for
it, and an answer that does (a topic it does not hold is refused) is computed from them.

A call is recorded with the answer that decides its effect on the cluster: the topics a
`create_topics` or `delete_topics` request created or deleted, and whether an `alter_configs`
was accepted.  Kafka's `alter_configs` replaces the whole configuration set on the topic it
names; a configuration not set on a topic reads as the broker's default.
-/

namespace CortxMessageBus

/-- Modelled from the spec: the codes `MessageBusError` is raised with.  The `errno` names
are POSIX codes; the `ERR_*` constants belong to `cortx.utils.errors`, which is not under
src, and are kept as distinct kinds. -/
inductive ErrCode
  | einval | enoent | etimedout | e2big | enokey | eintr
  | errInvalidClientType | errOpFailed | errServiceNotInitialized | errServiceUnavailable
  deriving DecidableEq, Repr

/-- A `KafkaError` as confluent_kafka passes it to a callback or wraps it in a
`KafkaException`: its code and its description. -/
structure KafkaError where
  code : Int
  reason : String
  deriving DecidableEq

/-- `KafkaError._ALL_BROKERS_DOWN`. -/
def allBrokersDown : Int := -187

/-- The description of `KafkaError.UNKNOWN_TOPIC_OR_PART`: the broker's answer about a topic
it does not hold. -/
def unknownTopicOrPart : String := "Broker: Unknown topic or partition"

/-- The description of `KafkaError.TOPIC_ALREADY_EXISTS`. -/
def topicAlreadyExists : String := "Broker: Topic already exists"

/-- The three kinds of client `init_client` accepts, the keys of `self._clients`. -/
inductive ClientType
  | admin | producer | consumer
  deriving DecidableEq, Repr

/-- `client_type in self._clients.keys()`, read as the kind it names. -/
def ClientType.ofString? : String → Option ClientType
  | "admin" => some .admin
  | "producer" => some .producer
  | "consumer" => some .consumer
  | _ => none

/-- `ConfigResource('topic', name)` with the entries `set_config` has put on it. -/
structure ConfigResource where
  name : String
  configs : Dict String Int
  deriving DecidableEq

/-- `resource.set_config(name, value)`. -/
def ConfigResource.setConfig (r : ConfigResource) (name : String) (value : Int) :
    ConfigResource :=
  { r with configs := r.configs.set name value }

@[simp] theorem ConfigResource.setConfig_name (r : ConfigResource) (name : String) (v : Int) :
    (r.setConfig name v).name = r.name := rfl

@[simp] theorem ConfigResource.setConfig_get? (r : ConfigResource) (name c : String) (v : Int) :
    (r.setConfig name v).configs.get? c = if c = name then some v else r.configs.get? c := by
  simp [setConfig]

/-- The `kafka_conf` dict `init_client` builds a client from.  `errorCb` records whether its
`error_cb` entry is `self._error_cb`, which confluent_kafka calls, while the client serves its
callbacks, with each error the client reports. -/
structure KafkaConf where
  bootstrapServers : String
  clientId : String
  errorCb : Bool
  socketTimeoutMs : Option ℚ := none
  messageTimeoutMs : Option ℚ := none
  enableAutoCommit : Option Bool := none
  autoOffsetReset : Option String := none
  groupId : Option String := none
  deriving DecidableEq

/-- A client object `init_client` built (`AdminClient`, `Producer` or `Consumer`).  Two
objects built from equal configurations are still distinct objects: `serial` records which
construction made this one. -/
structure Handle where
  serial : Nat
  conf : KafkaConf
  subscription : List String := []
  deriving DecidableEq

/-- An argument `MessageBusError` is raised with, as the Python object it is. -/
inductive Arg
  | str (s : String)
  | int (n : Int)
  | seconds (t : ℚ)
  | strs (l : List String)
  | kafkaError (err : KafkaError)
  | resource (r : ConfigResource)
  | client (h : Handle)
  deriving DecidableEq

/-- `MessageBusError(rc, message, *args)`. -/
structure MessageBusError where
  rc : ErrCode
  message : String
  args : List Arg
  deriving DecidableEq

/-- The exceptions an adapter method can end with. -/
inductive PyError
  | messageBusError (e : MessageBusError)
  /-- `KeyError(key)` from a `dict` lookup. -/
  | keyError (key : String)
  /-- `AttributeError` for an attribute of `self` that was never assigned. -/
  | attributeError (name : String)
  /-- A `KafkaException` the adapter lets through unwrapped. -/
  | kafkaException (text : String)
  /-- `ValueError`, which confluent_kafka raises for an empty admin request. -/
  | valueError (text : String)
  /-- `BufferError`, which `produce()` raises when the producer's queue is full. -/
  | bufferError (text : String)
  /-- `KeyboardInterrupt`. -/
  | keyboardInterrupt
  deriving DecidableEq

/-- `raise MessageBusError(rc, message, *args)`. -/
def mbe (rc : ErrCode) (message : String) (args : List Arg) : PyError :=
  .messageBusError ⟨rc, message, args⟩

/-- The error is a `MessageBusError`. -/
def PyError.IsMessageBusError : PyError → Prop
  | .messageBusError _ => True
  | _ => False

/-- The `topics` of a `list_topics()` answer: each topic with its number of partitions. -/
abbrev Metadata := Dict String Nat

/-- `NewTopic(name, num_partitions=n)`. -/
structure NewTopic where
  topic : String
  numPartitions : Nat
  deriving DecidableEq

/-- `NewPartitions(topic, new_total_count=n)`. -/
structure NewPartitions where
  topic : String
  newTotalCount : Nat
  deriving DecidableEq

/-- One call the adapter makes on one of its clients, or on `time.sleep`, with the topics a
`create_topics` or `delete_topics` request created or deleted and whether an `alter_configs`
was accepted. -/
inductive Call
  | listTopics
  | sleep (seconds : Nat)
  | createTopics (newTopics : List NewTopic) (created : List String)
  | deleteTopics (topics : List String) (deleted : List String)
  | createPartitions (newPartitions : List NewPartitions)
  | describeConfigs (resource : ConfigResource)
  | alterConfigs (resource : ConfigResource) (accepted : Bool)
  | subscribe (topics : List String)
  | produce (topic : String) (value : List UInt8)
  | flush
  | poll (client : ClientType) (timeout : ℚ)
  | commit
  deriving DecidableEq

/-- The seconds the calls spend in `time.sleep`. -/
def sleepTime : List Call → Nat
  | [] => 0
  | .sleep n :: calls => n + sleepTime calls
  | _ :: calls => sleepTime calls

@[simp] theorem sleepTime_nil : sleepTime [] = 0 := rfl

@[simp] theorem sleepTime_sleep (n : Nat) (calls : List Call) :
    sleepTime (.sleep n :: calls) = n + sleepTime calls := rfl

@[simp] theorem sleepTime_listTopics (calls : List Call) :
    sleepTime (.listTopics :: calls) = sleepTime calls := rfl

@[simp] theorem sleepTime_append (xs ys : List Call) :
    sleepTime (xs ++ ys) = sleepTime xs + sleepTime ys := by
  induction xs with
  | nil => simp
  | cons x xs ih => cases x <;> simp [sleepTime, ih, Nat.add_assoc]

/-- The topics whose state at the broker a call can change. -/
def Call.touched : Call → List String
  | .createTopics _ created => created
  | .deleteTopics _ deleted => deleted
  | .alterConfigs r true => [r.name]
  | _ => []

/-- What the broker holds: the topics that exist, each with the configuration
`alter_configs` has set on it, and the broker's defaults, which a topic reports for every
configuration not set on it.  A broker always has a default retention. -/
structure Cluster where
  defaults : Dict String Int
  topics : Dict String (Dict String Int)
  retention_default : "retention.ms" ∈ defaults.keys

namespace Cluster

/-- What `describe_configs` answers for `topic`: its own settings over the defaults, or, for a
topic the broker does not hold, the error `result()` raises. -/
def describe (c : Cluster) (topic : String) : Except String (Dict String Int) :=
  match c.topics.get? topic with
  | none => .error unknownTopicOrPart
  | some configs => .ok (c.defaults.overlay configs)

/-- The value `describe_configs` reports for configuration `key` of `topic`; `none` when it
raises. -/
def config? (c : Cluster) (topic key : String) : Option Int :=
  match c.describe topic with
  | .ok configs => configs.get? key
  | .error _ => none

/-- A topic `create_topics` created: it has no configuration of its own. -/
def create (c : Cluster) (topic : String) : Cluster :=
  if topic ∈ c.topics.keys then c else { c with topics := c.topics.set topic .empty }

/-- A topic `delete_topics` deleted, with its configuration. -/
def remove (c : Cluster) (topic : String) : Cluster := { c with topics := c.topics.erase topic }

/-- An accepted `alter_configs` of `r` replaces the configuration set on its topic. -/
def alter (c : Cluster) (r : ConfigResource) : Cluster :=
  if r.name ∈ c.topics.keys then { c with topics := c.topics.set r.name r.configs } else c

/-- The cluster after one call. -/
def apply (c : Cluster) : Call → Cluster
  | .createTopics _ created => created.foldl create c
  | .deleteTopics _ deleted => deleted.foldl remove c
  | .alterConfigs r true => c.alter r
  | _ => c

/-- The outcome of the `create_topics` task for `topic`: the broker refuses a topic it holds,
and otherwise answers as `tasks` says. -/
def createTask (c : Cluster) (tasks : String → Option String) (topic : String) : Option String :=
  if topic ∈ c.topics.keys then some topicAlreadyExists else tasks topic

/-- The outcome of a `delete_topics` or `create_partitions` task for `topic`: the broker
refuses a topic it does not hold. -/
def existingTask (c : Cluster) (tasks : String → Option String) (topic : String) : Option String :=
  if topic ∈ c.topics.keys then tasks topic else some unknownTopicOrPart

/-- The answers to the successive `alter_configs` of a resource for `topic`: the broker
refuses every one for a topic it does not hold. -/
def alterAnswer (c : Cluster) (alterResult : Nat → Except String (Option String)) (topic : String) :
    Nat → Except String (Option String) :=
  if topic ∈ c.topics.keys then alterResult else fun _ => .error unknownTopicOrPart

/-- Kafka's default topic configuration for the keys the adapter sets: seven days of
retention, 1 GiB segments and a minute's delay before a file is deleted. -/
def kafkaDefaults : Dict String Int :=
  ((Dict.empty.set "retention.ms" 604800000).set "segment.bytes" 1073741824).set
    "file.delete.delay.ms" 60000

/-- A broker with Kafka's default topic configuration, holding `topics`. -/
def ofTopics (topics : Dict String (Dict String Int)) : Cluster := ⟨kafkaDefaults, topics, by decide⟩

theorem config?_of_get? {c : Cluster} {u k : String} {configs : Dict String Int} {v : Int}
    (h : c.topics.get? u = some configs) (hk : configs.get? k = some v) : c.config? u k = some v := by
  simp [config?, describe, h, hk]

theorem describe_of_not_mem {c : Cluster} {topic : String} (h : topic ∉ c.topics.keys) :
    c.describe topic = .error unknownTopicOrPart := by
  rw [Dict.mem_keys_iff_get?_isSome, Option.not_isSome_iff_eq_none] at h
  simp [describe, h]

@[simp] theorem create_topics_get? (c : Cluster) (t u : String) :
    (c.create t).topics.get? u = if u = t ∧ t ∉ c.topics.keys then some .empty else c.topics.get? u := by
  unfold create
  by_cases ht : t ∈ c.topics.keys
  · simp [ht]
  · by_cases hu : u = t <;> simp [ht, hu]

@[simp] theorem remove_topics_get? (c : Cluster) (t u : String) :
    (c.remove t).topics.get? u = if u = t then none else c.topics.get? u := by
  simp [remove]

@[simp] theorem alter_topics_get? (c : Cluster) (r : ConfigResource) (u : String) :
    (c.alter r).topics.get? u =
      if u = r.name ∧ r.name ∈ c.topics.keys then some r.configs else c.topics.get? u := by
  unfold alter
  by_cases hr : r.name ∈ c.topics.keys
  · by_cases hu : u = r.name <;> simp [hr, hu]
  · simp [hr]

@[simp] theorem mem_alter_keys (c : Cluster) (r : ConfigResource) (u : String) :
    u ∈ (c.alter r).topics.keys ↔ u ∈ c.topics.keys := by
  unfold alter
  split
  · next h => simp only [Dict.mem_keys_set, or_iff_right_iff_imp]; rintro rfl; exact h
  · rfl

@[simp] theorem create_defaults (c : Cluster) (t : String) : (c.create t).defaults = c.defaults := by
  unfold create; split <;> rfl

@[simp] theorem remove_defaults (c : Cluster) (t : String) : (c.remove t).defaults = c.defaults := rfl

@[simp] theorem alter_defaults (c : Cluster) (r : ConfigResource) : (c.alter r).defaults = c.defaults := by
  unfold alter; split <;> rfl

/-- Two clusters with the same defaults that hold `u` alike describe it alike. -/
theorem describe_congr {c c' : Cluster} {u : String} (hd : c'.defaults = c.defaults)
    (ht : c'.topics.get? u = c.topics.get? u) : c'.describe u = c.describe u := by
  simp only [describe, hd, ht]

/-- A refused submission changes nothing. -/
@[simp] theorem apply_refused (c : Cluster) (r : ConfigResource) :
    c.apply (.alterConfigs r false) = c := rfl

@[simp] theorem apply_sleep (c : Cluster) (n : Nat) : c.apply (.sleep n) = c := rfl

/-- The cluster after the calls of one method, in order. -/
def applyAll (c : Cluster) (calls : List Call) : Cluster := calls.foldl apply c

@[simp] theorem applyAll_nil (c : Cluster) : c.applyAll [] = c := rfl

@[simp] theorem applyAll_cons (c : Cluster) (x : Call) (xs : List Call) :
    c.applyAll (x :: xs) = (c.apply x).applyAll xs := rfl

@[simp] theorem applyAll_append (c : Cluster) (xs ys : List Call) :
    c.applyAll (xs ++ ys) = (c.applyAll xs).applyAll ys := List.foldl_append _ _ _ _

/-- A call that touches no topic changes nothing. -/
theorem apply_of_touched_nil {c : Cluster} {x : Call} (h : x.touched = []) : c.apply x = c := by
  cases x <;> try rfl
  case createTopics _ created => cases h; rfl
  case deleteTopics _ deleted => cases h; rfl
  case alterConfigs r b => cases b <;> simp_all [Call.touched]

/-- Calls that touch no topic leave the cluster as it is. -/
theorem applyAll_of_untouched {c : Cluster} {calls : List Call} (h : ∀ x ∈ calls, x.touched = []) :
    c.applyAll calls = c := by
  induction calls generalizing c with
  | nil => rfl
  | cons x xs ih =>
    rw [applyAll_cons, apply_of_touched_nil (h x (List.mem_cons_self x xs))]
    exact ih fun y hy => h y (List.mem_cons_of_mem x hy)

theorem foldl_create_get? {u : String} : ∀ {ts : List String} (c : Cluster), u ∉ ts →
    ((ts.foldl create c).topics.get? u = c.topics.get? u) ∧ (ts.foldl create c).defaults = c.defaults
  | [], _, _ => ⟨rfl, rfl⟩
  | t :: ts, c, hu => by
    rw [List.mem_cons, not_or] at hu
    obtain ⟨h₁, h₂⟩ := foldl_create_get? (c.create t) hu.2
    exact ⟨by simp [List.foldl_cons, h₁, hu.1], by simp [List.foldl_cons, h₂]⟩

theorem foldl_remove_get? {u : String} : ∀ {ts : List String} (c : Cluster), u ∉ ts →
    ((ts.foldl remove c).topics.get? u = c.topics.get? u) ∧ (ts.foldl remove c).defaults = c.defaults
  | [], _, _ => ⟨rfl, rfl⟩
  | t :: ts, c, hu => by
    rw [List.mem_cons, not_or] at hu
    obtain ⟨h₁, h₂⟩ := foldl_remove_get? (c.remove t) hu.2
    exact ⟨by simp [List.foldl_cons, h₁, hu.1], by simp [List.foldl_cons, h₂]⟩

/-- A call that does not touch `u` leaves what the broker answers about `u` as it was. -/
theorem apply_describe_of_not_mem {c : Cluster} {x : Call} {u : String} (h : u ∉ x.touched) :
    (c.apply x).describe u = c.describe u := by
  cases x <;> try rfl
  case createTopics _ created =>
    obtain ⟨h₁, h₂⟩ := foldl_create_get? c h
    exact describe_congr h₂ h₁
  case deleteTopics _ deleted =>
    obtain ⟨h₁, h₂⟩ := foldl_remove_get? c h
    exact describe_congr h₂ h₁
  case alterConfigs r b =>
    cases b
    · rfl
    · have hu : u ≠ r.name := by simpa [Call.touched] using h
      exact describe_congr (alter_defaults c r) (by simp [apply, hu])

/-- Calls that touch `u` nowhere leave what the broker answers about `u` as it was. -/
theorem applyAll_describe_of_not_mem {c : Cluster} {calls : List Call} {u : String}
    (h : ∀ x ∈ calls, u ∉ x.touched) : (c.applyAll calls).describe u = c.describe u := by
  induction calls generalizing c with
  | nil => rfl
  | cons x xs ih =>
    rw [applyAll_cons, ih fun y hy => h y (List.mem_cons_of_mem x hy)]
    exact apply_describe_of_not_mem (h x (List.mem_cons_self x xs))

end Cluster

end CortxMessageBus
