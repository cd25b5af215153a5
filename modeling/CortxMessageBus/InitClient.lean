import CortxMessageBus.Broker

/-!
# `init_client`

Client creation, and the early return for an id that is already registered.  The early
return only checks that the registered client still sees its topic; otherwise the method
builds `kafka_conf` and stores new client objects.  A producer gets an admin object under the
same id, stored before anything else, then its own object, then `self._resource` bound to its
topic, and only then is the topic's configuration read.  So the exceptions of the producer
branch leave the new objects stored: `initClient_producer_leaves_partial_state`.

`InitEffect` lists what one call can do to the object; every invariant below is derived from
it rather than from the method's text.
-/

namespace CortxMessageBus

/-- The `**client_conf` keyword arguments `init_client` reads; a key the caller did not pass
is `none`. -/
structure ClientConf where
  clientId : Option String
  messageType : Option String
  messageTypes : Option (List String)
  offset : Option String
  consumerGroup : Option String
  autoAck : Option Bool

/-- `entry in client_conf.keys()`. -/
def ClientConf.has (c : ClientConf) : String → Bool
  | "client_id" => c.clientId.isSome
  | "message_type" => c.messageType.isSome
  | "message_types" => c.messageTypes.isSome
  | "offset" => c.offset.isSome
  | "consumer_group" => c.consumerGroup.isSome
  | "auto_ack" => c.autoAck.isSome
  | _ => false

/-- The entries the consumer branch requires, in the order it checks them. -/
def consumerEntries : List String :=
  ["offset", "consumer_group", "message_types", "auto_ack", "client_id"]

/-- `MessageBusError(errno.EINVAL, "Unknown Topic or Partition. %s", KafkaError(3))`; the
string keeps the indentation of the line its backslash continues onto. -/
def unknownTopic : PyError :=
  mbe .einval "Unknown Topic or                             Partition. %s" [.kafkaError ⟨3, unknownTopicOrPart⟩]

/-- The check of the early return: a registered producer must still see the topic it is asked
for, and a registered consumer at least one of its topics, in the `list_topics()` answer. -/
def checkAvailable (kind : ClientType) (conf : ClientConf) :
    Except String Metadata → Except PyError Unit
  | .error e => .error (.kafkaException e)
  | .ok m =>
    match kind, conf.messageType, conf.messageTypes with
    | .producer, none, _ => .error (.keyError "message_type")
    | .producer, some t, _ => if t ∈ m.keys then .ok () else .error unknownTopic
    | .consumer, _, none => .error (.keyError "message_types")
    | .consumer, _, some ts => if ts.any (· ∈ m.keys) then .ok () else .error unknownTopic
    | .admin, _, _ => .ok ()

/-- Set retention to default if the value is 1 ms. -/
def savedRetentionOf (v : Int) : Int :=
  if v = minMsgRetentionPeriod then defaultMsgRetentionPeriod else v

namespace KafkaMessageBroker

/-- `kafka_conf` with `socket.timeout.ms`, as the admin object of an id is built. -/
def adminConf (s : KafkaMessageBroker) (id : String) : KafkaConf :=
  { bootstrapServers := s.servers, clientId := id, errorCb := true,
    socketTimeoutMs := some s.controllerSocketTimeout }

/-- `kafka_conf` with `message.timeout.ms` added, as a producer object is built. -/
def producerConf (s : KafkaMessageBroker) (id : String) : KafkaConf :=
  { s.adminConf id with messageTimeoutMs := some s.sendMessageTimeout }

/-- `kafka_conf` of a consumer object. -/
def consumerConf (s : KafkaMessageBroker) (id : String) (ack : Bool) (offset group : String) :
    KafkaConf :=
  { bootstrapServers := s.servers, clientId := id, errorCb := true, enableAutoCommit := some ack,
    autoOffsetReset := some offset, groupId := some group }

/-- The rest of the producer branch, once the admin and producer objects are stored: bind
`self._resource` to the producer's topic, read the topic's configuration, and save its
retention.  `result()` raises the broker's error for a topic it does not hold. -/
def bindResource (s : KafkaMessageBroker) (cluster : Cluster) (conf : ClientConf) : Run Unit :=
  match conf.messageType with
  | none => ⟨s, [], .error (.keyError "message_type")⟩
  | some t =>
    let r : ConfigResource := ⟨t, .empty⟩
    let s := { s with resource := some r }
    match cluster.describe t with
    | .error e => ⟨s, [.describeConfigs r], .error (.kafkaException e)⟩
    | .ok configs =>
      match configs.get? "retention.ms" with
      | none => ⟨s, [.describeConfigs r], .error (mbe .enokey
          "Missing required config parameter %s. for client type %s"
          [.str "retention.ms", .str "producer"])⟩
      | some v => ⟨{ s with savedRetention := some (savedRetentionOf v) }, [.describeConfigs r], .ok ()⟩

/-- The consumer branch: check the required entries, then build, subscribe and store the
consumer object.  The last pattern is never reached once every entry is present. -/
def buildConsumer (s : KafkaMessageBroker) (id : String) (conf : ClientConf) : Run Unit :=
  match consumerEntries.find? (fun e => !conf.has e) with
  | some e => ⟨s, [], .error (mbe .enoent
      "Could not find entry %s in conf keys for client type %s" [.str e, .str "consumer"])⟩
  | none =>
    match conf.autoAck, conf.offset, conf.consumerGroup, conf.messageTypes with
    | some ack, some off, some grp, some ts =>
      ⟨s.register .consumer id (s.consumerConf id ack off grp) ts, [.subscribe ts], .ok ()⟩
    | _, _, _, _ => ⟨s, [], .error (.keyError "auto_ack")⟩

/-- Building the client objects of a new `(kind, id)`. -/
def buildClient (s : KafkaMessageBroker) (cluster : Cluster) (kind : ClientType) (id : String)
    (conf : ClientConf) : Run Unit :=
  match kind with
  | .admin => ⟨s.register .admin id (s.adminConf id) [], [], .ok ()⟩
  | .producer =>
    ((s.register .admin id (s.adminConf id) []).register .producer id (s.producerConf id) []
      ).bindResource cluster conf
  | .consumer => s.buildConsumer id conf

/-- `init_client(client_type, **client_conf)`, given the cluster's configurations (read by
`describe_configs`) and the answer of the registered client's `list_topics()`.  A client
object never equals `{}`, so the early return is taken whenever the id is registered. -/
def initClient (s : KafkaMessageBroker) (cluster : Cluster) (topics : Except String Metadata)
    (clientType : String) (conf : ClientConf) : Run Unit :=
  match ClientType.ofString? clientType with
  | none => ⟨s, [], .error (mbe .errInvalidClientType "Invalid client type %s" [.str clientType])⟩
  | some kind =>
    match conf.clientId with
    | none => ⟨s, [], .error (.keyError "client_id")⟩
    | some id =>
      if id ∈ (s.clients.get kind).keys then ⟨s, [.listTopics], checkAvailable kind conf topics⟩
      else s.buildClient cluster kind id conf

/-! ## What one call does to the object -/

/-- The changes one `init_client(client_type, **conf)` can make to the object: none; one new
admin or consumer object; or, for a producer id not yet registered, a fresh admin object and
a producer object under that id, with `self._resource` rebound or not and
`self._saved_retention` replaced by a normalised retention or not. -/
inductive InitEffect (s : KafkaMessageBroker) (clientType : String) (conf : ClientConf) :
    KafkaMessageBroker → Prop
  | unchanged : InitEffect s clientType conf s
  | stored (kind : ClientType) (id : String) (kc : KafkaConf) (subscription : List String)
      (hkind : kind ≠ .producer) (hnew : id ∉ (s.clients.get kind).keys) :
      InitEffect s clientType conf (s.register kind id kc subscription)
  | producer (id : String) (hty : clientType = "producer") (hid : conf.clientId = some id)
      (hnew : id ∉ s.clients.producer.keys) (resource : Option ConfigResource) (saved : Option Int)
      (hsaved : saved = s.savedRetention ∨ ∃ v, saved = some (savedRetentionOf v)) :
      InitEffect s clientType conf
        { (s.register .admin id (s.adminConf id) []).register .producer id (s.producerConf id) []
          with resource := resource, savedRetention := saved }

theorem ofString?_eq_producer {clientType : String} (h : ClientType.ofString? clientType = some .producer) :
    clientType = "producer" := by
  unfold ClientType.ofString? at h
  split at h <;> simp_all

theorem bindResource_effect (s : KafkaMessageBroker) (cluster : Cluster) (conf : ClientConf) :
    ∃ resource saved, (saved = s.savedRetention ∨ ∃ v, saved = some (savedRetentionOf v)) ∧
      (s.bindResource cluster conf).self = { s with resource := resource, savedRetention := saved } := by
  unfold bindResource
  split
  · exact ⟨s.resource, s.savedRetention, .inl rfl, rfl⟩
  · split
    · exact ⟨_, _, .inl rfl, rfl⟩
    · split
      · exact ⟨_, _, .inl rfl, rfl⟩
      · exact ⟨_, _, .inr ⟨_, rfl⟩, rfl⟩

/-- The consumer branch raises before storing anything, or stores and subscribes the consumer
and returns. -/
theorem buildConsumer_cases (s : KafkaMessageBroker) (id : String) (conf : ClientConf) :
    (∃ e, s.buildConsumer id conf = ⟨s, [], .error e⟩) ∨
      ∃ kc ts, s.buildConsumer id conf = ⟨s.register .consumer id kc ts, [.subscribe ts], .ok ()⟩ := by
  unfold buildConsumer
  split
  · exact .inl ⟨_, rfl⟩
  · split
    · exact .inr ⟨_, _, rfl⟩
    · exact .inl ⟨_, rfl⟩

theorem buildConsumer_effect (s : KafkaMessageBroker) (id : String) (conf : ClientConf) :
    (s.buildConsumer id conf).self = s ∨
      ∃ kc ts, (s.buildConsumer id conf).self = s.register .consumer id kc ts := by
  rcases buildConsumer_cases s id conf with ⟨e, h⟩ | ⟨kc, ts, h⟩ <;> rw [h]
  · exact .inl rfl
  · exact .inr ⟨kc, ts, rfl⟩

/-- Every call of `init_client` changes the object in one of the ways `InitEffect` lists. -/
theorem initClient_effect (s : KafkaMessageBroker) (cluster : Cluster)
    (topics : Except String Metadata) (clientType : String) (conf : ClientConf) :
    InitEffect s clientType conf (s.initClient cluster topics clientType conf).self := by
  unfold initClient
  split
  · exact .unchanged
  · next kind hkind =>
    split
    · exact .unchanged
    · next id hid =>
      split
      · exact .unchanged
      · next hnew =>
        cases kind with
        | admin => exact .stored .admin id _ [] (by decide) hnew
        | producer =>
          obtain ⟨resource, saved, hsaved, heq⟩ := bindResource_effect
            ((s.register .admin id (s.adminConf id) []).register .producer id (s.producerConf id) [])
            cluster conf
          simp only [buildClient, heq]
          exact .producer id (ofString?_eq_producer hkind) hid hnew resource saved hsaved
        | consumer =>
          rcases buildConsumer_effect s id conf with h | ⟨kc, ts, h⟩
          · simp only [buildClient, h]; exact .unchanged
          · simp only [buildClient, h]; exact .stored .consumer id kc ts (by decide) hnew

/-! ## Invariants of one call -/

/-- A saved retention is never the purge value `_min_msg_retention_period`. -/
theorem savedRetentionOf_ne_min (v : Int) : savedRetentionOf v ≠ minMsgRetentionPeriod := by
  unfold savedRetentionOf
  split <;> simp_all [defaultMsgRetentionPeriod, minMsgRetentionPeriod]

/-- `init_client` saves only normalised retentions. -/
theorem InitEffect.savedRetention {s s' : KafkaMessageBroker} {clientType : String}
    {conf : ClientConf} (he : InitEffect s clientType conf s') :
    s'.savedRetention = s.savedRetention ∨ ∃ v, s'.savedRetention = some (savedRetentionOf v) := by
  cases he with
  | unchanged => exact .inl rfl
  | stored => exact .inl rfl
  | producer _ _ _ _ _ _ hsaved => exact hsaved

/-- A client object stored under `(kind', id')` stays stored; it is replaced only when it is
the admin object of the id of a producer that `init_client('producer', ...)` builds. -/
theorem InitEffect.keeps_client {s s' : KafkaMessageBroker} {clientType : String}
    {conf : ClientConf} (he : InitEffect s clientType conf s') {kind' : ClientType} {id' : String}
    {h : Handle} (hh : (s.clients.get kind').get? id' = some h) :
    ∃ h', (s'.clients.get kind').get? id' = some h' ∧
      (h' = h ∨ kind' = .admin ∧ clientType = "producer" ∧ conf.clientId = some id' ∧
        id' ∉ s.clients.producer.keys ∧ id' ∈ s'.clients.producer.keys) := by
  have hmem : id' ∈ (s.clients.get kind').keys := by
    simp [Dict.mem_keys_iff_get?_isSome, hh]
  cases he with
  | unchanged => exact ⟨h, hh, .inl rfl⟩
  | stored kind id kc sub _ hnew =>
    refine ⟨h, ?_, .inl rfl⟩
    by_cases hk : kind' = kind
    · subst hk
      have : id' ≠ id := fun e => hnew (e ▸ hmem)
      simp [this, hh]
    · simp [hk, hh]
  | producer id hty hid hnew _ _ _ =>
    cases kind' with
    | admin =>
      by_cases he : id' = id
      · subst he
        exact ⟨⟨s.nextSerial, s.adminConf id', []⟩, by simp, .inr ⟨rfl, hty, hid, hnew, by simp [Clients.insert]⟩⟩
      · exact ⟨h, by simpa [he] using hh, .inl rfl⟩
    | producer =>
      have : id' ≠ id := fun e => hnew (e ▸ hmem)
      exact ⟨h, by simpa [this] using hh, .inl rfl⟩
    | consumer => exact ⟨h, by simpa using hh, .inl rfl⟩

/-- `init_client` keeps every producer id an admin id: the producer branch stores both
objects. -/
theorem InitEffect.admin_of_producer {s s' : KafkaMessageBroker} {clientType : String}
    {conf : ClientConf} (he : InitEffect s clientType conf s')
    (hinv : ∀ id ∈ s.clients.producer.keys, id ∈ s.clients.admin.keys) :
    ∀ id ∈ s'.clients.producer.keys, id ∈ s'.clients.admin.keys := by
  cases he with
  | unchanged => exact hinv
  | stored kind id kc sub hkind _ =>
    intro id' hid'
    cases kind with
    | admin => simp_all [register, Clients.insert]
    | producer => exact absurd rfl hkind
    | consumer => simp_all [register, Clients.insert]
  | producer id _ _ _ _ _ _ =>
    intro id' hid'
    simp only [register, Clients.insert, Dict.mem_keys_set] at hid' ⊢
    exact hid'.imp_right (hinv id')

/-- A repeated `init_client` for a registered `(kind, id)` changes nothing in the object. -/
theorem initClient_of_registered (s : KafkaMessageBroker) (cluster : Cluster)
    (topics : Except String Metadata) {clientType : String} {kind : ClientType} {conf : ClientConf}
    {id : String} (hkind : ClientType.ofString? clientType = some kind) (hid : conf.clientId = some id)
    (hreg : id ∈ (s.clients.get kind).keys) :
    (s.initClient cluster topics clientType conf).self = s := by
  simp [initClient, hkind, hid, hreg]

/-- `init_client` leaves `self._resource` as it was, or binds it to a fresh resource for a
topic. -/
theorem initClient_resource (s : KafkaMessageBroker) (cluster : Cluster)
    (topics : Except String Metadata) (clientType : String) (conf : ClientConf) :
    (s.initClient cluster topics clientType conf).self.resource = s.resource ∨
      ∃ t, (s.initClient cluster topics clientType conf).self.resource = some ⟨t, .empty⟩ := by
  unfold initClient buildClient bindResource buildConsumer
  repeat' split
  all_goals simp

/-- An `init_client` that raises leaves the object as it was, unless it is the producer branch
for a new id, which raises after storing the admin and producer objects. -/
theorem initClient_error_self (s : KafkaMessageBroker) (cluster : Cluster)
    (topics : Except String Metadata) (clientType : String) (conf : ClientConf) {e : PyError}
    (h : (s.initClient cluster topics clientType conf).result = .error e) :
    (s.initClient cluster topics clientType conf).self = s ∨
      ∃ id, clientType = "producer" ∧ conf.clientId = some id ∧ id ∉ s.clients.producer.keys := by
  cases hk : ClientType.ofString? clientType with
  | none => exact .inl (by simp [initClient, hk])
  | some kind =>
    cases hid : conf.clientId with
    | none => exact .inl (by simp [initClient, hk, hid])
    | some id =>
      by_cases hreg : id ∈ (s.clients.get kind).keys
      · exact .inl (by simp [initClient, hk, hid, hreg])
      · simp only [initClient, hk, hid, hreg, if_false] at h ⊢
        cases kind with
        | admin => simp [buildClient] at h
        | producer => exact .inr ⟨id, ofString?_eq_producer hk, rfl, hreg⟩
        | consumer =>
          rcases buildConsumer_cases s id conf with ⟨e', hc⟩ | ⟨kc, ts, hc⟩
          · exact .inl (by simp [buildClient, hc])
          · simp [buildClient, hc] at h

/-- `init_client` reads what the broker holds and changes nothing there. -/
theorem initClient_untouched (s : KafkaMessageBroker) (cluster : Cluster)
    (topics : Except String Metadata) (clientType : String) (conf : ClientConf) :
    ∀ x ∈ (s.initClient cluster topics clientType conf).calls, x.touched = [] := by
  unfold initClient buildClient bindResource buildConsumer
  repeat' split
  all_goals simp [Call.touched]

/-! ## The failure paths of the producer branch -/

/-- For a new producer whose topic the broker does not hold, `init_client` raises the
`KafkaException` of `describe_configs(...).result()` after storing the admin and producer
objects and binding `self._resource`; `self._saved_retention` keeps whatever an earlier call
saved. -/
theorem initClient_producer_leaves_partial_state (s : KafkaMessageBroker) (cluster : Cluster)
    (topics : Except String Metadata) {conf : ClientConf} {id t : String}
    (hid : conf.clientId = some id) (ht : conf.messageType = some t)
    (hnew : id ∉ s.clients.producer.keys) (hmiss : t ∉ cluster.topics.keys) :
    s.initClient cluster topics "producer" conf =
      ⟨{ (s.register .admin id (s.adminConf id) []).register .producer id (s.producerConf id) []
          with resource := some ⟨t, .empty⟩ },
        [.describeConfigs ⟨t, .empty⟩], .error (.kafkaException unknownTopicOrPart)⟩ := by
  have : ClientType.ofString? "producer" = some .producer := rfl
  simp only [initClient, this, hid, Clients.get, hnew, if_false, buildClient, bindResource, ht,
    Cluster.describe_of_not_mem hmiss]

/-- From a fresh object on a broker that holds no topic, `init_client('producer', ...)`
raises, and the object after it is not the object before it: the producer is stored and
`self._resource` is bound. -/
theorem initClient_producer_failure_binds_resource :
    ((init ⟨"kafka:9092", 2, 15000, 5000⟩).initClient (.ofTopics .empty) (.ok .empty) "producer"
      ⟨some "p", some "t", none, none, none, none⟩).result =
        .error (.kafkaException unknownTopicOrPart) ∧
    ((init ⟨"kafka:9092", 2, 15000, 5000⟩).initClient (.ofTopics .empty) (.ok .empty) "producer"
      ⟨some "p", some "t", none, none, none, none⟩).self ≠ init ⟨"kafka:9092", 2, 15000, 5000⟩ ∧
    ((init ⟨"kafka:9092", 2, 15000, 5000⟩).initClient (.ofTopics .empty) (.ok .empty) "producer"
      ⟨some "p", some "t", none, none, none, none⟩).self.resource = some ⟨"t", .empty⟩ ∧
    "p" ∈ ((init ⟨"kafka:9092", 2, 15000, 5000⟩).initClient (.ofTopics .empty) (.ok .empty)
      "producer" ⟨some "p", some "t", none, none, none, none⟩).self.clients.producer.keys := by
  rw [@initClient_producer_leaves_partial_state _ (.ofTopics .empty) (.ok .empty) _ "p" "t" rfl rfl
    (by decide) (by decide)]
  exact ⟨rfl, by decide, rfl, by decide⟩

end KafkaMessageBroker

end CortxMessageBus
