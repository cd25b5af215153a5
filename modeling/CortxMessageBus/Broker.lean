import CortxMessageBus.Kafka

/-!
# The adapter object

`KafkaMessageBroker`'s attributes, its class constants and its constructor.  A method of
the class is modelled as a function from the object, and from the broker's answers to the
calls the method makes, to a `Run`: the object after the call, the calls made in order, and
the value returned or the exception raised.  An exception does not undo the assignments to
`self` that ran before it.

`self._resource` and `self._saved_retention` are assigned only by `init_client`; before that
they do not exist, and reading them raises `AttributeError`.  They are `Option`s here.
-/

namespace CortxMessageBus

/-- `_default_msg_retention_period`, in milliseconds. -/
def defaultMsgRetentionPeriod : Int := 604800000

/-- `_min_msg_retention_period`, the retention `delete` purges with. -/
def minMsgRetentionPeriod : Int := 1

/-- `_max_config_retry_count`. -/
def maxConfigRetryCount : Nat := 3

/-- `_max_list_message_type_count`. -/
def maxListMessageTypeCount : Nat := 15

/-- `_config_prop_map`: the configuration keys `_configure_message_type` accepts, and the
topic configuration each one sets. -/
def configPropMap : Dict String String :=
  ((Dict.empty.set "expire_time_ms" "retention.ms").set "data_limit_bytes"
    "segment.bytes").set "file_delete_ms" "file.delete.delay.ms"

/-- The part of `broker_conf` the constructor reads.  Modelled from the spec: `servers` is
set by the base class `MessageBroker`, which is not under src, from the server addresses of
the broker configuration. -/
structure BrokerConf where
  servers : String
  receiveTimeout : ℚ
  socketTimeout : ℚ
  sendTimeout : ℚ

/-- `self._clients`: one dict of client objects per kind, keyed by client id. -/
structure Clients where
  admin : Dict String Handle
  producer : Dict String Handle
  consumer : Dict String Handle
  deriving DecidableEq

namespace Clients

/-- `self._clients[kind]`. -/
def get (c : Clients) : ClientType → Dict String Handle
  | .admin => c.admin
  | .producer => c.producer
  | .consumer => c.consumer

/-- `self._clients[kind][id] = h`. -/
def insert (c : Clients) : ClientType → String → Handle → Clients
  | .admin, id, h => { c with admin := c.admin.set id h }
  | .producer, id, h => { c with producer := c.producer.set id h }
  | .consumer, id, h => { c with consumer := c.consumer.set id h }

@[simp] theorem get_insert (c : Clients) (kind kind' : ClientType) (id : String) (h : Handle) :
    (c.insert kind id h).get kind' = if kind' = kind then (c.get kind).set id h else c.get kind' := by
  cases kind <;> cases kind' <;> rfl

end Clients

/-- The attributes of a `KafkaMessageBroker` object.  `nextSerial` is not an attribute: it
numbers the client objects the object has built. -/
structure KafkaMessageBroker where
  servers : String
  recvMessageTimeout : ℚ
  controllerSocketTimeout : ℚ
  sendMessageTimeout : ℚ
  clients : Clients
  resource : Option ConfigResource
  savedRetention : Option Int
  nextSerial : Nat
  deriving DecidableEq

namespace KafkaMessageBroker

/-- `KafkaMessageBroker(broker_conf)`. -/
def init (conf : BrokerConf) : KafkaMessageBroker where
  servers := conf.servers
  recvMessageTimeout := conf.receiveTimeout
  controllerSocketTimeout := conf.socketTimeout
  sendMessageTimeout := conf.sendTimeout
  clients := ⟨.empty, .empty, .empty⟩
  resource := none
  savedRetention := none
  nextSerial := 0

/-- Build a client object from `conf` and store it as `self._clients[kind][id]`. -/
def register (s : KafkaMessageBroker) (kind : ClientType) (id : String) (conf : KafkaConf)
    (subscription : List String) : KafkaMessageBroker :=
  { s with
    clients := s.clients.insert kind id ⟨s.nextSerial, conf, subscription⟩
    nextSerial := s.nextSerial + 1 }

@[simp] theorem register_resource (s : KafkaMessageBroker) (kind id conf sub) :
    (s.register kind id conf sub).resource = s.resource := rfl

@[simp] theorem register_savedRetention (s : KafkaMessageBroker) (kind id conf sub) :
    (s.register kind id conf sub).savedRetention = s.savedRetention := rfl

@[simp] theorem register_clients (s : KafkaMessageBroker) (kind id conf sub) :
    (s.register kind id conf sub).clients =
      s.clients.insert kind id ⟨s.nextSerial, conf, sub⟩ := rfl

/-- `self._clients[kind][id]`. -/
def client (s : KafkaMessageBroker) (kind : ClientType) (id : String) : Except PyError Handle :=
  match (s.clients.get kind).get? id with
  | some h => .ok h
  | none => .error (.keyError id)

theorem client_eq_ok_iff (s : KafkaMessageBroker) (kind : ClientType) (id : String) (h : Handle) :
    s.client kind id = .ok h ↔ (s.clients.get kind).get? id = some h := by
  unfold client
  split <;> simp_all

theorem client_eq_error_of_not_mem {s : KafkaMessageBroker} {kind : ClientType} {id : String}
    (h : id ∉ (s.clients.get kind).keys) : s.client kind id = .error (.keyError id) := by
  have : (s.clients.get kind).get? id = none := by
    simpa [Dict.mem_keys_iff_get?_isSome] using h
  simp [client, this]

theorem client_of_mem {s : KafkaMessageBroker} {kind : ClientType} {id : String}
    (h : id ∈ (s.clients.get kind).keys) : ∃ c, s.client kind id = .ok c := by
  rw [Dict.mem_keys_iff_get?_isSome, Option.isSome_iff_exists] at h
  obtain ⟨c, hc⟩ := h
  exact ⟨c, (client_eq_ok_iff s kind id c).2 hc⟩

theorem mem_of_client_eq_ok {s : KafkaMessageBroker} {kind : ClientType} {id : String} {c : Handle}
    (h : s.client kind id = .ok c) : id ∈ (s.clients.get kind).keys := by
  rw [Dict.mem_keys_iff_get?_isSome, (client_eq_ok_iff s kind id c).1 h]
  rfl

theorem not_mem_of_client_eq_error {s : KafkaMessageBroker} {kind : ClientType} {id : String}
    {e : PyError} (h : s.client kind id = .error e) : id ∉ (s.clients.get kind).keys := fun hmem => by
  obtain ⟨c, hc⟩ := client_of_mem hmem
  rw [hc] at h
  cases h

end KafkaMessageBroker

/-- What one call of an adapter method leaves behind: the object, the calls it made in
order, and the value it returned or the exception it raised. -/
structure Run (α : Type) where
  self : KafkaMessageBroker
  calls : List Call
  result : Except PyError α

end CortxMessageBus
