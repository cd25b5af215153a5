import Mathlib.Logic.Relation
import CortxMessageBus.Consumer
import CortxMessageBus.Producer
import CortxMessageBus.Retention

/-!
# The adapter in its system

A run of the adapter is a sequence of calls of its public methods, each against the cluster
as the earlier calls left it.  `Op` is one such call, with its arguments and the broker's
answers to the calls it makes where the cluster does not decide them; `System.exec` runs it,
and `Step` applies to the cluster the topics its requests created and deleted and its
accepted `alter_configs`.  `Reachable` are the systems a run from a freshly constructed object
reaches, against any initial cluster.

The invariants over runs come from what one call can do to the object (`exec_self`): only
`init_client` touches the client registry and the saved retention, and only `init_client`
and `delete` touch `self._resource`.
-/

namespace CortxMessageBus

/-- A `Run` with its value dropped. -/
def Run.discard {α : Type} (r : Run α) : Run Unit := ⟨r.self, r.calls, r.result.map fun _ => ()⟩

/-- A call of a public method of `KafkaMessageBroker`, with its arguments and the broker's
answers to the calls it makes. -/
inductive Op
  | initClient (topics : Except String Metadata) (clientType : String) (conf : ClientConf)
  | listMessageTypes (topics : Except String Metadata) (adminId : String)
  | registerMessageType (tasks : String → Option String) (listTopics : Nat → Except String Metadata)
      (adminId : String) (messageTypes : List String) (partitions : Nat)
  | deregisterMessageType (tasks : String → Option String)
      (listTopics : Nat → Except String Metadata) (adminId : String) (messageTypes : List String)
  | addConcurrency (tasks : String → Option String) (listTopics : Nat → Except String Metadata)
      (adminId messageType : String) (concurrencyCount : Nat)
  | send (produced : Nat → ProduceOutcome) (served : Nat → List Callback)
      (producerId messageType method : String) (messages : List String) (timeout : ℚ)
  | receive (poll : Nat → PollOutcome) (fuel : Nat) (consumerId : String) (timeout : Option ℚ)
  | ack (consumerId : String)
  | delete (alterResult : Nat → Except String (Option String)) (adminId messageType : String)
  | setMessageTypeExpire (topics : Except String Metadata) (alterResult : Nat → Except String (Option String))
      (adminId messageType : String) (kwargs : Dict String Int)

/-- The adapter object and the cluster it talks to. -/
structure System where
  adapter : KafkaMessageBroker
  cluster : Cluster

namespace System

/-- A freshly constructed adapter against a cluster. -/
def start (conf : BrokerConf) (cluster : Cluster) : System := ⟨.init conf, cluster⟩

/-- One call; `none` while a `receive` has not returned within its fuel. -/
def exec (sys : System) : Op → Option (Run Unit)
  | .initClient topics clientType conf =>
    some (sys.adapter.initClient sys.cluster topics clientType conf)
  | .listMessageTypes topics adminId => some (sys.adapter.listMessageTypes topics adminId).discard
  | .registerMessageType tasks listTopics adminId messageTypes partitions =>
    some (sys.adapter.registerMessageType sys.cluster tasks listTopics adminId messageTypes partitions)
  | .deregisterMessageType tasks listTopics adminId messageTypes =>
    some (sys.adapter.deregisterMessageType sys.cluster tasks listTopics adminId messageTypes)
  | .addConcurrency tasks listTopics adminId messageType concurrencyCount =>
    some (sys.adapter.addConcurrency sys.cluster tasks listTopics adminId messageType concurrencyCount)
  | .send produced served producerId messageType method messages timeout =>
    some (sys.adapter.send produced served producerId messageType method messages timeout)
  | .receive poll fuel consumerId timeout =>
    (sys.adapter.receive poll fuel consumerId timeout).map Run.discard
  | .ack consumerId => some (sys.adapter.ack consumerId)
  | .delete alterResult adminId messageType =>
    some (sys.adapter.delete sys.cluster alterResult adminId messageType).discard
  | .setMessageTypeExpire topics alterResult adminId messageType kwargs =>
    some (sys.adapter.setMessageTypeExpire sys.cluster topics alterResult adminId messageType kwargs).discard

/-- The system after a call: the object it left, and the cluster with its calls applied. -/
def after (sys : System) (r : Run Unit) : System := ⟨r.self, sys.cluster.applyAll r.calls⟩

/-- One call of a public method that returned or raised. -/
def Step (sys sys' : System) : Prop := ∃ op r, sys.exec op = some r ∧ sys' = sys.after r

/-- The systems a run from a freshly constructed object reaches. -/
inductive Reachable : System → Prop
  | start (conf : BrokerConf) (cluster : Cluster) : Reachable (start conf cluster)
  | step {sys sys' : System} : Reachable sys → Step sys sys' → Reachable sys'

theorem Reachable.exec {sys : System} (hsys : Reachable sys) (op : Op) {r : Run Unit}
    (h : sys.exec op = some r) : Reachable (sys.after r) :=
  hsys.step ⟨op, r, h, rfl⟩

/-! ## What one call does to the object -/

/-- A call other than `init_client` changes no attribute but `self._resource`. -/
theorem exec_self {sys : System} {op : Op} {r : Run Unit} (h : sys.exec op = some r) :
    (∃ topics clientType conf, r = sys.adapter.initClient sys.cluster topics clientType conf) ∨
      ∃ resource, r.self = { sys.adapter with resource := resource } := by
  cases op
  case initClient topics clientType conf =>
    exact .inl ⟨topics, clientType, conf, (Option.some.inj h).symm⟩
  case receive poll fuel consumerId timeout =>
    obtain ⟨r₀, h₀, rfl⟩ := Option.map_eq_some'.1 h
    exact .inr ⟨sys.adapter.resource, KafkaMessageBroker.receive_self h₀⟩
  case delete alterResult adminId messageType =>
    cases h
    exact .inr (KafkaMessageBroker.delete_self _ _ _ _ _)
  all_goals cases h; exact .inr ⟨sys.adapter.resource, by simp [Run.discard]⟩

theorem exec_savedRetention {sys : System} {op : Op} {r : Run Unit} (h : sys.exec op = some r) :
    r.self.savedRetention = sys.adapter.savedRetention ∨
      ∃ v, r.self.savedRetention = some (savedRetentionOf v) := by
  rcases exec_self h with ⟨topics, clientType, conf, rfl⟩ | ⟨resource, hr⟩
  · exact (KafkaMessageBroker.initClient_effect _ _ _ _ _).savedRetention
  · exact .inl (by rw [hr])

/-- A stored client object stays stored; only a producer `init_client` for a new producer id
replaces the admin object of that id. -/
theorem exec_keeps_client {sys : System} {op : Op} {r : Run Unit} (h : sys.exec op = some r)
    {kind : ClientType} {id : String} {c : Handle} (hc : (sys.adapter.clients.get kind).get? id = some c) :
    ∃ c', (r.self.clients.get kind).get? id = some c' ∧
      (c' = c ∨ kind = .admin ∧ id ∉ sys.adapter.clients.producer.keys ∧
        id ∈ r.self.clients.producer.keys) := by
  rcases exec_self h with ⟨topics, clientType, conf, rfl⟩ | ⟨resource, hr⟩
  · obtain ⟨c', hc', hcases⟩ := (KafkaMessageBroker.initClient_effect _ _ _ _ _).keeps_client hc
    exact ⟨c', hc', hcases.imp_right fun ⟨hk, _, _, hnew, hmem⟩ => ⟨hk, hnew, hmem⟩⟩
  · exact ⟨c, by rw [hr]; exact hc, .inl rfl⟩

/-! ## What one call does to the cluster -/

/-- The topics a call touches are the names of `register_message_type` or
`deregister_message_type`, the topic bound in `self._resource` for `delete`, whatever its
`message_type`, and the `message_type` of `set_message_type_expire`; every other method
touches none. -/
theorem exec_touched {sys : System} {op : Op} {r : Run Unit} (h : sys.exec op = some r) :
    ∀ x ∈ r.calls, ∀ u ∈ x.touched,
      (∃ tasks listTopics adminId messageTypes partitions,
        op = .registerMessageType tasks listTopics adminId messageTypes partitions ∧ u ∈ messageTypes) ∨
      (∃ tasks listTopics adminId messageTypes,
        op = .deregisterMessageType tasks listTopics adminId messageTypes ∧ u ∈ messageTypes) ∨
      (∃ alterResult adminId t res, op = .delete alterResult adminId t ∧
        sys.adapter.resource = some res ∧ res.name = u) ∨
      ∃ topics alterResult adminId kwargs, op = .setMessageTypeExpire topics alterResult adminId u kwargs := by
  intro x hx u hu
  cases op
  case initClient topics clientType conf =>
    cases h; rw [KafkaMessageBroker.initClient_untouched _ _ _ _ _ x hx] at hu; cases hu
  case listMessageTypes topics adminId =>
    cases h; rw [KafkaMessageBroker.listMessageTypes_untouched _ _ _ x hx] at hu; cases hu
  case registerMessageType tasks listTopics adminId messageTypes partitions =>
    cases h
    exact .inl ⟨_, _, _, _, _, rfl, KafkaMessageBroker.registerMessageType_touched _ _ _ _ _ _ _ x hx u hu⟩
  case deregisterMessageType tasks listTopics adminId messageTypes =>
    cases h
    exact .inr (.inl ⟨_, _, _, _, rfl, KafkaMessageBroker.deregisterMessageType_touched _ _ _ _ _ _ x hx u hu⟩)
  case addConcurrency tasks listTopics adminId messageType concurrencyCount =>
    cases h; rw [KafkaMessageBroker.addConcurrency_untouched _ _ _ _ _ _ _ x hx] at hu; cases hu
  case send produced served producerId messageType method messages timeout =>
    cases h; rw [KafkaMessageBroker.send_untouched _ _ _ _ _ _ _ _ x hx] at hu; cases hu
  case receive poll fuel consumerId timeout =>
    obtain ⟨r₀, h₀, rfl⟩ := Option.map_eq_some'.1 h
    rw [KafkaMessageBroker.receive_untouched h₀ x hx] at hu; cases hu
  case ack consumerId =>
    cases h; rw [KafkaMessageBroker.ack_untouched _ _ x hx] at hu; cases hu
  case delete alterResult adminId t =>
    cases h
    obtain ⟨res, hres, rfl⟩ := KafkaMessageBroker.delete_touched x hx u hu
    exact .inr (.inr (.inl ⟨_, _, _, res, rfl, hres, rfl⟩))
  case setMessageTypeExpire topics alterResult adminId t kwargs =>
    cases h
    obtain rfl := KafkaMessageBroker.setMessageTypeExpire_touched _ _ alterResult x hx u hu
    exact .inr (.inr (.inr ⟨_, _, _, _, rfl⟩))

theorem Reachable.savedRetention_ne_min {sys : System} (hsys : Reachable sys) :
    ∀ v, sys.adapter.savedRetention = some v → v ≠ minMsgRetentionPeriod := by
  induction hsys with
  | start conf cluster => intro v h; cases h
  | step _ hstep ih =>
    obtain ⟨op, r, h, rfl⟩ := hstep
    intro v (hv : r.self.savedRetention = some v)
    rcases exec_savedRetention h with hs | ⟨w, hw⟩
    · exact ih v (hs ▸ hv)
    · rw [hw, Option.some.injEq] at hv
      exact hv ▸ KafkaMessageBroker.savedRetentionOf_ne_min w

/-- In every reachable system the saved retention, once there is one, is not the purge value,
so no submission of Phase B of `delete` sets `retention.ms` to it. -/
theorem savedRetention_never_purge_value {sys : System} (hsys : Reachable sys) :
    (∀ v, sys.adapter.savedRetention = some v → v ≠ minMsgRetentionPeriod) ∧
    ∀ (alterResult : Nat → Except String (Option String)) (messageType : String) (r : ConfigResource) (j : Nat),
      ∀ x ∈ (sys.adapter.restorePhase alterResult messageType r j).calls,
        ∃ r' b v, x = .alterConfigs r' b ∧ r'.configs.get? "retention.ms" = some v ∧
          v ≠ minMsgRetentionPeriod := by
  refine ⟨hsys.savedRetention_ne_min, fun alterResult messageType r j x hx => ?_⟩
  obtain ⟨r', b, v, rfl, -, hv, hret⟩ :=
    (KafkaMessageBroker.restorePhase_submits _ alterResult messageType r j).1 x hx
  exact ⟨r', b, v, rfl, hret, hsys.savedRetention_ne_min v hv⟩

/-- A producer `init_client` while the topic's retention is the purge value saves the
default retention. -/
theorem savedRetention_default_after_purged_topic :
    let c := Cluster.ofTopics (Dict.empty.set "a" (Dict.empty.set "retention.ms" 1))
    let sys := (start ⟨"kafka:9092", 2, 15000, 5000⟩ c).after
      ((KafkaMessageBroker.init ⟨"kafka:9092", 2, 15000, 5000⟩).initClient c (.ok .empty) "producer"
        ⟨some "p", some "a", none, none, none, none⟩)
    Reachable sys ∧ sys.adapter.savedRetention = some defaultMsgRetentionPeriod ∧
      defaultMsgRetentionPeriod ≠ minMsgRetentionPeriod := by
  intro c sys
  have hsys : Reachable sys := (Reachable.start _ c).exec
    (.initClient (.ok .empty) "producer" ⟨some "p", some "a", none, none, none, none⟩) rfl
  exact ⟨hsys, rfl, (savedRetention_never_purge_value hsys).1 _ rfl⟩

/-- In every reachable system each producer id also names an admin object, so the methods
that look up `self._clients['admin'][producer_id]` find one. -/
theorem Reachable.producer_has_admin {sys : System} (hsys : Reachable sys) :
    ∀ id ∈ sys.adapter.clients.producer.keys, id ∈ sys.adapter.clients.admin.keys := by
  induction hsys with
  | start conf cluster => intro id h; cases h
  | step _ hstep ih =>
    obtain ⟨op, r, h, rfl⟩ := hstep
    rcases exec_self h with ⟨topics, clientType, conf, rfl⟩ | ⟨resource, hr⟩
    · exact (KafkaMessageBroker.initClient_effect _ _ _ _ _).admin_of_producer ih
    · simpa [after, hr] using ih

/-- After one producer `init_client`, its id names both a producer and an admin object. -/
theorem producer_id_names_admin_after_init :
    let c := Cluster.ofTopics (Dict.empty.set "a" .empty)
    let sys := (start ⟨"kafka:9092", 2, 15000, 5000⟩ c).after
      ((KafkaMessageBroker.init ⟨"kafka:9092", 2, 15000, 5000⟩).initClient c (.ok .empty) "producer"
        ⟨some "p", some "a", none, none, none, none⟩)
    Reachable sys ∧ "p" ∈ sys.adapter.clients.producer.keys ∧ "p" ∈ sys.adapter.clients.admin.keys := by
  intro c sys
  have hsys : Reachable sys := (Reachable.start _ c).exec
    (.initClient (.ok .empty) "producer" ⟨some "p", some "a", none, none, none, none⟩) rfl
  have hp : "p" ∈ sys.adapter.clients.producer.keys := by decide
  exact ⟨hsys, hp, hsys.producer_has_admin "p" hp⟩

theorem run_mem_keys {sys sys' : System} (hrun : Relation.ReflTransGen Step sys sys')
    {kind : ClientType} {id : String} (hmem : id ∈ (sys.adapter.clients.get kind).keys) :
    id ∈ (sys'.adapter.clients.get kind).keys := by
  induction hrun with
  | refl => exact hmem
  | tail _ hstep ih =>
    obtain ⟨op, r, h, rfl⟩ := hstep
    obtain ⟨c, hc⟩ := Option.isSome_iff_exists.1 ((Dict.mem_keys_iff_get?_isSome _ _).1 ih)
    obtain ⟨c', hc', -⟩ := exec_keeps_client h hc
    exact (Dict.mem_keys_iff_get?_isSome _ _).2 (by simp [after, hc'])

/-- Along every run, a client object stored under `(kind, id)` stays stored, and stays the
same object unless it is an admin object and a producer with the same id was built during the
run; and a repeated `init_client` for a registered `(kind, id)` leaves the object as it is. -/
theorem registry_entries_persist {sys sys' : System} (hrun : Relation.ReflTransGen Step sys sys')
    {kind : ClientType} {id : String} {c : Handle}
    (hc : (sys.adapter.clients.get kind).get? id = some c) :
    (∃ c', (sys'.adapter.clients.get kind).get? id = some c' ∧
      (c' = c ∨ kind = .admin ∧ id ∉ sys.adapter.clients.producer.keys ∧
        id ∈ sys'.adapter.clients.producer.keys)) ∧
    ∀ (topics : Except String Metadata) (clientType : String) (conf : ClientConf) (kind' : ClientType)
      (id' : String), ClientType.ofString? clientType = some kind' → conf.clientId = some id' →
      id' ∈ (sys'.adapter.clients.get kind').keys →
      (sys'.adapter.initClient sys'.cluster topics clientType conf).self = sys'.adapter := by
  refine ⟨?_, fun topics clientType conf kind' id' hkind hid hreg =>
    KafkaMessageBroker.initClient_of_registered _ _ topics hkind hid hreg⟩
  induction hrun with
  | refl => exact ⟨c, hc, .inl rfl⟩
  | @tail b b' hrun' hstep ih =>
    obtain ⟨c₁, hc₁, hcase₁⟩ := ih
    obtain ⟨op, r, h, rfl⟩ := hstep
    obtain ⟨c₂, hc₂, hcase₂⟩ := exec_keeps_client h hc₁
    refine ⟨c₂, hc₂, ?_⟩
    rcases hcase₂ with rfl | ⟨hk, hnew₂, hmem₂⟩
    · refine hcase₁.imp_right fun ⟨hk, hnew₁, hmem₁⟩ => ⟨hk, hnew₁, ?_⟩
      exact @run_mem_keys _ _ (Relation.ReflTransGen.single ⟨op, r, h, rfl⟩) .producer _ hmem₁
    · rcases hcase₁ with rfl | ⟨-, -, hmem₁⟩
      · exact .inr ⟨hk, fun hmem => hnew₂ (@run_mem_keys _ _ hrun' .producer _ hmem), hmem₂⟩
      · exact absurd hmem₁ hnew₂

/-- A producer `init_client` for an id that already names an admin object: the run of one step
satisfies the hypotheses of `registry_entries_persist`. -/
theorem admin_object_after_producer_init :
    let c := Cluster.ofTopics (Dict.empty.set "a" .empty)
    let sys := (start ⟨"kafka:9092", 2, 15000, 5000⟩ c).after
      ((KafkaMessageBroker.init ⟨"kafka:9092", 2, 15000, 5000⟩).initClient c (.ok .empty) "admin"
        ⟨some "x", none, none, none, none, none⟩)
    let sys' := sys.after (sys.adapter.initClient sys.cluster (.ok .empty) "producer"
      ⟨some "x", some "a", none, none, none, none⟩)
    Relation.ReflTransGen Step sys sys' ∧
      sys.adapter.clients.admin.get? "x" = some ⟨0, sys.adapter.adminConf "x", []⟩ ∧
      ∃ c', sys'.adapter.clients.admin.get? "x" = some c' ∧
        (c' = ⟨0, sys.adapter.adminConf "x", []⟩ ∨ ClientType.admin = .admin ∧
          "x" ∉ sys.adapter.clients.producer.keys ∧ "x" ∈ sys'.adapter.clients.producer.keys) := by
  intro c sys sys'
  have hrun : Relation.ReflTransGen Step sys sys' := .single
    ⟨.initClient (.ok .empty) "producer" ⟨some "x", some "a", none, none, none, none⟩, _, rfl, rfl⟩
  exact ⟨hrun, rfl, (@registry_entries_persist sys sys' hrun .admin "x" _ rfl).1⟩

/-- `init_client('producer', ...)` for an id with an admin object replaces that object by a
new one. -/
theorem producer_init_rebuilds_admin_object :
    let c := Cluster.ofTopics (Dict.empty.set "a" .empty)
    let sys := (start ⟨"kafka:9092", 2, 15000, 5000⟩ c).after
      ((KafkaMessageBroker.init ⟨"kafka:9092", 2, 15000, 5000⟩).initClient c (.ok .empty) "admin"
        ⟨some "x", none, none, none, none, none⟩)
    let sys' := sys.after (sys.adapter.initClient sys.cluster (.ok .empty) "producer"
      ⟨some "x", some "a", none, none, none, none⟩)
    Reachable sys ∧ Step sys sys' ∧ "x" ∈ sys.adapter.clients.admin.keys ∧
      sys'.adapter.clients.admin.get? "x" ≠ sys.adapter.clients.admin.get? "x" := by
  intro c sys sys'
  exact ⟨(Reachable.start _ c).exec (.initClient (.ok .empty) "admin" ⟨some "x", none, none, none, none, none⟩) rfl,
    ⟨.initClient (.ok .empty) "producer" ⟨some "x", some "a", none, none, none, none⟩, _, rfl, rfl⟩,
    by decide, by decide⟩

/-! ## `delete` in a reachable system -/

/-- In every reachable system, a `delete` that returns normally leaves the bound topic
reporting the saved retention, which is not the purge value. -/
theorem Reachable.delete_restores {sys : System} (hsys : Reachable sys)
    {alterResult : Nat → Except String (Option String)} {adminId t : String} {n : Nat}
    (h : (sys.adapter.delete sys.cluster alterResult adminId t).result = .ok n) :
    ∃ r v, sys.adapter.resource = some r ∧ sys.adapter.savedRetention = some v ∧
      v ≠ minMsgRetentionPeriod ∧
      (sys.after (sys.adapter.delete sys.cluster alterResult adminId t).discard).cluster.config? r.name
        "retention.ms" = some v := by
  obtain ⟨r, v, hr, hv, hret, -⟩ :=
    KafkaMessageBroker.delete_ok_restores sys.adapter sys.cluster alterResult adminId t h
  exact ⟨r, v, hr, hv, hsys.savedRetention_ne_min v hv, hret⟩

/-- After one producer `init_client` for topic `a` with retention 100, a `delete` of `a` whose
submissions are all accepted returns and restores the retention 100. -/
theorem delete_restores_after_producer_init :
    let c := Cluster.ofTopics (Dict.empty.set "a" (Dict.empty.set "retention.ms" 100))
    let sys := (start ⟨"kafka:9092", 2, 15000, 5000⟩ c).after
      ((KafkaMessageBroker.init ⟨"kafka:9092", 2, 15000, 5000⟩).initClient c (.ok .empty) "producer"
        ⟨some "p", some "a", none, none, none, none⟩)
    Reachable sys ∧ (sys.adapter.delete sys.cluster (fun _ => .ok none) "p" "a").result = .ok 0 ∧
      ∃ r v, sys.adapter.resource = some r ∧ sys.adapter.savedRetention = some v ∧
        v ≠ minMsgRetentionPeriod ∧
        (sys.after (sys.adapter.delete sys.cluster (fun _ => .ok none) "p" "a").discard).cluster.config?
          r.name "retention.ms" = some v := by
  intro c sys
  have hsys : Reachable sys := (Reachable.start _ c).exec
    (.initClient (.ok .empty) "producer" ⟨some "p", some "a", none, none, none, none⟩) rfl
  exact ⟨hsys, rfl, hsys.delete_restores rfl⟩

/-- A run that binds topic `a` with retention 100, then sets its retention to 200 with
`set_message_type_expire`: the `delete` of `a` that follows returns normally and leaves its
retention at 100, not at the 200 it had before the call. -/
theorem delete_restores_stale_retention :
    let c := Cluster.ofTopics (Dict.empty.set "a" (Dict.empty.set "retention.ms" 100))
    let sys₁ := (start ⟨"kafka:9092", 2, 15000, 5000⟩ c).after
      ((KafkaMessageBroker.init ⟨"kafka:9092", 2, 15000, 5000⟩).initClient c (.ok .empty) "producer"
        ⟨some "p", some "a", none, none, none, none⟩)
    let sys := sys₁.after (sys₁.adapter.setMessageTypeExpire sys₁.cluster (.ok (Dict.empty.set "a" 1))
      (fun _ => .ok none) "p" "a" ((Dict.empty.set "expire_time_ms" 200).set "data_limit_bytes" 1048576)).discard
    Reachable sys ∧ sys.cluster.config? "a" "retention.ms" = some 200 ∧
      (sys.adapter.delete sys.cluster (fun _ => .ok none) "p" "a").result = .ok 0 ∧
      (sys.after (sys.adapter.delete sys.cluster (fun _ => .ok none) "p" "a").discard).cluster.config? "a"
        "retention.ms" = some 100 := by
  intro c sys₁ sys
  have hsys₁ : Reachable sys₁ := (Reachable.start _ c).exec
    (.initClient (.ok .empty) "producer" ⟨some "p", some "a", none, none, none, none⟩) rfl
  exact ⟨hsys₁.exec (.setMessageTypeExpire (.ok (Dict.empty.set "a" 1)) (fun _ => .ok none) "p" "a"
    ((Dict.empty.set "expire_time_ms" 200).set "data_limit_bytes" 1048576)) rfl, by decide, rfl, by decide⟩

end System

/-! ## Calls on ids that were never initialised -/

namespace KafkaMessageBroker

/-- On a fresh object, `send`, `receive` and `ack` raise the `KeyError` of their lookup, before
their `is None` guard, and after an admin `init_client` alone `delete` raises
`AttributeError`; neither is a `MessageBusError`. -/
theorem unregistered_ids_raise_keyError :
    ((init ⟨"kafka:9092", 2, 15000, 5000⟩).send (fun _ => .queued) (fun _ => []) "p" "t" "sync" ["m"]
      (1 / 10)).result = .error (.keyError "p") ∧
    ((init ⟨"kafka:9092", 2, 15000, 5000⟩).receive (fun _ => ⟨[], .returned .none⟩) 1 "c" none).map
      Run.result = some (.error (.keyError "c")) ∧
    ((init ⟨"kafka:9092", 2, 15000, 5000⟩).ack "c").result = .error (.keyError "c") ∧
    (((init ⟨"kafka:9092", 2, 15000, 5000⟩).initClient (.ofTopics .empty) (.ok .empty) "admin"
      ⟨some "a", none, none, none, none, none⟩).self.delete (.ofTopics .empty) (fun _ => .ok none) "a"
        "t").result = .error (.attributeError "_resource") ∧
    ¬ (PyError.keyError "p").IsMessageBusError ∧ ¬ (PyError.attributeError "_resource").IsMessageBusError :=
  ⟨rfl, rfl, rfl, rfl, fun h => h, fun h => h⟩

end KafkaMessageBroker

end CortxMessageBus
