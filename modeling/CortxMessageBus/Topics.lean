import CortxMessageBus.Confirm

/-!
# Topic lifecycle

`list_message_types`, `register_message_type`, `deregister_message_type` and
`add_concurrency`.  Each mutation submits one asynchronous admin request, waits for its
tasks, and then confirms the change with the loop of `Confirm`: for every name, a topic
created is eventually listed, a topic deleted eventually unlisted, and the partition count
eventually the one asked for.

The broker decides part of each task's outcome: it refuses to create a topic it holds and to
delete or extend one it does not hold (`Cluster.createTask`, `Cluster.existingTask`); the
other outcomes are inputs.  A request's call records the topics its successful tasks created
or deleted, since a task can succeed while another of the same request fails.  The
`list_topics()` answers stay inputs, as the broker's metadata may lag behind its topics.
-/

namespace CortxMessageBus

/-- `_task_status(tasks, method)`: the first task whose `result()` raised, re-raised as
`ERR_OP_FAILED`. -/
def taskStatus (method : String) : List (Option String) → Except PyError Unit
  | [] => .ok ()
  | none :: tasks => taskStatus method tasks
  | some e :: _ => .error (mbe .errOpFailed "Admin operation fails for %s. %s" [.str method, .str e])

theorem taskStatus_of_forall_none (method : String) {tasks : List (Option String)}
    (h : ∀ x ∈ tasks, x = none) : taskStatus method tasks = .ok () := by
  induction tasks with
  | nil => rfl
  | cons x xs ih =>
    rw [h x (List.mem_cons_self x xs)]
    exact ih fun y hy => h y (List.mem_cons_of_mem x hy)

/-- The `ETIMEDOUT` of `register_message_type` for `topic` at retry `retry`. -/
def creationTimedOut (topic : String) (retry : Nat) : PyError :=
  mbe .etimedout "Timed out after retry %d while creating message_type %s."
    [.int retry, .str topic]

/-- The `ETIMEDOUT` of `deregister_message_type`; its format has no blank before the name. -/
def deletionTimedOut (topic : String) (retry : Nat) : PyError :=
  mbe .etimedout "Timed out after %d retry to delete message_type%s." [.int retry, .str topic]

/-- The `E2BIG` of `add_concurrency`. -/
def partitionsTimedOut (topic : String) (retry : Nat) : PyError :=
  mbe .e2big "Exceeded retry count %d for creating partitions for message_type %s."
    [.int retry, .str topic]

/-- The `ValueError` confluent_kafka's `create_topics` raises for an empty list, before it
sends any request. -/
def emptyNewTopics : PyError := .valueError "Expected non-empty list of NewTopic objects"

/-- The `ValueError` of `delete_topics` for an empty list. -/
def emptyTopics : PyError := .valueError "Expected non-empty list of topic strings"

namespace KafkaMessageBroker

/-- `list_message_types(admin_id)`. -/
def listMessageTypes (s : KafkaMessageBroker) (topics : Except String Metadata)
    (adminId : String) : Run (List String) :=
  match s.client .admin adminId with
  | .error e => ⟨s, [], .error e⟩
  | .ok _ => ⟨s, [.listTopics], (getMetadata topics).map Dict.keys⟩

@[simp] theorem listMessageTypes_self (s : KafkaMessageBroker) (topics : Except String Metadata)
    (adminId : String) : (s.listMessageTypes topics adminId).self = s := by
  unfold listMessageTypes; split <;> rfl

/-- `register_message_type(admin_id, message_types, partitions)` against `cluster`, given the
outcome of each topic's task where the broker does not decide it, and the answers of the
successive `list_topics()` calls. -/
def registerMessageType (s : KafkaMessageBroker) (cluster : Cluster) (tasks : String → Option String)
    (listTopics : Nat → Except String Metadata) (adminId : String) (messageTypes : List String)
    (partitions : Nat) : Run Unit :=
  match s.client .admin adminId with
  | .error e => ⟨s, [], .error e⟩
  | .ok _ =>
    if messageTypes.isEmpty then ⟨s, [], .error emptyNewTopics⟩
    else
      let created := Call.createTopics (messageTypes.map fun t => ⟨t, partitions⟩)
        (messageTypes.filter fun t => cluster.createTask tasks t = none)
      match taskStatus "register_message_type" (messageTypes.map (cluster.createTask tasks)) with
      | .error e => ⟨s, [created], .error e⟩
      | .ok () =>
        let r := eachName (fun t => confirm maxListMessageTypeCount (fun m => .ok (t ∉ m.keys))
          (creationTimedOut t) listTopics (retryRange maxListMessageTypeCount)) messageTypes 0
        ⟨s, created :: r.1, r.2.map fun _ => ()⟩

@[simp] theorem registerMessageType_self (s : KafkaMessageBroker) (cluster : Cluster)
    (tasks : String → Option String) (listTopics : Nat → Except String Metadata) (adminId : String)
    (messageTypes : List String) (partitions : Nat) :
    (s.registerMessageType cluster tasks listTopics adminId messageTypes partitions).self = s := by
  unfold registerMessageType; split <;> (try split) <;> (try split) <;> rfl

/-- `deregister_message_type(admin_id, message_types)`. -/
def deregisterMessageType (s : KafkaMessageBroker) (cluster : Cluster) (tasks : String → Option String)
    (listTopics : Nat → Except String Metadata) (adminId : String) (messageTypes : List String) :
    Run Unit :=
  match s.client .admin adminId with
  | .error e => ⟨s, [], .error e⟩
  | .ok _ =>
    if messageTypes.isEmpty then ⟨s, [], .error emptyTopics⟩
    else
      let deleted := Call.deleteTopics messageTypes
        (messageTypes.filter fun t => cluster.existingTask tasks t = none)
      match taskStatus "deregister_message_type" (messageTypes.map (cluster.existingTask tasks)) with
      | .error e => ⟨s, [deleted], .error e⟩
      | .ok () =>
        let r := eachName (fun t => confirm maxListMessageTypeCount (fun m => .ok (t ∈ m.keys))
          (deletionTimedOut t) listTopics (retryRange maxListMessageTypeCount)) messageTypes 0
        ⟨s, deleted :: r.1, r.2.map fun _ => ()⟩

@[simp] theorem deregisterMessageType_self (s : KafkaMessageBroker) (cluster : Cluster)
    (tasks : String → Option String) (listTopics : Nat → Except String Metadata) (adminId : String)
    (messageTypes : List String) :
    (s.deregisterMessageType cluster tasks listTopics adminId messageTypes).self = s := by
  unfold deregisterMessageType; split <;> (try split) <;> (try split) <;> rfl

/-- The test of `add_concurrency`'s loop: the partition count differs from the one asked
for.  The lookup `[message_type]` raises `KeyError` when the topic is not listed. -/
def partitionsPending (topic : String) (concurrencyCount : Nat) (m : Metadata) :
    Except PyError Bool :=
  match m.get? topic with
  | none => .error (.keyError topic)
  | some partitions => .ok (concurrencyCount ≠ partitions)

/-- `add_concurrency(admin_id, message_type, concurrency_count)`. -/
def addConcurrency (s : KafkaMessageBroker) (cluster : Cluster) (tasks : String → Option String)
    (listTopics : Nat → Except String Metadata) (adminId : String) (messageType : String)
    (concurrencyCount : Nat) : Run Unit :=
  match s.client .admin adminId with
  | .error e => ⟨s, [], .error e⟩
  | .ok _ =>
    let created := Call.createPartitions [⟨messageType, concurrencyCount⟩]
    match taskStatus "add_concurrency" [cluster.existingTask tasks messageType] with
    | .error e => ⟨s, [created], .error e⟩
    | .ok () =>
      let r := confirm maxListMessageTypeCount (partitionsPending messageType concurrencyCount)
        (partitionsTimedOut messageType) listTopics (retryRange maxListMessageTypeCount) 0
      ⟨s, created :: r.1, r.2.map fun _ => ()⟩

@[simp] theorem addConcurrency_self (s : KafkaMessageBroker) (cluster : Cluster)
    (tasks : String → Option String) (listTopics : Nat → Except String Metadata)
    (adminId messageType : String) (concurrencyCount : Nat) :
    (s.addConcurrency cluster tasks listTopics adminId messageType concurrencyCount).self = s := by
  unfold addConcurrency; split <;> (try split) <;> rfl

/-! ## What the topic operations change at the broker -/

section Broker

variable (s : KafkaMessageBroker) (cluster : Cluster) (tasks : String → Option String)
  (listTopics : Nat → Except String Metadata) (adminId : String)

theorem listMessageTypes_untouched (topics : Except String Metadata) :
    ∀ x ∈ (s.listMessageTypes topics adminId).calls, x.touched = [] := by
  unfold listMessageTypes; split <;> simp [Call.touched]

theorem addConcurrency_untouched (messageType : String) (concurrencyCount : Nat) :
    ∀ x ∈ (s.addConcurrency cluster tasks listTopics adminId messageType concurrencyCount).calls,
      x.touched = [] := by
  unfold addConcurrency
  split
  · simp
  · split
    · simp [Call.touched]
    · exact List.forall_mem_cons.2 ⟨rfl, confirm_untouched _ _ _ _ _ 0⟩

/-- `register_message_type` creates the names whose task succeeded, once the admin lookup
succeeds, and changes nothing else at the broker, whether it returns or raises. -/
theorem registerMessageType_applyAll (messageTypes : List String) (partitions : Nat) :
    cluster.applyAll (s.registerMessageType cluster tasks listTopics adminId messageTypes partitions).calls =
      if adminId ∈ s.clients.admin.keys then
        (messageTypes.filter fun t => cluster.createTask tasks t = none).foldl Cluster.create cluster
      else cluster := by
  unfold registerMessageType
  cases ha : s.client .admin adminId with
  | error e =>
    have hmem : adminId ∉ s.clients.admin.keys := not_mem_of_client_eq_error ha
    simp [hmem]
  | ok admin =>
    have hmem : adminId ∈ s.clients.admin.keys := mem_of_client_eq_ok ha
    rw [if_pos hmem]
    dsimp only
    split
    · next h => simp [List.isEmpty_iff.1 h]
    · split
      · rfl
      · rw [Cluster.applyAll_cons, Cluster.applyAll_of_untouched (eachName_confirm_untouched _ _ _ _ _ _ 0)]
        rfl

/-- `deregister_message_type` deletes the names whose task succeeded, once the admin lookup
succeeds, and changes nothing else at the broker, whether it returns or raises. -/
theorem deregisterMessageType_applyAll (messageTypes : List String) :
    cluster.applyAll (s.deregisterMessageType cluster tasks listTopics adminId messageTypes).calls =
      if adminId ∈ s.clients.admin.keys then
        (messageTypes.filter fun t => cluster.existingTask tasks t = none).foldl Cluster.remove cluster
      else cluster := by
  unfold deregisterMessageType
  cases ha : s.client .admin adminId with
  | error e =>
    have hmem : adminId ∉ s.clients.admin.keys := not_mem_of_client_eq_error ha
    simp [hmem]
  | ok admin =>
    have hmem : adminId ∈ s.clients.admin.keys := mem_of_client_eq_ok ha
    rw [if_pos hmem]
    dsimp only
    split
    · next h => simp [List.isEmpty_iff.1 h]
    · split
      · rfl
      · rw [Cluster.applyAll_cons, Cluster.applyAll_of_untouched (eachName_confirm_untouched _ _ _ _ _ _ 0)]
        rfl

/-- The topics `register_message_type` touches are among its names. -/
theorem registerMessageType_touched (messageTypes : List String) (partitions : Nat) :
    ∀ x ∈ (s.registerMessageType cluster tasks listTopics adminId messageTypes partitions).calls,
      ∀ u ∈ x.touched, u ∈ messageTypes := by
  unfold registerMessageType
  split
  · simp
  · dsimp only
    split
    · simp
    · have hcreated : ∀ u ∈ (Call.createTopics (messageTypes.map fun t => ⟨t, partitions⟩)
          (messageTypes.filter fun t => cluster.createTask tasks t = none)).touched, u ∈ messageTypes :=
        fun u hu => List.mem_of_mem_filter hu
      split
      · simpa using hcreated
      · refine List.forall_mem_cons.2 ⟨hcreated, fun x hx u hu => ?_⟩
        rw [eachName_confirm_untouched _ _ _ _ _ _ 0 x hx] at hu
        cases hu

/-- The topics `deregister_message_type` touches are among its names. -/
theorem deregisterMessageType_touched (messageTypes : List String) :
    ∀ x ∈ (s.deregisterMessageType cluster tasks listTopics adminId messageTypes).calls,
      ∀ u ∈ x.touched, u ∈ messageTypes := by
  unfold deregisterMessageType
  split
  · simp
  · dsimp only
    split
    · simp
    · have hdeleted : ∀ u ∈ (Call.deleteTopics messageTypes
          (messageTypes.filter fun t => cluster.existingTask tasks t = none)).touched, u ∈ messageTypes :=
        fun u hu => List.mem_of_mem_filter hu
      split
      · simpa using hdeleted
      · refine List.forall_mem_cons.2 ⟨hdeleted, fun x hx u hu => ?_⟩
        rw [eachName_confirm_untouched _ _ _ _ _ _ 0 x hx] at hu
        cases hu

/-- confluent_kafka refuses an empty list of names before any request. -/
theorem topic_requests_of_nil (hadmin : adminId ∈ s.clients.admin.keys) (partitions : Nat) :
    s.registerMessageType cluster tasks listTopics adminId [] partitions = ⟨s, [], .error emptyNewTopics⟩ ∧
    s.deregisterMessageType cluster tasks listTopics adminId [] = ⟨s, [], .error emptyTopics⟩ := by
  obtain ⟨admin, ha⟩ := @client_of_mem s .admin adminId hadmin
  exact ⟨by simp [registerMessageType, ha], by simp [deregisterMessageType, ha]⟩

end Broker

/-! ## How long the topic operations wait -/

section Cost

variable (s : KafkaMessageBroker) (cluster : Cluster) (tasks : String → Option String)
  (listTopics : Nat → Except String Metadata) (adminId : String)

theorem registerMessageType_cost (messageTypes : List String) (partitions : Nat) :
    sleepTime (s.registerMessageType cluster tasks listTopics adminId messageTypes partitions).calls ≤
      maxListMessageTypeCount * (maxListMessageTypeCount + 1) / 2 * messageTypes.length ∧
    (s.registerMessageType cluster tasks listTopics adminId messageTypes partitions).calls.count .listTopics ≤
      (maxListMessageTypeCount + 1) * messageTypes.length := by
  unfold registerMessageType
  repeat' split
  all_goals try simp [sleepTime]
  exact ⟨by simpa [sleepTime] using eachName_confirm_sleepTime _ _,
    by simpa using eachName_confirm_count_listTopics _ _⟩

theorem deregisterMessageType_cost (messageTypes : List String) :
    sleepTime (s.deregisterMessageType cluster tasks listTopics adminId messageTypes).calls ≤
      maxListMessageTypeCount * (maxListMessageTypeCount + 1) / 2 * messageTypes.length ∧
    (s.deregisterMessageType cluster tasks listTopics adminId messageTypes).calls.count .listTopics ≤
      (maxListMessageTypeCount + 1) * messageTypes.length := by
  unfold deregisterMessageType
  repeat' split
  all_goals try simp [sleepTime]
  exact ⟨by simpa [sleepTime] using eachName_confirm_sleepTime _ _,
    by simpa using eachName_confirm_count_listTopics _ _⟩

theorem addConcurrency_cost (messageType : String) (concurrencyCount : Nat) :
    sleepTime (s.addConcurrency cluster tasks listTopics adminId messageType concurrencyCount).calls ≤
      maxListMessageTypeCount * (maxListMessageTypeCount + 1) / 2 ∧
    (s.addConcurrency cluster tasks listTopics adminId messageType concurrencyCount).calls.count .listTopics ≤
      maxListMessageTypeCount + 1 := by
  unfold addConcurrency
  repeat' split
  all_goals try simp [sleepTime]
  exact ⟨by simpa [sleepTime, retryRange_sleep_sum] using confirm_sleepTime _ _ _ _ (retryRange _) 0,
    by simpa [retryRange] using confirm_count_listTopics _ _ _ _ (retryRange _) 0⟩

/-- For every state, every cluster, every task outcome and every sequence of `list_topics()` answers, the
topic operations poll `list_topics()` at most `max + 1 = 16` times and sleep at most
`1 + 2 + … + max = 120` seconds per message type, whether they return or raise: a topic that
never shows the change costs the full wait and no more. -/
theorem topic_operations_wait_bounded :
    (∀ messageTypes partitions,
      sleepTime (s.registerMessageType cluster tasks listTopics adminId messageTypes partitions).calls ≤
        maxListMessageTypeCount * (maxListMessageTypeCount + 1) / 2 * messageTypes.length ∧
      (s.registerMessageType cluster tasks listTopics adminId messageTypes partitions).calls.count .listTopics ≤
        (maxListMessageTypeCount + 1) * messageTypes.length) ∧
    (∀ messageTypes,
      sleepTime (s.deregisterMessageType cluster tasks listTopics adminId messageTypes).calls ≤
        maxListMessageTypeCount * (maxListMessageTypeCount + 1) / 2 * messageTypes.length ∧
      (s.deregisterMessageType cluster tasks listTopics adminId messageTypes).calls.count .listTopics ≤
        (maxListMessageTypeCount + 1) * messageTypes.length) ∧
    (∀ messageType concurrencyCount,
      sleepTime (s.addConcurrency cluster tasks listTopics adminId messageType concurrencyCount).calls ≤
        maxListMessageTypeCount * (maxListMessageTypeCount + 1) / 2 ∧
      (s.addConcurrency cluster tasks listTopics adminId messageType concurrencyCount).calls.count .listTopics ≤
        maxListMessageTypeCount + 1) :=
  ⟨registerMessageType_cost s cluster tasks listTopics adminId,
    deregisterMessageType_cost s cluster tasks listTopics adminId,
    addConcurrency_cost s cluster tasks listTopics adminId⟩

end Cost

/-! ## The three operations against the law -/

section Law

variable (s : KafkaMessageBroker) {adminId : String} (hadmin : adminId ∈ s.clients.admin.keys)
  (cluster : Cluster) (tasks : String → Option String) (snapshot : Nat → Metadata)
include hadmin

theorem registerMessageType_eq_law (names : List String) (partitions : Nat) (hne : names ≠ [])
    (htasks : ∀ t ∈ names, cluster.createTask tasks t = none) :
    s.registerMessageType cluster tasks (fun i => .ok (snapshot i)) adminId names partitions =
      let law := namesLaw (fun t => confirmLaw maxListMessageTypeCount (fun m => t ∈ m.keys)
        (creationTimedOut t) snapshot) names 0
      ⟨s, .createTopics (names.map fun t => ⟨t, partitions⟩) names :: law.1, law.2.map fun _ => ()⟩ := by
  obtain ⟨admin, ha⟩ := @client_of_mem s .admin adminId hadmin
  have hts : taskStatus "register_message_type" (names.map (cluster.createTask tasks)) = .ok () :=
    taskStatus_of_forall_none _ (by simpa using htasks)
  have hcreated : (names.filter fun t => cluster.createTask tasks t = none) = names :=
    List.filter_eq_self.2 fun t ht => by simpa using htasks t ht
  simp only [registerMessageType, ha, List.isEmpty_iff, hne, if_false, hts, hcreated]
  rw [eachName_congr fun t i => confirm_eq_confirmLaw _ (fun m => decide (t ∈ m.keys))
    (creationTimedOut t) (fun j => by simp) i, eachName_eq_namesLaw]

theorem deregisterMessageType_eq_law (names : List String) (hne : names ≠ [])
    (htasks : ∀ t ∈ names, cluster.existingTask tasks t = none) :
    s.deregisterMessageType cluster tasks (fun i => .ok (snapshot i)) adminId names =
      let law := namesLaw (fun t => confirmLaw maxListMessageTypeCount (fun m => t ∉ m.keys)
        (deletionTimedOut t) snapshot) names 0
      ⟨s, .deleteTopics names names :: law.1, law.2.map fun _ => ()⟩ := by
  obtain ⟨admin, ha⟩ := @client_of_mem s .admin adminId hadmin
  have hts : taskStatus "deregister_message_type" (names.map (cluster.existingTask tasks)) = .ok () :=
    taskStatus_of_forall_none _ (by simpa using htasks)
  have hdeleted : (names.filter fun t => cluster.existingTask tasks t = none) = names :=
    List.filter_eq_self.2 fun t ht => by simpa using htasks t ht
  simp only [deregisterMessageType, ha, List.isEmpty_iff, hne, if_false, hts, hdeleted]
  rw [eachName_congr fun t i => confirm_eq_confirmLaw _ (fun m => decide (t ∉ m.keys))
    (deletionTimedOut t) (fun j => by simp) i, eachName_eq_namesLaw]

theorem addConcurrency_eq_law (t : String) (n : Nat) (htask : cluster.existingTask tasks t = none)
    (hlisted : ∀ i, t ∈ (snapshot i).keys) :
    s.addConcurrency cluster tasks (fun i => .ok (snapshot i)) adminId t n =
      let law := confirmLaw maxListMessageTypeCount (fun m => m.get? t = some n)
        (partitionsTimedOut t) snapshot 0
      ⟨s, .createPartitions [⟨t, n⟩] :: law.1, law.2.map fun _ => ()⟩ := by
  obtain ⟨admin, ha⟩ := @client_of_mem s .admin adminId hadmin
  have hpend : ∀ j, partitionsPending t n (snapshot j) =
      .ok (!decide ((snapshot j).get? t = some n)) := by
    intro j
    obtain ⟨p, hp⟩ := Option.isSome_iff_exists.1
      ((Dict.mem_keys_iff_get?_isSome _ _).1 (hlisted j))
    simp [partitionsPending, hp, eq_comm]
  simp only [addConcurrency, ha, htask, taskStatus,
    confirm_eq_confirmLaw _ (fun m => decide (m.get? t = some n)) (partitionsTimedOut t) hpend]

end Law

/-- The confirmation law of the three topic operations.  For every cluster, every list of
names, every partition count and every sequence of `list_topics()` answers, once the admin
request returned its tasks and all of them succeeded: `register_message_type` confirms the
names in order, each by the law with "the name is listed" from the answer where the previous
name stopped, and raises the `ETIMEDOUT` of the first name not listed within its 16 polls,
looking at no name after it; `deregister_message_type` does the same with "the name is not
listed"; and `add_concurrency(t, n)`, when every answer lists `t`, confirms by the law with
"`t` has exactly `n` partitions" and raises `E2BIG`. -/
theorem topic_operations_follow_confirmationLaw (s : KafkaMessageBroker) {adminId : String}
    (hadmin : adminId ∈ s.clients.admin.keys) (cluster : Cluster) (tasks : String → Option String)
    (snapshot : Nat → Metadata) :
    (∀ (names : List String) (partitions : Nat), names ≠ [] →
      (∀ t ∈ names, cluster.createTask tasks t = none) →
      s.registerMessageType cluster tasks (fun i => .ok (snapshot i)) adminId names partitions =
        let law := namesLaw (fun t => confirmLaw maxListMessageTypeCount (fun m => t ∈ m.keys)
          (creationTimedOut t) snapshot) names 0
        ⟨s, .createTopics (names.map fun t => ⟨t, partitions⟩) names :: law.1,
          law.2.map fun _ => ()⟩) ∧
    (∀ names : List String, names ≠ [] → (∀ t ∈ names, cluster.existingTask tasks t = none) →
      s.deregisterMessageType cluster tasks (fun i => .ok (snapshot i)) adminId names =
        let law := namesLaw (fun t => confirmLaw maxListMessageTypeCount (fun m => t ∉ m.keys)
          (deletionTimedOut t) snapshot) names 0
        ⟨s, .deleteTopics names names :: law.1, law.2.map fun _ => ()⟩) ∧
    (∀ (t : String) (n : Nat), cluster.existingTask tasks t = none → (∀ i, t ∈ (snapshot i).keys) →
      s.addConcurrency cluster tasks (fun i => .ok (snapshot i)) adminId t n =
        let law := confirmLaw maxListMessageTypeCount (fun m => m.get? t = some n)
          (partitionsTimedOut t) snapshot 0
        ⟨s, .createPartitions [⟨t, n⟩] :: law.1, law.2.map fun _ => ()⟩) :=
  ⟨registerMessageType_eq_law s hadmin cluster tasks snapshot,
    deregisterMessageType_eq_law s hadmin cluster tasks snapshot,
    addConcurrency_eq_law s hadmin cluster tasks snapshot⟩

/-- With one admin registered, registering `u` and `v` on a broker that holds neither, where
the answers list `v` from the first poll on and `u` never: the call polls for `u` 16 times,
sleeping `1 + 2 + … + 15` seconds, raises the `ETIMEDOUT` of `u` at retry 16, and never
polls for `v`. -/
theorem registerMessageType_times_out_on_first_unlisted :
    let s := (init ⟨"kafka:9092", 2, 15000, 5000⟩).register .admin "a"
      { bootstrapServers := "kafka:9092", clientId := "a", errorCb := true,
        socketTimeoutMs := some 15000 } []
    "a" ∈ s.clients.admin.keys ∧ ["u", "v"] ≠ [] ∧
      (∀ t ∈ ["u", "v"], (Cluster.ofTopics .empty).createTask (fun _ => none) t = none) ∧
      s.registerMessageType (.ofTopics .empty) (fun _ => none) (fun _ => .ok (Dict.empty.set "v" 1))
          "a" ["u", "v"] 1 =
        ⟨s, .createTopics [⟨"u", 1⟩, ⟨"v", 1⟩] ["u", "v"] :: waitFrom 1 15 ++ [.listTopics],
          .error (creationTimedOut "u" 16)⟩ := by
  intro s
  have hadmin : "a" ∈ s.clients.admin.keys := by decide
  have htasks : ∀ t ∈ ["u", "v"], (Cluster.ofTopics .empty).createTask (fun _ => none) t = none := by
    decide
  refine ⟨hadmin, by decide, htasks, ?_⟩
  rw [(topic_operations_follow_confirmationLaw s hadmin (.ofTopics .empty) (fun _ => none)
    (fun _ => Dict.empty.set "v" 1)).1 ["u", "v"] 1 (by decide) htasks]
  rfl

end KafkaMessageBroker

end CortxMessageBus
