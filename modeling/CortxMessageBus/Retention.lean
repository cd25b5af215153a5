import CortxMessageBus.AlterConfigs
import CortxMessageBus.InitClient
import CortxMessageBus.Topics

/-!
# Retention: the purge protocol and per-topic configuration

`delete(admin_id, message_type)` purges a topic in two phases: Phase A sets `retention.ms`
of `self._resource` to `_min_msg_retention_period` and submits it, then after a one-second
grace Phase B sets it back to `self._saved_retention` and submits it again, each phase with
the retry loop of `AlterConfigs`.  The resource is the one the latest producer
`init_client` bound; the `message_type` argument only names the topic in the error messages.
The broker answers every submission for a topic it does not hold with an error, which
`result()` raises.

`_configure_message_type` builds a fresh resource for its own topic and puts on it the
image of its keyword arguments under `_config_prop_map`; `set_message_type_expire` requires
both expiry keys and forces `file_delete_ms` to 1.
-/

namespace CortxMessageBus

/-! ## `delete` -/

/-- Phase A's `set_config`: the purge retention. -/
def purgeRetention (r : ConfigResource) : Except PyError ConfigResource :=
  .ok (r.setConfig "retention.ms" minMsgRetentionPeriod)

/-- Phase B's `set_config`: the saved retention, whose read raises `AttributeError` if no
producer initialisation ever saved one. -/
def restoreRetention (saved : Option Int) (r : ConfigResource) : Except PyError ConfigResource :=
  match saved with
  | none => .error (.attributeError "_saved_retention")
  | some v => .ok (r.setConfig "retention.ms" v)

/-- The resource carries no configuration but `retention.ms`, as `self._resource` does: it is
bound with none, and `delete` sets only that one. -/
def ConfigResource.RetentionOnly (r : ConfigResource) : Prop := ∀ k ∈ r.configs.keys, k = "retention.ms"

theorem ConfigResource.RetentionOnly.setConfig {r : ConfigResource} (h : r.RetentionOnly) (v : Int) :
    (r.setConfig "retention.ms" v).RetentionOnly := by
  intro k hk
  simp only [ConfigResource.setConfig, Dict.mem_keys_set] at hk
  exact hk.elim id (h k)

/-- Phase A's `ERR_OP_FAILED`. -/
def purgeFailed (admin : Handle) (messageType : String) (r : ConfigResource) : PyError :=
  mbe .errOpFailed "alter_configs() for resource %s failed using admin%s for message type %s"
    [.resource r, .client admin, .str messageType]

/-- Phase B's `ENOKEY`. -/
def restoreFailed (messageType : String) : PyError :=
  mbe .enokey "Unknown configuration for message type %s." [.str messageType]

namespace KafkaMessageBroker

/-- Phase A of `delete`, from the bound resource. -/
def purgePhase (alterResult : Nat → Except String (Option String)) (admin : Handle) (messageType : String)
    (r : ConfigResource) : AlterRun :=
  alterRetry purgeRetention (purgeFailed admin messageType) alterResult
    (List.range maxConfigRetryCount) r 0

/-- Phase B of `delete`, from the resource Phase A left and the next unread answer. -/
def restorePhase (s : KafkaMessageBroker) (alterResult : Nat → Except String (Option String))
    (messageType : String) (r : ConfigResource) (j : Nat) : AlterRun :=
  alterRetry (restoreRetention s.savedRetention) (fun _ => restoreFailed messageType) alterResult
    (List.range maxConfigRetryCount) r j

/-- `delete(admin_id, message_type)` against `cluster`, given the answers of the successive
`alter_configs()` calls for a topic the broker holds.  `set_config` mutates `self._resource`
in place, so the object keeps the resource as the last phase left it. -/
def delete (s : KafkaMessageBroker) (cluster : Cluster) (alterResult : Nat → Except String (Option String))
    (adminId messageType : String) : Run Nat :=
  match s.client .admin adminId with
  | .error e => ⟨s, [], .error e⟩
  | .ok admin =>
    match s.resource with
    | none => ⟨s, [], .error (.attributeError "_resource")⟩
    | some r =>
      let answers := cluster.alterAnswer alterResult r.name
      let tuned := purgePhase answers admin messageType r
      match tuned.result with
      | .error e => ⟨{ s with resource := some tuned.resource }, tuned.calls, .error e⟩
      | .ok j =>
        let restored := s.restorePhase answers messageType tuned.resource j
        ⟨{ s with resource := some restored.resource }, tuned.calls ++ .sleep 1 :: restored.calls,
          restored.result.map fun _ => 0⟩

/-- The four ways `delete` can go: the admin lookup raises; no resource is bound; Phase A
raises; or both phases run from the bound resource, with the grace sleep between them. -/
theorem delete_cases (s : KafkaMessageBroker) (cluster : Cluster)
    (alterResult : Nat → Except String (Option String)) (adminId t : String) :
    (∃ e, s.delete cluster alterResult adminId t = ⟨s, [], .error e⟩) ∨
    (s.resource = none ∧
      s.delete cluster alterResult adminId t = ⟨s, [], .error (.attributeError "_resource")⟩) ∨
    ∃ admin r, s.resource = some r ∧
      let answers := cluster.alterAnswer alterResult r.name
      ((∃ e, (purgePhase answers admin t r).result = .error e ∧
        s.delete cluster alterResult adminId t =
          ⟨{ s with resource := some (purgePhase answers admin t r).resource },
            (purgePhase answers admin t r).calls, .error e⟩) ∨
      ∃ j, (purgePhase answers admin t r).result = .ok j ∧
        s.delete cluster alterResult adminId t =
          ⟨{ s with
              resource := some (s.restorePhase answers t (purgePhase answers admin t r).resource j).resource },
            (purgePhase answers admin t r).calls ++ .sleep 1 ::
              (s.restorePhase answers t (purgePhase answers admin t r).resource j).calls,
            (s.restorePhase answers t (purgePhase answers admin t r).resource j).result.map
              fun _ => 0⟩) := by
  unfold delete
  cases s.client .admin adminId with
  | error e => exact .inl ⟨e, rfl⟩
  | ok admin =>
    cases hr : s.resource with
    | none => exact .inr (.inl ⟨rfl, rfl⟩)
    | some r =>
      refine .inr (.inr ⟨admin, r, rfl, ?_⟩)
      dsimp only
      cases hA : (purgePhase (cluster.alterAnswer alterResult r.name) admin t r).result with
      | error e => exact .inl ⟨e, rfl, rfl⟩
      | ok j => exact .inr ⟨j, rfl, rfl⟩

/-- `delete` changes no attribute but `self._resource`. -/
theorem delete_self (s : KafkaMessageBroker) (cluster : Cluster)
    (alterResult : Nat → Except String (Option String)) (adminId messageType : String) :
    ∃ resource, (s.delete cluster alterResult adminId messageType).self = { s with resource := resource } := by
  rcases delete_cases s cluster alterResult adminId messageType with
    ⟨e, h⟩ | ⟨-, h⟩ | ⟨admin, r, -, ⟨e, -, h⟩ | ⟨j, -, h⟩⟩ <;> rw [h] <;> exact ⟨_, rfl⟩

/-- The resource both phases submit keeps the name it was bound with. -/
theorem purgePhase_submits (alterResult : Nat → Except String (Option String)) (admin : Handle)
    (messageType : String) (r : ConfigResource) :
    (∀ x ∈ (purgePhase alterResult admin messageType r).calls, ∃ r' b, x = .alterConfigs r' b ∧
      r'.name = r.name ∧ r'.configs.get? "retention.ms" = some minMsgRetentionPeriod) ∧
    (purgePhase alterResult admin messageType r).resource.name = r.name :=
  alterRetry_submits (fun r' => r'.name = r.name)
    (fun r' => r'.name = r.name ∧ r'.configs.get? "retention.ms" = some minMsgRetentionPeriod)
    (fun r₀ r' h hr => by cases hr; simpa [purgeRetention] using h) _ r 0 rfl

theorem restorePhase_submits (s : KafkaMessageBroker) (alterResult : Nat → Except String (Option String))
    (messageType : String) (r : ConfigResource) (j : Nat) :
    (∀ x ∈ (s.restorePhase alterResult messageType r j).calls, ∃ r' b v, x = .alterConfigs r' b ∧
      r'.name = r.name ∧ s.savedRetention = some v ∧ r'.configs.get? "retention.ms" = some v) ∧
    (s.restorePhase alterResult messageType r j).resource.name = r.name := by
  obtain ⟨hcalls, hname⟩ := @alterRetry_submits (restoreRetention s.savedRetention)
    (fun _ => restoreFailed messageType) alterResult (fun r' => r'.name = r.name)
    (fun r' => r'.name = r.name ∧ ∃ v, s.savedRetention = some v ∧
      r'.configs.get? "retention.ms" = some v)
    (fun r₀ r' h hr => by
      cases hs : s.savedRetention with
      | none => simp [restoreRetention, hs] at hr
      | some v => simp only [restoreRetention, hs, Except.ok.injEq] at hr; subst hr; simp [h])
    (List.range maxConfigRetryCount) r j rfl
  refine ⟨fun x hx => ?_, hname⟩
  obtain ⟨r', b, rfl, hn, v, hv, hr⟩ := hcalls x hx
  exact ⟨r', b, v, rfl, hn, hv, hr⟩

theorem retryRange_last : ∃ n, (List.range maxConfigRetryCount).getLast? = some n ∧ 1 < n :=
  ⟨2, rfl, by decide⟩

/-- Phase A that returned normally has altered the bound topic to its final resource, whose
retention is the purge value. -/
theorem purgePhase_ok_applyAll (c : Cluster) {alterResult : Nat → Except String (Option String)}
    {admin : Handle} {t : String} {r : ConfigResource} {j : Nat}
    (hA : (purgePhase alterResult admin t r).result = .ok j) :
    c.applyAll (purgePhase alterResult admin t r).calls = c.alter (purgePhase alterResult admin t r).resource ∧
    (purgePhase alterResult admin t r).resource.configs.get? "retention.ms" = some minMsgRetentionPeriod := by
  obtain ⟨hc, hmem⟩ := alterRetry_ok_applyAll c retryRange_last hA
  obtain ⟨_, _, he, -, hret⟩ := (purgePhase_submits alterResult admin t r).1 _ hmem
  cases he
  exact ⟨hc, hret⟩

/-- Phase B that returned normally has altered the topic to its final resource, whose
retention is the saved one. -/
theorem restorePhase_ok_applyAll (s : KafkaMessageBroker) (c : Cluster)
    {alterResult : Nat → Except String (Option String)} {t : String} {r : ConfigResource} {j k : Nat}
    (hB : (s.restorePhase alterResult t r j).result = .ok k) :
    c.applyAll (s.restorePhase alterResult t r j).calls = c.alter (s.restorePhase alterResult t r j).resource ∧
    ∃ v, s.savedRetention = some v ∧
      (s.restorePhase alterResult t r j).resource.configs.get? "retention.ms" = some v := by
  obtain ⟨hc, hmem⟩ := alterRetry_ok_applyAll c retryRange_last hB
  obtain ⟨_, _, v, he, -, hv, hret⟩ := (restorePhase_submits s alterResult t r j).1 _ hmem
  cases he
  exact ⟨hc, v, hv, hret⟩

/-- Every call `delete` makes is one of Phase A's, the grace sleep, or one of Phase B's, run
from the bound resource. -/
theorem mem_delete_calls {s : KafkaMessageBroker} {cluster : Cluster}
    {alterResult : Nat → Except String (Option String)} {adminId t : String} {x : Call}
    (hx : x ∈ (s.delete cluster alterResult adminId t).calls) :
    ∃ admin r, s.resource = some r ∧
      let answers := cluster.alterAnswer alterResult r.name
      (x ∈ (purgePhase answers admin t r).calls ∨ x = .sleep 1 ∨
        ∃ j, x ∈ (s.restorePhase answers t (purgePhase answers admin t r).resource j).calls) := by
  rcases delete_cases s cluster alterResult adminId t with
    ⟨e, h⟩ | ⟨-, h⟩ | ⟨admin, r, hr, ⟨e, -, h⟩ | ⟨j, -, h⟩⟩ <;> rw [h] at hx
  · simp at hx
  · simp at hx
  · exact ⟨admin, r, hr, .inl hx⟩
  · simp only [List.mem_append, List.mem_cons] at hx
    exact ⟨admin, r, hr, hx.imp_right (Or.imp_right fun hx => ⟨j, hx⟩)⟩

/-- Every `alter_configs` of `delete` submits the bound topic with the purge retention or the
saved one. -/
theorem delete_alterConfigs {s : KafkaMessageBroker} {cluster : Cluster}
    {alterResult : Nat → Except String (Option String)} {adminId t : String} {r' : ConfigResource} {b : Bool}
    (hx : .alterConfigs r' b ∈ (s.delete cluster alterResult adminId t).calls) :
    ∃ r, s.resource = some r ∧ r'.name = r.name ∧
      (r'.configs.get? "retention.ms" = some minMsgRetentionPeriod ∨
        ∃ v, s.savedRetention = some v ∧ r'.configs.get? "retention.ms" = some v) := by
  obtain ⟨admin, r, hr, hx⟩ := mem_delete_calls hx
  refine ⟨r, hr, ?_⟩
  obtain ⟨hA, hAname⟩ := purgePhase_submits (cluster.alterAnswer alterResult r.name) admin t r
  rcases hx with hx | hx | ⟨j, hx⟩
  · obtain ⟨_, _, he, hn, hret⟩ := hA _ hx
    cases he; exact ⟨hn, .inl hret⟩
  · cases hx
  · obtain ⟨_, _, v, he, hn, hv, hret⟩ := (restorePhase_submits s _ t _ j).1 _ hx
    cases he; exact ⟨hn.trans hAname, .inr ⟨v, hv, hret⟩⟩

/-- The topics `delete` touches: the bound topic, and only through an accepted submission. -/
theorem delete_touched {s : KafkaMessageBroker} {cluster : Cluster}
    {alterResult : Nat → Except String (Option String)} {adminId t : String} :
    ∀ x ∈ (s.delete cluster alterResult adminId t).calls, ∀ u ∈ x.touched,
      ∃ r, s.resource = some r ∧ u = r.name := by
  intro x hx u hu
  obtain ⟨admin, r, hr, hx'⟩ := mem_delete_calls hx
  rcases hx' with hx' | rfl | ⟨j, hx'⟩
  · obtain ⟨r', b, rfl, -⟩ := (purgePhase_submits _ admin t r).1 _ hx'
    obtain ⟨r₀, hr₀, hn, -⟩ := delete_alterConfigs hx
    cases b <;> simp only [Call.touched, List.mem_singleton, List.not_mem_nil] at hu
    exact ⟨r₀, hr₀, hu.trans hn⟩
  · cases hu
  · obtain ⟨r', b, v, rfl, -⟩ := (restorePhase_submits s _ t _ j).1 _ hx'
    obtain ⟨r₀, hr₀, hn, -⟩ := delete_alterConfigs hx
    cases b <;> simp only [Call.touched, List.mem_singleton, List.not_mem_nil] at hu
    exact ⟨r₀, hr₀, hu.trans hn⟩

/-- Every `alter_configs` of `delete(admin_id, message_type)` submits the resource bound by
the latest producer `init_client`, whatever `message_type` is. -/
theorem delete_submits_bound_resource (s : KafkaMessageBroker) (cluster : Cluster)
    (alterResult : Nat → Except String (Option String)) (adminId t : String) {r' : ConfigResource} {b : Bool}
    (hx : .alterConfigs r' b ∈ (s.delete cluster alterResult adminId t).calls) :
    ∃ r, s.resource = some r ∧ r'.name = r.name :=
  let ⟨r, hr, hn, _⟩ := delete_alterConfigs hx
  ⟨r, hr, hn⟩

/-- After one producer `init_client` for topic `a`, `delete(admin_id, 'b')` purges `a`: its
first `alter_configs` sets the retention of `a` to 1 and is accepted. -/
theorem delete_purges_bound_topic_not_argument :
    .alterConfigs ⟨"a", Dict.empty.set "retention.ms" 1⟩ true ∈
      (((init ⟨"kafka:9092", 2, 15000, 5000⟩).initClient
        (.ofTopics ((Dict.empty.set "a" .empty).set "b" .empty)) (.ok .empty) "producer"
          ⟨some "p", some "a", none, none, none, none⟩).self.delete
        (.ofTopics ((Dict.empty.set "a" .empty).set "b" .empty)) (fun _ => .ok none) "p" "b").calls := by
  decide

/-- The restoring submission of that `delete(admin_id, 'b')` names the bound topic `a` too. -/
theorem delete_restores_bound_topic_not_argument :
    .alterConfigs ⟨"a", (Dict.empty.set "retention.ms" 1).set "retention.ms" 604800000⟩ true ∈
      (((init ⟨"kafka:9092", 2, 15000, 5000⟩).initClient
        (.ofTopics ((Dict.empty.set "a" .empty).set "b" .empty)) (.ok .empty) "producer"
          ⟨some "p", some "a", none, none, none, none⟩).self.delete
        (.ofTopics ((Dict.empty.set "a" .empty).set "b" .empty)) (fun _ => .ok none) "p" "b").calls ∧
    ∃ r, ((init ⟨"kafka:9092", 2, 15000, 5000⟩).initClient
        (.ofTopics ((Dict.empty.set "a" .empty).set "b" .empty)) (.ok .empty) "producer"
          ⟨some "p", some "a", none, none, none, none⟩).self.resource = some r ∧ "a" = r.name := by
  have hx : .alterConfigs ⟨"a", (Dict.empty.set "retention.ms" 1).set "retention.ms" 604800000⟩ true ∈
      (((init ⟨"kafka:9092", 2, 15000, 5000⟩).initClient
        (.ofTopics ((Dict.empty.set "a" .empty).set "b" .empty)) (.ok .empty) "producer"
          ⟨some "p", some "a", none, none, none, none⟩).self.delete
        (.ofTopics ((Dict.empty.set "a" .empty).set "b" .empty)) (fun _ => .ok none) "p" "b").calls := by
    decide
  exact ⟨hx, delete_submits_bound_resource _ _ _ "p" "b" hx⟩

/-- A `delete` that returns normally ran both phases to an accepted submission, from the bound
resource of a topic the broker holds, with the grace sleep between them. -/
theorem delete_ok_calls {s : KafkaMessageBroker} {cluster : Cluster}
    {alterResult : Nat → Except String (Option String)} {adminId t : String} {n : Nat}
    (h : (s.delete cluster alterResult adminId t).result = .ok n) :
    ∃ admin r j k, s.resource = some r ∧ r.name ∈ cluster.topics.keys ∧
      let answers := cluster.alterAnswer alterResult r.name
      (purgePhase answers admin t r).result = .ok j ∧
      (s.restorePhase answers t (purgePhase answers admin t r).resource j).result = .ok k ∧
      (s.delete cluster alterResult adminId t).calls = (purgePhase answers admin t r).calls ++
        .sleep 1 :: (s.restorePhase answers t (purgePhase answers admin t r).resource j).calls := by
  rcases delete_cases s cluster alterResult adminId t with
    ⟨e, h'⟩ | ⟨-, h'⟩ | ⟨admin, r, hr, ⟨e, -, h'⟩ | ⟨j, hA, h'⟩⟩ <;> rw [h'] at h ⊢
  · cases h
  · cases h
  · cases h
  · cases hB : (s.restorePhase (cluster.alterAnswer alterResult r.name) t
        (purgePhase (cluster.alterAnswer alterResult r.name) admin t r).resource j).result with
    | error e => simp [hB, Except.map] at h
    | ok k => exact ⟨admin, r, j, k, hr, alterRetry_ok_mem_topics hA, hA, hB, rfl⟩

/-- The cluster after both phases: the bound topic altered twice, Phase B's resource last. -/
theorem delete_ok_applyAll {s : KafkaMessageBroker} (c : Cluster)
    {alterResult : Nat → Except String (Option String)} {adminId t : String} {n : Nat}
    (h : (s.delete c alterResult adminId t).result = .ok n) :
    ∃ r rA rB v, s.resource = some r ∧ s.savedRetention = some v ∧ rB.name = r.name ∧
      r.name ∈ c.topics.keys ∧ rB.configs.get? "retention.ms" = some v ∧
      c.applyAll (s.delete c alterResult adminId t).calls = (c.alter rA).alter rB ∧ rA.name = r.name := by
  obtain ⟨admin, r, j, k, hr, hmem, hA, hB, hcalls⟩ := delete_ok_calls h
  obtain ⟨hAc, -⟩ := purgePhase_ok_applyAll c hA
  obtain ⟨hBc, v, hv, hret⟩ := restorePhase_ok_applyAll s (c.alter (purgePhase _ admin t r).resource) hB
  have hAname := (purgePhase_submits (c.alterAnswer alterResult r.name) admin t r).2
  refine ⟨r, _, _, v, hr, hv, ?_, hmem, hret, ?_, hAname⟩
  · exact (restorePhase_submits s _ t _ j).2.trans hAname
  · rw [hcalls, Cluster.applyAll_append, hAc, Cluster.applyAll_cons, Cluster.apply_sleep, hBc]

/-- After a `delete` that returns normally, the bound topic reports the saved retention, and
every other topic is as it was. -/
theorem delete_ok_restores (s : KafkaMessageBroker) (c : Cluster)
    (alterResult : Nat → Except String (Option String)) (adminId t : String) {n : Nat}
    (h : (s.delete c alterResult adminId t).result = .ok n) :
    ∃ r v, s.resource = some r ∧ s.savedRetention = some v ∧
      (c.applyAll (s.delete c alterResult adminId t).calls).config? r.name "retention.ms" = some v ∧
      ∀ u, u ≠ r.name → (c.applyAll (s.delete c alterResult adminId t).calls).describe u = c.describe u := by
  obtain ⟨r, rA, rB, v, hr, hv, hBname, hmem, hret, hc, hAname⟩ := delete_ok_applyAll c h
  rw [hc]
  refine ⟨r, v, hr, hv, Cluster.config?_of_get? (by simp [hBname, hAname, hmem]) hret, fun u hu => ?_⟩
  exact Cluster.describe_congr (by simp) (by simp [hu, hBname, hAname])

/-- When `t` is the topic of the bound resource, a `delete(admin_id, t)` that returns normally
leaves `t` reporting the saved baseline retention, and every other topic as it was. -/
theorem delete_restores_saved_retention (s : KafkaMessageBroker) (c : Cluster)
    (alterResult : Nat → Except String (Option String)) (adminId : String) {r : ConfigResource}
    (hr : s.resource = some r) {n : Nat} (h : (s.delete c alterResult adminId r.name).result = .ok n) :
    ∃ v, s.savedRetention = some v ∧
      (c.applyAll (s.delete c alterResult adminId r.name).calls).config? r.name "retention.ms" = some v ∧
      ∀ u, u ≠ r.name → (c.applyAll (s.delete c alterResult adminId r.name).calls).describe u = c.describe u := by
  obtain ⟨r', v, hr', hv, hret, hframe⟩ := delete_ok_restores s c alterResult adminId r.name h
  cases hr.symm.trans hr'
  exact ⟨v, hv, hret, hframe⟩

/-- A producer bound topic `a` with the broker's default retention: `delete('p', 'a')` returns
and `a` reports that retention again, the saved baseline. -/
theorem delete_restores_baseline_after_producer_init :
    let c := Cluster.ofTopics (Dict.empty.set "a" .empty)
    let s := ((init ⟨"kafka:9092", 2, 15000, 5000⟩).initClient c (.ok .empty) "producer"
      ⟨some "p", some "a", none, none, none, none⟩).self
    s.resource = some ⟨"a", .empty⟩ ∧ (s.delete c (fun _ => .ok none) "p" "a").result = .ok 0 ∧
      ∃ v, s.savedRetention = some v ∧
        (c.applyAll (s.delete c (fun _ => .ok none) "p" "a").calls).config? "a" "retention.ms" = some v ∧
        ∀ u, u ≠ "a" → (c.applyAll (s.delete c (fun _ => .ok none) "p" "a").calls).describe u = c.describe u :=
  ⟨rfl, rfl, delete_restores_saved_retention _ _ (fun _ => .ok none) "p" (r := ⟨"a", .empty⟩) rfl rfl⟩

/-- A `delete` that raises either changed nothing at the broker, or raised in Phase B (on a
refusal, for want of a saved retention, or with a `KafkaException`) and left the bound topic at
the purge retention and every other topic as it was. -/
theorem delete_error_cases (s : KafkaMessageBroker) (c : Cluster)
    (alterResult : Nat → Except String (Option String)) (adminId t : String) {e : PyError}
    (h : (s.delete c alterResult adminId t).result = .error e) :
    c.applyAll (s.delete c alterResult adminId t).calls = c ∨
    ∃ r, s.resource = some r ∧
      (c.applyAll (s.delete c alterResult adminId t).calls).config? r.name "retention.ms" =
        some minMsgRetentionPeriod ∧
      (∀ u, u ≠ r.name → (c.applyAll (s.delete c alterResult adminId t).calls).describe u = c.describe u) ∧
      (e = restoreFailed t ∨ e = .attributeError "_saved_retention" ∨ ∃ k, e = .kafkaException k) := by
  rcases delete_cases s c alterResult adminId t with
    ⟨e', h'⟩ | ⟨-, h'⟩ | ⟨admin, r, hr, ⟨e', hA, h'⟩ | ⟨j, hA, h'⟩⟩ <;> rw [h'] at h ⊢
  · exact .inl rfl
  · exact .inl rfl
  · exact .inl (alterRetry_error_keeps_cluster c hA)
  · cases hB : (s.restorePhase (c.alterAnswer alterResult r.name) t
        (purgePhase (c.alterAnswer alterResult r.name) admin t r).resource j).result with
    | ok k => simp [hB, Except.map] at h
    | error e' =>
      simp only [hB, Except.map, Except.error.injEq] at h
      subst h
      obtain ⟨hAc, hret⟩ := purgePhase_ok_applyAll c hA
      have hAname := (purgePhase_submits (c.alterAnswer alterResult r.name) admin t r).2
      have hmem := alterRetry_ok_mem_topics hA
      have hBc : ∀ c' : Cluster, c'.applyAll (s.restorePhase (c.alterAnswer alterResult r.name) t
          (purgePhase (c.alterAnswer alterResult r.name) admin t r).resource j).calls = c' :=
        fun c' => alterRetry_error_keeps_cluster c' hB
      rw [Cluster.applyAll_append, hAc, Cluster.applyAll_cons, Cluster.apply_sleep, hBc]
      refine .inr ⟨r, hr, Cluster.config?_of_get? (by simp [hAname, hmem]) hret,
        fun u hu => Cluster.describe_congr (by simp) (by simp [hu, hAname]), ?_⟩
      rcases alterRetry_error_cases _ _ _ _ hB with ⟨r₀, hp⟩ | ⟨_, rfl⟩ | ⟨k, rfl⟩
      · cases hs : s.savedRetention <;> simp_all [restoreRetention]
      · exact .inl rfl
      · exact .inr (.inr ⟨k, rfl⟩)

/-! ## `delete` from a resource that carries only `retention.ms` -/

theorem purgePhase_retentionOnly (alterResult : Nat → Except String (Option String)) (admin : Handle)
    (messageType : String) {r : ConfigResource} (hr : r.RetentionOnly) :
    (purgePhase alterResult admin messageType r).resource.RetentionOnly :=
  (alterRetry_submits ConfigResource.RetentionOnly ConfigResource.RetentionOnly
    (fun _ _ h hp => by cases hp; exact ⟨h.setConfig _, h.setConfig _⟩) _ r 0 hr).2

theorem restorePhase_retentionOnly (s : KafkaMessageBroker) (alterResult : Nat → Except String (Option String))
    (messageType : String) (j : Nat) {r : ConfigResource} (hr : r.RetentionOnly) :
    (s.restorePhase alterResult messageType r j).resource.RetentionOnly :=
  (alterRetry_submits ConfigResource.RetentionOnly ConfigResource.RetentionOnly
    (fun _ _ h hp => by
      cases hs : s.savedRetention with
      | none => simp [restoreRetention, hs] at hp
      | some v =>
        simp only [restoreRetention, hs, Except.ok.injEq] at hp
        exact hp ▸ ⟨h.setConfig v, h.setConfig v⟩) _ r j hr).2

/-- `delete` keeps `self._resource` carrying only `retention.ms`. -/
theorem delete_retentionOnly (s : KafkaMessageBroker) (cluster : Cluster)
    (alterResult : Nat → Except String (Option String)) (adminId t : String)
    (h : ∀ r, s.resource = some r → r.RetentionOnly) :
    ∀ r, (s.delete cluster alterResult adminId t).self.resource = some r → r.RetentionOnly := by
  rcases delete_cases s cluster alterResult adminId t with
    ⟨e, hd⟩ | ⟨-, hd⟩ | ⟨admin, r, hr, ⟨e, -, hd⟩ | ⟨j, -, hd⟩⟩ <;> rw [hd]
  · exact h
  · exact h
  · rintro _ ⟨⟩; exact purgePhase_retentionOnly _ _ _ (h r hr)
  · rintro _ ⟨⟩; exact restorePhase_retentionOnly _ _ _ _ (purgePhase_retentionOnly _ _ _ (h r hr))

/-- From a bound resource that carries only `retention.ms`, a `delete` that returns normally
leaves the saved retention as the only setting of the bound topic: it reports the broker's
defaults for everything else. -/
theorem delete_ok_configuration (s : KafkaMessageBroker) (c : Cluster)
    (alterResult : Nat → Except String (Option String)) (adminId t : String) {n : Nat}
    (h : (s.delete c alterResult adminId t).result = .ok n)
    (hshape : ∀ r, s.resource = some r → r.RetentionOnly) :
    ∃ r v, s.resource = some r ∧ s.savedRetention = some v ∧
      (c.applyAll (s.delete c alterResult adminId t).calls).topics.get? r.name =
        some (Dict.empty.set "retention.ms" v) := by
  obtain ⟨admin, r, j, k, hr, hmem, hA, hB, hcalls⟩ := delete_ok_calls h
  obtain ⟨hAc, -⟩ := purgePhase_ok_applyAll c hA
  obtain ⟨hBc, v, hv, hret⟩ := restorePhase_ok_applyAll s
    (c.alter (purgePhase (c.alterAnswer alterResult r.name) admin t r).resource) hB
  have hAname := (purgePhase_submits (c.alterAnswer alterResult r.name) admin t r).2
  have hBname := (restorePhase_submits s (c.alterAnswer alterResult r.name) t
    (purgePhase (c.alterAnswer alterResult r.name) admin t r).resource j).2
  have hshapeB := restorePhase_retentionOnly s (c.alterAnswer alterResult r.name) t j
    (purgePhase_retentionOnly (c.alterAnswer alterResult r.name) admin t (hshape r hr))
  rw [hcalls, Cluster.applyAll_append, hAc, Cluster.applyAll_cons, Cluster.apply_sleep, hBc]
  refine ⟨r, v, hr, hv, ?_⟩
  rw [← Dict.eq_set_empty_of_keys hshapeB hret]
  simp [hBname, hAname, hmem]

end KafkaMessageBroker

/-! ## `_configure_message_type` and `set_message_type_expire` -/

/-- `MessageBusError(errno.EINVAL, "Invalid configuration %s for message_type %s.", key, …)`. -/
def invalidConfiguration (key messageType : String) : PyError :=
  mbe .einval "Invalid configuration %s for message_type %s." [.str key, .str messageType]

/-- `for key, val in kwargs.items():` check each key against `_config_prop_map` and set the
configuration it maps to. -/
def setKwargs (messageType : String) : List (String × Int) → ConfigResource →
    Except PyError ConfigResource
  | [], r => .ok r
  | (k, v) :: kvs, r =>
    match configPropMap.get? k with
    | none => .error (invalidConfiguration k messageType)
    | some c => setKwargs messageType kvs (r.setConfig c v)

/-- The configuration `{_config_prop_map[k]: v for k, v in kwargs.items()}`: `c ↦ v` exactly
when some key of the items maps to `c` and has value `v`. -/
def MappedFrom (items : List (String × Int)) (configs : Dict String Int) : Prop :=
  ∀ c v, configs.get? c = some v ↔ ∃ k, configPropMap.get? k = some c ∧ (k, v) ∈ items

theorem configPropMap_get?_eq_some {k c : String} :
    configPropMap.get? k = some c ↔ (k = "expire_time_ms" ∧ c = "retention.ms") ∨
      (k = "data_limit_bytes" ∧ c = "segment.bytes") ∨
      (k = "file_delete_ms" ∧ c = "file.delete.delay.ms") := by
  simp only [configPropMap, Dict.get?_set, Dict.get?_empty]
  split_ifs <;> simp_all [eq_comm]

/-- Distinct keys of `_config_prop_map` set distinct configurations. -/
theorem configPropMap_injective {k k' c : String} (h : configPropMap.get? k = some c)
    (h' : configPropMap.get? k' = some c) : k = k' := by
  rw [configPropMap_get?_eq_some] at h h'
  rcases h with ⟨rfl, rfl⟩ | ⟨rfl, rfl⟩ | ⟨rfl, rfl⟩ <;> simp_all

section SetKwargs

variable {t : String} {r' : ConfigResource}

theorem setKwargs_name : ∀ {items : List (String × Int)} {r : ConfigResource},
    setKwargs t items r = .ok r' → r'.name = r.name
  | [], _, h => by cases h; rfl
  | (k, v) :: kvs, r, h => by
    cases hk : configPropMap.get? k with
    | none => simp [setKwargs, hk] at h
    | some c => simp only [setKwargs, hk] at h; simpa using setKwargs_name h

/-- A configuration no key of the items maps to keeps its value. -/
theorem setKwargs_frame {c : String} : ∀ {items : List (String × Int)} {r : ConfigResource},
    setKwargs t items r = .ok r' → (∀ kv ∈ items, configPropMap.get? kv.1 ≠ some c) →
      r'.configs.get? c = r.configs.get? c
  | [], _, h, _ => by cases h; rfl
  | (k, v) :: kvs, r, h, hc => by
    cases hk : configPropMap.get? k with
    | none => simp [setKwargs, hk] at h
    | some c' =>
      simp only [setKwargs, hk] at h
      have hne : c ≠ c' := fun e => hc (k, v) (List.mem_cons_self _ _) (e ▸ hk)
      rw [setKwargs_frame h fun kv hkv => hc kv (List.mem_cons_of_mem _ hkv)]
      simp [hne]

/-- Every value the resource ends with was set from an item or was there before. -/
theorem setKwargs_source {c : String} {v : Int} : ∀ {items : List (String × Int)} {r : ConfigResource},
    setKwargs t items r = .ok r' → r'.configs.get? c = some v →
      (∃ k, configPropMap.get? k = some c ∧ (k, v) ∈ items) ∨ r.configs.get? c = some v
  | [], _, h, hv => by cases h; exact .inr hv
  | (k, w) :: kvs, r, h, hv => by
    cases hk : configPropMap.get? k with
    | none => simp [setKwargs, hk] at h
    | some c' =>
      simp only [setKwargs, hk] at h
      rcases setKwargs_source h hv with ⟨k', hk', hmem⟩ | hv'
      · exact .inl ⟨k', hk', List.mem_cons_of_mem _ hmem⟩
      · by_cases he : c = c'
        · subst he
          simp only [ConfigResource.setConfig_get?, if_true, Option.some.injEq] at hv'
          exact .inl ⟨k, hk, hv' ▸ List.mem_cons_self _ _⟩
        · exact .inr (by simpa [he] using hv')

/-- With distinct keys, every item's value ends up under the configuration its key maps to. -/
theorem setKwargs_hit {k c : String} {v : Int} : ∀ {items : List (String × Int)} {r : ConfigResource},
    setKwargs t items r = .ok r' → (items.map Prod.fst).Nodup → (k, v) ∈ items →
      configPropMap.get? k = some c → r'.configs.get? c = some v
  | [], _, _, _, hmem, _ => by simp at hmem
  | (k₀, v₀) :: kvs, r, h, hnd, hmem, hkc => by
    cases hk : configPropMap.get? k₀ with
    | none => simp [setKwargs, hk] at h
    | some c₀ =>
      simp only [setKwargs, hk] at h
      simp only [List.map_cons, List.nodup_cons] at hnd
      rcases List.mem_cons.1 hmem with he | hmem
      · cases he
        rw [hkc] at hk; cases hk
        rw [setKwargs_frame h fun kv hkv hkv' => hnd.1 (by
          rw [← configPropMap_injective hkv' hkc]; exact List.mem_map_of_mem _ hkv)]
        simp
      · exact setKwargs_hit h hnd.2 hmem hkc

/-- A key outside `_config_prop_map` makes the loop raise `EINVAL`, from any resource. -/
theorem setKwargs_of_invalid : ∀ {items : List (String × Int)},
    (∃ kv ∈ items, configPropMap.get? kv.1 = none) →
      ∃ key, ∀ r, setKwargs t items r = .error (invalidConfiguration key t)
  | [], ⟨_, hmem, _⟩ => by simp at hmem
  | (k, v) :: kvs, ⟨kv, hmem, hkv⟩ => by
    cases hk : configPropMap.get? k with
    | none => exact ⟨k, fun r => by simp [setKwargs, hk]⟩
    | some c =>
      have hmem : kv ∈ kvs := by
        rcases List.mem_cons.1 hmem with rfl | hmem
        · simp [hk] at hkv
        · exact hmem
      obtain ⟨key, hkey⟩ := setKwargs_of_invalid ⟨kv, hmem, hkv⟩
      exact ⟨key, fun r => by simp [setKwargs, hk, hkey]⟩

/-- From a resource whose configuration came from the items, the loop ends with exactly the
image of the items. -/
theorem setKwargs_mappedFrom {items : List (String × Int)} {r : ConfigResource} (hnd : (items.map Prod.fst).Nodup)
    (h : setKwargs t items r = .ok r')
    (hr : ∀ c v, r.configs.get? c = some v → ∃ k, configPropMap.get? k = some c ∧ (k, v) ∈ items) :
    MappedFrom items r'.configs := fun c v =>
  ⟨fun hv => (setKwargs_source h hv).elim id (hr c v),
    fun ⟨_, hk, hmem⟩ => setKwargs_hit h hnd hmem hk⟩

end SetKwargs

/-- The `ERR_OP_FAILED` of `_configure_message_type`. -/
def configureFailed (admin : Handle) (messageType : String) (r : ConfigResource) : PyError :=
  mbe .errOpFailed
    "Updating message type expire time by alter_configs() for resource %s failed using admin%s for message type %s"
    [.resource r, .client admin, .str messageType]

/-- The keys `set_message_type_expire` requires. -/
def expiryKeys : List String := ["expire_time_ms", "data_limit_bytes"]

namespace KafkaMessageBroker

/-- `_configure_message_type(admin_id, message_type, **kwargs)` against `cluster`, given the
answer of `list_topics()` and of the successive `alter_configs()` calls for a topic the broker
holds. -/
def configureMessageType (s : KafkaMessageBroker) (cluster : Cluster) (topics : Except String Metadata)
    (alterResult : Nat → Except String (Option String)) (adminId messageType : String) (kwargs : Dict String Int) :
    Run Nat :=
  match s.client .admin adminId with
  | .error e => ⟨s, [], .error e⟩
  | .ok admin =>
    let listed := s.listMessageTypes topics adminId
    match listed.result with
    | .error e => ⟨s, listed.calls, .error e⟩
    | .ok names =>
      if messageType ∉ names then
        ⟨s, listed.calls, .error (mbe .enoent "Unknown Message type: not listed in %s" [.strs names])⟩
      else
        let tuned := alterRetry (setKwargs messageType kwargs.items)
          (configureFailed admin messageType) (cluster.alterAnswer alterResult messageType)
          (List.range maxConfigRetryCount) ⟨messageType, .empty⟩ 0
        ⟨s, listed.calls ++ tuned.calls, tuned.result.map fun _ => 0⟩

@[simp] theorem configureMessageType_self (s : KafkaMessageBroker) (cluster : Cluster) (topics : Except String Metadata)
    (alterResult : Nat → Except String (Option String)) (adminId messageType : String) (kwargs : Dict String Int) :
    (s.configureMessageType cluster topics alterResult adminId messageType kwargs).self = s := by
  unfold configureMessageType; split
  · rfl
  · dsimp only; split <;> (try split) <;> rfl

/-- `set_message_type_expire(admin_id, message_type, **kwargs)`. -/
def setMessageTypeExpire (s : KafkaMessageBroker) (cluster : Cluster) (topics : Except String Metadata)
    (alterResult : Nat → Except String (Option String)) (adminId messageType : String) (kwargs : Dict String Int) :
    Run Nat :=
  match expiryKeys.find? (· ∉ kwargs.keys) with
  | some key => ⟨s, [], .error (mbe .einval "Invalid message_type retention config key %s." [.str key])⟩
  | none => s.configureMessageType cluster topics alterResult adminId messageType (kwargs.set "file_delete_ms" 1)

@[simp] theorem setMessageTypeExpire_self (s : KafkaMessageBroker) (cluster : Cluster) (topics : Except String Metadata)
    (alterResult : Nat → Except String (Option String)) (adminId messageType : String) (kwargs : Dict String Int) :
    (s.setMessageTypeExpire cluster topics alterResult adminId messageType kwargs).self = s := by
  unfold setMessageTypeExpire; split <;> simp

theorem configureMessageType_of_listed (s : KafkaMessageBroker) (cluster : Cluster) {topics : Except String Metadata}
    (alterResult : Nat → Except String (Option String)) {adminId t : String} {admin : Handle}
    (ha : s.client .admin adminId = .ok admin) {m : Metadata} (hm : topics = .ok m) (kwargs : Dict String Int) :
    s.configureMessageType cluster topics alterResult adminId t kwargs =
      if t ∉ m.keys then
        ⟨s, [.listTopics], .error (mbe .enoent "Unknown Message type: not listed in %s" [.strs m.keys])⟩
      else
        ⟨s, .listTopics :: (alterRetry (setKwargs t kwargs.items) (configureFailed admin t)
            (cluster.alterAnswer alterResult t) (List.range maxConfigRetryCount) ⟨t, .empty⟩ 0).calls,
          (alterRetry (setKwargs t kwargs.items) (configureFailed admin t)
            (cluster.alterAnswer alterResult t) (List.range maxConfigRetryCount) ⟨t, .empty⟩ 0).result.map
              fun _ => 0⟩ := by
  simp only [configureMessageType, listMessageTypes, ha, hm, getMetadata, Except.map]
  split <;> rfl

/-- Every `alter_configs` of `_configure_message_type` is one of its retry loop's. -/
theorem mem_configureMessageType_calls {s : KafkaMessageBroker} {cluster : Cluster} {topics : Except String Metadata}
    {alterResult : Nat → Except String (Option String)} {adminId t : String} {kwargs : Dict String Int}
    {r : ConfigResource} {b : Bool}
    (hx : .alterConfigs r b ∈ (s.configureMessageType cluster topics alterResult adminId t kwargs).calls) :
    ∃ admin, .alterConfigs r b ∈ (alterRetry (setKwargs t kwargs.items) (configureFailed admin t)
      (cluster.alterAnswer alterResult t) (List.range maxConfigRetryCount) ⟨t, .empty⟩ 0).calls := by
  cases ha : s.client .admin adminId with
  | error e => simp [configureMessageType, ha] at hx
  | ok admin =>
    refine ⟨admin, ?_⟩
    cases topics with
    | error e => simp [configureMessageType, listMessageTypes, ha, getMetadata, Except.map] at hx
    | ok m =>
      rw [configureMessageType_of_listed s cluster alterResult ha rfl] at hx
      split at hx
      · simp at hx
      · simpa using hx

section Configure

variable (s : KafkaMessageBroker) (cluster : Cluster) {topics : Except String Metadata}
  (alterResult : Nat → Except String (Option String)) {adminId t : String} {kwargs : Dict String Int}

/-- A topic missing from the `list_topics()` answer: no submission, and `ENOENT` once the
admin lookup succeeds. -/
theorem configureMessageType_of_unlisted {m : Metadata} (hm : topics = .ok m) (ht : t ∉ m.keys) :
    (∀ r b, .alterConfigs r b ∉ (s.configureMessageType cluster topics alterResult adminId t kwargs).calls) ∧
    (adminId ∈ s.clients.admin.keys →
      (s.configureMessageType cluster topics alterResult adminId t kwargs).result =
        .error (mbe .enoent "Unknown Message type: not listed in %s" [.strs m.keys])) := by
  cases ha : s.client .admin adminId with
  | error e =>
    refine ⟨by simp [configureMessageType, ha], fun hadmin => ?_⟩
    obtain ⟨_, ha'⟩ := @client_of_mem s .admin adminId hadmin
    simp [ha] at ha'
  | ok admin =>
    rw [configureMessageType_of_listed s cluster alterResult ha hm, if_pos ht]
    exact ⟨by simp, fun _ => rfl⟩

/-- A key outside `_config_prop_map`: no submission, and `EINVAL` for a listed topic once the
admin lookup succeeds. -/
theorem configureMessageType_of_invalid_key {k : String} (hk : k ∈ kwargs.keys)
    (hkmap : k ∉ configPropMap.keys) :
    (∀ r b, .alterConfigs r b ∉ (s.configureMessageType cluster topics alterResult adminId t kwargs).calls) ∧
    (adminId ∈ s.clients.admin.keys → ∀ m, topics = .ok m → t ∈ m.keys →
      ∃ key, (s.configureMessageType cluster topics alterResult adminId t kwargs).result =
        .error (invalidConfiguration key t)) := by
  obtain ⟨v, hkv⟩ : ∃ v, (k, v) ∈ kwargs.items := by simpa [Dict.keys] using hk
  have hnone : configPropMap.get? k = none := by
    simpa [Dict.mem_keys_iff_get?_isSome] using hkmap
  obtain ⟨key, hkey⟩ := @setKwargs_of_invalid t kwargs.items ⟨(k, v), hkv, hnone⟩
  have hloop : ∀ admin, alterRetry (setKwargs t kwargs.items) (configureFailed admin t)
      (cluster.alterAnswer alterResult t) (List.range maxConfigRetryCount) ⟨t, .empty⟩ 0 =
        ⟨[], ⟨t, .empty⟩, .error (invalidConfiguration key t)⟩ :=
    fun admin => alterRetry_of_prepare_error hkey _ 0
  refine ⟨fun r b hx => ?_, fun hadmin m hm ht => ⟨key, ?_⟩⟩
  · obtain ⟨admin, hx⟩ := mem_configureMessageType_calls hx
    simp [hloop] at hx
  · obtain ⟨admin, ha⟩ := @client_of_mem s .admin adminId hadmin
    rw [configureMessageType_of_listed s cluster alterResult ha hm, if_neg (not_not.2 ht), hloop]
    rfl

/-- Every submitted resource is one for the topic, configured with exactly the image of the
keyword arguments. -/
theorem configureMessageType_submits_mappedFrom {r : ConfigResource} {b : Bool}
    (hx : .alterConfigs r b ∈ (s.configureMessageType cluster topics alterResult adminId t kwargs).calls) :
    r.name = t ∧ MappedFrom kwargs.items r.configs := by
  obtain ⟨admin, hx⟩ := mem_configureMessageType_calls hx
  obtain ⟨hcalls, -⟩ := alterRetry_submits
    (fun r => r.name = t ∧ ∀ c v, r.configs.get? c = some v →
      ∃ k, configPropMap.get? k = some c ∧ (k, v) ∈ kwargs.items)
    (fun r => r.name = t ∧ MappedFrom kwargs.items r.configs)
    (fun r₀ r' ⟨hname, hsrc⟩ hr =>
      have himg := setKwargs_mappedFrom kwargs.nodup_keys hr hsrc
      ⟨⟨(setKwargs_name hr).trans hname, fun c v hv => (himg c v).1 hv⟩,
        (setKwargs_name hr).trans hname, himg⟩)
    (List.range maxConfigRetryCount) ⟨t, .empty⟩ 0 ⟨rfl, by simp⟩
  obtain ⟨_, _, he, hP⟩ := hcalls _ hx
  cases he
  exact hP

theorem setMessageTypeExpire_of_expiryKeys (hkeys : ∀ key ∈ expiryKeys, key ∈ kwargs.keys) :
    s.setMessageTypeExpire cluster topics alterResult adminId t kwargs =
      s.configureMessageType cluster topics alterResult adminId t (kwargs.set "file_delete_ms" 1) := by
  have hfind : expiryKeys.find? (fun key => decide (key ∉ kwargs.keys)) = none :=
    List.find?_eq_none.2 fun key hkey => by simpa using hkeys key hkey
  simp only [setMessageTypeExpire, hfind]

theorem setMessageTypeExpire_of_missing_key (hmiss : ∃ key ∈ expiryKeys, key ∉ kwargs.keys) :
    (s.setMessageTypeExpire cluster topics alterResult adminId t kwargs).calls = [] ∧
    ∃ key, (s.setMessageTypeExpire cluster topics alterResult adminId t kwargs).result =
      .error (mbe .einval "Invalid message_type retention config key %s." [.str key]) := by
  obtain ⟨key, hkey, hmissing⟩ := hmiss
  cases hfind : expiryKeys.find? (fun key => decide (key ∉ kwargs.keys)) with
  | none => exact absurd (by simpa using List.find?_eq_none.1 hfind key hkey) hmissing
  | some key' => simp only [setMessageTypeExpire, hfind]; exact ⟨trivial, key', rfl⟩

/-- `_configure_message_type` only lists the topics and submits configurations. -/
theorem configureMessageType_calls_shape {x : Call}
    (hx : x ∈ (s.configureMessageType cluster topics alterResult adminId t kwargs).calls) :
    x = .listTopics ∨ ∃ r b, x = .alterConfigs r b := by
  cases ha : s.client .admin adminId with
  | error e => simp [configureMessageType, ha] at hx
  | ok admin =>
    cases topics with
    | error e =>
      simp only [configureMessageType, listMessageTypes, ha, getMetadata, Except.map] at hx
      exact .inl (List.mem_singleton.1 hx)
    | ok m =>
      rw [configureMessageType_of_listed s cluster alterResult ha rfl] at hx
      split at hx
      · exact .inl (List.mem_singleton.1 hx)
      · rcases List.mem_cons.1 hx with rfl | hx
        · exact .inl rfl
        · obtain ⟨r, b, rfl, -⟩ := (alterRetry_submits (fun _ => True) (fun _ => True)
            (fun _ _ _ _ => ⟨trivial, trivial⟩) _ _ 0 trivial).1 x hx
          exact .inr ⟨r, b, rfl⟩

/-- `set_message_type_expire` touches no topic but its `message_type`. -/
theorem setMessageTypeExpire_touched :
    ∀ x ∈ (s.setMessageTypeExpire cluster topics alterResult adminId t kwargs).calls, ∀ u ∈ x.touched, u = t := by
  intro x hx u hu
  by_cases hkeys : ∀ key ∈ expiryKeys, key ∈ kwargs.keys
  · rw [setMessageTypeExpire_of_expiryKeys s cluster alterResult hkeys] at hx
    rcases configureMessageType_calls_shape s cluster alterResult hx with rfl | ⟨r, b, rfl⟩
    · cases hu
    · cases b
      · cases hu
      · rw [List.mem_singleton.1 hu]
        exact (configureMessageType_submits_mappedFrom s cluster alterResult hx).1
  · push_neg at hkeys
    rw [(setMessageTypeExpire_of_missing_key s cluster alterResult hkeys).1] at hx
    cases hx

/-- A `_configure_message_type` that raises changed no configuration: every submission it
made was refused. -/
theorem configureMessageType_error_keeps_cluster (c : Cluster) {e : PyError}
    (h : (s.configureMessageType cluster topics alterResult adminId t kwargs).result = .error e) :
    c.applyAll (s.configureMessageType cluster topics alterResult adminId t kwargs).calls = c := by
  cases ha : s.client .admin adminId with
  | error e' => simp [configureMessageType, ha]
  | ok admin =>
    cases topics with
    | error e' => simp [configureMessageType, listMessageTypes, ha, getMetadata, Except.map]; rfl
    | ok m =>
      rw [configureMessageType_of_listed s cluster alterResult ha rfl] at h ⊢
      by_cases ht : t ∉ m.keys
      · simp only [ht, if_true]; rfl
      · simp only [ht, if_false] at h ⊢
        cases hr : (alterRetry (setKwargs t kwargs.items) (configureFailed admin t)
            (cluster.alterAnswer alterResult t) (List.range maxConfigRetryCount) ⟨t, .empty⟩ 0).result with
        | ok k => simp [hr, Except.map] at h
        | error e' => simpa using alterRetry_error_keeps_cluster c hr

theorem setMessageTypeExpire_error_keeps_cluster (c : Cluster) {e : PyError}
    (h : (s.setMessageTypeExpire cluster topics alterResult adminId t kwargs).result = .error e) :
    c.applyAll (s.setMessageTypeExpire cluster topics alterResult adminId t kwargs).calls = c := by
  by_cases hkeys : ∀ key ∈ expiryKeys, key ∈ kwargs.keys
  · rw [setMessageTypeExpire_of_expiryKeys s cluster alterResult hkeys] at h ⊢
    exact configureMessageType_error_keeps_cluster s cluster alterResult c h
  · push_neg at hkeys
    rw [(setMessageTypeExpire_of_missing_key s cluster alterResult hkeys).1]
    rfl

end Configure

/-- What `_configure_message_type` submits, and when it submits nothing.  For every topic and
every keyword mapping: a topic missing from the `list_topics()` answer, or a key outside
`_config_prop_map`, means no `alter_configs` at all (with `ENOENT`, resp. `EINVAL`); every
submitted resource is one for the topic whose configuration is exactly the image of the
mapping; and `set_message_type_expire` reaches it only with both expiry keys, adding
`file_delete_ms = 1`. -/
theorem configureMessageType_submits_image (s : KafkaMessageBroker) (cluster : Cluster)
    (topics : Except String Metadata)
    (alterResult : Nat → Except String (Option String)) (adminId t : String) (kwargs : Dict String Int) :
    (∀ m, topics = .ok m → t ∉ m.keys →
      (∀ r b, .alterConfigs r b ∉ (s.configureMessageType cluster topics alterResult adminId t kwargs).calls) ∧
      (adminId ∈ s.clients.admin.keys →
        (s.configureMessageType cluster topics alterResult adminId t kwargs).result =
          .error (mbe .enoent "Unknown Message type: not listed in %s" [.strs m.keys]))) ∧
    (∀ k ∈ kwargs.keys, k ∉ configPropMap.keys →
      (∀ r b, .alterConfigs r b ∉ (s.configureMessageType cluster topics alterResult adminId t kwargs).calls) ∧
      (adminId ∈ s.clients.admin.keys → ∀ m, topics = .ok m → t ∈ m.keys →
        ∃ key, (s.configureMessageType cluster topics alterResult adminId t kwargs).result =
          .error (invalidConfiguration key t))) ∧
    (∀ r b, .alterConfigs r b ∈ (s.configureMessageType cluster topics alterResult adminId t kwargs).calls →
      r.name = t ∧ MappedFrom kwargs.items r.configs) ∧
    ((∀ key ∈ expiryKeys, key ∈ kwargs.keys) →
      s.setMessageTypeExpire cluster topics alterResult adminId t kwargs =
        s.configureMessageType cluster topics alterResult adminId t (kwargs.set "file_delete_ms" 1)) ∧
    ((∃ key ∈ expiryKeys, key ∉ kwargs.keys) →
      (s.setMessageTypeExpire cluster topics alterResult adminId t kwargs).calls = [] ∧
      ∃ key, (s.setMessageTypeExpire cluster topics alterResult adminId t kwargs).result =
        .error (mbe .einval "Invalid message_type retention config key %s." [.str key])) :=
  ⟨fun _ hm ht => configureMessageType_of_unlisted s cluster alterResult hm ht,
    fun _ hk hkmap => configureMessageType_of_invalid_key s cluster alterResult hk hkmap,
    fun _ _ hx => configureMessageType_submits_mappedFrom s cluster alterResult hx,
    setMessageTypeExpire_of_expiryKeys s cluster alterResult,
    setMessageTypeExpire_of_missing_key s cluster alterResult⟩

/-- With an admin registered and the topic listed and held by the broker: a key outside
`_config_prop_map` stops the call before any `alter_configs`, and `expire_time_ms = 5` alone is
submitted as the resource with `retention.ms = 5` alone, its image under the map. -/
theorem configureMessageType_on_unknown_and_valid_keys :
    let s := (init ⟨"kafka:9092", 2, 15000, 5000⟩).register .admin "a"
      { bootstrapServers := "kafka:9092", clientId := "a", errorCb := true,
        socketTimeoutMs := some 15000 } []
    let c := Cluster.ofTopics (Dict.empty.set "t" .empty)
    ("retention" ∈ (Dict.empty.set "retention" 5 : Dict String Int).keys ∧
      "retention" ∉ configPropMap.keys ∧
      ∀ r b, .alterConfigs r b ∉ (s.configureMessageType c (.ok (Dict.empty.set "t" 1))
        (fun _ => .ok none) "a" "t" (Dict.empty.set "retention" 5)).calls) ∧
    .alterConfigs ⟨"t", Dict.empty.set "retention.ms" 5⟩ true ∈ (s.configureMessageType c
      (.ok (Dict.empty.set "t" 1)) (fun _ => .ok none) "a" "t" (Dict.empty.set "expire_time_ms" 5)).calls ∧
    "t" = "t" ∧ MappedFrom (Dict.empty.set "expire_time_ms" 5).items (Dict.empty.set "retention.ms" 5) := by
  intro s c
  have hx : .alterConfigs ⟨"t", Dict.empty.set "retention.ms" 5⟩ true ∈ (s.configureMessageType c
      (.ok (Dict.empty.set "t" 1)) (fun _ => .ok none) "a" "t" (Dict.empty.set "expire_time_ms" 5)).calls := by
    decide
  exact ⟨⟨by decide, by decide, ((configureMessageType_submits_image s c _ (fun _ => .ok none) "a" "t"
      (Dict.empty.set "retention" 5)).2.1 "retention" (by decide) (by decide)).1⟩,
    hx, (configureMessageType_submits_image s c _ (fun _ => .ok none) "a" "t"
      (Dict.empty.set "expire_time_ms" 5)).2.2.1 _ _ hx⟩

end KafkaMessageBroker

end CortxMessageBus
