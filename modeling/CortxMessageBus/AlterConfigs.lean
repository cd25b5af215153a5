import CortxMessageBus.Broker

/-!
# The `alter_configs` retry loop

Both phases of `delete` and `_configure_message_type` run the same loop over
`range(self._max_config_retry_count)`: put the configuration on a `ConfigResource` with
`set_config`, submit it with `alter_configs`, stop at the first answer whose `result()` is
`None`, and raise once an attempt numbered 2 or more is answered otherwise.  A `result()` that
raises `KafkaException` is not caught, and ends the loop with it.  `alterRetry` is that loop,
with the `set_config` step (which may raise) and the error as parameters.

Three facts about it serve every caller: each submitted resource is one the `set_config`
step produced (`alterRetry_submits`); a loop that raised submitted nothing the cluster
accepted (`alterRetry_error_keeps_cluster`); and a loop that returned normally ended with one
accepted submission of its final resource (`alterRetry_ok_calls`).
-/

namespace CortxMessageBus

/-- What one `alter_configs` retry loop leaves: the calls, the resource as its last
`set_config` left it, and the index of the next unread `alter_configs` answer. -/
structure AlterRun where
  calls : List Call
  resource : ConfigResource
  result : Except PyError Nat

/-- `for tuned_retry in retries:` prepare the resource, submit it, and read the `j`-th
answer's `result()`: `.ok none` when it is `None`, which ends the loop with the submission
accepted; `.ok (some v)` for another value, which the attempt numbered 2 or more answers by
raising `failed`; `.error e` when it raises `KafkaException(e)`. -/
def alterRetry (prepare : ConfigResource → Except PyError ConfigResource)
    (failed : ConfigResource → PyError) (alterResult : Nat → Except String (Option String)) :
    List Nat → ConfigResource → Nat → AlterRun
  | [], r, j => ⟨[], r, .ok j⟩
  | tunedRetry :: retries, r, j =>
    match prepare r with
    | .error e => ⟨[], r, .error e⟩
    | .ok r' =>
      match alterResult j with
      | .error e => ⟨[.alterConfigs r' false], r', .error (.kafkaException e)⟩
      | .ok none => ⟨[.alterConfigs r' true], r', .ok (j + 1)⟩
      | .ok (some _) =>
        if 1 < tunedRetry then ⟨[.alterConfigs r' false], r', .error (failed r')⟩
        else
          let rest := alterRetry prepare failed alterResult retries r' (j + 1)
          ⟨.alterConfigs r' false :: rest.calls, rest.resource, rest.result⟩

section Loop

variable {prepare : ConfigResource → Except PyError ConfigResource}
  {failed : ConfigResource → PyError} {alterResult : Nat → Except String (Option String)}

/-- Every resource the loop submits, and the one it ends with, satisfies `P` when the
`set_config` step keeps `Q` and produces `P`, starting from a resource with `Q`. -/
theorem alterRetry_submits (Q P : ConfigResource → Prop)
    (hprep : ∀ r r', Q r → prepare r = .ok r' → Q r' ∧ P r') :
    ∀ (retries : List Nat) (r : ConfigResource) (j : Nat), Q r →
      (∀ x ∈ (alterRetry prepare failed alterResult retries r j).calls,
        ∃ r' b, x = .alterConfigs r' b ∧ P r') ∧
      Q (alterRetry prepare failed alterResult retries r j).resource := by
  apply alterRetry.induct prepare failed alterResult
  · intro r j hq; exact ⟨by simp [alterRetry], hq⟩
  · intro n ns r j e hr hq; simp [alterRetry, hr, hq]
  · intro n ns r j r' hr e ha hq
    obtain ⟨hq', hp'⟩ := hprep r r' hq hr
    simpa [alterRetry, hr, ha] using ⟨hp', hq'⟩
  · intro n ns r j r' hr ha hq
    obtain ⟨hq', hp'⟩ := hprep r r' hq hr
    simpa [alterRetry, hr, ha] using ⟨hp', hq'⟩
  · intro n ns r j r' hr m ha hn hq
    obtain ⟨hq', hp'⟩ := hprep r r' hq hr
    simpa [alterRetry, hr, ha, hn] using ⟨hp', hq'⟩
  · intro n ns r j r' hr m ha hn ih hq
    obtain ⟨hq', hp'⟩ := hprep r r' hq hr
    obtain ⟨hcalls, hres⟩ := ih hq'
    simp only [alterRetry, hr, ha, hn, if_false, List.mem_cons, forall_eq_or_imp]
    exact ⟨⟨⟨_, _, rfl, hp'⟩, hcalls⟩, hres⟩

/-- A loop that raised made only refused submissions. -/
theorem alterRetry_error_refused :
    ∀ (retries : List Nat) (r : ConfigResource) (j : Nat) (e : PyError),
      (alterRetry prepare failed alterResult retries r j).result = .error e →
      ∀ x ∈ (alterRetry prepare failed alterResult retries r j).calls, ∃ r', x = .alterConfigs r' false := by
  apply alterRetry.induct prepare failed alterResult
  · intro r j e h; simp [alterRetry] at h
  · intro n ns r j e' hr e _; simp [alterRetry, hr]
  · intro n ns r j r' hr e' ha e _; simp [alterRetry, hr, ha]
  · intro n ns r j r' hr ha e h; simp [alterRetry, hr, ha] at h
  · intro n ns r j r' hr m ha hn e _; simp [alterRetry, hr, ha, hn]
  · intro n ns r j r' hr m ha hn ih e h
    simp only [alterRetry, hr, ha, hn, if_false, List.mem_cons] at h ⊢
    rintro x (rfl | hx)
    · exact ⟨_, rfl⟩
    · exact ih e h x hx

/-- A loop raises what its `set_config` step raised, its own error, or the `KafkaException`
of a `result()`. -/
theorem alterRetry_error_cases :
    ∀ (retries : List Nat) (r : ConfigResource) (j : Nat) (e : PyError),
      (alterRetry prepare failed alterResult retries r j).result = .error e →
      (∃ r₀, prepare r₀ = .error e) ∨ (∃ r', e = failed r') ∨ ∃ k, e = .kafkaException k := by
  apply alterRetry.induct prepare failed alterResult
  · intro r j e h; simp [alterRetry] at h
  · intro n ns r j e' hr e h
    simp only [alterRetry, hr, Except.error.injEq] at h
    exact .inl ⟨r, h ▸ hr⟩
  · intro n ns r j r' hr k ha e h
    simp only [alterRetry, hr, ha, Except.error.injEq] at h
    exact .inr (.inr ⟨k, h.symm⟩)
  · intro n ns r j r' hr ha e h; simp [alterRetry, hr, ha] at h
  · intro n ns r j r' hr m ha hn e h
    simp only [alterRetry, hr, ha, hn, if_true, Except.error.injEq] at h
    exact .inr (.inl ⟨r', h.symm⟩)
  · intro n ns r j r' hr m ha hn ih e h
    simp only [alterRetry, hr, ha, hn, if_false] at h
    exact ih e h

theorem alterRetry_error_keeps_cluster (c : Cluster) {retries : List Nat} {r : ConfigResource}
    {j : Nat} {e : PyError} (h : (alterRetry prepare failed alterResult retries r j).result = .error e) :
    c.applyAll (alterRetry prepare failed alterResult retries r j).calls = c :=
  Cluster.applyAll_of_untouched fun x hx => by
    obtain ⟨r', rfl⟩ := alterRetry_error_refused retries r j e h x hx
    rfl

/-- A broker that answers every submission with an error makes the loop raise. -/
theorem alterRetry_of_refusing {e : String} (h : ∀ j, alterResult j = .error e) (n : Nat)
    (retries : List Nat) (r : ConfigResource) (j : Nat) :
    ∃ e', (alterRetry prepare failed alterResult (n :: retries) r j).result = .error e' := by
  unfold alterRetry
  cases prepare r <;> simp [h]

/-- A loop over at least one retry that returned normally submitted a resource for a topic
the broker holds. -/
theorem alterRetry_ok_mem_topics {c : Cluster} {topic : String} {n : Nat} {retries : List Nat}
    {r : ConfigResource} {j j' : Nat}
    (h : (alterRetry prepare failed (c.alterAnswer alterResult topic) (n :: retries) r j).result = .ok j') :
    topic ∈ c.topics.keys := by
  by_contra hmiss
  obtain ⟨e, he⟩ := @alterRetry_of_refusing prepare failed (c.alterAnswer alterResult topic)
    unknownTopicOrPart (fun i => by simp [Cluster.alterAnswer, hmiss]) n retries r j
  rw [he] at h
  cases h

/-- A loop whose last retry is numbered 2 or more can only return normally through an accepted
submission of its final resource, after refused ones. -/
theorem alterRetry_ok_calls :
    ∀ (retries : List Nat) (r : ConfigResource) (j j' : Nat),
      (∃ n, retries.getLast? = some n ∧ 1 < n) →
      (alterRetry prepare failed alterResult retries r j).result = .ok j' →
      ∃ refused : List ConfigResource,
        (alterRetry prepare failed alterResult retries r j).calls =
          refused.map (.alterConfigs · false) ++
            [.alterConfigs (alterRetry prepare failed alterResult retries r j).resource true] := by
  apply alterRetry.induct prepare failed alterResult
  · intro r j j' ⟨_, hn, _⟩; simp at hn
  · intro n ns r j e hr j' _ h; simp [alterRetry, hr] at h
  · intro n ns r j r' hr e ha j' _ h; simp [alterRetry, hr, ha] at h
  · intro n ns r j r' hr ha j' _ _; exact ⟨[], by simp [alterRetry, hr, ha]⟩
  · intro n ns r j r' hr m ha hn j' _ h; simp [alterRetry, hr, ha, hn] at h
  · intro n ns r j r' hr m ha hn ih j' ⟨k, hk, hk1⟩ h
    simp only [alterRetry, hr, ha, hn, if_false] at h ⊢
    have hns : ∃ m, ns.getLast? = some m ∧ 1 < m := by
      cases ns with
      | nil => simp at hk; omega
      | cons k' ks => exact ⟨k, by simpa [List.getLast?_cons] using hk, hk1⟩
    obtain ⟨refused, hr'⟩ := ih j' hns h
    exact ⟨r' :: refused, by simp [hr']⟩

/-- The cluster after refused submissions and one accepted one. -/
theorem applyAll_refused_accepted (c : Cluster) (refused : List ConfigResource)
    (r : ConfigResource) :
    c.applyAll (refused.map (.alterConfigs · false) ++ [.alterConfigs r true]) = c.alter r := by
  rw [Cluster.applyAll_append, Cluster.applyAll_of_untouched
    (by simp [List.mem_map, Call.touched] :
    ∀ x ∈ refused.map (Call.alterConfigs · false), x.touched = [])]
  rfl

/-- A `set_config` step that always raises makes the loop raise before any submission. -/
theorem alterRetry_of_prepare_error {e : PyError} (h : ∀ r, prepare r = .error e) {n : Nat}
    {retries : List Nat} (r : ConfigResource) (j : Nat) :
    alterRetry prepare failed alterResult (n :: retries) r j = ⟨[], r, .error e⟩ := by
  simp [alterRetry, h]

/-- The cluster after a loop that returned normally: its final resource's configuration. -/
theorem alterRetry_ok_applyAll (c : Cluster) {retries : List Nat} {r : ConfigResource} {j j' : Nat}
    (hlast : ∃ n, retries.getLast? = some n ∧ 1 < n)
    (h : (alterRetry prepare failed alterResult retries r j).result = .ok j') :
    c.applyAll (alterRetry prepare failed alterResult retries r j).calls =
        c.alter (alterRetry prepare failed alterResult retries r j).resource ∧
      .alterConfigs (alterRetry prepare failed alterResult retries r j).resource true ∈
        (alterRetry prepare failed alterResult retries r j).calls := by
  obtain ⟨refused, hc⟩ := alterRetry_ok_calls retries r j j' hlast h
  rw [hc]
  exact ⟨applyAll_refused_accepted c refused _, List.mem_append_right _ (List.mem_singleton_self _)⟩

end Loop

end CortxMessageBus
