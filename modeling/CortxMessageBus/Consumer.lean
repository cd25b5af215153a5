import CortxMessageBus.Callbacks

/-!
# The consumer adapter

`receive(consumer_id, timeout)` polls its consumer in a `while True` loop.  A `None` timeout
means the configured `receive_timeout`, and so does a timeout of `0`, which also makes the
loop blocking: a poll that returns no message is then skipped, where otherwise it makes
`receive` return `None`.  While it waits, a poll serves the errors the consumer reports to
`_error_cb`, which raises when all brokers are down, and a `KeyboardInterrupt` raised during a
poll becomes `EINTR`.  What each poll does is the broker's, so the outcomes are an input, and
the loop runs on fuel.

`receiveOutcome` states, from the method's description and not from the loop, what the poll
that ends the wait makes `receive` return or raise.  What decides between one poll and a
blocking wait is the timeout after the `None` default is applied, not the argument.
-/

namespace CortxMessageBus

/-- What `consumer.poll(timeout)` returns: no message, a message whose `error()` is set, or a
message and its `value()`, which is `None` for a record without a value. -/
inductive PollReturn
  | none
  | error (err : KafkaError)
  | message (value : Option (List UInt8))
  deriving DecidableEq

/-- How a poll ends: it returns, or a `KeyboardInterrupt` is raised while it waits. -/
inductive PollEnd
  | returned (r : PollReturn)
  | interrupted
  deriving DecidableEq

/-- One poll: the errors the consumer reports to `error_cb` while it waits, in order, and how
it ends. -/
structure PollOutcome where
  errors : List KafkaError
  ending : PollEnd
  deriving DecidableEq

/-- `consumer.poll(timeout)` by a consumer built from `conf`: the first reported error whose
callback raises ends it. -/
def PollOutcome.poll (conf : KafkaConf) (o : PollOutcome) : Except PyError PollReturn :=
  match serve conf (o.errors.map .error) with
  | .error e => .error e
  | .ok () =>
    match o.ending with
    | .returned r => .ok r
    | .interrupted => .error .keyboardInterrupt

/-- The `ERR_OP_FAILED` of a poll that returned an error message. -/
def pollFailed (timeout : ℚ) (consumerId : String) (err : KafkaError) : PyError :=
  mbe .errOpFailed "poll(%s) for consumer %s failed to receive message. %s"
    [.seconds timeout, .str consumerId, .kafkaError err]

/-- The `EINTR` the `except KeyboardInterrupt` clause raises. -/
def interrupted (consumerId : String) : PyError :=
  mbe .eintr "Received Keyboard interrupt while trying to receive message for consumer %s"
    [.str consumerId]

/-- `while True:` inside `try: ... except KeyboardInterrupt:`, by a consumer built from
`conf`, from the `i`-th poll and for at most `fuel` polls: the number of polls made and the
result, or `none` while the loop is still running. -/
def receiveLoop (conf : KafkaConf) (consumerId : String) (timeout : ℚ) (blocking : Bool)
    (poll : Nat → PollOutcome) : Nat → Nat → Option (Nat × Except PyError (Option (List UInt8)))
  | 0, _ => none
  | fuel + 1, i =>
    match (poll i).poll conf with
    | .error .keyboardInterrupt => some (i + 1, .error (interrupted consumerId))
    | .error e => some (i + 1, .error e)
    | .ok .none =>
      if blocking then receiveLoop conf consumerId timeout blocking poll fuel (i + 1)
      else some (i + 1, .ok none)
    | .ok (.error err) => some (i + 1, .error (pollFailed timeout consumerId err))
    | .ok (.message value) => some (i + 1, .ok value)

/-- `if timeout is None` then `if timeout == 0`: the timeout the polls use, and whether the
loop blocks. -/
def effectiveTimeout (recvMessageTimeout : ℚ) (timeout : Option ℚ) : ℚ × Bool :=
  if timeout.getD recvMessageTimeout = 0 then (recvMessageTimeout, true)
  else (timeout.getD recvMessageTimeout, false)

namespace KafkaMessageBroker

/-- `receive(consumer_id, timeout)`, given the outcome of each successive poll, for at most
`fuel` polls.  As in `send`, the `consumer is None` guard never fires after the lookup. -/
def receive (s : KafkaMessageBroker) (poll : Nat → PollOutcome) (fuel : Nat) (consumerId : String)
    (timeout : Option ℚ) : Option (Run (Option (List UInt8))) :=
  match s.client .consumer consumerId with
  | .error e => some ⟨s, [], .error e⟩
  | .ok c =>
    let (timeout, blocking) := effectiveTimeout s.recvMessageTimeout timeout
    (receiveLoop c.conf consumerId timeout blocking poll fuel 0).map fun r =>
      ⟨s, List.replicate r.1 (.poll .consumer timeout), r.2⟩

theorem receive_self {s : KafkaMessageBroker} {poll : Nat → PollOutcome} {fuel : Nat}
    {consumerId : String} {timeout : Option ℚ} {r : Run (Option (List UInt8))}
    (h : s.receive poll fuel consumerId timeout = some r) : r.self = s := by
  unfold receive at h
  split at h
  · cases h; rfl
  · obtain ⟨_, _, rfl⟩ := Option.map_eq_some'.1 h; rfl

/-- `receive` only polls. -/
theorem receive_untouched {s : KafkaMessageBroker} {poll : Nat → PollOutcome} {fuel : Nat}
    {consumerId : String} {timeout : Option ℚ} {run : Run (Option (List UInt8))}
    (h : s.receive poll fuel consumerId timeout = some run) : ∀ x ∈ run.calls, x.touched = [] := by
  unfold receive at h
  split at h
  · cases h; simp
  · obtain ⟨_, _, rfl⟩ := Option.map_eq_some'.1 h
    intro x hx
    rw [(List.mem_replicate.1 hx).2]
    rfl

/-- `ack(consumer_id)`: `consumer.commit(async=False)`, a synchronous commit.  (The keyword
argument named `async` is accepted by Python 3.6 and is a syntax error from 3.7 on.) -/
def ack (s : KafkaMessageBroker) (consumerId : String) : Run Unit :=
  match s.client .consumer consumerId with
  | .error e => ⟨s, [], .error e⟩
  | .ok _ => ⟨s, [.commit], .ok ()⟩

@[simp] theorem ack_self (s : KafkaMessageBroker) (consumerId : String) : (s.ack consumerId).self = s := by
  unfold ack; split <;> rfl

theorem ack_untouched (s : KafkaMessageBroker) (consumerId : String) :
    ∀ x ∈ (s.ack consumerId).calls, x.touched = [] := by
  unfold ack; split <;> simp [Call.touched]

end KafkaMessageBroker

/-! ## The law of one poll -/

/-- A poll that keeps a blocking `receive` waiting: it returns no message, and no error it
serves says all brokers are down. -/
def PollOutcome.IsEmpty (o : PollOutcome) : Prop :=
  o.ending = .returned .none ∧ ∀ err ∈ o.errors, err.code ≠ allBrokersDown

instance : DecidablePred PollOutcome.IsEmpty := fun o =>
  inferInstanceAs (Decidable (o.ending = .returned .none ∧ ∀ err ∈ o.errors, err.code ≠ allBrokersDown))

/-- What the poll that ends the wait makes `receive` do, read from the method's description:
the first reported error saying all brokers are down raises `ERR_SERVICE_UNAVAILABLE`;
otherwise a `KeyboardInterrupt` raises `EINTR`, an error message raises `ERR_OP_FAILED`, a
message gives its value, and no message gives `None`. -/
def receiveOutcome (consumerId : String) (timeout : ℚ) (o : PollOutcome) :
    Except PyError (Option (List UInt8)) :=
  match o.errors.find? (·.code = allBrokersDown) with
  | some err => .error (mbe .errServiceUnavailable "Kafka service(s) unavailable. %s" [.kafkaError err])
  | none =>
    match o.ending with
    | .interrupted => .error (interrupted consumerId)
    | .returned .none => .ok none
    | .returned (.error err) => .error (pollFailed timeout consumerId err)
    | .returned (.message value) => .ok value

/-- A poll that does not keep the wait going ends `receive` with `None` only for a message
whose value is `None`. -/
theorem receiveOutcome_eq_ok_none {consumerId : String} {timeout : ℚ} {o : PollOutcome}
    (hne : ¬ o.IsEmpty) (h : receiveOutcome consumerId timeout o = .ok none) :
    o.ending = .returned (.message none) := by
  unfold receiveOutcome at h
  cases hf : o.errors.find? (·.code = allBrokersDown) with
  | some err => simp [hf] at h
  | none =>
    have hq : ∀ err ∈ o.errors, err.code ≠ allBrokersDown := by simpa using List.find?_eq_none.1 hf
    rw [hf] at h
    cases he : o.ending with
    | interrupted => simp [he] at h
    | returned r =>
      cases r with
      | none => exact absurd ⟨he, hq⟩ hne
      | error err => simp [he] at h
      | message value => simp only [he, Except.ok.injEq] at h; rw [h]

section Poll

variable {conf : KafkaConf} (hcb : conf.errorCb = true)
include hcb

/-- Serving the reported errors raises for the first that says all brokers are down. -/
theorem serve_errors : ∀ errors : List KafkaError,
    serve conf (errors.map .error) =
      match errors.find? (·.code = allBrokersDown) with
      | some err => .error (mbe .errServiceUnavailable "Kafka service(s) unavailable. %s" [.kafkaError err])
      | none => .ok ()
  | [] => rfl
  | err :: errors => by
    by_cases h : err.code = allBrokersDown
    · simp [serve, serveCallback, errorCb, hcb, h, List.find?_cons]
    · simp [serve, serveCallback, errorCb, hcb, h, List.find?_cons, serve_errors errors]

variable (consumerId : String) (timeout : ℚ) (poll : Nat → PollOutcome)

/-- One poll of the loop: skipped when it is empty and the loop blocks, and otherwise the end
of the loop with the outcome the method's description gives it. -/
theorem receiveLoop_succ (blocking : Bool) (fuel i : Nat) :
    receiveLoop conf consumerId timeout blocking poll (fuel + 1) i =
      if (poll i).IsEmpty ∧ blocking = true then receiveLoop conf consumerId timeout blocking poll fuel (i + 1)
      else some (i + 1, receiveOutcome consumerId timeout (poll i)) := by
  have hpoll : (poll i).poll conf = match (poll i).errors.find? (·.code = allBrokersDown) with
      | some err => .error (mbe .errServiceUnavailable "Kafka service(s) unavailable. %s" [.kafkaError err])
      | none => match (poll i).ending with
        | .returned r => .ok r
        | .interrupted => .error .keyboardInterrupt := by
    unfold PollOutcome.poll
    rw [serve_errors hcb]
    cases (poll i).errors.find? (·.code = allBrokersDown) <;> rfl
  rw [receiveLoop.eq_2, hpoll]
  cases hf : (poll i).errors.find? (·.code = allBrokersDown) with
  | some err =>
    have hne : ¬ (poll i).IsEmpty := fun h =>
      h.2 err (List.mem_of_find?_eq_some hf) (by simpa using List.find?_some hf)
    simp [hne, receiveOutcome, hf, mbe]
  | none =>
    have hq : ∀ err ∈ (poll i).errors, err.code ≠ allBrokersDown := by
      simpa using List.find?_eq_none.1 hf
    have hE : (poll i).IsEmpty ↔ (poll i).ending = .returned .none := ⟨And.left, fun h => ⟨h, hq⟩⟩
    cases he : (poll i).ending with
    | returned r => cases r <;> cases blocking <;> simp [he, hf, hE, receiveOutcome]
    | interrupted => simp [he, hf, hE, receiveOutcome]

/-! ## The loop -/

/-- A blocking loop skips the empty polls before the first that is not, given one more poll of
fuel than there are empty ones. -/
theorem receiveLoop_blocking_first : ∀ (n fuel i : Nat), (∀ k < n, (poll (i + k)).IsEmpty) →
    ¬ (poll (i + n)).IsEmpty → n < fuel →
      receiveLoop conf consumerId timeout true poll fuel i =
        some (i + n + 1, receiveOutcome consumerId timeout (poll (i + n)))
  | _, 0, _, _, _, hfuel => absurd hfuel (Nat.not_lt_zero _)
  | 0, fuel + 1, i, _, hn, _ => by
    rw [receiveLoop_succ hcb, if_neg fun h => hn h.1]; rfl
  | n + 1, fuel + 1, i, hempty, hn, hfuel => by
    have h0 : (poll i).IsEmpty := by simpa using hempty 0 (Nat.succ_pos n)
    have hshift : i + 1 + n = i + (n + 1) := by omega
    have hrest := receiveLoop_blocking_first n fuel (i + 1)
      (fun k hk => by simpa [Nat.add_assoc, Nat.add_comm 1 k] using hempty (k + 1) (by omega))
      (hshift ▸ hn) (by omega)
    rw [receiveLoop_succ hcb, if_pos ⟨h0, rfl⟩, hrest, hshift]

/-- When every poll is empty a blocking loop never returns, whatever the fuel. -/
theorem receiveLoop_blocking_of_empty (hempty : ∀ k, (poll k).IsEmpty) :
    ∀ fuel i, receiveLoop conf consumerId timeout true poll fuel i = none
  | 0, _ => rfl
  | fuel + 1, i => by
    rw [receiveLoop_succ hcb, if_pos ⟨hempty i, rfl⟩]
    exact receiveLoop_blocking_of_empty hempty fuel (i + 1)

/-- A blocking loop that returns `None` ended at a message whose value is `None`. -/
theorem receiveLoop_blocking_ok_none : ∀ (fuel i n : Nat),
    receiveLoop conf consumerId timeout true poll fuel i = some (n, .ok none) →
      ∃ k, n = k + 1 ∧ (poll k).ending = .returned (.message none)
  | 0, _, _, h => by simp [receiveLoop] at h
  | fuel + 1, i, n, h => by
    rw [receiveLoop_succ hcb] at h
    by_cases h0 : (poll i).IsEmpty
    · rw [if_pos ⟨h0, rfl⟩] at h
      exact receiveLoop_blocking_ok_none fuel (i + 1) n h
    · rw [if_neg fun h' => h0 h'.1, Option.some.injEq, Prod.mk.injEq] at h
      exact ⟨i, h.1.symm, receiveOutcome_eq_ok_none h0 h.2⟩

end Poll

theorem effectiveTimeout_of_ne_zero {recv : ℚ} {timeout : Option ℚ} (h : timeout.getD recv ≠ 0) :
    effectiveTimeout recv timeout = (timeout.getD recv, false) := by
  simp [effectiveTimeout, h]

theorem effectiveTimeout_of_eq_zero {recv : ℚ} {timeout : Option ℚ} (h : timeout.getD recv = 0) :
    effectiveTimeout recv timeout = (recv, true) := by
  simp [effectiveTimeout, h]

namespace KafkaMessageBroker

/-- The law of `receive` on a consumer built with `error_cb`, for every configured
`receive_timeout`, every timeout argument and every sequence of poll outcomes.  When the
timeout, once `None` is read as `receive_timeout`, is not `0`, it polls once with it and ends
as that poll says.  When it is `0`, it polls with `receive_timeout`, skips the empty polls and
ends as the first poll that is not empty says, given enough fuel; it never returns while every
poll is empty, and it returns `None` only for a message whose value is `None`, never for lack
of data. -/
theorem receive_law (s : KafkaMessageBroker) {consumerId : String} {c : Handle}
    (hc : s.clients.consumer.get? consumerId = some c) (hcb : c.conf.errorCb = true)
    (poll : Nat → PollOutcome) (timeout : Option ℚ) :
    (timeout.getD s.recvMessageTimeout ≠ 0 → ∀ fuel,
      s.receive poll (fuel + 1) consumerId timeout =
        some ⟨s, [.poll .consumer (timeout.getD s.recvMessageTimeout)],
          receiveOutcome consumerId (timeout.getD s.recvMessageTimeout) (poll 0)⟩) ∧
    (timeout.getD s.recvMessageTimeout = 0 → ∀ n, (∀ k < n, (poll k).IsEmpty) →
      ¬ (poll n).IsEmpty → ∀ fuel, n < fuel →
        s.receive poll fuel consumerId timeout =
          some ⟨s, List.replicate (n + 1) (.poll .consumer s.recvMessageTimeout),
            receiveOutcome consumerId s.recvMessageTimeout (poll n)⟩) ∧
    (timeout.getD s.recvMessageTimeout = 0 → (∀ k, (poll k).IsEmpty) →
      ∀ fuel, s.receive poll fuel consumerId timeout = none) ∧
    (timeout.getD s.recvMessageTimeout = 0 → ∀ fuel run,
      s.receive poll fuel consumerId timeout = some run → run.result = .ok none →
        ∃ n, run.calls = List.replicate (n + 1) (.poll .consumer s.recvMessageTimeout) ∧
          (poll n).ending = .returned (.message none)) := by
  have hc' : s.client .consumer consumerId = .ok c := (client_eq_ok_iff _ _ _ _).2 hc
  refine ⟨fun ht fuel => ?_, fun ht n hempty hn fuel hfuel => ?_, fun ht hempty fuel => ?_,
    fun ht fuel run hrun hnone => ?_⟩
  · simp only [receive, hc', effectiveTimeout_of_ne_zero ht, receiveLoop_succ hcb, Bool.false_eq_true,
      and_false, if_false, Option.map_some']
    rfl
  · simp only [receive, hc', effectiveTimeout_of_eq_zero ht,
      receiveLoop_blocking_first hcb consumerId _ poll n fuel 0 (by simpa using hempty) (by simpa using hn) hfuel,
      Option.map_some', Nat.zero_add]
  · simp only [receive, hc', effectiveTimeout_of_eq_zero ht,
      receiveLoop_blocking_of_empty hcb consumerId _ poll hempty, Option.map_none']
  · simp only [receive, hc', effectiveTimeout_of_eq_zero ht] at hrun
    obtain ⟨⟨n, r⟩, hloop, rfl⟩ := Option.map_eq_some'.1 hrun
    cases hnone
    obtain ⟨k, rfl, hk⟩ := receiveLoop_blocking_ok_none hcb consumerId _ poll fuel 0 _ hloop
    exact ⟨k, rfl, hk⟩

/-- With `receive_timeout = 2` and the timeout argument `0`, `receive` blocks: it skips a poll
that returned no message and returns the `None` value of the record the second poll returned. -/
theorem receive_blocks_to_a_none_value :
    let s := (init ⟨"kafka:9092", 2, 15000, 5000⟩).register .consumer "c"
      { bootstrapServers := "kafka:9092", clientId := "c", errorCb := true,
        enableAutoCommit := some true, autoOffsetReset := some "earliest", groupId := some "g" } ["t"]
    let poll : Nat → PollOutcome := fun k =>
      if k = 0 then ⟨[], .returned .none⟩ else ⟨[], .returned (.message none)⟩
    (s.clients.consumer.get? "c").map (·.conf.errorCb) = some true ∧
      (some 0 : Option ℚ).getD s.recvMessageTimeout = 0 ∧ (∀ k < 1, (poll k).IsEmpty) ∧
      ¬ (poll 1).IsEmpty ∧
      s.receive poll 2 "c" (some 0) = some ⟨s, [.poll .consumer 2, .poll .consumer 2], .ok none⟩ := by
  intro s poll
  have hempty : ∀ k < 1, (poll k).IsEmpty := by decide
  have hlast : ¬ (poll 1).IsEmpty := by decide
  exact ⟨rfl, rfl, hempty, hlast,
    ((@receive_law s "c" _ rfl rfl poll (some 0)).2.1 rfl 1 hempty hlast 2 (by decide)).trans rfl⟩

end KafkaMessageBroker

end CortxMessageBus
