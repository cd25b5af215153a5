import CortxMessageBus.Callbacks

/-!
# The producer adapter

`send` hands each message to `produce()` with `delivery_callback`, then serves the
callbacks: with `flush()` when the method is `'sync'`, with one `poll(timeout)` otherwise.
`produce()` itself may raise, `BufferError` when the producer's queue is full and
`KafkaException` when it refuses the message; a served delivery report of a failed delivery
makes `delivery_callback` raise `ETIMEDOUT`, and an all-brokers-down error makes `_error_cb`
raise `ERR_SERVICE_UNAVAILABLE`.  Any of these ends the loop.  What each `produce()` does and
what each serving call serves are the broker's, so both are inputs, indexed by message.
-/

namespace CortxMessageBus

/-- What `produce()` does with one message: queue it, raise `BufferError` because the
producer's queue is full, or raise `KafkaException` because it refuses the message, such as
one larger than `message.max.bytes`. -/
inductive ProduceOutcome
  | queued
  | bufferError
  | kafkaException (err : KafkaError)
  deriving DecidableEq

/-- The value or exception of a `produce()` call. -/
def ProduceOutcome.result : ProduceOutcome → Except PyError Unit
  | .queued => .ok ()
  | .bufferError => .error (.bufferError "Local: Queue full")
  | .kafkaException err => .error (.kafkaException err.reason)

/-- `bytes(message, 'utf-8')`. -/
def utf8 (message : String) : List UInt8 := message.toUTF8.toList

/-- The call that serves the callbacks after each `produce`. -/
def serveCall (method : String) (timeout : ℚ) : Call :=
  if method = "sync" then .flush else .poll .producer timeout

/-- `for message in messages:` from the `k`-th message on, by a producer built from `conf`:
`produced k` is what the `k`-th `produce()` does, and `served k` the callbacks the `flush()` or
`poll()` after it serves. -/
def sendLoop (conf : KafkaConf) (messageType method : String) (timeout : ℚ)
    (produced : Nat → ProduceOutcome) (served : Nat → List Callback) :
    List String → Nat → List Call × Except PyError Unit
  | [], _ => ([], .ok ())
  | m :: ms, k =>
    match (produced k).result with
    | .error e => ([.produce messageType (utf8 m)], .error e)
    | .ok () =>
      match serve conf (served k) with
      | .error e => ([.produce messageType (utf8 m), serveCall method timeout], .error e)
      | .ok () =>
        let rest := sendLoop conf messageType method timeout produced served ms (k + 1)
        (.produce messageType (utf8 m) :: serveCall method timeout :: rest.1, rest.2)

namespace KafkaMessageBroker

/-- `send(producer_id, message_type, method, messages, timeout)`; the source's default
`timeout` is `0.1`.  The `producer is None` guard after the lookup never fires: the lookup
`self._clients['producer'][producer_id]` raises `KeyError` first. -/
def send (s : KafkaMessageBroker) (produced : Nat → ProduceOutcome) (served : Nat → List Callback)
    (producerId messageType method : String) (messages : List String) (timeout : ℚ) : Run Unit :=
  match s.client .producer producerId with
  | .error e => ⟨s, [], .error e⟩
  | .ok p =>
    let r := sendLoop p.conf messageType method timeout produced served messages 0
    ⟨s, r.1, r.2⟩

@[simp] theorem send_self (s : KafkaMessageBroker) (produced : Nat → ProduceOutcome)
    (served : Nat → List Callback) (producerId messageType method : String) (messages : List String)
    (timeout : ℚ) : (s.send produced served producerId messageType method messages timeout).self = s := by
  unfold send; split <;> rfl

end KafkaMessageBroker

section Loop

variable {conf : KafkaConf} {messageType method : String} {timeout : ℚ}
  {produced : Nat → ProduceOutcome} {served : Nat → List Callback}

/-- The loop over messages whose `produce()` queued them and whose serving call raised
nothing: each produced and served, in order. -/
theorem sendLoop_of_no_failure : ∀ (messages : List String) (k : Nat),
    (∀ i < messages.length, produced (k + i) = .queued ∧ serve conf (served (k + i)) = .ok ()) →
      sendLoop conf messageType method timeout produced served messages k =
        (messages.flatMap fun m => [.produce messageType (utf8 m), serveCall method timeout], .ok ())
  | [], _, _ => rfl
  | m :: ms, k, h => by
    obtain ⟨hp, hs⟩ : produced k = .queued ∧ serve conf (served k) = .ok () := by simpa using h 0 (by simp)
    have hrest : ∀ i < ms.length, produced (k + 1 + i) = .queued ∧ serve conf (served (k + 1 + i)) = .ok () :=
      fun i hi => by simpa [Nat.add_assoc, Nat.add_comm 1 i] using h (i + 1) (by simp [hi])
    simp [sendLoop, hp, hs, ProduceOutcome.result, sendLoop_of_no_failure ms (k + 1) hrest]

/-- The loop up to the first message whose `produce()` or serving call raises: the messages
before it produced and served, then its `produce`, and its serving call if `produce()`
queued it; and the exception of that `produce()` or serving call. -/
theorem sendLoop_of_first_failure : ∀ (done : List String) (m : String) (rest : List String) (k : Nat),
    (∀ i < done.length, produced (k + i) = .queued ∧ serve conf (served (k + i)) = .ok ()) →
    ¬ (produced (k + done.length) = .queued ∧ serve conf (served (k + done.length)) = .ok ()) →
      ∃ e, sendLoop conf messageType method timeout produced served (done ++ m :: rest) k =
        ((done.flatMap fun m => [.produce messageType (utf8 m), serveCall method timeout]) ++
          (if produced (k + done.length) = .queued then [.produce messageType (utf8 m), serveCall method timeout]
            else [.produce messageType (utf8 m)]), .error e) ∧
        ((produced (k + done.length)).result = .error e ∨
          produced (k + done.length) = .queued ∧ serve conf (served (k + done.length)) = .error e)
  | [], m, rest, k, _, hfail => by
    rw [List.length_nil, Nat.add_zero] at hfail ⊢
    cases hp : produced k with
    | queued =>
      cases hs : serve conf (served k) with
      | ok u => exact absurd ⟨hp, hs⟩ hfail
      | error e => exact ⟨e, by simp [sendLoop, hp, hs, ProduceOutcome.result], .inr ⟨rfl, rfl⟩⟩
    | bufferError => exact ⟨_, by simp [sendLoop, hp, ProduceOutcome.result], .inl rfl⟩
    | kafkaException err => exact ⟨_, by simp [sendLoop, hp, ProduceOutcome.result], .inl rfl⟩
  | d :: done, m, rest, k, hdone, hfail => by
    obtain ⟨hp, hs⟩ : produced k = .queued ∧ serve conf (served k) = .ok () := by
      simpa using hdone 0 (by simp)
    have hshift : k + 1 + done.length = k + (d :: done).length := by simp; omega
    obtain ⟨e, hloop, he⟩ := sendLoop_of_first_failure done m rest (k + 1)
      (fun i hi => by simpa [Nat.add_assoc, Nat.add_comm 1 i] using hdone (i + 1) (by simp [hi]))
      (hshift ▸ hfail)
    rw [hshift] at hloop he
    refine ⟨e, ?_, he⟩
    rw [List.cons_append]
    simp only [sendLoop, hp, hs, ProduceOutcome.result, hloop]
    simp

theorem sendLoop_untouched (produced : Nat → ProduceOutcome) (served : Nat → List Callback) :
    ∀ (messages : List String) (k : Nat),
      ∀ x ∈ (sendLoop conf messageType method timeout produced served messages k).1, x.touched = []
  | [], _ => by simp [sendLoop]
  | m :: ms, k => by
    have hserve : (serveCall method timeout).touched = [] := by unfold serveCall; split <;> rfl
    unfold sendLoop
    split
    · exact List.forall_mem_singleton.2 rfl
    · split
      · exact List.forall_mem_cons.2 ⟨rfl, List.forall_mem_singleton.2 hserve⟩
      · exact List.forall_mem_cons.2 ⟨rfl, List.forall_mem_cons.2
          ⟨hserve, sendLoop_untouched produced served ms (k + 1)⟩⟩

end Loop

/-- `send` only produces and serves callbacks. -/
theorem KafkaMessageBroker.send_untouched (s : KafkaMessageBroker) (produced : Nat → ProduceOutcome)
    (served : Nat → List Callback) (producerId messageType method : String) (messages : List String)
    (timeout : ℚ) : ∀ x ∈ (s.send produced served producerId messageType method messages timeout).calls,
      x.touched = [] := by
  unfold KafkaMessageBroker.send
  split
  · simp
  · exact sendLoop_untouched produced served messages 0

/-- The law of `send` on a producer built with `error_cb`, for every list of messages, every
topic and every method.  Each message is produced as its UTF-8 bytes on `message_type` and,
once `produce()` queued it, followed by `flush()` for `'sync'` and by one `poll(timeout)`
otherwise, in list order.  When every `produce()` queues its message and no serving call
serves a failed delivery or an all-brokers-down error, it does so for every message and
returns.  Otherwise it stops at the first message where one of these happens, with that
message's `produce` and, if `produce()` queued it, its serving call as the last calls; it
raises `BufferError` or `KafkaException` from `produce()`, or else the exception of the first
raising callback of the serving call: `ETIMEDOUT` for a failed delivery, and
`ERR_SERVICE_UNAVAILABLE` for all brokers down. -/
theorem send_produces_in_order (s : KafkaMessageBroker) {producerId : String} {p : Handle}
    (hp : s.clients.producer.get? producerId = some p) (hcb : p.conf.errorCb = true)
    (produced : Nat → ProduceOutcome) (served : Nat → List Callback)
    (messageType method : String) (timeout : ℚ) :
    (∀ messages : List String,
      (∀ i < messages.length, produced i = .queued ∧ ∀ cb ∈ served i, ¬ cb.Raises) →
      s.send produced served producerId messageType method messages timeout =
        ⟨s, messages.flatMap (fun m => [.produce messageType m.toUTF8.toList,
          if method = "sync" then .flush else .poll .producer timeout]), .ok ()⟩) ∧
    (∀ (done : List String) (m : String) (rest : List String),
      (∀ i < done.length, produced i = .queued ∧ ∀ cb ∈ served i, ¬ cb.Raises) →
      ¬ (produced done.length = .queued ∧ ∀ cb ∈ served done.length, ¬ cb.Raises) →
      ∃ e, s.send produced served producerId messageType method (done ++ m :: rest) timeout =
          ⟨s, (done.flatMap fun m => [.produce messageType m.toUTF8.toList,
              if method = "sync" then .flush else .poll .producer timeout]) ++
            (if produced done.length = .queued then
              [.produce messageType m.toUTF8.toList, if method = "sync" then .flush else .poll .producer timeout]
            else [.produce messageType m.toUTF8.toList]), .error e⟩ ∧
        (produced done.length = .bufferError → e = .bufferError "Local: Queue full") ∧
        (∀ err, produced done.length = .kafkaException err → e = .kafkaException err.reason) ∧
        (produced done.length = .queued → ∃ pre cb post, served done.length = pre ++ cb :: post ∧
          (∀ c ∈ pre, ¬ c.Raises) ∧
          ((∃ err, cb = .delivery (some err) ∧ e = deliveryFailed err) ∨
            ∃ err, cb = .error err ∧ err.code = allBrokersDown ∧
              e = mbe .errServiceUnavailable "Kafka service(s) unavailable. %s" [.kafkaError err]))) := by
  have hc : s.client .producer producerId = .ok p := (KafkaMessageBroker.client_eq_ok_iff _ _ _ _).2 hp
  have hok : ∀ i, (produced i = .queued ∧ ∀ cb ∈ served i, ¬ cb.Raises) ↔
      (produced i = .queued ∧ serve p.conf (served i) = .ok ()) := fun i => by
    rw [serve_eq_ok_iff_not_raises hcb]
  refine ⟨fun messages h => ?_, fun done m rest hdone hfail => ?_⟩
  · simp only [KafkaMessageBroker.send, hc,
      sendLoop_of_no_failure messages 0 fun i hi => by simpa using (hok i).1 (h i hi)]
    rfl
  · obtain ⟨e, hloop, he⟩ := @sendLoop_of_first_failure p.conf messageType method timeout produced served
      done m rest 0 (fun i hi => by simpa using (hok i).1 (hdone i hi)) (by simpa [hok] using hfail)
    rw [Nat.zero_add] at hloop he
    have hraised : produced done.length ≠ .queued → (produced done.length).result = .error e :=
      fun hq => he.resolve_right fun h => hq h.1
    refine ⟨e, by simp only [KafkaMessageBroker.send, hc, hloop]; rfl, fun hb => ?_, fun err hk => ?_,
      fun hq => ?_⟩
    · simpa [hb, ProduceOutcome.result, eq_comm] using hraised (by simp [hb])
    · simpa [hk, ProduceOutcome.result, eq_comm] using hraised (by simp [hk])
    · obtain ⟨pre, cb, post, hcbs, hpre, hcb'⟩ :=
        (serve_eq_error_iff e _).1 (he.resolve_left (by simp [hq, ProduceOutcome.result])).2
      exact ⟨pre, cb, post, hcbs, fun c hc' => (serveCallback_eq_none hcb c).1 (hpre c hc'),
        (serveCallback_eq_some hcb cb e).1 hcb'⟩

/-- Two messages sent synchronously by a registered producer, with every message queued and
nothing raising in the flushes: each is produced and flushed, in order. -/
theorem send_sync_two_messages :
    let s := (KafkaMessageBroker.init ⟨"kafka:9092", 2, 15000, 5000⟩).register .producer "p"
      { bootstrapServers := "kafka:9092", clientId := "p", errorCb := true,
        socketTimeoutMs := some 15000, messageTimeoutMs := some 5000 } []
    s.clients.producer.get? "p" =
        some ⟨0, { bootstrapServers := "kafka:9092", clientId := "p", errorCb := true,
                   socketTimeoutMs := some 15000, messageTimeoutMs := some 5000 }, []⟩ ∧
      (∀ i < ["m1", "m2"].length, (fun _ => ProduceOutcome.queued) i = .queued ∧
        ∀ cb ∈ (fun _ => [Callback.delivery none]) i, ¬ cb.Raises) ∧
      s.send (fun _ => .queued) (fun _ => [.delivery none]) "p" "orders" "sync" ["m1", "m2"] (1 / 10) =
        ⟨s, [.produce "orders" "m1".toUTF8.toList, .flush, .produce "orders" "m2".toUTF8.toList, .flush],
          .ok ()⟩ := by
  intro s
  have hall : ∀ i < ["m1", "m2"].length, (fun _ => ProduceOutcome.queued) i = .queued ∧
      ∀ cb ∈ (fun _ => [Callback.delivery none]) i, ¬ cb.Raises := by decide
  exact ⟨rfl, hall, ((@send_produces_in_order s "p" _ rfl rfl (fun _ => .queued) (fun _ => [.delivery none])
    "orders" "sync" (1 / 10)).1 ["m1", "m2"] hall).trans rfl⟩

/-- When the first `poll()` serves an all-brokers-down error, `send` stops after one
`produce` of two messages, with `_error_cb`'s `ERR_SERVICE_UNAVAILABLE`. -/
theorem send_stops_when_brokers_down :
    let s := (KafkaMessageBroker.init ⟨"kafka:9092", 2, 15000, 5000⟩).register .producer "p"
      { bootstrapServers := "kafka:9092", clientId := "p", errorCb := true,
        socketTimeoutMs := some 15000, messageTimeoutMs := some 5000 } []
    s.send (fun _ => .queued) (fun k => if k = 0 then [.error ⟨allBrokersDown, "1/1 brokers are down"⟩] else [])
        "p" "orders" "async" ["m1", "m2"] (1 / 10) =
      ⟨s, [.produce "orders" "m1".toUTF8.toList, .poll .producer (1 / 10)],
        .error (mbe .errServiceUnavailable "Kafka service(s) unavailable. %s"
          [.kafkaError ⟨allBrokersDown, "1/1 brokers are down"⟩])⟩ :=
  rfl

end CortxMessageBus
