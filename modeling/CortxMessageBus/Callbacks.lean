import CortxMessageBus.Broker

/-!
# The callbacks a client serves

Every client `init_client` builds has `error_cb=self._error_cb`, and every `produce` of
`send` passes `callback=self.delivery_callback`.  confluent_kafka calls them from the
`poll()` or `flush()` that serves them; a callback that raises ends that call, which then
raises the callback's exception.  Which callbacks a call serves is the broker's timing, so
they are an input: a list for each serving call, in the order it serves them.
-/

namespace CortxMessageBus

/-- A callback a `poll()` or `flush()` serves: the delivery report of a message, with the
error of a failed delivery, or an error the client reports to `error_cb`. -/
inductive Callback
  | delivery (err : Option KafkaError)
  | error (err : KafkaError)
  deriving DecidableEq

/-- The callbacks that make the adapter raise, as the docstrings of `delivery_callback` and
`_error_cb` describe them: a failed delivery, and all brokers down. -/
def Callback.Raises : Callback → Prop
  | .delivery err => err.isSome
  | .error err => err.code = allBrokersDown

instance : DecidablePred Callback.Raises := fun cb =>
  match cb with
  | .delivery err => inferInstanceAs (Decidable (err.isSome = true))
  | .error err => inferInstanceAs (Decidable (err.code = allBrokersDown))

/-- The `ETIMEDOUT` of `delivery_callback`; the string keeps the indentation of the line its
backslash continues onto. -/
def deliveryFailed (err : KafkaError) : PyError :=
  mbe .etimedout "Message delivery failed.                 %s" [.kafkaError err]

/-- `delivery_callback(err, _)`. -/
def deliveryCallback : Option KafkaError → Option PyError
  | none => none
  | some err => some (deliveryFailed err)

/-- `_error_cb(err)`. -/
def errorCb (err : KafkaError) : Option PyError :=
  if err.code = allBrokersDown then
    some (mbe .errServiceUnavailable "Kafka service(s) unavailable. %s" [.kafkaError err])
  else none

/-- One callback, served by a client built from `conf`: errors reach `_error_cb` only when it
is the configuration's `error_cb`. -/
def serveCallback (conf : KafkaConf) : Callback → Option PyError
  | .delivery err => deliveryCallback err
  | .error err => if conf.errorCb then errorCb err else none

/-- A `poll()` or `flush()` serving `callbacks` in order: the first that raises ends it. -/
def serve (conf : KafkaConf) : List Callback → Except PyError Unit
  | [] => .ok ()
  | cb :: cbs =>
    match serveCallback conf cb with
    | some e => .error e
    | none => serve conf cbs

section Serve

variable {conf : KafkaConf}

theorem serveCallback_eq_none (hcb : conf.errorCb = true) (cb : Callback) :
    serveCallback conf cb = none ↔ ¬ cb.Raises := by
  cases cb with
  | delivery err => cases err <;> simp [serveCallback, deliveryCallback, Callback.Raises]
  | error err => by_cases h : err.code = allBrokersDown <;> simp [serveCallback, errorCb, hcb, h, Callback.Raises]

theorem serveCallback_eq_some (hcb : conf.errorCb = true) (cb : Callback) (e : PyError) :
    serveCallback conf cb = some e ↔
      (∃ err, cb = .delivery (some err) ∧ e = deliveryFailed err) ∨
      ∃ err, cb = .error err ∧ err.code = allBrokersDown ∧
        e = mbe .errServiceUnavailable "Kafka service(s) unavailable. %s" [.kafkaError err] := by
  cases cb with
  | delivery err => cases err <;> simp [serveCallback, deliveryCallback, eq_comm]
  | error err =>
    by_cases h : err.code = allBrokersDown <;> simp [serveCallback, errorCb, hcb, h, eq_comm (a := e)]

theorem serve_eq_ok_iff : ∀ cbs : List Callback,
    serve conf cbs = .ok () ↔ ∀ cb ∈ cbs, serveCallback conf cb = none
  | [] => by simp [serve]
  | cb :: cbs => by
    cases h : serveCallback conf cb <;> simp [serve, h, serve_eq_ok_iff cbs]

/-- For a client with `error_cb` set, a serving call returns exactly when no callback it
serves raises. -/
theorem serve_eq_ok_iff_not_raises (hcb : conf.errorCb = true) (cbs : List Callback) :
    serve conf cbs = .ok () ↔ ∀ cb ∈ cbs, ¬ cb.Raises := by
  rw [serve_eq_ok_iff]
  exact forall₂_congr fun cb _ => serveCallback_eq_none hcb cb

/-- A serving call raises the exception of its first raising callback. -/
theorem serve_eq_error_iff (e : PyError) : ∀ cbs : List Callback,
    serve conf cbs = .error e ↔ ∃ pre cb post, cbs = pre ++ cb :: post ∧
      (∀ c ∈ pre, serveCallback conf c = none) ∧ serveCallback conf cb = some e
  | [] => by simp [serve]
  | cb :: cbs => by
    cases h : serveCallback conf cb with
    | some e' =>
      simp only [serve, h, Except.error.injEq]
      constructor
      · rintro rfl; exact ⟨[], cb, cbs, rfl, by simp, h⟩
      · rintro ⟨pre, c, post, hcbs, hpre, hc⟩
        cases pre with
        | nil => cases hcbs; exact Option.some.inj (h.symm.trans hc)
        | cons c' pre => cases hcbs; simp [hpre _ (List.mem_cons_self _ _)] at h
    | none =>
      simp only [serve, h, serve_eq_error_iff e cbs]
      constructor
      · rintro ⟨pre, c, post, rfl, hpre, hc⟩
        exact ⟨cb :: pre, c, post, rfl, List.forall_mem_cons.2 ⟨h, hpre⟩, hc⟩
      · rintro ⟨pre, c, post, hcbs, hpre, hc⟩
        cases pre with
        | nil => cases hcbs; rw [h] at hc; cases hc
        | cons c' pre => cases hcbs; exact ⟨pre, c, post, rfl, (List.forall_mem_cons.1 hpre).2, hc⟩

end Serve

end CortxMessageBus
