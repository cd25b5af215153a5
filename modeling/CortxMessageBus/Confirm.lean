import Mathlib.Algebra.Order.Ring.Nat
import CortxMessageBus.Broker

/-!
# The confirmation loop

`register_message_type`, `deregister_message_type` and `add_concurrency` end with the same
loop: for `list_retry in range(1, max + 2)` poll `list_topics()`; if the change is not yet
visible, raise once `list_retry` exceeds `max`, otherwise sleep `list_retry` seconds and poll
again.  `confirm` is that loop, with the condition, the error and the answers of the
successive `list_topics()` calls as parameters.

`confirmLaw` states what the loop is for in closed form: the first of the `max + 1` polls
that sees the change ends the wait, the `k`-th poll that does not is followed by `sleep k`,
and if the last does not either the loop raises.  `confirm_eq_confirmLaw` shows the loop
computes exactly that, so the last failed poll never falls off the end of the `range` and
returns as if the change were confirmed.
-/

namespace CortxMessageBus

/-- `_get_metadata(admin)`: the topics of a `list_topics()` answer, with a failed call
re-raised as `ERR_OP_FAILED` (both `except` clauses raise the same error). -/
def getMetadata : Except String Metadata → Except PyError Metadata
  | .ok m => .ok m
  | .error e => .error (mbe .errOpFailed
      "list_topics() failed. %s. Check if Kafka service is running successfully" [.str e])

/-- `range(1, max + 2)`. -/
def retryRange (max : Nat) : List Nat := List.range' 1 (max + 1)

/-- One confirmation loop, over `retries`, from the `i`-th `list_topics()` answer.  `pending`
is the loop's `if` condition (it may raise, as `add_concurrency`'s lookup does).  Returns the
calls made and the index of the next unread answer. -/
def confirm (max : Nat) (pending : Metadata → Except PyError Bool) (timedOut : Nat → PyError)
    (listTopics : Nat → Except String Metadata) : List Nat → Nat → List Call × Except PyError Nat
  | [], i => ([], .ok i)
  | retry :: retries, i =>
    match (getMetadata (listTopics i)).bind pending with
    | .error e => ([.listTopics], .error e)
    | .ok false => ([.listTopics], .ok (i + 1))
    | .ok true =>
      if max < retry then ([.listTopics], .error (timedOut retry))
      else
        let rest := confirm max pending timedOut listTopics retries (i + 1)
        (.listTopics :: .sleep retry :: rest.1, rest.2)

/-- `for each_message_type in message_types:` one loop per name, in order, each reading the
`list_topics()` answers from where the previous one stopped. -/
def eachName (loop : String → Nat → List Call × Except PyError Nat) :
    List String → Nat → List Call × Except PyError Nat
  | [], i => ([], .ok i)
  | t :: ts, i =>
    let r := loop t i
    match r.2 with
    | .error e => (r.1, .error e)
    | .ok j =>
      let rest := eachName loop ts j
      (r.1 ++ rest.1, rest.2)

/-- The loop only polls and sleeps. -/
theorem confirm_calls (max : Nat) (pending : Metadata → Except PyError Bool) (timedOut : Nat → PyError)
    (listTopics : Nat → Except String Metadata) :
    ∀ (retries : List Nat) (i : Nat), ∀ x ∈ (confirm max pending timedOut listTopics retries i).1,
      x = .listTopics ∨ ∃ n, x = .sleep n
  | [], _ => by simp [confirm]
  | retry :: retries, i => by
    intro x hx
    unfold confirm at hx
    split at hx
    · simp_all
    · simp_all
    · split at hx
      · simp_all
      · rcases List.mem_cons.1 hx with rfl | hx
        · exact .inl rfl
        rcases List.mem_cons.1 hx with rfl | hx
        · exact .inr ⟨retry, rfl⟩
        · exact confirm_calls max pending timedOut listTopics retries (i + 1) x hx

/-- Every call of the per-name loops is a call of one name's loop. -/
theorem eachName_calls {loop : String → Nat → List Call × Except PyError Nat} {P : Call → Prop}
    (h : ∀ t i, ∀ x ∈ (loop t i).1, P x) :
    ∀ (names : List String) (i : Nat), ∀ x ∈ (eachName loop names i).1, P x
  | [], _ => by simp [eachName]
  | t :: ts, i => by
    intro x hx
    unfold eachName at hx
    dsimp only at hx
    split at hx
    · exact h t i x hx
    · rcases List.mem_append.1 hx with hx | hx
      · exact h t i x hx
      · exact eachName_calls h ts _ x hx

/-- The loop creates, deletes and alters nothing. -/
theorem confirm_untouched (max : Nat) (pending : Metadata → Except PyError Bool)
    (timedOut : Nat → PyError) (listTopics : Nat → Except String Metadata) (retries : List Nat)
    (i : Nat) : ∀ x ∈ (confirm max pending timedOut listTopics retries i).1, x.touched = [] :=
  fun x hx => by rcases confirm_calls max pending timedOut listTopics retries i x hx with rfl | ⟨n, rfl⟩ <;> rfl

theorem eachName_confirm_untouched (max : Nat) (pending : String → Metadata → Except PyError Bool)
    (timedOut : String → Nat → PyError) (listTopics : Nat → Except String Metadata)
    (retries : List Nat) (names : List String) (i : Nat) :
    ∀ x ∈ (eachName (fun t => confirm max (pending t) (timedOut t) listTopics retries) names i).1,
      x.touched = [] :=
  eachName_calls (fun t => confirm_untouched max (pending t) (timedOut t) listTopics retries) names i

/-! ## What the loop costs -/

/-- The loop sleeps only after a poll numbered at most `max`, each retry number once. -/
theorem confirm_sleepTime (max : Nat) (pending : Metadata → Except PyError Bool) (timedOut : Nat → PyError)
    (listTopics : Nat → Except String Metadata) :
    ∀ (retries : List Nat) (i : Nat),
      sleepTime (confirm max pending timedOut listTopics retries i).1 ≤ (retries.filter (· ≤ max)).sum
  | [], _ => by simp [confirm]
  | retry :: retries, i => by
    have ih := confirm_sleepTime max pending timedOut listTopics retries (i + 1)
    unfold confirm
    split
    · simp
    · simp
    · split
      · simp
      · next hle =>
        simp only [sleepTime_listTopics, sleepTime_sleep, List.filter_cons,
          show decide (retry ≤ max) = true from decide_eq_true (Nat.not_lt.1 hle), if_true, List.sum_cons]
        omega

/-- The loop polls at most once per retry. -/
theorem confirm_count_listTopics (max : Nat) (pending : Metadata → Except PyError Bool)
    (timedOut : Nat → PyError) (listTopics : Nat → Except String Metadata) :
    ∀ (retries : List Nat) (i : Nat),
      (confirm max pending timedOut listTopics retries i).1.count .listTopics ≤ retries.length
  | [], _ => by simp [confirm]
  | retry :: retries, i => by
    have ih := confirm_count_listTopics max pending timedOut listTopics retries (i + 1)
    unfold confirm
    split
    · simp
    · simp
    · split
      · simp
      · simp [List.count_cons]
        omega

/-- The sleeps of one loop of `range(1, max + 2)` add up to at most `1 + 2 + … + max`. -/
theorem retryRange_sleep_sum :
    ((retryRange maxListMessageTypeCount).filter (· ≤ maxListMessageTypeCount)).sum =
      maxListMessageTypeCount * (maxListMessageTypeCount + 1) / 2 := by
  decide

/-- A cost that adds up over calls, bounded by `B` for each name's loop, is bounded by `B`
per name over the per-name loops. -/
theorem eachName_cost_le {loop : String → Nat → List Call × Except PyError Nat} (μ : List Call → Nat)
    (hμ : ∀ xs ys, μ (xs ++ ys) = μ xs + μ ys) (hnil : μ [] = 0) {B : Nat}
    (h : ∀ t i, μ (loop t i).1 ≤ B) :
    ∀ (names : List String) (i : Nat), μ (eachName loop names i).1 ≤ B * names.length
  | [], _ => by simp [eachName, hnil]
  | t :: ts, i => by
    have ht := h t i
    unfold eachName
    dsimp only
    split
    · simp only [List.length_cons, Nat.mul_succ]; omega
    · next j _ =>
      have hts := eachName_cost_le μ hμ hnil h ts j
      simp only [hμ, List.length_cons, Nat.mul_succ]
      omega

section Cost

variable {pending : String → Metadata → Except PyError Bool} {timedOut : String → Nat → PyError}
  {listTopics : Nat → Except String Metadata}

/-- One loop per name sleeps at most `1 + 2 + … + max` seconds per name. -/
theorem eachName_confirm_sleepTime (names : List String) (i : Nat) :
    sleepTime (eachName (fun t => confirm maxListMessageTypeCount (pending t) (timedOut t) listTopics
      (retryRange maxListMessageTypeCount)) names i).1 ≤
        maxListMessageTypeCount * (maxListMessageTypeCount + 1) / 2 * names.length :=
  eachName_cost_le sleepTime sleepTime_append rfl
    (fun _ i => retryRange_sleep_sum ▸ confirm_sleepTime _ _ _ _ _ i) names i

/-- One loop per name polls at most `max + 1` times per name. -/
theorem eachName_confirm_count_listTopics (names : List String) (i : Nat) :
    (eachName (fun t => confirm maxListMessageTypeCount (pending t) (timedOut t) listTopics
      (retryRange maxListMessageTypeCount)) names i).1.count .listTopics ≤
        (maxListMessageTypeCount + 1) * names.length :=
  eachName_cost_le (·.count .listTopics) (fun xs ys => List.count_append .listTopics xs ys) rfl
    (fun _ i => by simpa [retryRange] using confirm_count_listTopics _ _ _ _ (retryRange _) i) names i

end Cost

/-! ## The law -/

/-- `list_topics, sleep r, list_topics, sleep (r + 1), …`: `k` polls that did not see the
change, each followed by its sleep, the first numbered `r`. -/
def waitFrom (r k : Nat) : List Call := (List.range' r k).flatMap fun n => [.listTopics, .sleep n]

/-- The confirmation law, the loop's purpose in closed form: the first of the `max + 1` polls that
sees `met` ends the wait; the `k`-th poll that does not is followed by `sleep k`, and when
the `(max + 1)`-th does not either, the loop raises with retry count `max + 1`. -/
def confirmLaw (max : Nat) (met : Metadata → Bool) (timedOut : Nat → PyError)
    (snapshot : Nat → Metadata) (i : Nat) : List Call × Except PyError Nat :=
  match (List.range (max + 1)).find? fun j => met (snapshot (i + j)) with
  | some j => (waitFrom 1 j ++ [.listTopics], .ok (i + j + 1))
  | none => (waitFrom 1 max ++ [.listTopics], .error (timedOut (max + 1)))

@[simp] theorem waitFrom_zero (r : Nat) : waitFrom r 0 = [] := rfl

theorem waitFrom_succ (r k : Nat) :
    waitFrom r (k + 1) = .listTopics :: .sleep r :: waitFrom (r + 1) k := by
  simp [waitFrom, List.range'_succ]

/-- Skipping a first poll that did not see the change shifts the search by one answer. -/
theorem find?_range_succ_of_not (met : Metadata → Bool) (snapshot : Nat → Metadata) (i n : Nat)
    (h : met (snapshot i) = false) :
    (List.range (n + 1)).find? (fun j => met (snapshot (i + j))) =
      ((List.range n).find? fun j => met (snapshot (i + 1 + j))).map (· + 1) := by
  rw [List.range_succ_eq_map, List.find?_cons, List.find?_map]
  simp only [Nat.add_zero, h]
  congr 2
  funext j
  simp only [Function.comp, Nat.succ_eq_add_one, Nat.add_assoc, Nat.add_comm 1 j]

section Law

variable (max : Nat) {pending : Metadata → Except PyError Bool} (met : Metadata → Bool)
  (timedOut : Nat → PyError) {snapshot : Nat → Metadata}

/-- One iteration of the loop, on answers where `pending` is the negation of `met`. -/
theorem confirm_cons (hpend : ∀ j, pending (snapshot j) = .ok (!met (snapshot j)))
    (retry : Nat) (retries : List Nat) (i : Nat) :
    confirm max pending timedOut (fun i => .ok (snapshot i)) (retry :: retries) i =
      if met (snapshot i) then ([.listTopics], .ok (i + 1))
      else if max < retry then ([.listTopics], .error (timedOut retry))
      else
        let rest := confirm max pending timedOut (fun i => .ok (snapshot i)) retries (i + 1)
        (.listTopics :: .sleep retry :: rest.1, rest.2) := by
  cases h : met (snapshot i) <;> simp [confirm, getMetadata, Except.bind, hpend i, h]

/-- The loop over the last `n + 1` retries, `r, …, max + 1`. -/
theorem confirm_range' (hpend : ∀ j, pending (snapshot j) = .ok (!met (snapshot j))) (n : Nat) :
    ∀ r i, r + n = max + 1 →
      confirm max pending timedOut (fun i => .ok (snapshot i)) (List.range' r (n + 1)) i =
        match (List.range (n + 1)).find? fun j => met (snapshot (i + j)) with
        | some j => (waitFrom r j ++ [.listTopics], .ok (i + j + 1))
        | none => (waitFrom r n ++ [.listTopics], .error (timedOut (max + 1))) := by
  induction n with
  | zero =>
    intro r i hr
    have hr : r = max + 1 := by omega
    subst hr
    cases hm : met (snapshot i) <;>
      simp [confirm_cons max met timedOut hpend, hm, show List.range 1 = [0] from rfl]
  | succ n ih =>
    intro r i hr
    rw [List.range'_succ, confirm_cons max met timedOut hpend]
    cases hm : met (snapshot i) with
    | true => rw [List.range_succ_eq_map, List.find?_cons]; simp [hm]
    | false =>
      have hle : ¬max < r := by omega
      rw [find?_range_succ_of_not met snapshot i (n + 1) hm]
      simp only [Bool.false_eq_true, if_false, hle, ih (r + 1) (i + 1) (by omega)]
      cases (List.range (n + 1)).find? fun j => met (snapshot (i + 1 + j)) with
      | none => simp [waitFrom_succ]
      | some j => simp [waitFrom_succ, Nat.add_right_comm i 1 j]; omega

/-- The confirmation loop computes the confirmation law. -/
theorem confirm_eq_confirmLaw (hpend : ∀ j, pending (snapshot j) = .ok (!met (snapshot j)))
    (i : Nat) :
    confirm max pending timedOut (fun i => .ok (snapshot i)) (retryRange max) i =
      confirmLaw max met timedOut snapshot i :=
  confirm_range' max met timedOut hpend max 1 i (Nat.add_comm 1 max)

end Law

/-! ## The names loop in closed form -/

/-- One name of `namesLaw`: after a name that raised nothing more happens; otherwise the
name's law runs from the answer where the previous name stopped. -/
def namesStep (law : String → Nat → List Call × Except PyError Nat)
    (acc : List Call × Except PyError Nat) (t : String) : List Call × Except PyError Nat :=
  match acc.2 with
  | .ok j => (acc.1 ++ (law t j).1, (law t j).2)
  | .error _ => acc

/-- The purpose of the loop over the names: the names in order, each by `law` from the answer
where the previous one stopped; the first name whose law raises ends the loop with its calls
and its error, and the names after it are never looked at. -/
def namesLaw (law : String → Nat → List Call × Except PyError Nat) (names : List String)
    (i : Nat) : List Call × Except PyError Nat :=
  names.foldl (namesStep law) ([], .ok i)

section NamesLaw

variable {law : String → Nat → List Call × Except PyError Nat}

theorem namesStep_foldl_error (cs : List Call) (e : PyError) : ∀ names : List String,
    names.foldl (namesStep law) (cs, .error e) = (cs, .error e)
  | [] => rfl
  | _ :: names => namesStep_foldl_error cs e names

theorem namesStep_foldl_ok : ∀ (names : List String) (cs : List Call) (j : Nat),
    names.foldl (namesStep law) (cs, .ok j) =
      (cs ++ (namesLaw law names j).1, (namesLaw law names j).2)
  | [], _, _ => by simp [namesLaw]
  | t :: names, cs, j => by
    simp only [namesLaw, List.foldl_cons, namesStep, List.nil_append]
    rcases (law t j).2 with e | k
    · simp only [namesStep_foldl_error]
    · rw [namesStep_foldl_ok names _ k, namesStep_foldl_ok names _ k, namesLaw, List.append_assoc]

theorem namesLaw_cons (t : String) (names : List String) (i : Nat) :
    namesLaw law (t :: names) i =
      match (law t i).2 with
      | .ok j => ((law t i).1 ++ (namesLaw law names j).1, (namesLaw law names j).2)
      | .error e => ((law t i).1, .error e) := by
  simp only [namesLaw, List.foldl_cons, namesStep, List.nil_append]
  rcases (law t i).2 with e | j
  · exact namesStep_foldl_error _ e names
  · exact namesStep_foldl_ok names _ j

/-- The loop over the names computes the names law of the per-name loop. -/
theorem eachName_eq_namesLaw : ∀ (names : List String) (i : Nat),
    eachName law names i = namesLaw law names i
  | [], _ => rfl
  | t :: names, i => by
    rw [eachName, namesLaw_cons]
    rcases (law t i).2 with e | j
    · rfl
    · simp only [eachName_eq_namesLaw names j]

/-- The names law raises exactly when some name's law raises after every name before it
returned, and then with that name's error. -/
theorem namesLaw_error_iff (e : PyError) : ∀ (names : List String) (i : Nat),
    (namesLaw law names i).2 = .error e ↔ ∃ pre t post j, names = pre ++ t :: post ∧
      (namesLaw law pre i).2 = .ok j ∧ (law t j).2 = .error e
  | [], i => by simp [namesLaw]
  | t :: names, i => by
    rw [namesLaw_cons]
    rcases h : (law t i).2 with e' | j
    · constructor
      · rintro ⟨⟩
        exact ⟨[], t, names, i, rfl, rfl, h⟩
      · rintro ⟨pre, t', post, j, hnames, hpre, ht'⟩
        cases pre with
        | nil => cases hnames; cases hpre; exact h.symm.trans ht'
        | cons u pre =>
          cases hnames
          simp [namesLaw_cons, h] at hpre
    · simp only [namesLaw_error_iff e names j]
      constructor
      · rintro ⟨pre, t', post, k, rfl, hpre, ht'⟩
        exact ⟨t :: pre, t', post, k, rfl, by simp [namesLaw_cons, h, hpre], ht'⟩
      · rintro ⟨pre, t', post, k, hnames, hpre, ht'⟩
        cases pre with
        | nil => cases hnames; cases hpre; cases h.symm.trans ht'
        | cons u pre =>
          cases hnames
          exact ⟨pre, t', post, k, rfl, by simpa [namesLaw_cons, h] using hpre, ht'⟩

end NamesLaw

/-- Replacing each name's loop by one that computes the same calls and result. -/
theorem eachName_congr {loop loop' : String → Nat → List Call × Except PyError Nat}
    (h : ∀ t i, loop t i = loop' t i) (names : List String) (i : Nat) :
    eachName loop names i = eachName loop' names i := by
  have : loop = loop' := funext fun t => funext (h t)
  rw [this]

end CortxMessageBus
