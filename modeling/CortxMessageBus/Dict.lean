import Mathlib.Data.List.Nodup

/-!
# Python dictionaries

The adapter keeps its clients, reads broker metadata and builds configurations in Python
`dict`s.  A `dict` is modelled by its items in insertion order; the structure carries the
fact that its keys are distinct, so no later proof has to re-establish it.  Assignment
`d[k] = v` overwrites an existing key in place and appends a new one at the end, as in
CPython.
-/

namespace CortxMessageBus

/-- A Python `dict`: its items in insertion order, with distinct keys. -/
structure Dict (κ ν : Type) where
  items : List (κ × ν)
  nodup_keys : (items.map Prod.fst).Nodup
  deriving DecidableEq

namespace Dict

variable {κ ν : Type} [DecidableEq κ]

/-- `{}`. -/
def empty : Dict κ ν := ⟨[], List.nodup_nil⟩

/-- `d.keys()`. -/
def keys (d : Dict κ ν) : List κ := d.items.map Prod.fst

/-- The value of the first item with key `k`. -/
def lookup (k : κ) : List (κ × ν) → Option ν
  | [] => none
  | p :: ps => if p.1 = k then some p.2 else lookup k ps

/-- `d[k]`, with `none` where Python raises `KeyError`. -/
def get? (d : Dict κ ν) (k : κ) : Option ν := lookup k d.items

/-- The items after `d[k] = v` when `k` is already a key: the value is replaced in place. -/
def overwrite (items : List (κ × ν)) (k : κ) (v : ν) : List (κ × ν) :=
  items.map fun p => if p.1 = k then (k, v) else p

theorem keys_overwrite (items : List (κ × ν)) (k : κ) (v : ν) :
    (overwrite items k v).map Prod.fst = items.map Prod.fst := by
  simp only [overwrite, List.map_map]
  congr 1
  funext p
  by_cases h : p.1 = k <;> simp [h]

omit [DecidableEq κ] in
theorem nodup_append_key {items : List (κ × ν)} {k : κ} (hn : (items.map Prod.fst).Nodup)
    (hk : k ∉ items.map Prod.fst) (v : ν) : ((items ++ [(k, v)]).map Prod.fst).Nodup := by
  rw [List.map_append, List.nodup_append]
  exact ⟨hn, List.nodup_singleton k, by simpa using hk⟩

/-- `d[k] = v`. -/
def set (d : Dict κ ν) (k : κ) (v : ν) : Dict κ ν :=
  if hk : k ∈ d.keys then ⟨overwrite d.items k v, by rw [keys_overwrite]; exact d.nodup_keys⟩
  else ⟨d.items ++ [(k, v)], nodup_append_key d.nodup_keys hk v⟩

@[simp] theorem lookup_nil (k : κ) : lookup k ([] : List (κ × ν)) = none := rfl

@[simp] theorem lookup_cons (k : κ) (p : κ × ν) (ps : List (κ × ν)) :
    lookup k (p :: ps) = if p.1 = k then some p.2 else lookup k ps := rfl

omit [DecidableEq κ] in
@[simp] theorem keys_empty : (empty : Dict κ ν).keys = [] := rfl

@[simp] theorem get?_empty (k : κ) : (empty : Dict κ ν).get? k = none := rfl

@[simp] theorem overwrite_cons (p : κ × ν) (ps : List (κ × ν)) (k : κ) (v : ν) :
    overwrite (p :: ps) k v = (if p.1 = k then (k, v) else p) :: overwrite ps k v := rfl

theorem lookup_isSome_iff (items : List (κ × ν)) (k : κ) :
    (lookup k items).isSome ↔ k ∈ items.map Prod.fst := by
  induction items with
  | nil => simp
  | cons p ps ih =>
    by_cases h : p.1 = k
    · simp [h]
    · simp only [lookup_cons, h, if_false, ih, List.map_cons, List.mem_cons]
      exact ⟨Or.inr, fun h' => h'.resolve_left (Ne.symm h)⟩

theorem lookup_overwrite_self {items : List (κ × ν)} {k : κ} (hk : k ∈ items.map Prod.fst)
    (v : ν) : lookup k (overwrite items k v) = some v := by
  induction items with
  | nil => simp at hk
  | cons p ps ih =>
    by_cases ha : p.1 = k
    · simp [ha]
    · have hk' : k ∈ ps.map Prod.fst := by
        simpa [Ne.symm ha] using hk
      simp [ha, ih hk']

theorem lookup_overwrite_ne (items : List (κ × ν)) {k k' : κ} (h : k' ≠ k) (v : ν) :
    lookup k' (overwrite items k v) = lookup k' items := by
  induction items with
  | nil => rfl
  | cons p ps ih =>
    by_cases ha : p.1 = k
    · simp [ha, Ne.symm h, ih]
    · simp [ha, ih]

theorem lookup_append_key (items : List (κ × ν)) (k k' : κ) (v : ν) :
    lookup k' (items ++ [(k, v)]) = (lookup k' items).or (if k' = k then some v else none) := by
  induction items with
  | nil =>
    by_cases h : k' = k
    · subst h; simp
    · simp [h, Ne.symm h]
  | cons p ps ih => by_cases ha : p.1 = k' <;> simp [ha, ih]

/-- The one fact about assignment that later proofs use. -/
@[simp] theorem get?_set (d : Dict κ ν) (k k' : κ) (v : ν) :
    (d.set k v).get? k' = if k' = k then some v else d.get? k' := by
  unfold set get?
  split
  · next hk =>
    by_cases h : k' = k
    · subst h; simpa using lookup_overwrite_self hk v
    · simpa [h] using lookup_overwrite_ne d.items h v
  · next hk =>
    simp only [lookup_append_key]
    by_cases h : k' = k
    · subst h
      have : lookup k' d.items = none :=
        Option.not_isSome_iff_eq_none.1 (mt (lookup_isSome_iff _ _).1 hk)
      simp [this]
    · simp [h]

theorem mem_keys_iff_get?_isSome (d : Dict κ ν) (k : κ) :
    k ∈ d.keys ↔ (d.get? k).isSome :=
  (lookup_isSome_iff d.items k).symm

@[simp] theorem mem_keys_set (d : Dict κ ν) (k k' : κ) (v : ν) :
    k' ∈ (d.set k v).keys ↔ k' = k ∨ k' ∈ d.keys := by
  rw [mem_keys_iff_get?_isSome, mem_keys_iff_get?_isSome, get?_set]
  by_cases h : k' = k <;> simp [h]

/-- `del d[k]`, or `d.pop(k, None)`: the items without key `k`. -/
def erase (d : Dict κ ν) (k : κ) : Dict κ ν :=
  ⟨d.items.filter (·.1 ≠ k), d.nodup_keys.sublist ((List.filter_sublist _).map _)⟩

/-- `d` updated with every item of `over`, in `over`'s order. -/
def overlay (d over : Dict κ ν) : Dict κ ν := over.items.foldl (fun d p => d.set p.1 p.2) d

theorem lookup_filter_ne (k k' : κ) : ∀ items : List (κ × ν),
    lookup k' (items.filter (·.1 ≠ k)) = if k' = k then none else lookup k' items
  | [] => by simp
  | p :: ps => by
    have ih := lookup_filter_ne k k' ps
    rw [List.filter_cons, lookup_cons]
    by_cases hp : p.1 = k
    · rw [if_neg (by simpa using hp), ih]
      by_cases hk : k' = k
      · simp [hk]
      · simp [show p.1 ≠ k' from fun h => hk (h ▸ hp)]
    · rw [if_pos (by simpa using hp), lookup_cons, ih]
      by_cases hk : p.1 = k'
      · simp [hk, show k' ≠ k from hk ▸ hp]
      · simp [hk]

@[simp] theorem get?_erase (d : Dict κ ν) (k k' : κ) :
    (d.erase k).get? k' = if k' = k then none else d.get? k' :=
  lookup_filter_ne k k' d.items

theorem get?_foldl_set (k : κ) : ∀ (ps : List (κ × ν)) (d : Dict κ ν), (ps.map Prod.fst).Nodup →
    (ps.foldl (fun d p => d.set p.1 p.2) d).get? k = (lookup k ps).or (d.get? k)
  | [], _, _ => by simp
  | p :: ps, d, hnd => by
    rw [List.map_cons, List.nodup_cons] at hnd
    rw [List.foldl_cons, get?_foldl_set k ps _ hnd.2, get?_set, lookup_cons]
    by_cases hp : p.1 = k
    · subst hp
      have : lookup p.1 ps = none :=
        Option.not_isSome_iff_eq_none.1 (mt (lookup_isSome_iff _ _).1 hnd.1)
      simp [this]
    · simp [hp, Ne.symm hp]

/-- A key of the overlay reads from `over` first. -/
@[simp] theorem get?_overlay (d over : Dict κ ν) (k : κ) :
    (d.overlay over).get? k = (over.get? k).or (d.get? k) :=
  get?_foldl_set k over.items d over.nodup_keys

/-- A dict whose only key is `k`, mapping it to `v`, is `{k: v}`. -/
theorem eq_set_empty_of_keys {d : Dict κ ν} {k : κ} {v : ν} (hkeys : ∀ k' ∈ d.keys, k' = k)
    (hv : d.get? k = some v) : d = empty.set k v := by
  obtain ⟨items, hnd⟩ := d
  have hset : (empty : Dict κ ν).set k v = ⟨[(k, v)], List.nodup_singleton k⟩ := by
    simp [set, empty, keys]
  rw [hset]
  match items, hnd, hkeys, hv with
  | [], _, _, hv => simp [get?] at hv
  | [(k₁, v₁)], _, hkeys, hv =>
    obtain rfl : k₁ = k := hkeys k₁ (by simp [keys])
    simp only [get?, lookup_cons, if_true, Option.some.injEq] at hv
    subst hv; rfl
  | (k₁, _) :: (k₂, _) :: _, hnd, hkeys, _ =>
    have h₁ : k₁ = k := hkeys k₁ (by simp [keys])
    have h₂ : k₂ = k := hkeys k₂ (by simp [keys])
    simp [h₁, h₂] at hnd

end Dict

end CortxMessageBus
