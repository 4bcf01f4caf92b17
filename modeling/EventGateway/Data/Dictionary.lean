/-!
# Dictionaries

Values by key, in the order in which the keys were first given. Each key occurs once, so the number of
entries is the number of keys. The operations are described by what `get?` finds afterwards.
-/

namespace EventGateway

/-- Values by key. -/
structure Dictionary (κ α : Type) where
  entries : List (κ × α)
  nodup : (entries.map Prod.fst).Nodup

namespace Dictionary

variable {κ α : Type}

instance : EmptyCollection (Dictionary κ α) := ⟨⟨[], .nil⟩⟩

instance : Inhabited (Dictionary κ α) := ⟨∅⟩

def keys (d : Dictionary κ α) : List κ := d.entries.map Prod.fst

/-- The values, in the order of their keys. -/
def values (d : Dictionary κ α) : List α := d.entries.map Prod.snd

/-- The number of keys. -/
def size (d : Dictionary κ α) : Nat := d.entries.length

@[ext] theorem ext {d e : Dictionary κ α} (h : d.entries = e.entries) : d = e := by
  cases d; cases e; simp_all

theorem nodup_keys (d : Dictionary κ α) : d.keys.Nodup := d.nodup

@[simp] theorem keys_empty : (∅ : Dictionary κ α).keys = [] := rfl

@[simp] theorem size_empty : (∅ : Dictionary κ α).size = 0 := rfl

variable [DecidableEq κ]

/-! ### Operations -/

def get? (d : Dictionary κ α) (key : κ) : Option α :=
  (d.entries.find? (·.1 = key)).map Prod.snd

def modify (d : Dictionary κ α) (key : κ) (f : α → α) : Dictionary κ α where
  entries := d.entries.map fun e => if e.1 = key then (e.1, f e.2) else e
  nodup := by
    have h : (d.entries.map fun e => if e.1 = key then (e.1, f e.2) else e).map Prod.fst =
        d.entries.map Prod.fst := by
      rw [List.map_map]
      refine List.map_congr_left fun e _ => ?_
      simp only [Function.comp]
      split <;> rfl
    rw [h]
    exact d.nodup

/-- Gives a key a value, in its old place if it had one. -/
def insert (d : Dictionary κ α) (key : κ) (value : α) : Dictionary κ α :=
  if h : key ∈ d.keys then d.modify key fun _ => value
  else
    { entries := d.entries ++ [(key, value)]
      nodup := by
        rw [List.map_append, List.nodup_append]
        refine ⟨d.nodup, by simp, ?_⟩
        intro a ha b hb hab
        have : b = key := by simpa using hb
        exact h (this ▸ hab ▸ ha) }

def erase (d : Dictionary κ α) (key : κ) : Dictionary κ α where
  entries := d.entries.filter (·.1 ≠ key)
  nodup := d.nodup.sublist (List.filter_sublist.map _)

/-! ### What is found afterwards -/

@[simp] theorem get?_empty (key : κ) : (∅ : Dictionary κ α).get? key = none := rfl

theorem get?_eq_some_iff {d : Dictionary κ α} {key : κ} {value : α} :
    d.get? key = some value ↔ (key, value) ∈ d.entries := by
  obtain ⟨entries, nodup⟩ := d
  simp only [get?]
  induction entries with
  | nil => simp
  | cons e rest ih =>
    rw [List.map_cons, List.nodup_cons] at nodup
    by_cases h : e.1 = key
    · subst h
      obtain ⟨k, v⟩ := e
      simp only [List.find?_cons, decide_true, Option.map_some, Option.some.injEq, List.mem_cons,
        Prod.mk.injEq, true_and]
      constructor
      · exact fun h => .inl h.symm
      · rintro (h | h)
        · exact h.symm
        · exact absurd (List.mem_map.2 ⟨_, h, rfl⟩) nodup.1
    · simp only [List.find?_cons, h, decide_false, List.mem_cons]
      rw [ih nodup.2]
      constructor
      · exact .inr
      · rintro (rfl | h')
        · exact absurd rfl h
        · exact h'

theorem get?_eq_none_iff {d : Dictionary κ α} {key : κ} : d.get? key = none ↔ key ∉ d.keys := by
  simp only [get?, Option.map_eq_none_iff, List.find?_eq_none, decide_eq_true_eq, keys, List.mem_map,
    not_exists, not_and]

theorem mem_keys_iff {d : Dictionary κ α} {key : κ} :
    key ∈ d.keys ↔ ∃ value, d.get? key = some value := by
  cases h : d.get? key with
  | none => simp [get?_eq_none_iff.1 h]
  | some v =>
    simp only [Option.some.injEq, exists_eq', iff_true]
    exact List.mem_map.2 ⟨_, get?_eq_some_iff.1 h, rfl⟩

@[simp] theorem keys_modify (d : Dictionary κ α) (key : κ) (f : α → α) :
    (d.modify key f).keys = d.keys := by
  simp only [keys, modify, List.map_map]
  refine List.map_congr_left fun e _ => ?_
  simp only [Function.comp]
  split <;> rfl

@[simp] theorem size_modify (d : Dictionary κ α) (key : κ) (f : α → α) :
    (d.modify key f).size = d.size := by simp [size, modify]

theorem get?_modify (d : Dictionary κ α) (key k : κ) (f : α → α) :
    (d.modify key f).get? k = if k = key then (d.get? k).map f else d.get? k := by
  obtain ⟨entries, nodup⟩ := d
  simp only [get?, modify]
  induction entries with
  | nil => simp
  | cons e rest ih =>
    rw [List.map_cons, List.nodup_cons] at nodup
    have ih := ih nodup.2
    by_cases hk : e.1 = key <;> by_cases hk' : e.1 = k <;> grind

@[simp] theorem get?_insert (d : Dictionary κ α) (key k : κ) (value : α) :
    (d.insert key value).get? k = if k = key then some value else d.get? k := by
  unfold insert
  split
  · next h =>
    obtain ⟨v, hv⟩ := mem_keys_iff.1 h
    rw [get?_modify]
    split
    · next hk => subst hk; simp [hv]
    · rfl
  · next h =>
    have hn : d.entries.find? (·.1 = key) = none := Option.map_eq_none_iff.1 (get?_eq_none_iff.2 h)
    simp only [get?, List.find?_append]
    by_cases hk : k = key
    · subst hk
      simp [hn]
    · have hk' : ¬ key = k := fun h => hk h.symm
      simp [hk, hk']

@[simp] theorem get?_erase (d : Dictionary κ α) (key k : κ) :
    (d.erase key).get? k = if k = key then none else d.get? k := by
  obtain ⟨entries, nodup⟩ := d
  simp only [get?, erase]
  induction entries with
  | nil => simp
  | cons e rest ih =>
    rw [List.map_cons, List.nodup_cons] at nodup
    have ih := ih nodup.2
    by_cases hk : e.1 = key <;> by_cases hk' : e.1 = k <;> grind

end Dictionary

end EventGateway
