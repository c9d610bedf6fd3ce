/-!
# Tables in order of first insertion

A `Table` pairs keys with values and remembers in which order the keys first came in.

* `Table.get?`, `Table.set`, `Table.setDefault`, `Table.erase`: the operations.
* `Table.keys`, `Table.values`: the two views; everything observable of a table is in them.
* `get?_set`, `keys_set`, `get?_setDefault`, `keys_setDefault`: what a write does to the views.
* `get?_eq_some_iff`: where no key comes twice, the entries are what is found.
-/

namespace Facade

universe u v

/-- A finite map that lists its entries in the order in which their keys were first written. -/
structure Table (κ : Type u) (α : Type v) where
  /-- The entries, oldest key first. -/
  entries : List (κ × α) := []
  deriving Repr, Inhabited

namespace Table

variable {κ : Type u} {α : Type v}

/-! ## Views -/

/-- The keys, oldest first. -/
def keys (t : Table κ α) : List κ := t.entries.map Prod.fst

/-- The values, in the order of their keys. -/
def values (t : Table κ α) : List α := t.entries.map Prod.snd

/-- How many keys the table holds. -/
def size (t : Table κ α) : Nat := t.entries.length

variable [DecidableEq κ]

/-! ## Operations -/

/-- The value under a key. -/
def get? (t : Table κ α) (k : κ) : Option α :=
  (t.entries.find? fun e => e.1 = k).map Prod.snd

/-- Whether a key is present. -/
def contains (t : Table κ α) (k : κ) : Bool := (t.get? k).isSome

/-- Writes a list of entries: in place if the key is there, at the end otherwise. -/
def setEntries (k : κ) (x : α) : List (κ × α) → List (κ × α)
  | [] => [(k, x)]
  | (k', y) :: r => if k' = k then (k', x) :: r else (k', y) :: setEntries k x r

/-- Puts a value under a key; a key that is already present keeps its place. -/
def set (t : Table κ α) (k : κ) (x : α) : Table κ α := ⟨setEntries k x t.entries⟩

/-- Puts a value under a key unless the key is present. -/
def setDefault (t : Table κ α) (k : κ) (x : α) : Table κ α :=
  if t.contains k then t else ⟨t.entries ++ [(k, x)]⟩

/-- Removes a key. -/
def erase (t : Table κ α) (k : κ) : Table κ α := ⟨t.entries.filter fun e => e.1 ≠ k⟩

/-- The table that a list of writes produces. -/
def ofList (es : List (κ × α)) : Table κ α :=
  es.foldl (fun t e => t.set e.1 e.2) {}

/-- Writes every entry of the second table into the first. -/
def union (t s : Table κ α) : Table κ α :=
  s.entries.foldl (fun t e => t.set e.1 e.2) t

/-! ## What a write does to the views -/

@[simp] theorem get?_empty (k : κ) : ({} : Table κ α).get? k = none := rfl

omit [DecidableEq κ] in
@[simp] theorem keys_empty : ({} : Table κ α).keys = [] := rfl

theorem find?_setEntries (k k' : κ) (x : α) (es : List (κ × α)) :
    ((setEntries k x es).find? fun e => e.1 = k').map Prod.snd =
      if k = k' then some x else (es.find? fun e => e.1 = k').map Prod.snd := by
  induction es with
  | nil => by_cases h : k = k' <;> simp [setEntries, h]
  | cons e r ih => grind [setEntries]

/-- **Reading after a write.** -/
theorem get?_set (t : Table κ α) (k k' : κ) (x : α) :
    (t.set k x).get? k' = if k = k' then some x else t.get? k' :=
  find?_setEntries k k' x t.entries

@[simp] theorem get?_set_self (t : Table κ α) (k : κ) (x : α) : (t.set k x).get? k = some x := by
  simp [get?_set]

theorem get?_set_of_ne (t : Table κ α) {k k' : κ} (x : α) (h : k ≠ k') :
    (t.set k x).get? k' = t.get? k' := by
  simp [get?_set, h]

theorem get?_eq_none_iff (t : Table κ α) (k : κ) : t.get? k = none ↔ k ∉ t.keys := by
  simp only [get?, keys, Option.map_eq_none_iff, List.find?_eq_none, List.mem_map, not_exists,
    not_and, decide_eq_true_eq]

theorem contains_iff (t : Table κ α) (k : κ) : t.contains k = true ↔ k ∈ t.keys := by
  rw [contains, Option.isSome_iff_ne_none, ne_eq, get?_eq_none_iff, Classical.not_not]

theorem keys_setEntries (k : κ) (x : α) (es : List (κ × α)) :
    (setEntries k x es).map Prod.fst =
      if k ∈ es.map Prod.fst then es.map Prod.fst else es.map Prod.fst ++ [k] := by
  induction es with
  | nil => simp [setEntries]
  | cons e r ih => grind [setEntries]

/-- **Keys after a write.** A new key goes to the end, an old one stays where it is. -/
theorem keys_set (t : Table κ α) (k : κ) (x : α) :
    (t.set k x).keys = if k ∈ t.keys then t.keys else t.keys ++ [k] :=
  keys_setEntries k x t.entries

/-- A new key goes to the end with its value. -/
theorem entries_set_of_get?_eq_none {t : Table κ α} {k : κ} (x : α) (h : t.get? k = none) :
    (t.set k x).entries = t.entries ++ [(k, x)] := by
  rw [get?_eq_none_iff] at h
  obtain ⟨es⟩ := t
  show setEntries k x es = es ++ [(k, x)]
  induction es with
  | nil => rfl
  | cons e r ih =>
    simp only [keys, List.map_cons, List.mem_cons, not_or] at h
    rw [setEntries, if_neg (Ne.symm h.1), ih h.2]
    rfl

/-- Writing what is there changes nothing. -/
theorem set_of_get?_eq_some {t : Table κ α} {k : κ} {x : α} (h : t.get? k = some x) : t.set k x = t := by
  obtain ⟨es⟩ := t
  show Table.mk (setEntries k x es) = ⟨es⟩
  congr 1
  induction es with
  | nil => cases h
  | cons e r ih =>
    rw [setEntries]
    split
    · rename_i hk
      have hx : some e.2 = some x := by simpa [get?, hk] using h
      rw [← Option.some.inj hx]
    · rename_i hk
      rw [ih (by simpa [get?, hk] using h)]

/-- Where no key comes twice, the entries are what is found. -/
theorem get?_eq_some_iff {t : Table κ α} (h : t.keys.Nodup) {k : κ} {x : α} :
    t.get? k = some x ↔ (k, x) ∈ t.entries := by
  obtain ⟨es⟩ := t
  induction es with
  | nil => simp [get?]
  | cons e r ih =>
    obtain ⟨k', y⟩ := e
    simp only [keys, List.map_cons, List.nodup_cons, List.mem_map, not_exists, not_and] at h
    simp only [get?, List.find?_cons, List.mem_cons, Prod.mk.injEq]
    by_cases hk : k' = k
    · subst hk
      simp only [decide_true, Option.map_some, Option.some.injEq, true_and]
      exact ⟨fun hx => .inl hx.symm, fun hx => hx.elim Eq.symm fun hm => absurd rfl (h.1 _ hm)⟩
    · simp only [hk, decide_false, Ne.symm hk, false_and, false_or]
      exact ih h.2

theorem keys_setDefault (t : Table κ α) (k : κ) (x : α) :
    (t.setDefault k x).keys = if k ∈ t.keys then t.keys else t.keys ++ [k] := by
  unfold setDefault
  by_cases h : k ∈ t.keys
  · simp [h, (contains_iff t k).2 h]
  · have : ¬ t.contains k = true := fun hc => h ((contains_iff t k).1 hc)
    rw [if_neg this, if_neg h]
    simp [keys]

/-- **The first value stays.** Writing a default does not disturb what a key already holds. -/
theorem get?_setDefault (t : Table κ α) (k k' : κ) (x : α) :
    (t.setDefault k x).get? k' =
      if t.contains k = false ∧ k = k' then some x else t.get? k' := by
  unfold setDefault
  by_cases h : t.contains k = true
  · simp [h]
  · have hn : t.get? k = none := by
      simpa [contains, Option.isSome_iff_ne_none] using h
    simp only [h, Bool.false_eq_true, if_false, true_and]
    simp only [get?] at hn ⊢
    rw [List.find?_append]
    by_cases hk : k = k'
    · subst hk
      rw [Option.map_eq_none_iff] at hn
      simp [hn]
    · cases hf : t.entries.find? (fun e => decide (e.1 = k')) <;> simp [hk]

end Table

end Facade
