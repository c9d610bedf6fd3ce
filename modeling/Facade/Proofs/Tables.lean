import Facade.Table
import Mathlib.Data.List.Induction
import Mathlib.Data.List.Nodup

/-!
# Tables built from lists

* `keys_foldl`: keys stand in the order in which they first came, if every step puts a new key last.
* `keys_ofList`, `get?_ofList`: in a table that a list of writes produces, the last write under a key
  has the value.
* `last?`, `get?_union`: the last write under a key, and what is found after more writes.
* `set_set`: a write that is written over leaves nothing behind.
-/

namespace Facade.Table

variable {κ α ε : Type} [DecidableEq κ]

/-- **Keys stand in the order in which they first came.** -/
theorem keys_foldl {f : Table κ α → ε → Table κ α} {key : ε → κ}
    (hf : ∀ t x, (f t x).keys = if key x ∈ t.keys then t.keys else t.keys ++ [key x])
    (xs : List ε) : (xs.foldl f {}).keys = (xs.map key).eraseDups := by
  induction xs using List.reverseRecOn with
  | nil => rfl
  | append_singleton xs x ih =>
    have hmem : key x ∈ (xs.foldl f {}).keys ↔ key x ∈ xs.map key := by
      rw [ih]
      exact List.mem_eraseDups
    have hlast : [key x].removeAll (xs.map key) = if key x ∈ xs.map key then [] else [key x] := by
      by_cases h : key x ∈ xs.map key
      · rw [if_pos h, List.removeAll, List.filter_cons_of_neg (by simpa using h)]
        rfl
      · rw [if_neg h, List.removeAll, List.filter_cons_of_pos (by simpa using h)]
        rfl
    rw [List.foldl_append, List.foldl_cons, List.foldl_nil, hf, List.map_append, List.eraseDups_append,
      ← ih, List.map_singleton, hlast]
    by_cases h : key x ∈ xs.map key
    · rw [if_pos (hmem.mpr h), if_pos h]
      exact (List.append_nil _).symm
    · rw [if_neg (mt hmem.mp h), if_neg h]
      rfl

/-- Such keys are there once. -/
theorem nodup_keys_foldl {f : Table κ α → ε → Table κ α} {key : ε → κ}
    (hf : ∀ t x, (f t x).keys = if key x ∈ t.keys then t.keys else t.keys ++ [key x]) (xs : List ε) :
    (xs.foldl f {}).keys.Nodup := by
  induction xs using List.reverseRecOn with
  | nil => exact List.nodup_nil
  | append_singleton xs x ih =>
    rw [List.foldl_append, List.foldl_cons, List.foldl_nil, hf]
    split
    · exact ih
    · rename_i h
      refine List.nodup_append.mpr ⟨ih, by simp, ?_⟩
      rintro a ha b hb rfl
      exact h (List.mem_singleton.mp hb ▸ ha)

variable (es : List (κ × α))

theorem keys_ofList : (ofList es).keys = (es.map Prod.fst).eraseDups :=
  keys_foldl (fun t e => keys_set t e.1 e.2) es

theorem nodup_keys_ofList : (ofList es).keys.Nodup := nodup_keys_foldl (fun t e => keys_set t e.1 e.2) es

/-- **The last write under a key has the value.** -/
theorem get?_ofList (k : κ) :
    (ofList es).get? k = (es.reverse.find? fun e => e.1 = k).map Prod.snd := by
  induction es using List.reverseRecOn with
  | nil => rfl
  | append_singleton es e ih =>
    have hstep : ofList (es ++ [e]) = (ofList es).set e.1 e.2 := by
      rw [ofList, List.foldl_append]
      rfl
    rw [hstep, get?_set, ih, List.reverse_append, List.reverse_singleton, List.singleton_append,
      List.find?_cons]
    by_cases h : e.1 = k
    · rw [if_pos h]
      simp [h]
    · rw [if_neg h]
      simp [h]

/-! ## Last writes -/

/-- What a list of writes leaves under a key. -/
def last? (es : List (κ × α)) (k : κ) : Option α := (es.reverse.find? fun e => e.1 = k).map Prod.snd

variable {es} {k : κ}

theorem last?_append (es' : List (κ × α)) : last? (es ++ es') k = (last? es' k).or (last? es k) := by
  rw [last?, List.reverse_append, List.find?_append]
  cases h : es'.reverse.find? fun e => e.1 = k <;> simp [last?, h]

theorem last?_singleton (e : κ × α) : last? [e] k = if e.1 = k then some e.2 else none := by
  by_cases h : e.1 = k <;> simp [last?, h]

theorem last?_map {β : Type} (f : α → β) :
    last? (es.map fun e => (e.1, f e.2)) k = (last? es k).map f := by
  simp [last?, ← List.map_reverse, List.find?_map, Function.comp_def]

/-- **More writes come first.** -/
theorem get?_union (t s : Table κ α) (k : κ) :
    (t.union s).get? k = (last? s.entries k).or (t.get? k) := by
  obtain ⟨es⟩ := s
  show (es.foldl (fun t e => t.set e.1 e.2) t).get? k = _
  induction es using List.reverseRecOn with
  | nil => rfl
  | append_singleton es e ih =>
    rw [List.foldl_append, List.foldl_cons, List.foldl_nil, get?_set, ih, last?_append,
      last?_singleton]
    by_cases h : e.1 = k <;> simp [h]

theorem nodup_keys_union {t : Table κ α} (h : t.keys.Nodup) (s : Table κ α) :
    (t.union s).keys.Nodup := by
  obtain ⟨es⟩ := s
  show (es.foldl (fun t e => t.set e.1 e.2) t).keys.Nodup
  induction es using List.reverseRecOn with
  | nil => exact h
  | append_singleton es e ih =>
    rw [List.foldl_append, List.foldl_cons, List.foldl_nil, keys_set]
    split
    · exact ih
    · rename_i hk
      exact ih.append (List.nodup_singleton e.1) (by simpa using hk)

/-- Where no key comes twice, the last write is the only one. -/
theorem last?_entries {t : Table κ α} (h : t.keys.Nodup) : last? t.entries k = t.get? k := by
  have hback : (⟨t.entries.reverse⟩ : Table κ α).keys.Nodup := by
    rw [keys, List.map_reverse, List.nodup_reverse]
    exact h
  have hlast : last? t.entries k = (⟨t.entries.reverse⟩ : Table κ α).get? k := rfl
  refine Option.ext fun x => ?_
  rw [hlast, get?_eq_some_iff hback, get?_eq_some_iff h, List.mem_reverse]

/-! ## Writes over writes -/

theorem set_set (t : Table κ α) (k : κ) (x y : α) : (t.set k x).set k y = t.set k y := by
  obtain ⟨es⟩ := t
  show Table.mk (setEntries k y (setEntries k x es)) = ⟨setEntries k y es⟩
  congr 1
  induction es with
  | nil => simp [setEntries]
  | cons e es ih => by_cases h : e.1 = k <;> simp [setEntries, h, ih]

end Facade.Table
