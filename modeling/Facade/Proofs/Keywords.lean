import Facade.Describe.Signature
import Facade.Proofs.Forwarding

/-!
# Arguments by name

* `given`: the argument of a name.
* `given_overrideKeywords`: of arguments put over others, the later one of a name counts.
* `surplus_overrideKeywords`: what no parameter takes of arguments put over others.
-/

namespace Facade.Describe

open Facade.Binding Facade.Execution

/-- The argument of a name. -/
def given (kw : Keywords) (n : String) : Option Value := (kw.find? fun e => e.1 == n).map Prod.snd

theorem given_nil (n : String) : given [] n = none := rfl

theorem given_cons (e : String × Value) (kw : Keywords) (n : String) :
    given (e :: kw) n = if e.1 = n then some e.2 else given kw n := by
  unfold given
  by_cases h : e.1 = n
  · simp [h]
  · rw [List.find?_cons_of_neg (by simpa using h), if_neg h]

theorem isSome_given (kw : Keywords) (n : String) :
    (given kw n).isSome = kw.any fun e => e.1 == n := by
  rw [Bool.eq_iff_iff, given, Option.isSome_map, List.find?_isSome, List.any_eq_true]

theorem given_eq_none_iff {kw : Keywords} {n : String} :
    given kw n = none ↔ n ∉ kw.map Prod.fst := by
  rw [← Option.not_isSome_iff_eq_none, isSome_given]
  simp

theorem given_append (ks js : Keywords) (n : String) :
    given (ks ++ js) n = (given ks n <|> given js n) := by
  unfold given
  rw [List.find?_append]
  cases ks.find? fun e => e.1 == n <;> simp

theorem namedOrDefault_eq (kw : Keywords) (p : Parameter) :
    namedOrDefault kw p = ((if isNamed p then given kw p.name else none) <|> p.default) := by
  unfold namedOrDefault given
  cases isNamed p <;> rfl

theorem isGivenByName_eq (kw : Keywords) (p : Parameter) :
    isGivenByName kw p = (isNamed p && (given kw p.name).isSome) := by
  rw [isGivenByName, isSome_given]

/-! ## Arguments by name over others -/

theorem given_setEntries (n k : String) (x : Value) (es : Keywords) :
    given (Table.setEntries k x es) n = if k = n then some x else given es n := by
  induction es with
  | nil => rw [Table.setEntries, given_cons]
  | cons e es ih =>
    obtain ⟨k', y⟩ := e
    rw [Table.setEntries]
    split
    · rename_i hk
      subst hk
      rw [given_cons, given_cons]
      split <;> rfl
    · rename_i hk
      rw [given_cons, given_cons, ih]
      by_cases h : k' = n
      · simp [h, show k ≠ n from fun he => hk (h.trans he.symm)]
      · simp [h]

theorem overrideKeywords_cons (ks : Keywords) (e : String × Value) (js : Keywords) :
    overrideKeywords ks (e :: js) = overrideKeywords (Table.setEntries e.1 e.2 ks) js := rfl

theorem overrideKeywords_nil_right (ks : Keywords) : overrideKeywords ks [] = ks := rfl

/-- **The later argument of a name counts.** -/
theorem given_overrideKeywords {js : Keywords} (hn : (js.map Prod.fst).Nodup) :
    ∀ (ks : Keywords) (n : String),
      given (overrideKeywords ks js) n = (given js n <|> given ks n) := by
  induction js with
  | nil => simp [overrideKeywords_nil_right, given_nil]
  | cons e js ih =>
    intro ks n
    rw [List.map_cons, List.nodup_cons] at hn
    rw [overrideKeywords_cons, ih hn.2, given_setEntries, given_cons]
    by_cases h : e.1 = n
    · subst h
      simp [given_eq_none_iff.mpr hn.1]
    · simp [h]

theorem setEntries_of_not_mem {k : String} {x : Value} {es : Keywords} (h : k ∉ es.map Prod.fst) :
    Table.setEntries k x es = es ++ [(k, x)] := by
  induction es with
  | nil => rfl
  | cons e es ih =>
    obtain ⟨k', y⟩ := e
    rw [List.map_cons, List.mem_cons, not_or] at h
    rw [Table.setEntries, if_neg (Ne.symm h.1), ih h.2]
    rfl

theorem overrideKeywords_of_disjoint {js : Keywords} (hn : (js.map Prod.fst).Nodup) :
    ∀ {ks : Keywords}, (∀ e ∈ js, e.1 ∉ ks.map Prod.fst) → overrideKeywords ks js = ks ++ js := by
  induction js with
  | nil => simp [overrideKeywords_nil_right]
  | cons e js ih =>
    intro ks h
    rw [List.map_cons, List.nodup_cons] at hn
    rw [overrideKeywords_cons, setEntries_of_not_mem (h e List.mem_cons_self), ih hn.2]
    · simp
    · intro d hd
      have hne : d.1 ≠ e.1 := fun he => hn.1 (he ▸ List.mem_map_of_mem hd)
      have := h d (List.mem_cons_of_mem e hd)
      simp_all

theorem overrideKeywords_nil_left {js : Keywords} (hn : (js.map Prod.fst).Nodup) :
    overrideKeywords [] js = js :=
  overrideKeywords_of_disjoint hn (by simp)

theorem filter_setEntries (P : String → Bool) (k : String) (x : Value) (es : Keywords) :
    (Table.setEntries k x es).filter (fun e => P e.1) =
      if P k then Table.setEntries k x (es.filter fun e => P e.1)
      else es.filter fun e => P e.1 := by
  induction es with
  | nil => cases hP : P k <;> simp [Table.setEntries, hP]
  | cons e es ih =>
    obtain ⟨k', y⟩ := e
    rw [Table.setEntries]
    by_cases hk : k' = k
    · subst hk
      cases hP : P k' <;> simp [hP, Table.setEntries]
    · rw [if_neg hk, List.filter_cons, List.filter_cons, ih]
      cases hP : P k <;> cases hP' : P k' <;> simp [Table.setEntries, hk]

theorem filter_overrideKeywords (P : String → Bool) (js : Keywords) : ∀ ks : Keywords,
    (overrideKeywords ks js).filter (fun e => P e.1) =
      overrideKeywords (ks.filter fun e => P e.1) (js.filter fun e => P e.1) := by
  induction js with
  | nil => intro ks; rfl
  | cons e js ih =>
    intro ks
    rw [overrideKeywords_cons, ih, filter_setEntries, List.filter_cons]
    cases hP : P e.1
    · simp
    · simp [overrideKeywords_cons]

/-- What is left of overridden names is what is left of both. -/
theorem surplus_overrideKeywords (ps : List Parameter) (ks js : Keywords) :
    surplus ps (overrideKeywords ks js) = overrideKeywords (surplus ps ks) (surplus ps js) :=
  filter_overrideKeywords (fun n => !(ps.any fun p => isNamed p && p.name == n)) js ks

/-! ## Names of parameters -/

/-- The names of the parameters that can be given by name. -/
def namedNames (ps : List Parameter) : List String := (ps.filter isNamed).map Parameter.name

theorem any_isNamed_iff {ps : List Parameter} {n : String} :
    (ps.any fun p => isNamed p && p.name == n) = true ↔ n ∈ namedNames ps := by
  simp [namedNames, and_assoc]

theorem surplus_eq_filter (ps : List Parameter) (kw : Keywords) :
    surplus ps kw = kw.filter fun e => !(namedNames ps).contains e.1 := by
  refine List.filter_congr fun e _ => ?_
  rw [Bool.eq_iff_iff, Bool.not_eq_true', Bool.not_eq_true', ← Bool.not_eq_true,
    ← Bool.not_eq_true, any_isNamed_iff, List.contains_iff_mem]

theorem namedNames_cons (p : Parameter) (ps : List Parameter) :
    namedNames (p :: ps) = (if isNamed p then [p.name] else []) ++ namedNames ps := by
  unfold namedNames
  rw [List.filter_cons]
  split <;> rfl

end Facade.Describe
