import Facade.Proofs.Keywords

/-!
# What a partial call leaves

* `remain`: the parameters that are left when arguments are given, in order.
* `Fits`, `filledNames`: the arguments that find a parameter, and the names that are filled by them.
* `Stems`, `remain_cons`: each parameter goes away or stays as one that stems from it.
* `isLegal_remain`: what is left is a parameter list that a definition can have.
-/

namespace Facade.Describe

open Facade.Binding Facade.Execution
open Syntax (ParamKind)

/-! ## What is left of a parameter list -/

/-- The parameters that are left when arguments are given: positional ones from the front, others by
name. A parameter given by name keeps the value as its default; it and those behind it can be given by
name only from then on, which `moved` tells. -/
def remain (ks : Keywords) : Bool → List Value → List Parameter → List Parameter
  | _, _, [] => []
  | moved, as, p :: ps =>
    match p.kind, as with
    | .positionalOnly, _ :: as => remain ks moved as ps
    | .positionalOrKeyword, _ :: as => remain ks moved as ps
    | .positionalOnly, [] => p :: remain ks moved [] ps
    | .positionalOrKeyword, [] =>
      match given ks p.name with
      | some v => { p with kind := .keywordOnly, default := some v } :: remain ks true [] ps
      | none => (if moved then { p with kind := .keywordOnly } else p) :: remain ks moved [] ps
    | .varPositional, _ => if moved then remain ks moved [] ps else p :: remain ks moved [] ps
    | .keywordOnly, as =>
      { p with default := given ks p.name <|> p.default } :: remain ks moved as ps
    | .varKeyword, as => p :: remain ks moved as ps

section Remain

attribute [local simp] remain

variable {ks : Keywords} {moved : Bool} {p : Parameter} {ps : List Parameter}

theorem remain_position (hp : isPositional p = true) (a : Value) (as : List Value) :
    remain ks moved (a :: as) (p :: ps) = remain ks moved as ps := by
  cases hk : p.kind <;> simp_all [isPositional]

theorem remain_positionalOnly (hk : p.kind = .positionalOnly) :
    remain ks moved [] (p :: ps) = p :: remain ks moved [] ps := by
  simp [hk]

theorem remain_given (hk : p.kind = .positionalOrKeyword) {v : Value}
    (hv : given ks p.name = some v) :
    remain ks moved [] (p :: ps) =
      { p with kind := .keywordOnly, default := some v } :: remain ks true [] ps := by
  simp [hk, hv]

theorem remain_not_given (hk : p.kind = .positionalOrKeyword) (hv : given ks p.name = none) :
    remain ks moved [] (p :: ps) =
      (if moved then { p with kind := .keywordOnly } else p) :: remain ks moved [] ps := by
  simp [hk, hv]

theorem remain_varPositional (hk : p.kind = .varPositional) (as : List Value) :
    remain ks moved as (p :: ps) =
      if moved then remain ks moved [] ps else p :: remain ks moved [] ps := by
  simp [hk]

theorem remain_keywordOnly (hk : p.kind = .keywordOnly) (as : List Value) :
    remain ks moved as (p :: ps) =
      { p with default := given ks p.name <|> p.default } :: remain ks moved as ps := by
  simp [hk]

theorem remain_varKeyword (hk : p.kind = .varKeyword) (as : List Value) :
    remain ks moved as (p :: ps) = p :: remain ks moved as ps := by
  simp [hk]

end Remain

/-- Arguments fit the front of a parameter list: each finds a parameter that takes it. -/
def Fits : List Value → List Parameter → Prop
  | [], _ => True
  | _ :: _, [] => False
  | _ :: as, p :: ps =>
    match p.kind with
    | .positionalOnly | .positionalOrKeyword => Fits as ps
    | .varPositional => True
    | .keywordOnly | .varKeyword => False

/-- The names of the parameters at the front of a list that are given by position and could be given
by name too. -/
def filledNames : List Value → List Parameter → List String
  | _ :: as, p :: ps =>
    match p.kind with
    | .positionalOnly => filledNames as ps
    | .positionalOrKeyword => p.name :: filledNames as ps
    | _ => []
  | _, _ => []

/-! ## Parameters that stay -/

variable {ks : Keywords} {moved : Bool} {as : List Value} {p : Parameter} {ps : List Parameter}

/-- A parameter that is left, and the one that it was. -/
structure Stems (r q : Parameter) : Prop where
  name : r.name = q.name
  rank : rank r.kind ≤ rank q.kind
  kind : q.kind = r.kind ∨ r.kind = .positionalOrKeyword ∧ q.kind = .keywordOnly

theorem stems_of_kind_eq {r q : Parameter} (hn : r.name = q.name) (hk : q.kind = r.kind) :
    Stems r q := ⟨hn, Nat.le_of_eq (congrArg _ hk.symm), .inl hk⟩

theorem stems_of_moved {r q : Parameter} (hn : r.name = q.name) (hk : q.kind = .keywordOnly)
    (hr : r.kind = .positionalOrKeyword) : Stems r q :=
  ⟨hn, by rw [hk, hr]; decide, .inr ⟨hr, hk⟩⟩

/-- **Each parameter goes away or stays** as one that stems from it; one that takes a surplus of names
stays. -/
theorem remain_cons (ks : Keywords) (moved : Bool) (as : List Value) (p : Parameter)
    (ps : List Parameter) :
    (∃ moved' as', p.kind ≠ .varKeyword ∧ remain ks moved as (p :: ps) = remain ks moved' as' ps) ∨
      ∃ p' moved' as', Stems p p' ∧ (p.kind = .varKeyword → p' = p) ∧
        remain ks moved as (p :: ps) = p' :: remain ks moved' as' ps := by
  have same {p' : Parameter} (hn : p.name = p'.name) (hk : p'.kind = p.kind) : Stems p p' :=
    stems_of_kind_eq hn hk
  cases hk : p.kind with
  | positionalOnly =>
    cases as with
    | nil => exact .inr ⟨p, _, _, same rfl rfl, by simp, remain_positionalOnly hk⟩
    | cons a as => exact .inl ⟨_, _, by simp, remain_position (by simp [isPositional, hk]) a as⟩
  | positionalOrKeyword =>
    cases as with
    | nil =>
      cases hv : given ks p.name with
      | some v =>
        rw [remain_given hk hv]
        exact .inr ⟨{ p with kind := .keywordOnly, default := some v }, _, _,
          stems_of_moved rfl rfl hk, by simp, rfl⟩
      | none =>
        rw [remain_not_given hk hv]
        refine .inr ⟨if moved then { p with kind := .keywordOnly } else p, _, _, ?_, by simp, rfl⟩
        cases moved
        · exact same rfl rfl
        · exact stems_of_moved rfl rfl hk
    | cons a as => exact .inl ⟨_, _, by simp, remain_position (by simp [isPositional, hk]) a as⟩
  | varPositional =>
    have h := @remain_varPositional ks moved p ps hk as
    cases moved with
    | true => exact .inl ⟨_, _, by simp, h⟩
    | false => exact .inr ⟨p, _, _, same rfl rfl, by simp, h⟩
  | keywordOnly =>
    rw [remain_keywordOnly hk]
    exact .inr ⟨{ p with default := given ks p.name <|> p.default }, _, _, same rfl rfl, by simp, rfl⟩
  | varKeyword => exact .inr ⟨p, _, _, same rfl rfl, fun _ => rfl, remain_varKeyword hk as⟩

theorem exists_stems (ps : List Parameter) : ∀ {moved : Bool} {as : List Value},
    ∀ q ∈ remain ks moved as ps, ∃ r ∈ ps, Stems r q := by
  induction ps with
  | nil => intro moved as q hq; simp [remain] at hq
  | cons p ps ih =>
    intro moved as q hq
    have later {moved : Bool} {as : List Value} (hq : q ∈ remain ks moved as ps) :
        ∃ r ∈ p :: ps, Stems r q := by
      obtain ⟨r, hr, h⟩ := ih q hq
      exact ⟨r, List.mem_cons_of_mem p hr, h⟩
    obtain ⟨m, l, -, h⟩ | ⟨p', m, l, hs, -, h⟩ := remain_cons ks moved as p ps
    · exact later (h ▸ hq)
    · rw [h] at hq
      rcases List.mem_cons.mp hq with rfl | hq
      · exact ⟨p, List.mem_cons_self, hs⟩
      · exact later hq

theorem nodup_remain (hn : (ps.map Parameter.name).Nodup) {moved : Bool} {as : List Value} :
    ((remain ks moved as ps).map Parameter.name).Nodup := by
  refine List.Sublist.nodup ?_ hn
  clear hn
  induction ps generalizing moved as with
  | nil => simp [remain]
  | cons p ps ih =>
    obtain ⟨m, l, -, h⟩ | ⟨p', m, l, hs, -, h⟩ := remain_cons ks moved as p ps
    · rw [h]
      exact ih.cons _
    · rw [h, List.map_cons, List.map_cons, ← hs.name]
      exact ih.cons_cons _

theorem mem_remain_varKeyword (ps : List Parameter) (hp : p ∈ ps) (hk : p.kind = .varKeyword) :
    ∀ {moved : Bool} {as : List Value}, p ∈ remain ks moved as ps := by
  induction ps with
  | nil => simp at hp
  | cons q ps ih =>
    intro moved as
    obtain ⟨m, l, hq, h⟩ | ⟨q', m, l, -, hq, h⟩ := remain_cons ks moved as q ps
    · rcases List.mem_cons.mp hp with rfl | hp
      · exact absurd hk hq
      · exact h ▸ ih hp
    · rw [h]
      rcases List.mem_cons.mp hp with rfl | hp
      · rw [hq hk]
        exact List.mem_cons_self
      · exact List.mem_cons_of_mem _ (ih hp)

theorem hasKind_varKeyword_remain (ps : List Parameter) {moved : Bool} {as : List Value} :
    hasKind .varKeyword (remain ks moved as ps) = hasKind .varKeyword ps := by
  rw [Bool.eq_iff_iff, hasKind, hasKind, List.any_eq_true, List.any_eq_true]
  simp only [decide_eq_true_eq]
  constructor
  · rintro ⟨q, hq, hk⟩
    obtain ⟨r, hr, hs⟩ := exists_stems ps q hq
    rcases hs.kind with h | ⟨-, h⟩
    · exact ⟨r, hr, h ▸ hk⟩
    · rw [hk] at h; cases h
  · rintro ⟨p, hp, hk⟩
    exact ⟨p, mem_remain_varKeyword ps hp hk, hk⟩

/-! ## The order of what is left -/

/-- Once parameters are moved, none is left that takes arguments by position. -/
theorem remain_moved_no_position (ks : Keywords) (h : ∀ q ∈ ps, 1 ≤ rank q.kind) :
    ∀ q ∈ remain ks true [] ps, 2 < rank q.kind := by
  induction ps with
  | nil => simp [remain]
  | cons p ps ih =>
    have hp := h p List.mem_cons_self
    have hps := ih fun q hq => h q (List.mem_cons_of_mem p hq)
    have cons {r : Parameter} (hr : 2 < rank r.kind) :
        ∀ q ∈ r :: remain ks true [] ps, 2 < rank q.kind :=
      List.forall_mem_cons.mpr ⟨hr, hps⟩
    cases hk : p.kind with
    | positionalOnly => rw [hk] at hp; exact absurd hp (by decide)
    | positionalOrKeyword =>
      cases hv : given ks p.name with
      | some v => rw [remain_given hk hv]; exact cons (Nat.lt_succ_self 2)
      | none => rw [remain_not_given hk hv]; exact cons (Nat.lt_succ_self 2)
    | varPositional => rw [remain_varPositional hk]; exact hps
    | keywordOnly => rw [remain_keywordOnly hk]; exact cons (by rw [hk]; decide)
    | varKeyword => rw [remain_varKeyword hk]; exact cons (by rw [hk]; decide)

theorem precedes_of_stems {r q : Parameter} (h : Precedes p r) (hs : Stems r q) : Precedes p q :=
  ⟨Nat.le_trans h.1 hs.rank, fun hv => Nat.lt_of_lt_of_le (h.2 hv) hs.rank⟩

theorem pairwise_remain (hl : ps.Pairwise Precedes) : ∀ {moved : Bool} {as : List Value},
    (remain ks moved as ps).Pairwise Precedes := by
  induction ps with
  | nil => intro moved as; simp [remain]
  | cons p ps ih =>
    obtain ⟨hbefore, hps⟩ := List.pairwise_cons.mp hl
    replace ih := @ih hps
    intro moved as
    have keep {p' : Parameter} {moved : Bool} {as : List Value} (hk : p'.kind = p.kind) :
        (p' :: remain ks moved as ps).Pairwise Precedes := by
      refine List.pairwise_cons.mpr ⟨fun q hq => ?_, ih⟩
      obtain ⟨r, hr, hs⟩ := exists_stems ps q hq
      have := precedes_of_stems (hbefore r hr) hs
      unfold Precedes at this ⊢
      rwa [hk]
    have move {p' : Parameter} (hp : p.kind = .positionalOrKeyword) (hk : p'.kind = .keywordOnly) :
        (p' :: remain ks true [] ps).Pairwise Precedes := by
      refine List.pairwise_cons.mpr ⟨fun q hq => ?_, ih⟩
      have hrank := remain_moved_no_position ks (fun r hr => by
        have := (hbefore r hr).1
        rwa [hp] at this) q hq
      exact ⟨by rw [hk]; exact hrank, fun hv => by rw [hk] at hv; cases hv⟩
    cases hk : p.kind with
    | positionalOnly =>
      cases as with
      | nil => rw [remain_positionalOnly hk]; exact keep rfl
      | cons a as => rw [remain_position (by simp [isPositional, hk])]; exact ih
    | positionalOrKeyword =>
      cases as with
      | nil =>
        cases hv : given ks p.name with
        | some v => rw [remain_given hk hv]; exact move hk rfl
        | none =>
          rw [remain_not_given hk hv]
          cases moved
          · exact keep rfl
          · exact move hk rfl
      | cons a as => rw [remain_position (by simp [isPositional, hk])]; exact ih
    | varPositional =>
      rw [remain_varPositional hk]
      cases moved
      · exact keep rfl
      · exact ih
    | keywordOnly => rw [remain_keywordOnly hk]; exact keep rfl
    | varKeyword => rw [remain_varKeyword hk]; exact keep rfl

/-- **What a partial call leaves is a parameter list** that a definition can have. -/
theorem isLegal_remain (hl : IsLegal ps) : IsLegal (remain ks moved as ps) :=
  ⟨pairwise_remain hl.ordered, nodup_remain hl.nodup⟩

/-! ## Names that are filled -/

/-- The names that are filled go away. -/
theorem namedNames_remain (ks : Keywords) (ps : List Parameter) :
    ∀ (moved : Bool) {as : List Value}, Fits as ps →
    namedNames ps = filledNames as ps ++ namedNames (remain ks moved as ps) := by
  induction ps with
  | nil => intro moved as _; cases as <;> rfl
  | cons p ps ih =>
    intro moved as hfit
    have nil (ps : List Parameter) : filledNames [] ps = [] := by cases ps <;> rfl
    have keep {p' : Parameter} (moved : Bool) (hn : p'.name = p.name)
        (hk : isNamed p' = isNamed p) : namedNames (p :: ps) =
          filledNames [] (p :: ps) ++ namedNames (p' :: remain ks moved [] ps) := by
      rw [nil, List.nil_append, namedNames_cons, namedNames_cons, hn, hk,
        @ih moved [] trivial, nil, List.nil_append]
    cases hk : p.kind with
    | positionalOnly =>
      cases as with
      | nil => rw [remain_positionalOnly hk]; exact keep _ rfl rfl
      | cons a as =>
        rw [remain_position (by simp [isPositional, hk]), namedNames_cons,
          ih moved (by simpa [Fits, hk] using hfit)]
        simp [isNamed, filledNames, hk]
    | positionalOrKeyword =>
      have hn : isNamed p = true := by simp [isNamed, hk]
      cases as with
      | nil =>
        cases hv : given ks p.name with
        | some v => rw [remain_given hk hv]; exact keep _ rfl hn.symm
        | none =>
          rw [remain_not_given hk hv]
          cases moved
          · exact keep _ rfl rfl
          · exact keep _ rfl hn.symm
      | cons a as =>
        rw [remain_position (by simp [isPositional, hk]), namedNames_cons,
          ih moved (by simpa [Fits, hk] using hfit)]
        simp [hn, filledNames, hk]
    | varPositional =>
      have hfilled : filledNames as (p :: ps) = filledNames [] (p :: ps) := by
        cases as <;> simp [filledNames, hk]
      rw [remain_varPositional hk, hfilled]
      cases moved
      · exact keep _ rfl rfl
      · have := @keep p true rfl rfl
        rwa [namedNames_cons p (remain _ _ _ _), if_neg (by simp [isNamed, hk])] at this
    | keywordOnly =>
      have has : as = [] := by
        cases as with
        | nil => rfl
        | cons a as => simp [Fits, hk] at hfit
      subst has
      rw [remain_keywordOnly hk]
      exact keep _ rfl rfl
    | varKeyword =>
      have has : as = [] := by
        cases as with
        | nil => rfl
        | cons a as => simp [Fits, hk] at hfit
      subst has
      rw [remain_varKeyword hk]
      exact keep _ rfl rfl

end Facade.Describe
