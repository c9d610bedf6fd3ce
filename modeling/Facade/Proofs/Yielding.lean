import Facade.Proofs.Defaults

/-!
# Expressions that have a value

Given enough depth, an expression has a value and changes nothing.

* `Yields`: from some depth on, an expression has a value and leaves the world as it is.
* `Yields.subscripted`: a subscript has the value that its parts make.
* `yields_isConstant`: what consists of constants and operators has its value everywhere.
* `yields_dotted`: a dotted name has the value that its parts lead to.
-/

namespace Facade.Execution

open Run
open Syntax (Expr mangle)

/-- From some depth on, an expression has a value and leaves the world as it is. -/
def Yields (w : World) (fr : Frame) (e : Expr) (v : Value) : Prop :=
  ∃ k, ∀ n, k ≤ n → (eval n fr e).outcome w = (.ok v, w)

variable {w : World} {fr : Frame} {e i : Expr} {es : List Expr} {u v x : Value} {vs : List Value}

/-! ## Names, constants and attributes -/

theorem yields_const (c : Syntax.Constant) : Yields w fr (.const c) (constantValue c) :=
  ⟨1, fun n hn => by
    obtain ⟨n, rfl⟩ := Nat.exists_eq_add_of_le' hn
    exact eval_const c⟩

theorem yields_name {name : String} (h : fr.find w (mangle fr.privateTo name) = .ok v) :
    Yields w fr (.name name) v :=
  ⟨1, fun n hn => by
    obtain ⟨n, rfl⟩ := Nat.exists_eq_add_of_le' hn
    rw [eval_name, h, outcome_lift_ok]⟩

/-- From some depth on, an attribute can be read and leaves the world as it is. -/
def Offers (w : World) (u : Value) (name : String) (v : Value) : Prop :=
  ∀ n, (getAttr (n + 1) u name).outcome w = (.ok v, w)

theorem Yields.attribute {name : String} (h : Yields w fr e u)
    (hv : Offers w u (mangle fr.privateTo name) v) : Yields w fr (.attribute e name) v := by
  obtain ⟨k, hk⟩ := h
  refine ⟨k + 2, fun n hn => ?_⟩
  obtain ⟨n, rfl⟩ := Nat.exists_eq_add_of_le' (show 2 ≤ n by omega)
  rw [eval_attribute, outcome_bind_of_ok (hk (n + 1) (by omega))]
  exact hv n

theorem offers_module {m : Nat} {info : ModuleInfo} {name : String} (hm : w.module? m = some info)
    (hv : info.globals.get? name = some v) : Offers w (.module m) name v :=
  fun _ => getAttr_module name hm hv

/-! ## Several expressions -/

/-- One depth is enough for several expressions. -/
theorem exists_depth (h : List.Forall₂ (Yields w fr) es vs) : ∃ k, ∀ n, k ≤ n →
    List.Forall₂ (fun e v => (eval n fr e).outcome w = (.ok v, w)) es vs := by
  induction h with
  | nil => exact ⟨0, fun n _ => .nil⟩
  | cons hv _ ih =>
    obtain ⟨j, hj⟩ := hv
    obtain ⟨k, hk⟩ := ih
    exact ⟨j + k, fun n hn => .cons (hj n (by omega)) (hk n (by omega))⟩

theorem mapM_singletons {f : Expr → Run (List Value)}
    (h : List.Forall₂ (fun e v => (f e).outcome w = (.ok [v], w)) es vs) :
    (es.mapM f).outcome w = (.ok (vs.map fun v => [v]), w) := by
  induction h with
  | nil => rfl
  | cons hv _ ih =>
    rw [List.mapM_cons, outcome_bind_of_ok hv, outcome_bind_of_ok ih, outcome_pure, List.map_cons]

theorem evalItems_of_yields (h : List.Forall₂ (Yields w fr) es vs) :
    ∃ k, ∀ n, k ≤ n → (evalItems n fr es).outcome w = (.ok vs, w) := by
  obtain ⟨k, hk⟩ := exists_depth h
  refine ⟨k + 1, fun n hn => ?_⟩
  obtain ⟨n, rfl⟩ := Nat.exists_eq_add_of_le' (show 1 ≤ n by omega)
  rw [evalItems, outcome_bind_of_ok (mapM_singletons ?_), outcome_pure, ← List.flatMap_def,
    List.flatMap_singleton']
  refine (hk n (by omega)).imp fun e v hv => ?_
  split
  · obtain _ | n := n <;> simp [eval] at hv
  · rw [outcome_bind_of_ok hv, outcome_pure]

theorem Yields.list (h : List.Forall₂ (Yields w fr) es vs) : Yields w fr (.list es) (.list vs) := by
  obtain ⟨k, hk⟩ := evalItems_of_yields h
  refine ⟨k + 1, fun n hn => ?_⟩
  obtain ⟨n, rfl⟩ := Nat.exists_eq_add_of_le' (show 1 ≤ n by omega)
  rw [eval]
  rw [outcome_bind_of_ok (hk n (by omega)), outcome_pure]

theorem Yields.tuple (h : List.Forall₂ (Yields w fr) es vs) :
    Yields w fr (.tuple es) (.tuple vs) := by
  obtain ⟨k, hk⟩ := evalItems_of_yields h
  refine ⟨k + 1, fun n hn => ?_⟩
  obtain ⟨n, rfl⟩ := Nat.exists_eq_add_of_le' (show 1 ≤ n by omega)
  rw [eval]
  rw [outcome_bind_of_ok (hk n (by omega)), outcome_pure]

/-! ## Subscripts -/

/-- Whether a subscript of a value is one of its items. -/
def hasItems : Value → Bool
  | .tuple _ | .list _ | .str _ | .subStr _ | .dict _ => true
  | _ => false

theorem Yields.subscript (he : Yields w fr e u) (hi : Yields w fr i x) (hu : hasItems u = false)
    (hv : Hint.subscript w u x = .ok v) : Yields w fr (.subscript e i) v := by
  obtain ⟨j, hj⟩ := he
  obtain ⟨k, hk⟩ := hi
  refine ⟨j + k + 1, fun n hn => ?_⟩
  obtain ⟨n, rfl⟩ := Nat.exists_eq_add_of_le' (show 1 ≤ n by omega)
  rw [eval]
  rw [outcome_bind_of_ok (hj n (by omega)), outcome_bind_of_ok (hk n (by omega))]
  have hget : (lift (Hint.subscript w u x)).outcome w = (.ok v, w) := by rw [hv, outcome_lift_ok]
  cases u <;> first | exact hget | exact absurd hu (by simp [hasItems])

/-- What stands in the brackets of a subscript with the given arguments. -/
def indexOf : List Value → Value
  | [v] => v
  | vs => .tuple vs

theorem Yields.subscripted (he : Yields w fr e u) (hs : List.Forall₂ (Yields w fr) es vs)
    (hne : es ≠ []) (hu : hasItems u = false) (hv : Hint.subscript w u (indexOf vs) = .ok v) :
    Yields w fr (Hint.subscripted e es) v := by
  cases hs with
  | nil => exact absurd rfl hne
  | cons h hr =>
    cases hr with
    | nil => exact he.subscript h hu hv
    | cons h' hr' => exact he.subscript (.tuple (.cons h (.cons h' hr'))) hu hv

theorem indexList_indexOf (hne : vs ≠ []) (ht : ∀ v ∈ vs, ∀ us, v ≠ .tuple us) :
    Hint.indexList (indexOf vs) = vs := by
  match vs with
  | [] => exact absurd rfl hne
  | [v] =>
    cases v <;> first | rfl | exact absurd rfl (ht _ List.mem_cons_self _)
  | _ :: _ :: _ => rfl

/-! ## Constants and dotted names -/

/-- **What consists of constants and operators has its value everywhere.** -/
theorem yields_isConstant (e : Expr) : ∀ {v : Value}, isConstant e = true → literalValue e = .ok v →
    Yields w fr e v := by
  induction e using literalValue.induct with
  | case1 c =>
    intro v _ h
    rw [literalValue, Except.ok.injEq] at h
    exact h ▸ yields_const c
  | case2 op e ih =>
    intro v hc h
    rw [literalValue] at h
    rcases hx : literalValue e with _ | x <;> rw [hx] at h
    · cases h
    have h : Value.unary? op x = .ok v := h
    obtain ⟨k, hk⟩ := ih hc hx
    refine ⟨k + 1, fun n hn => ?_⟩
    obtain ⟨n, rfl⟩ := Nat.exists_eq_add_of_le' (show 1 ≤ n by omega)
    rw [eval]
    rw [outcome_bind_of_ok (hk n (by omega)), h, outcome_lift_ok]
  | case3 op l r ihl ihr =>
    intro v hc h
    rw [isConstant, Bool.and_eq_true] at hc
    rw [literalValue] at h
    rcases ha : literalValue l with _ | a <;> rw [ha] at h
    · cases h
    rcases hb : literalValue r with _ | b <;> rw [hb] at h
    · cases h
    have h : Value.binary? op a b = .ok v := h
    obtain ⟨j, hj⟩ := ihl hc.1 ha
    obtain ⟨k, hk⟩ := ihr hc.2 hb
    refine ⟨j + k + 1, fun n hn => ?_⟩
    obtain ⟨n, rfl⟩ := Nat.exists_eq_add_of_le' (show 1 ≤ n by omega)
    rw [eval]
    rw [outcome_bind_of_ok (hj n (by omega)), outcome_bind_of_ok (hk n (by omega)), h,
      outcome_lift_ok]
  | case4 t e ih =>
    intro v hc h
    obtain ⟨k, hk⟩ := ih hc h
    refine ⟨k + 1, fun n hn => ?_⟩
    obtain ⟨n, rfl⟩ := Nat.exists_eq_add_of_le' (show 1 ≤ n by omega)
    rw [eval_spelled, hk n (by omega)]
  | case5 e h₁ h₂ h₃ h₄ =>
    intro v hc _
    unfold isConstant at hc
    split at hc
    · exact absurd rfl (h₁ _)
    · exact absurd rfl (h₂ _ _)
    · exact absurd rfl (h₃ _ _ _)
    · exact absurd rfl (h₄ _ _)
    · cases hc

/-- A value that is reached from another one along attributes. -/
inductive Reaches (w : World) (fr : Frame) : Value → List String → Value → Prop where
  | here (v : Value) : Reaches w fr v [] v
  | step {u v x : Value} {name : String} {names : List String}
      (h : Offers w u (mangle fr.privateTo name) v) (hr : Reaches w fr v names x) :
      Reaches w fr u (name :: names) x

theorem Yields.path {names : List String} (h : Yields w fr e u) (hr : Reaches w fr u names v) :
    Yields w fr (names.foldl Expr.attribute e) v := by
  induction hr generalizing e with
  | here => exact h
  | step hv _ ih => exact ih (h.attribute hv)

/-- A dotted name whose first part can be seen, and from whose value the others lead on. -/
def Leads (w : World) (fr : Frame) (path : String) (v : Value) : Prop :=
  ∃ name names u, Syntax.dottedParts path = name :: names ∧
    fr.find w (mangle fr.privateTo name) = .ok u ∧ Reaches w fr u names v

/-- **A dotted name has the value that its parts lead to.** -/
theorem yields_dotted {path : String} (h : Leads w fr path v) : Yields w fr (Expr.dotted path) v := by
  obtain ⟨name, names, u, hs, hu, hr⟩ := h
  unfold Expr.dotted
  rw [hs]
  exact (yields_name hu).path hr

/-- An expression has one value. -/
theorem Yields.unique (h : Yields w fr e u) (h' : Yields w fr e v) : u = v := by
  obtain ⟨j, hj⟩ := h
  obtain ⟨k, hk⟩ := h'
  have := (hj (j + k) (by omega)).symm.trans (hk (j + k) (by omega))
  simpa using this

end Facade.Execution
