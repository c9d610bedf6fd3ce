import Facade.Proofs.Generation
import Facade.Proofs.Planning

/-!
# What is written of a plan

* `CalmHint`: an annotation that is calm however it is spelled.
* `Writes`, `methodParams_eq_ok`: the parameters of a method as they are written.
* `GivesFirst`, `constructorBody_eq_ok`: the body of a constructor, and what properties start with.
-/

namespace Facade.Conversion

open Run Execution Wrapper
open Syntax (Expr Stmt Param ParamKind)

variable {p : Plan} {c m : Nat} {w w' v b : World} {cls ns : String} {imported : List String}
  {info : ModuleInfo}

/-! ## Annotations -/

/-- An annotation that is calm however it is spelled. -/
def CalmHint (w : World) (cls : Option String) (hint : Option Value) : Prop :=
  ∀ v : World, v.objects = w.objects → Calm w (Hint.spell v cls (hint.getD Standard.empty))

/-! ## Parameters -/

/-- An annotation as it is spelled in a world with the objects of another one. -/
def SpelledIn (b : World) (cls : Option String) (hint : Option Value) (e : Expr) : Prop :=
  ∃ v : World, v.objects = b.objects ∧ e = Hint.spell v cls (hint.getD Standard.empty)

/-- A parameter as it is written for a converted one. -/
structure Writes (c : Nat) (b w : World) (cls : Option String) (q : ConvertedParameter)
    (r : Param) : Prop where
  name : r.name = q.name
  kind : r.kind = q.parameter.kind
  hint : ∀ e ∈ r.hint, SpelledIn b cls q.parameter.hint e
  hinted : r.hint.isSome = true
  default : Option.Rel (Stored c w) (if q.parameter.kind.isVariadic then none else q.parameter.default)
    r.default

theorem Writes.mono {cls : Option String} {q : ConvertedParameter} {r : Param}
    (h : Writes c b w cls q r) (hw : w.Grows w') : Writes c b w' cls q r :=
  ⟨h.name, h.kind, h.hint, h.hinted, rel_imp (fun _ _ h => Stored.mono h hw) h.default⟩

theorem methodParam_eq_ok {q : ConvertedParameter} {r : Param} (hp : p.cache = some c)
    (hb : w.objects = b.objects) (hc : c < w.caches.size)
    (h : (p.methodParam q).outcome w = (.ok r, w')) :
    Writes c b w' p.selfTypeName q r ∧ Filled w w' := by
  unfold Plan.methodParam at h
  rw [outcome_get_bind] at h
  dsimp only at h
  have hspelled : ∀ e ∈ some (p.spell w q.parameter.hint),
      SpelledIn b p.selfTypeName q.parameter.hint e := by
    rintro e he
    exact ⟨w, hb, (Option.some.inj he).symm⟩
  split at h
  · rename_i hv
    obtain ⟨rfl, rfl⟩ : _ = r ∧ w = w' := by simpa using h
    exact ⟨⟨rfl, rfl, hspelled, rfl, by rw [if_pos hv]; exact .none⟩, .refl w⟩
  · rename_i hv
    obtain ⟨d, w₁, hd, h⟩ := bind_eq_ok h
    obtain ⟨rfl, rfl⟩ : _ = r ∧ w₁ = w' := by simpa using h
    refine (?_ : Option.Rel (Stored c w₁) q.parameter.default d ∧ Filled w w₁).imp_left fun hd =>
      ⟨rfl, rfl, hspelled, rfl, by rw [if_neg hv]; exact hd⟩
    exact optionMapM_gives (R := fun w => Stored c w) Filled.refl _
      (fun v _ e v' he => defaultExpr_spec hp hc he) hd

/-- How the receiver of a generated method can be given. -/
def receiverKind (ps : List Param) : ParamKind :=
  if ps.any fun r => r.kind = .positionalOnly then .positionalOnly else .positionalOrKeyword

/-- **The parameters of a generated method** are its receiver and those of the converted method. -/
theorem methodParams_eq_ok {q : ConvertedMethod} {rs : List Param} (hp : p.cache = some c)
    (hb : w.objects = b.objects) (hc : c < w.caches.size)
    (h : (p.methodParams q).outcome w = (.ok rs, w')) :
    ∃ ps, rs = Plan.receiver (receiverKind ps) :: ps ∧
      List.Forall₂ (Writes c b w' p.selfTypeName) q.methodParameters ps ∧ Filled w w' := by
  unfold Plan.methodParams at h
  obtain ⟨ps, w₁, hps, hdone⟩ := bind_eq_ok h
  rw [outcome_pure, Prod.mk.injEq, Except.ok.injEq] at hdone
  obtain ⟨rfl, rfl⟩ := hdone
  obtain ⟨hall, hfilled⟩ := mapM_gives (R := fun w => Writes c b w p.selfTypeName) Filled.refl
    Filled.trans (fun hw hq => hq.mono hw.grows) q.methodParameters
    (fun q _ v r v' hv h => methodParam_eq_ok hp (hv.objects.trans hb) (hv.size.symm ▸ hc) h) hps
  exact ⟨ps, rfl, hall, hfilled⟩

/-! ## Constructors -/

/-- The expression of what a property starts with. -/
def Starts (c : Nat) (w : World) (q : RoutedProperty) (e : Expr) : Prop :=
  match q.default with
  | some v => Stored c w v e
  | none => e = .const .none

/-- The statement that gives a property its first value, under the annotation of the property. -/
def GivesFirst (c : Nat) (w : World) (q : RoutedProperty) (s : Stmt) : Prop :=
  ∃ hint e, s = .annAssign (Plan.selfField q.name) hint (some e) false ∧ Starts c w q e ∧
    ∃ b cls, SpelledIn b cls q.hint hint

theorem GivesFirst.mono {q : RoutedProperty} {s : Stmt} (h : GivesFirst c w q s) (hw : w.Grows w') :
    GivesFirst c w' q s := by
  obtain ⟨hint, e, hs, he, hspelled⟩ := h
  refine ⟨hint, e, hs, ?_, hspelled⟩
  unfold Starts at he ⊢
  split at he
  · exact he.mono hw
  · exact he

/-- The statement that keeps an argument of the constructor. -/
def keepArgument (name : String) : Stmt := .assign [Plan.selfField name] (.name name)

/-- **The body of a constructor** keeps the arguments and gives the properties their first values. -/
theorem constructorBody_eq_ok {body : List Stmt} (hp : p.cache = some c)
    (hc : c < w.caches.size)
    (h : p.constructorBody.outcome w = (.ok body, w')) :
    ∃ firsts, body = (p.constructor.values.map fun q => keepArgument q.name) ++ firsts ∧
      List.Forall₂ (GivesFirst c w') p.properties.values firsts ∧ Filled w w' := by
  unfold Plan.constructorBody at h
  obtain ⟨firsts, w₁, hfirsts, hdone⟩ := bind_eq_ok h
  rw [outcome_pure, Prod.mk.injEq, Except.ok.injEq] at hdone
  obtain ⟨rfl, rfl⟩ := hdone
  have first (q : RoutedProperty) (w : World) (s : Stmt) (w' : World)
      (hc : c < w.caches.size) (h : (do
        let value ← match q.default with
          | some v => p.defaultExpr v
          | none => pure (.const .none)
        return Stmt.annAssign (Plan.selfField q.name) (p.spell (← get) q.hint) (some value) false :
          Run Stmt).outcome w = (.ok s, w')) : GivesFirst c w' q s ∧ Filled w w' := by
    split at h
    · rename_i x hx
      obtain ⟨e, w₁, he, hdone⟩ := bind_eq_ok h
      rw [outcome_get_bind, outcome_pure, Prod.mk.injEq, Except.ok.injEq] at hdone
      obtain ⟨rfl, rfl⟩ := hdone
      obtain ⟨hstored, hfilled⟩ := defaultExpr_spec hp hc he
      exact ⟨⟨_, e, rfl, by rw [Starts, hx]; exact hstored, w₁, _, w₁, rfl, rfl⟩, hfilled⟩
    · rename_i hx
      rw [outcome_pure_bind, outcome_get_bind, outcome_pure, Prod.mk.injEq, Except.ok.injEq] at h
      obtain ⟨rfl, rfl⟩ := h
      exact ⟨⟨_, _, rfl, by rw [Starts, hx], w, _, w, rfl, rfl⟩, .refl w⟩
  obtain ⟨hall, hfilled⟩ := mapM_gives (R := fun w => GivesFirst c w) Filled.refl Filled.trans
    (fun hw hq => hq.mono hw.grows) p.properties.values
    (fun q _ v s v' hv h => first q v s v' (hv.size.symm ▸ hc) h) hfirsts
  exact ⟨firsts, rfl, hall, hfilled⟩

end Facade.Conversion
