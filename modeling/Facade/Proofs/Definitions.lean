import Facade.Proofs.Extension
import Facade.Proofs.Steps

/-!
# Definitions

What a definition leaves behind, provided that what its annotations, defaults and decorators run only
adds to the world.

* `Makes`: the function that a definition makes.
* `define_eq_ok`: a definition that succeeds makes its function and hands it to the decorators.
* `exec_define_plain`, `exec_define_getter`, `exec_define_setter`: methods and properties in the body of
  a class.
-/

namespace Facade.Execution

open Run
open Syntax (Expr Stmt Param mangle)

/-- In a frame, an expression runs nothing that does more than add to the world. -/
def CalmIn (w : World) (fr : Frame) (e : Expr) : Prop :=
  ∀ n w₁, w.Extends w₁ → w₁.Extends ((eval n fr e).outcome w₁).2

/-- In a frame, an expression only adds to the world, and its value is one of those that it stands
for. -/
def GivesIn (w : World) (fr : Frame) (D : Expr → Value → Prop) (e : Expr) : Prop :=
  ∀ n w₁ x w₂, w.Extends w₁ → (eval n fr e).outcome w₁ = (.ok x, w₂) → D e x ∧ w₁.Extends w₂

theorem CalmIn.givesIn {w : World} {fr : Frame} {e : Expr} (h : CalmIn w fr e) :
    GivesIn w fr (fun _ _ => True) e := fun n w₁ x w₂ hw hx => by
  have := h n w₁ hw
  rw [hx] at this
  exact ⟨trivial, this⟩

theorem GivesIn.mono {w w' : World} {fr : Frame} {D : Expr → Value → Prop} {e : Expr}
    (h : GivesIn w fr D e) (hw : w.Extends w') : GivesIn w' fr D e :=
  fun n w₁ x w₂ h₁ hx => h n w₁ x w₂ (hw.trans h₁) hx

/-- A parameter as a definition makes it. -/
structure MakesParam (D : Expr → Value → Prop) (cls : Option String) (p : Param)
    (q : Parameter) : Prop where
  name : q.name = mangle cls p.name
  kind : q.kind = p.kind
  default : Option.Rel D p.default q.default

/-- The function that a definition makes. -/
structure Makes (D : Expr → Value → Prop) (fr : Frame) (isAsync : Bool) (params : List Param)
    (body : List Stmt) (f : Function) : Prop where
  params : List.Forall₂ (MakesParam D fr.privateTo) params f.params
  isAsync : f.isAsync = isAsync
  globals : f.globals = fr.globals
  body : f.body = .code body fr.privateTo
    (if fr.scope = .function then fr.captured.union fr.vars else fr.captured)

variable {w w' : World} {n : Nat} {fr fr' : Frame} {isAsync : Bool} {name : String}
  {params : List Param} {result : Option Expr} {decorators : List Expr} {body : List Stmt}
  {D C : Expr → Value → Prop}

theorem forall₂_makesParam (cls : Option String) (hints : Param → Option Value)
    {values : List (Option Value)}
    (h : List.Forall₂ (fun p v => Option.Rel D p.default v) params values) :
    List.Forall₂ (MakesParam D cls) params
      ((params.zip values).map fun x =>
        { name := mangle cls x.1.name, kind := x.1.kind, hint := hints x.1
          default := x.2 : Parameter }) := by
  induction h with
  | nil => exact .nil
  | cons hv _ ih => exact .cons ⟨rfl, rfl, hv⟩ ih

/-- What a definition needs to be in order: its annotations are calm, its defaults and decorators
give what they stand for. -/
structure Orderly (w : World) (fr : Frame) (D C : Expr → Value → Prop) (params : List Param)
    (result : Option Expr) (decorators : List Expr) : Prop where
  decorators : ∀ e ∈ decorators, GivesIn w fr C e
  defaults : ∀ p ∈ params, ∀ e ∈ p.default, GivesIn w fr D e
  hints : ∀ p ∈ params, ∀ e ∈ p.hint, CalmIn w fr e
  result : ∀ e ∈ result, CalmIn w fr e

/-- **A definition that succeeds** makes its function and hands it to the decorators. -/
theorem define_eq_ok {r : Frame × Flow} (ho : Orderly w fr D C params result decorators)
    (h : (define n fr isAsync name params result decorators body).outcome w = (.ok r, w')) :
    ∃ m ds f w₁ v w₂, n = m + 1 ∧ List.Forall₂ C decorators ds ∧ Makes D fr isAsync params body f ∧
      w.Extends w₁ ∧
      (ds.foldrM (fun d v => call m d [v] []) (Value.function w₁.objects.size)).outcome
        { w₁ with objects := w₁.objects.push (.function f) } = (.ok v, w₂) ∧
      (Frame.put { fr with made := fr.made ++ [w₁.objects.size] } (mangle fr.privateTo name) v
        >>= fun fr' => pure (fr', Flow.next)).outcome w₂ = (.ok r, w') := by
  obtain _ | m := n
  · simp [define] at h
  rw [define] at h
  obtain ⟨ds, w₁, hds, h⟩ := bind_eq_ok h
  obtain ⟨hds, hw₁⟩ := mapM_eq_ok (R := C) decorators (fun e he v d v' hv hd =>
    ho.decorators e he m v d v' hv hd) hds
  obtain ⟨values, w₂, hvalues, h⟩ := bind_eq_ok h
  obtain ⟨hvalues, hw₂⟩ := mapM_eq_ok (R := fun p v => Option.Rel D p.default v) params
    (fun p hp v d v' hv hd => optionMapM_eq_ok p.default (fun e he x u hx =>
      ho.defaults p hp e he m v x u (hw₁.trans hv) hx) hd) hvalues
  dsimp only at h
  obtain ⟨hints, w₃, hhints, h⟩ := bind_eq_ok h
  obtain ⟨-, hw₃⟩ := mapM_eq_ok (R := fun _ _ => True) _ (fun p hp v d v' hv hd => by
    obtain ⟨a, v₁, ha, hd⟩ := bind_eq_ok hd
    rw [outcome_pure, Prod.mk.injEq] at hd
    obtain ⟨-, rfl⟩ := hd
    have hp : p ∈ params := by
      obtain ⟨k, -, hk⟩ := List.mem_flatMap.mp hp
      exact (List.mem_filter.mp hk).1
    exact ⟨trivial, (optionMapM_eq_ok (R := fun _ _ => True) p.hint (fun e he x u hx =>
      (ho.hints p hp e he).givesIn m v x u ((hw₁.trans hw₂).trans hv) hx) ha).2⟩) hhints
  obtain ⟨returns, w₄, hreturns, h⟩ := bind_eq_ok h
  obtain ⟨-, hw₄⟩ := optionMapM_eq_ok (R := fun _ _ => True) result (fun e he x u hx =>
    (ho.result e he).givesIn m w₃ x u ((hw₁.trans hw₂).trans hw₃) hx) hreturns
  rw [outcome_bind, outcome_allocate, after_ok] at h
  obtain ⟨v, w₅, hv, h⟩ := bind_eq_ok h
  exact ⟨m, ds, _, w₄, v, w₅, rfl, hds, ⟨forall₂_makesParam fr.privateTo
    (fun p => (hints.find? fun e => e.1 == p.name).bind Prod.snd) hvalues, rfl, rfl, rfl⟩,
    ((hw₁.trans hw₂).trans hw₃).trans hw₄, hv, h⟩

/-! ## In the body of a class -/

theorem function?_push (w : World) (f : Function) :
    World.function? { w with objects := w.objects.push (.function f) } w.objects.size = some f := by
  simp [World.function?]

/-- What a definition in the body of a class leaves behind: a new function, and under its name a member
that is made from it. -/
structure Defined (D : Expr → Value → Prop) (w : World) (fr : Frame) (isAsync : Bool) (name : String)
    (params : List Param) (body : List Stmt) (member : Value → Value) (r : Frame × Flow)
    (w' : World) (id : Nat) (f : Function) : Prop where
  makes : Makes D fr isAsync params body f
  new : w.objects.size ≤ id
  extends_ : w.Extends w'
  function : w'.function? id = some f
  frame : r = ({ fr with made := fr.made ++ [id],
                         vars := fr.vars.set (mangle fr.privateTo name) (member (.function id)) },
    .next)

theorem put_class (hs : fr.scope = .cls) (x : String) (v : Value) :
    (fr.put x v).outcome w = (.ok { fr with vars := fr.vars.set x v }, w) := by
  unfold Frame.put
  simp [hs]

/-- A definition whose decorators change nothing but the member that is made. -/
theorem exec_define (hs : fr.scope = .cls) (ho : Orderly w fr D C params result decorators)
    (member : Value → Value) (hmember : ∀ m ds f w₁ id v w₂, List.Forall₂ C decorators ds →
      w.Extends w₁ → (ds.foldrM (fun d v => call m d [v] []) (Value.function id)).outcome
        { w₁ with objects := w₁.objects.push (.function f) } = (.ok v, w₂) →
      v = member (.function id) ∧ w₂ = { w₁ with objects := w₁.objects.push (.function f) })
    {r : Frame × Flow}
    (h : (exec n fr (.define isAsync name params result decorators body)).outcome w = (.ok r, w')) :
    ∃ id f, Defined D w fr isAsync name params body member r w' id f := by
  obtain _ | m := n
  · simp [exec] at h
  rw [exec] at h
  obtain ⟨k, ds, f, w₁, v, w₂, rfl, hds, hf, hw, hv, hput⟩ := define_eq_ok ho h
  obtain ⟨rfl, rfl⟩ := hmember k ds f w₁ _ v w₂ hds hw hv
  rw [outcome_bind, put_class (by exact hs), after_ok, outcome_pure, Prod.mk.injEq,
    Except.ok.injEq] at hput
  obtain ⟨rfl, rfl⟩ := hput
  exact ⟨_, f, hf, hw.size_le, hw.trans (.push _ _), function?_push _ f, rfl⟩

theorem eq_of_forall₂_singleton {e : Expr} {d : Value} {ds : List Value}
    (h : List.Forall₂ (fun _ x => x = d) [e] ds) : ds = [d] := by
  cases h with
  | cons hd hr =>
    cases hr
    rw [hd]

theorem exec_define_plain (hs : fr.scope = .cls) (ho : Orderly w fr D C params result [])
    {r : Frame × Flow}
    (h : (exec n fr (.define isAsync name params result [] body)).outcome w = (.ok r, w')) :
    ∃ id f, Defined D w fr isAsync name params body (fun g => g) r w' id f := by
  refine exec_define hs ho (fun g => g) (fun m ds f w₁ id v w₂ hds _ hv => ?_) h
  cases hds
  rw [List.foldrM_nil, outcome_pure, Prod.mk.injEq, Except.ok.injEq] at hv
  exact ⟨hv.1.symm, hv.2.symm⟩

/-- A value that no call succeeds with. -/
def IsPassive (v : Value) : Prop :=
  ∀ k x w₁ w₂ r, (call k v [x] []).outcome w₁ ≠ (.ok r, w₂)

/-- A getter makes a property that cannot be written, if its decorator can be called at all. -/
theorem exec_define_getter (hs : fr.scope = .cls) {property : Named} {info : ClassInfo}
    (hp : property.module = "builtins") (hq : property.qualname = "property")
    (hi : w.class? property.id = some info) {d : Value}
    (hfind : ∀ w₁, w.Extends w₁ → fr.find w₁ (mangle fr.privateTo "property") = .ok d)
    (hd : d = .cls property ∨ IsPassive d)
    (ho : Orderly w fr D C params result []) {r : Frame × Flow}
    (h : (exec n fr (.define isAsync name params result [.name "property"] body)).outcome w =
      (.ok r, w')) :
    ∃ id f, Defined D w fr isAsync name params body (fun g => .property (some g) none) r w' id f := by
  have hdec : GivesIn w fr (fun _ x => x = d) (.name "property") := by
    intro k w₁ x w₂ hw hx
    obtain _ | k := k
    · simp [eval] at hx
    rw [eval_name, hfind w₁ hw, outcome_lift_ok, Prod.mk.injEq, Except.ok.injEq] at hx
    obtain ⟨rfl, rfl⟩ := hx
    exact ⟨rfl, .refl _⟩
  refine exec_define (C := fun _ x => x = d) hs
    ⟨by simpa using hdec, ho.defaults, ho.hints, ho.result⟩ (fun g => .property (some g) none)
    (fun m ds f w₁ id v w₂ hds hw hv => ?_) h
  obtain rfl := eq_of_forall₂_singleton hds
  rw [List.foldrM_cons, List.foldrM_nil, outcome_pure_bind] at hv
  obtain rfl := hd.resolve_right fun hd => hd _ _ _ _ _ hv
  obtain _ | m := m
  · simp [call] at hv
  rw [call_class] at hv
  obtain _ | m := m
  · simp [construct] at hv
  have hi' : World.class? { w₁ with objects := w₁.objects.push (.function f) } property.id =
      some info := (hw.trans (.push w₁ _)).class? hi
  rw [construct, outcome_get_bind, hi'] at hv
  have hplain (w₁ : World) (g : Nat) : makePlain? w₁ property [.function g] =
      some (.ok (.property (some (.function g)) none)) := by
    unfold makePlain?
    rw [hp, hq]
    rfl
  dsimp only at hv
  rw [if_pos (by rfl), hplain, outcome_lift_ok, Prod.mk.injEq, Except.ok.injEq] at hv
  exact ⟨hv.1.symm, hv.2.symm⟩

/-- A setter makes a property that can be written of one that is there. -/
theorem exec_define_setter (hs : fr.scope = .cls) {x : String} {getter setter : Option Value}
    (hx : fr.vars.get? (mangle fr.privateTo x) = some (.property getter setter))
    (hset : mangle fr.privateTo "setter" = "setter")
    (ho : Orderly w fr D C params result []) {r : Frame × Flow}
    (h : (exec n fr (.define isAsync name params result [.attribute (.name x) "setter"] body)).outcome
      w = (.ok r, w')) :
    ∃ id f, Defined D w fr isAsync name params body (fun g => .property getter (some g)) r w'
      id f := by
  have hdec : GivesIn w fr
      (fun _ d => d = .bound (.property getter setter) (.native .propertySetter))
      (.attribute (.name x) "setter") := by
    intro k w₁ v w₂ hw hv
    obtain _ | _ | k := k
    · simp [eval] at hv
    · simp [eval, outcome_bind] at hv
    have hfind : fr.find w₁ (mangle fr.privateTo x) = .ok (.property getter setter) := by
      simp [Frame.find, hs, hx]
    rw [eval_attribute, outcome_bind, eval_name, hfind, outcome_lift_ok, after_ok, hset,
      getAttr_setter, Prod.mk.injEq, Except.ok.injEq] at hv
    obtain ⟨rfl, rfl⟩ := hv
    exact ⟨rfl, .refl _⟩
  refine exec_define (C := fun _ d => d = .bound (.property getter setter) (.native .propertySetter))
    hs ⟨by simpa using hdec, ho.defaults, ho.hints, ho.result⟩ (fun g => .property getter (some g))
    (fun m ds f w₁ id v w₂ hds hw hv => ?_) h
  obtain rfl := eq_of_forall₂_singleton hds
  rw [List.foldrM_cons, List.foldrM_nil, outcome_pure_bind] at hv
  obtain _ | m := m
  · simp [call] at hv
  rw [call_propertySetter, Prod.mk.injEq, Except.ok.injEq] at hv
  exact ⟨hv.1.symm, hv.2.symm⟩

end Facade.Execution
