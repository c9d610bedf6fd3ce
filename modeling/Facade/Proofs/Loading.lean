import Facade.Proofs.Defaults
import Facade.Compiler.Compile

/-!
# Loading a module

A generated module imports, states its namespace and defines one class. Nothing that was there before
is changed by that; only the module itself is written.

* `Held`: a module whose globals are known, on top of a world that is only added to.
* `exec_imports`, `exec_assign_const`, `exec_class`: what the statements of a module do.
* `compile_eq_ok`: a compilation that succeeds has run the body of its module.
-/

namespace Facade.Execution

open Run
open Syntax (Expr Stmt mangle)

variable {w w' b : World} {n m : Nat} {fr fr' : Frame} {flow : Flow} {info : ModuleInfo}

/-! ## Blocks -/

/-- A block that is left has been left by its first statement, or goes on behind it. -/
theorem runBlock_cons_eq_ok {step : Frame → Stmt → Run (Frame × Flow)} {s : Stmt} {r : List Stmt}
    {x : Frame × Flow} (h : (runBlock step fr (s :: r)).outcome w = (.ok x, w')) :
    ∃ fr₁ f w₁, (step fr s).outcome w = (.ok (fr₁, f), w₁) ∧
      (f = .next → (runBlock step fr₁ r).outcome w₁ = (.ok x, w')) := by
  rw [runBlock] at h
  obtain ⟨⟨fr₁, f⟩, w₁, hs, h⟩ := bind_eq_ok h
  refine ⟨fr₁, f, w₁, hs, fun hf => ?_⟩
  subst hf
  exact h

/-- A block that is left has been left by its first part, or goes on behind it. -/
theorem runBlock_append_eq_ok {step : Frame → Stmt → Run (Frame × Flow)} {r : List Stmt}
    {x : Frame × Flow} (l : List Stmt) : ∀ {fr : Frame} {w : World},
    (runBlock step fr (l ++ r)).outcome w = (.ok x, w') →
      ∃ fr₁ f w₁, (runBlock step fr l).outcome w = (.ok (fr₁, f), w₁) ∧
        (f = .next → (runBlock step fr₁ r).outcome w₁ = (.ok x, w')) := by
  induction l with
  | nil => exact fun h => ⟨_, .next, _, rfl, fun _ => h⟩
  | cons s l ih =>
    intro fr w h
    rw [List.cons_append, runBlock] at h
    obtain ⟨⟨fr₁, f⟩, w₁, hs, hrest⟩ := bind_eq_ok h
    cases f with
    | next =>
      obtain ⟨fr₂, f, w₂, hl, hr⟩ := ih hrest
      exact ⟨fr₂, f, w₂, by rw [runBlock, outcome_bind_of_ok hs]; exact hl, hr⟩
    | _ =>
      rw [outcome_pure, Prod.mk.injEq, Except.ok.injEq] at hrest
      exact ⟨fr₁, _, w₁, by rw [runBlock, outcome_bind_of_ok hs]; rfl, by simp⟩

theorem runBlock_nil_eq_ok {step : Frame → Stmt → Run (Frame × Flow)}
    (h : (runBlock step fr []).outcome w = (.ok (fr', flow), w')) :
    fr' = fr ∧ flow = .next ∧ w' = w := by
  rw [runBlock, outcome_pure, Prod.mk.injEq, Except.ok.injEq, Prod.mk.injEq] at h
  exact ⟨h.1.1.symm, h.1.2.symm, h.2.symm⟩

/-- A block of one statement. -/
theorem runBlock_singleton_eq_ok {s : Stmt}
    (h : (runBlock (exec n) fr [s]).outcome w = (.ok (fr', flow), w')) :
    (exec n fr s).outcome w = (.ok (fr', flow), w') := by
  rw [runBlock] at h
  obtain ⟨⟨fr₁, f⟩, w₁, hs, hrest⟩ := bind_eq_ok h
  cases f with
  | next =>
    obtain ⟨rfl, rfl, rfl⟩ := runBlock_nil_eq_ok hrest
    exact hs
  | _ => rwa [← hrest]

/-! ## Globals -/

/-- The world with other globals of a module. -/
def withGlobals (w : World) (m : Nat) (info : ModuleInfo) (t : Table String Value) : World :=
  { w with objects := w.objects.setIfInBounds m (.module { info with globals := t }) }

/-- A module whose globals are known, on top of a world that is only added to. -/
structure Held (b w : World) (m : Nat) (info : ModuleInfo) : Prop where
  extends_ : b.Extends w
  new : b.objects.size ≤ m
  module : w.module? m = some info

theorem module?_lt (h : w.module? m = some info) : m < w.objects.size := by
  by_contra hc
  rw [World.module?, Array.getElem?_eq_none (by omega)] at h
  cases h

theorem Held.set (h : Held b w m info) (t : Table String Value) :
    Held b (withGlobals w m info t) m { info with globals := t } :=
  ⟨h.extends_.replace_of_le h.new _, h.new, by
    simp [withGlobals, World.module?, module?_lt h.module]⟩

theorem Held.extend (h : Held b w m info) (hw : w.Extends w') : Held b w' m info :=
  ⟨h.extends_.trans hw, h.new, hw.module? h.module⟩

theorem put_module (hs : fr.scope = .module) (hg : fr.globals = some m)
    (hm : w.module? m = some info) (x : String) (v : Value) :
    (fr.put x v).outcome w = (.ok fr, withGlobals w m info (info.globals.set x v)) := by
  unfold Frame.put
  simp only [hs, decide_true, Bool.true_or, if_true, hg, outcome_get_bind, hm]
  rfl

/-! ## Imports -/

/-- The name that an import binds, seen from a module. -/
theorem exec_imports (hs : fr.scope = .module) (hg : fr.globals = some m) (hp : fr.privateTo = none)
    (hh : Held b w m info) {i : Syntax.ImportName}
    (hi : i.boundAs = none ∨ Syntax.dottedParts i.name = [i.name])
    (h : (exec n fr (.imports [i])).outcome w = (.ok (fr', flow), w')) :
    fr' = fr ∧ flow = .next ∧ ∃ k, importThrough w info.context i.name false 0 none = .ok k ∧
      w' = withGlobals w m info (info.globals.set (importedName i) (.module k)) := by
  obtain _ | n := n
  · simp [exec] at h
  rw [exec] at h
  obtain ⟨fr₁, w₁, hfold, h⟩ := bind_eq_ok h
  obtain ⟨hr, rfl⟩ : (fr₁, Flow.next) = (fr', flow) ∧ w₁ = w' := by simpa using h
  obtain ⟨rfl, rfl⟩ := Prod.mk.inj hr
  rw [List.foldlM_cons] at hfold
  obtain ⟨fr₂, w₂, himport, hfold⟩ := bind_eq_ok hfold
  obtain ⟨rfl, rfl⟩ : fr₂ = fr₁ ∧ w₂ = w₁ := by simpa using hfold
  obtain _ | n := n
  · simp [importName] at himport
  rw [importName, outcome_get_bind] at himport
  dsimp only at himport
  obtain ⟨k, w₃, hk, hput⟩ := bind_eq_ok himport
  obtain ⟨hk, rfl⟩ := lift_eq_ok hk
  rw [hg, Option.bind_some, hh.module, Option.bind_some] at hk
  cases hb : i.boundAs with
  | none =>
    rw [hb] at hput
    dsimp only at hput
    rw [put_module hs hg hh.module, Prod.mk.injEq, Except.ok.injEq] at hput
    obtain ⟨rfl, rfl⟩ := hput
    refine ⟨rfl, rfl, k, hk, ?_⟩
    rw [importedName, hb, hp]
    rfl
  | some x =>
    rw [hb] at hput
    dsimp only at hput
    rw [hi.resolve_left (by simp [hb]), List.drop_one, List.tail_cons, List.foldlM_nil,
      outcome_pure_bind, put_module hs hg hh.module, Prod.mk.injEq, Except.ok.injEq] at hput
    obtain ⟨rfl, rfl⟩ := hput
    refine ⟨rfl, rfl, k, hk, ?_⟩
    rw [importedName, hb, hp]
    rfl

/-! ## Other statements -/

theorem exec_layout (t : String) : (exec (n + 1) fr (.layout t)).outcome w = (.ok (fr, .next), w) := by
  rw [exec]
  rfl

theorem exec_layout_eq_ok {t : String} (h : (exec n fr (.layout t)).outcome w = (.ok (fr', flow), w')) :
    fr' = fr ∧ flow = .next ∧ w' = w := by
  obtain _ | n := n
  · simp [exec] at h
  rw [exec_layout, Prod.mk.injEq, Except.ok.injEq, Prod.mk.injEq] at h
  exact ⟨h.1.1.symm, h.1.2.symm, h.2.symm⟩

/-- A statement that assigns to one name. -/
theorem exec_assign_name {x : String} {e : Expr}
    (h : (exec n fr (.assign [.name x] e)).outcome w = (.ok (fr', flow), w')) :
    ∃ k v w₁, (eval k fr e).outcome w = (.ok v, w₁) ∧ flow = .next ∧
      (fr.put (mangle fr.privateTo x) v).outcome w₁ = (.ok fr', w') := by
  obtain _ | n := n
  · simp [exec] at h
  rw [exec] at h
  obtain ⟨v, w₁, hv, h⟩ := bind_eq_ok h
  obtain ⟨fr₁, w₂, hfold, h⟩ := bind_eq_ok h
  obtain ⟨hr, rfl⟩ : (fr₁, Flow.next) = (fr', flow) ∧ w₂ = w' := by simpa using h
  obtain ⟨rfl, rfl⟩ := Prod.mk.inj hr
  rw [List.foldlM_cons] at hfold
  obtain ⟨fr₂, w₃, hassign, hfold⟩ := bind_eq_ok hfold
  obtain ⟨rfl, rfl⟩ : fr₂ = fr₁ ∧ w₃ = w₂ := by simpa using hfold
  obtain _ | n := n
  · simp [assign] at hassign
  rw [assign] at hassign
  exact ⟨_, v, w₁, hv, rfl, hassign⟩

/-! ## Classes -/

/-- The frame in which the body of a class of a module runs. -/
def classFrame (m : Nat) (name : String) : Frame :=
  { scope := .cls, globals := some m, privateTo := some name, qualifier := name ++ "." }

/-- The frame in which the body of a module runs. -/
def moduleFrame (m : Nat) : Frame := { scope := .module, globals := some m }

/-- What a class is made of that is made from a frame. -/
def draftOf (w : World) (m : Nat) (name : String) (bases : List Value) (inner : Frame) : ClassDraft :=
  { name := name
    qualname := ((inner.vars.get? "__qualname__").bind Value.toStr?).getD name
    module := ((inner.vars.get? "__module__").bind Value.toStr?).getD ((moduleFrame m).moduleName w)
    bases := bases
    members := inner.vars }

/-- **A class statement that succeeds** has run the body, made the class and handed it to the
decorators. -/
theorem exec_class {name : String} {bases decorators : List Expr} {body : List Stmt}
    (h : (exec n (moduleFrame m) (.class name bases [] decorators body)).outcome w =
      (.ok (fr', flow), w')) :
    ∃ k ds w₁ bs w₂ inner f w₃ c w₄ w₅ v w₆, n = k + 2 ∧ flow = .next ∧
      (decorators.mapM (eval k (moduleFrame m))).outcome w = (.ok ds, w₁) ∧
      (evalItems k (moduleFrame m) bases).outcome w₁ = (.ok bs, w₂) ∧
      (runBlock (exec k) (classFrame m name) body).outcome w₂ = (.ok (inner, f), w₃) ∧
      (makeClass (draftOf w₃ m name bs inner)).outcome w₃ = (.ok c, w₄) ∧
      (settle c.id inner.made).outcome w₄ = (.ok ⟨⟩, w₅) ∧
      (ds.foldrM (fun d v => call k d [v] []) (Value.cls c)).outcome w₅ = (.ok v, w₆) ∧
      ((moduleFrame m).put name v).outcome w₆ = (.ok fr', w') := by
  obtain _ | _ | k := n
  · simp [exec] at h
  · simp [exec, defineClass] at h
  rw [exec, defineClass] at h
  obtain ⟨ds, w₁, hds, h⟩ := bind_eq_ok h
  obtain ⟨bs, w₂, hbs, h⟩ := bind_eq_ok h
  obtain ⟨ks, v₂, hks, h⟩ := bind_eq_ok h
  obtain ⟨rfl, rfl⟩ : ks = [] ∧ w₂ = v₂ := by
    obtain _ | k := k
    · simp [evalKeywords] at hks
    rw [evalKeywords_nil, Prod.mk.injEq, Except.ok.injEq] at hks
    exact ⟨hks.1.symm, hks.2⟩
  dsimp only at h
  rw [if_neg (by simp)] at h
  obtain ⟨⟨inner, f⟩, w₃, hbody, h⟩ := bind_eq_ok h
  rw [outcome_get_bind] at h
  obtain ⟨c, w₄, hc, h⟩ := bind_eq_ok h
  obtain ⟨⟨⟩, w₅, hsettle, h⟩ := bind_eq_ok h
  obtain ⟨v, w₆, hv, h⟩ := bind_eq_ok h
  obtain ⟨fr₁, w₇, hput, h⟩ := bind_eq_ok h
  rw [outcome_pure, Prod.mk.injEq, Except.ok.injEq, Prod.mk.injEq] at h
  obtain ⟨⟨rfl, rfl⟩, rfl⟩ := h
  have hname : (moduleFrame m).qualifier ++ name = name := String.empty_append
  rw [hname] at hbody hc
  exact ⟨k, ds, w₁, bs, w₂, inner, f, w₃, c, w₄, w₅, v, w₆, rfl, rfl, hds, hbs, hbody, hc, hsettle,
    hv, hput⟩

/-- The class that a draft makes. -/
structure MadeClass (w : World) (d : ClassDraft) (c : Named) (i : ClassInfo) : Prop where
  id : c.id = w.objects.size
  qualname : c.qualname = d.qualname
  module : c.module = d.module
  bases : ∃ bases ancestors, resolveBases? d.bases = some bases ∧
    ancestors? w bases = some ancestors ∧ i.linearisation = c :: ancestors ∧
    i.checksAbstract =
      (d.checksAbstract || (bases.filterMap fun b => w.class? b.id).any ClassInfo.checksAbstract)
  members : i.members = d.members
  builtin : i.builtin = false

/-- **A class that is made** is a new object with the members of its draft. -/
theorem makeClass_eq_ok {d : ClassDraft} {c : Named} (h : (makeClass d).outcome w = (.ok c, w')) :
    ∃ i, MadeClass w d c i ∧ w' = { w with objects := w.objects.push (.cls i) } := by
  unfold makeClass at h
  rw [outcome_get_bind] at h
  cases hb : resolveBases? d.bases with
  | none => simp [hb] at h
  | some bases =>
    simp only [hb] at h
    split at h
    · simp [outcome_bind] at h
    split at h
    · simp [outcome_bind] at h
    cases hl : layoutOf? w bases with
    | none => simp [hl] at h
    | some layout =>
      simp only [hl] at h
      cases ha : ancestors? w bases with
      | none => simp [ha] at h
      | some ancestors =>
        simp only [ha, outcome_bind, outcome_allocate, after_ok, outcome_pure, Prod.mk.injEq,
          Except.ok.injEq] at h
        obtain ⟨rfl, rfl⟩ := h
        exact ⟨_, ⟨rfl, rfl, rfl, ⟨bases, ancestors, hb, ha, rfl, rfl⟩, rfl, rfl⟩, rfl⟩

/-- What settling the functions of a class changes: where they were defined. -/
structure Settled (w w' : World) (ids : List Nat) : Prop where
  rest : w' = { w with objects := w'.objects }
  size : w'.objects.size = w.objects.size
  others : ∀ i, i ∉ ids → w'.objects[i]? = w.objects[i]?
  objects : ∀ (i : Nat) (o : Object), w.objects[i]? = some o → (∀ f, o ≠ .function f) →
    w'.objects[i]? = some o
  functions : ∀ i f, w.function? i = some f → ∃ home, w'.function? i = some { f with home := home }

theorem settled_refl (w : World) (ids : List Nat) : Settled w w ids :=
  ⟨rfl, rfl, fun _ _ => rfl, fun _ _ h _ => h, fun _ f h => ⟨f.home, h⟩⟩

theorem settled_replace {id : Nat} {g : Function} (hf : w.function? id = some g) (home : Option Nat) :
    Settled w { w with objects := w.objects.setIfInBounds id (.function { g with home := home }) }
      [id] where
  rest := rfl
  size := by simp
  others i hi := by
    have hne : id ≠ i := fun h => hi (by simp [h])
    simp [hne]
  objects i o ho hne := by
    have hne' : id ≠ i := by
      rintro rfl
      rw [World.function?, ho] at hf
      cases o <;> simp at hf
      exact hne _ rfl
    simpa [Array.getElem?_setIfInBounds, hne'] using ho
  functions i f h := by
    by_cases hi : id = i
    · subst hi
      rw [hf] at h
      cases h
      have hlt : id < w.objects.size := by
        by_contra hc
        rw [World.function?, Array.getElem?_eq_none (by omega)] at hf
        cases hf
      exact ⟨home, by simp [World.function?, hlt]⟩
    · refine ⟨f.home, ?_⟩
      rw [← h]
      simp [World.function?, hi]

theorem Settled.trans {w'' : World} {ids ids' : List Nat} (h : Settled w w' ids)
    (h' : Settled w' w'' ids') : Settled w w'' (ids ++ ids') where
  rest := by rw [h'.rest, h.rest]
  size := h'.size.trans h.size
  others i hi := by
    rw [List.mem_append, not_or] at hi
    rw [h'.others i hi.2, h.others i hi.1]
  objects i o ho hne := h'.objects i o (h.objects i o ho hne) hne
  functions i f hf := by
    obtain ⟨home, hhome⟩ := h.functions i f hf
    obtain ⟨home', hhome'⟩ := h'.functions i _ hhome
    exact ⟨home', hhome'⟩

theorem settle_spec (cls : Nat) (ids : List Nat) : ∀ w : World, ∃ w',
    (settle cls ids).outcome w = (.ok ⟨⟩, w') ∧ Settled w w' ids := by
  induction ids with
  | nil => exact fun w => ⟨w, rfl, settled_refl w []⟩
  | cons id ids ih =>
    intro w
    have step (one : Run Unit) (hone : settle cls (id :: ids) = one >>= fun _ => settle cls ids)
        (w₁ : World) (h : one.outcome w = (.ok ⟨⟩, w₁)) (hw : Settled w w₁ [id]) :
        ∃ w', (settle cls (id :: ids)).outcome w = (.ok ⟨⟩, w') ∧ Settled w w' (id :: ids) := by
      obtain ⟨w', hw', hs⟩ := ih w₁
      exact ⟨w', hone ▸ (outcome_bind_of_ok h).trans hw', hw.trans hs⟩
    cases hf : w.function? id with
    | none =>
      exact step _ rfl w (by simp only [outcome_get_bind, hf, outcome_pure]) (settled_refl w [id])
    | some g =>
      refine step _ rfl _ ?_ (settled_replace hf (some cls))
      simp only [outcome_get_bind, hf, outcome_replace]

end Facade.Execution
