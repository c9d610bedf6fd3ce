import Facade.Proofs.Exports

/-!
# Compiling a generated class

* `Prepared`, `Calm`: a module in front of its class, and annotations that only add to the world there.
* `Generated`: a class that has been generated, in its module.
* `compile_generated`: a compilation that succeeds has generated its class.
* `Generated.singleType_eq_ok`: the class is the one that the module gives out.
-/

namespace Facade.Execution

open Run Conversion Wrapper
open Syntax (Expr Stmt Param mangle)

variable {c m : Nat} {cls ns : String} {imported : List String} {b v w w' : World}
  {info : ModuleInfo} {bases decorators : List Expr} {pieces : List Piece} {g : GeneratedModule}

/-! ## In front of the class -/

/-- A module in front of its class, on top of a world. -/
structure Prepared (c : Nat) (ns : String) (imported : List String) (b : World) (m : Nat) (v : World)
    (info : ModuleInfo) : Prop where
  extends_ : b.Extends v
  new : b.objects.size ≤ m
  stage : Stage c m v info
  header : Header c ns imported info.globals
  builtins : info.builtins = some (builtinsOf b)

/-- An annotation that only adds to the world wherever the body of a class on top of it evaluates
it. -/
def Calm (w : World) (e : Expr) : Prop :=
  ∀ c ns imported b m v info cls, w.Extends b → Prepared c ns imported b m v info →
    CalmInBody v m cls e

theorem Calm.mono {e : Expr} (h : Calm w e) (hw : w.Extends w') : Calm w' e :=
  fun c ns imported b m v info cls hb => h c ns imported b m v info cls (hw.trans hb)

/-- Reading an attribute of a member or a global runs nothing. -/
theorem getAttr_extends {x : Value} (hx : isMember x = true ∨ isGlobal x = true) (n : Nat)
    (name : String) : w.Extends ((getAttr n x name).outcome w).2 := by
  obtain _ | n := n
  · exact .refl w
  conv => rhs; unfold getAttr
  rw [outcome_get_bind]
  cases x with
  | module k =>
    dsimp only
    split
    · split
      · exact .refl w
      · split <;> exact .refl w
    · exact .refl w
  | none | str | tuple | cache | dict | function | property =>
    dsimp only
    rw [outcome_lift]
    exact .refl w
  | _ => simp [isMember, isGlobal] at hx

/-- What a module declares is a calm annotation, unless the module's name is one that can be used
without import. -/
theorem calm_member {x : String} (hprivate : Syntax.isPrivate x.toList = false)
    (hx : (builtinsOf w).get? x = none)
    (hb : (w.importable.get? "builtins").bind w.module? ≠ none) (name : String) :
    Calm w (.attribute (.name x) name) := by
  intro c ns imported b m v info cls hwb hp fr hfr n w₁ hw₁
  have hbuiltins : builtinsOf b = builtinsOf w := by
    unfold builtinsOf
    rw [hwb.importable]
    cases hi : w.importable.get? "builtins" with
    | none => rw [hi] at hb; exact absurd rfl hb
    | some j =>
      rw [hi] at hb
      cases hj : w.module? j with
      | none => exact absurd hj hb
      | some i => simp [hj, hwb.module? hj]
  obtain _ | _ | n := n
  · exact .refl w₁
  · rw [eval_attribute]
    exact .refl w₁
  rw [eval_attribute, outcome_bind, eval_name, hfr.find (hp.stage.extend hw₁).module]
  have step {u : Value} (hu : isMember u = true ∨ isGlobal u = true) :
      w₁.Extends ((after (fun u => getAttr (n + 1) u (mangle fr.privateTo name))
        ((lift (.ok u)).outcome w₁)).2) := getAttr_extends hu _ _
  rw [Syntax.mangle_of_not_isPrivate _ hprivate]
  cases hvar : fr.vars.get? x with
  | some u => exact step (.inl (hfr.vars _ _ hvar))
  | none =>
    cases hglobal : info.globals.get? x with
    | some u =>
      simp only [globalOf, hglobal]
      exact step (.inr (hp.stage.globals _ _ hglobal))
    | none =>
      simp only [globalOf, hglobal, hp.builtins, Option.getD_some, hbuiltins, hx]
      exact .refl w₁

/-! ## Compiling -/

theorem allGlobal_ofList {es : List (String × Value)} (h : ∀ e ∈ es, isGlobal e.2 = true) :
    AllGlobal (Table.ofList es) := by
  have fold (es : List (String × Value)) : ∀ t : Table String Value, AllGlobal t →
      (∀ e ∈ es, isGlobal e.2 = true) → AllGlobal (es.foldl (fun t e => t.set e.1 e.2) t) := by
    induction es with
    | nil => exact fun _ ht _ => ht
    | cons e es ih =>
      intro t ht he
      obtain ⟨he, hes⟩ := List.forall_mem_cons.mp he
      exact ih _ (ht.set e.1 he) hes
  exact fold es {} (by simp [AllGlobal]) h

theorem allGlobal_initialGlobals (k : Compiler) (name : String) (path : Option String) (c : Nat) :
    AllGlobal (Compiler.initialGlobals k name path (seeds c)) := by
  refine allGlobal_ofList fun e he => ?_
  cases path <;>
    simp only [seeds, Option.map_none, Option.map_some, Option.toList_none, Option.toList_some,
      List.append_nil, List.cons_append, List.nil_append, List.mem_cons, List.not_mem_nil,
      or_false] at he <;>
    rcases he with rfl | rfl | rfl | rfl | rfl | rfl | rfl <;> rfl

theorem cache_initialGlobals (k : Compiler) (name : String) (path : Option String) (c : Nat) :
    (Compiler.initialGlobals k name path (seeds c)).get? cacheGlobal = some (.cache c) := by
  unfold Compiler.initialGlobals seeds Table.ofList
  rw [List.foldl_append]
  exact Table.get?_set_self _ _ _

/-- A class that has been generated, in its module. -/
structure Generated (c : Nat) (b : World) (cls ns : String) (imported : List String)
    (bases : List Expr) (pieces : List Piece) (g : GeneratedModule) (k : Named) (w : World) :
    Prop where
  class_ : ∃ i, ClassMade c b g.module cls bases pieces w k i
  module : ∃ info t, w.module? g.module = some info ∧ info.globals = t.set cls (.cls k) ∧
    Header c ns imported t
  since : b.Extends w
  ne : k.id ≠ g.module

theorem ClassMade.stamped {k : Named} {i : ClassInfo}
    (h : ClassMade c b m cls bases pieces w k i) (hs : Stamped k i w w') :
    ∃ j, ClassMade c b m cls bases pieces w' k j := by
  obtain ⟨members, hmembers, hothers⟩ := hs.class_
  refine ⟨_, hmembers, h.new, h.builtin, ⟨h.derives.ancestors⟩, ⟨fun before p later he hn => ?_,
    fun x hx hne => (hothers x hne).trans (h.members.others x hx hne)⟩, h.qualname⟩
  exact (h.members.leaves before p later he hn).mono hs.grows fun x hx => hothers x (hn x hx).2

theorem ClassMade.sameStore {k : Named} {i : ClassInfo}
    (h : ClassMade c b m cls bases pieces w k i) (hs : w.SameStore w') :
    ClassMade c b m cls bases pieces w' k i :=
  ⟨hs.extends_.class? h.class_, h.new, h.builtin, h.derives, h.members.mono hs.extends_.grows,
    h.qualname⟩

theorem Generated.sameStore {k : Named} (h : Generated c b cls ns imported bases pieces g k w)
    (hs : w.SameStore w') : Generated c b cls ns imported bases pieces g k w' := by
  obtain ⟨⟨i, hi⟩, ⟨info, t, hm, hg, ht⟩, hsince, hne⟩ := h
  exact ⟨⟨i, hi.sameStore hs⟩, ⟨info, t, hs.extends_.module? hm, hg, ht⟩,
    hsince.trans hs.extends_, hne⟩

/-- **A compilation that succeeds has generated its class,** and the tree of its module is sound. -/
theorem compile_generated {id : String} {p : Program} {is : List Syntax.ImportName}
    (hk : p.known = some (header (is.map fun i => .imports [i]) ns ++
      [.class cls bases [] decorators (pieces.flatMap Piece.statements)]))
    (hi : ∀ i ∈ is, i.boundAs = none ∨ Syntax.dottedParts i.name = [i.name])
    (hc : cacheGlobal ∉ is.map importedName)
    (hhead : ∀ m v info, Prepared c ns (is.map importedName) w m v info →
      HeadInOrder m bases decorators v)
    (hp : ∀ m v info, Prepared c ns (is.map importedName) w m v info →
      ∀ p ∈ pieces, p.InOrder c v m cls info)
    (hd : ∀ m info, info.builtins = some (builtinsOf w) →
      Decorates w cls info (classFrame m cls) pieces)
    (h : (Compiler.compile id p (seeds c)).outcome w = (.ok g, w')) :
    Stmt.areSound {} (header (is.map fun i => .imports [i]) ns ++
        [.class cls bases [] decorators (pieces.flatMap Piece.statements)]) = true ∧
      ∃ k, Generated c w cls ns (is.map importedName) bases pieces g k w' := by
  obtain ⟨hsound, info, v, w₂, w₃, w₄, hstarts, hrun, hw₃, hstamp, hw'⟩ := Compiler.compile_eq_ok hk h
  obtain ⟨hm, hglobals, hbuiltins, -, hheld, -⟩ := hstarts
  have prepared {m : Nat} {t : Table String Value} {u : World} (hm : w.objects.size ≤ m)
      (hwu : w.Extends u) (hu : Stage c m u { info with globals := t })
      (ht : Header c ns (is.map importedName) t) :
      Prepared c ns (is.map importedName) w m u { info with globals := t } :=
    ⟨hwu, hm, hu, ht, hbuiltins⟩
  obtain ⟨k, i, hmade, hne, t, ht, hheld'⟩ := runModule_generated hi hc hheld
    (by rw [hglobals]; exact cache_initialGlobals _ _ _ c)
    (by rw [hglobals]; exact allGlobal_initialGlobals _ _ _ c)
    (fun u t hu hs ht => hhead _ _ _ (prepared hm.ge hu hs ht))
    (fun u t hu hs ht => hp _ _ _ (prepared hm.ge hu hs ht))
    (fun t => hd _ _ hbuiltins) hrun
  have hmade₃ := hmade.sameStore hw₃
  have hmodule := hw₃.extends_.module? hheld'.module
  have hstamped := stamp_eq_ok hmade₃.class_ hmodule rfl ht.globals hstamp
  obtain ⟨j, hj⟩ := hmade₃.stamped hstamped
  refine ⟨hsound, k, Generated.sameStore ⟨⟨j, hj⟩, ⟨_, t, hstamped.modules _ _ hmodule, rfl, ht⟩, ?_, hne⟩
    hw'⟩
  exact hstamped.since w (hheld'.extends_.trans hw₃.extends_) hmade.new

/-- **The class is the one that the module gives out.** -/
theorem Generated.singleType_eq_ok {k k' : Named}
    (h : Generated c b cls ns imported bases pieces g k w)
    (hs : g.singleType.outcome w = (.ok k', w')) : k' = k ∧ w' = w := by
  obtain ⟨info, t, hm, hg, ht⟩ := h.module
  exact Facade.singleType_eq_ok hm hg ht.globals hs

end Facade.Execution
