import Facade.Proofs.Walks

/-!
# Refusals while resolving

A refusal takes nothing away from a resolver. What a walk recorded before it came to a module without
a place stays recorded, as references only ever grow.

* `AddsReached`: a resolver to which only modules were added that some modules lead to.
* `Walk.addsReached`, `Walk.keeps_of_unplaced`: what a walk adds, and when it adds nothing.
* `extends_of_refusal`: what a refused module or type leaves behind.
* `refusal_leaves_entered`: what was recorded before the refusal stays.
-/

namespace Facade.Resolver

open Logged

variable {w : World} {r r' r'' : Resolver} {m b : Nat} {ms os : List Nat} {o : Option Nat}

/-! ## What walks add -/

/-- Only modules were added that some modules lead to, each under its name and with its place. -/
structure AddsReached (w : World) (ms : List Nat) (r r' : Resolver) : Prop where
  modules : ∀ e ∈ r'.modules.entries,
    e ∈ r.modules.entries ∨ Reaches w ms e.2 ∧ w.moduleName e.2 = e.1
  references : ∀ x ∈ r'.references.toList, x ∈ r.references.toList ∨
    ∃ k, Reaches w ms k ∧ w.moduleName k = x.moduleName ∧ moduleLocation? w k = some x.location

theorem AddsReached.refl (w : World) (ms : List Nat) (r : Resolver) : AddsReached w ms r r :=
  ⟨fun _ => .inl, fun _ => .inl⟩

theorem AddsReached.trans (h : AddsReached w ms r r') (h' : AddsReached w ms r' r'') :
    AddsReached w ms r r'' where
  modules e he := (h'.modules e he).elim (h.modules e) .inr
  references x hx := (h'.references x hx).elim (h.references x) .inr

theorem addsReached_enter (hm : Reaches w ms m) : AddsReached w ms r (enter w r m) := by
  unfold enter
  cases hl : moduleLocation? w m with
  | none => exact ⟨fun _ => .inl, fun _ => .inl⟩
  | some l =>
    refine ⟨fun e he => ?_, fun x hx => ?_⟩
    · rcases Table.mem_entries_setDefault he with he | rfl
      · exact .inl he
      · exact .inr ⟨hm, rfl⟩
    · obtain ⟨e, he, rfl⟩ := List.mem_map.mp hx
      rcases Table.mem_entries_setDefault he with he | rfl
      · exact .inl (List.mem_map_of_mem he)
      · exact .inr ⟨m, hm, rfl, hl⟩

/-- **A walk adds only what it can reach.** -/
theorem Walk.addsReached (h : Walk w r ms os o) : AddsReached w ms r (os.foldl (enter w) r) := by
  have hfold (os : List Nat) : ∀ r, (∀ k ∈ os, Reaches w ms k) →
      AddsReached w ms r (os.foldl (enter w) r) := by
    induction os with
    | nil => exact fun r _ => .refl w ms r
    | cons k os ih =>
      intro r hos
      obtain ⟨hk, hos⟩ := List.forall_mem_cons.mp hos
      exact (addsReached_enter hk).trans (ih _ hos)
  exact hfold os r h.reaches

/-- From a module without a place a walk adds nothing. -/
theorem Walk.keeps_of_unplaced (h : Walk w r [m] os o) (hm : moduleLocation? w m = none) :
    (os.foldl (enter w) r).modules = r.modules ∧
      (os.foldl (enter w) r).references = r.references := by
  cases h with
  | seen _ hdone =>
    cases hdone
    exact ⟨rfl, rfl⟩
  | refused _ hl => simp [enter, hl]
  | entered _ hl _ => rw [hm] at hl; cases hl

/-! ## Refusals -/

/-- **A refusal takes nothing away.** A module is refused for some module that references lead to and
that has no place; a type is refused at once, changing nothing, or as its module is, and by its own name
both times. All that was recorded before stays in front, and only what the walk could reach has been
added to it. -/
theorem extends_of_refusal (w : World) (r : Resolver) :
    (∀ m e r' records, (addModule w m).outcome r = (.error e, r', records) →
      Extends r r' ∧ AddsReached w [m] r r' ∧
      (∃ b, Reaches w [m] b ∧ moduleLocation? w b = none ∧
        e = unresolved w (.module b) noOrigin) ∧
      (moduleLocation? w m = none → r'.modules = r.modules ∧ r'.references = r.references)) ∧
    ∀ hint e r' records, (addType w hint).outcome r = (.error e, r', records) →
      (((∃ e', moduleOf? w r hint = .error e') ∨ isLocal hint = true) ∧
        (∃ reason, e = unresolved w hint reason) ∧ r' = r ∧
        (addType w hint).outcome r' = (.error e, r', records)) ∨
      ∃ m, moduleOf? w r hint = .ok m ∧ isLocal hint = false ∧ Extends r r' ∧
        AddsReached w [m] r r' ∧ e = unresolved w hint noOrigin ∧
        (moduleLocation? w m = none → r'.modules = r.modules ∧ r'.references = r.references) := by
  constructor
  · intro m e r' records h
    obtain ⟨os, o, hwalk, records', hrun⟩ := addModule_run w r m
    have hended : (ended w o, os.foldl (enter w) r, [] ++ records') = (.error e, r', records) :=
      (hrun _ (Nat.lt_succ_self _) []).symm.trans h
    simp only [Prod.mk.injEq] at hended
    obtain ⟨ho, rfl, -⟩ := hended
    cases o with
    | none => cases ho
    | some b =>
      obtain ⟨hb, hunplaced⟩ := hwalk.ended_unplaced
      exact ⟨extends_foldl os r, hwalk.addsReached,
        ⟨b, hwalk.reaches b hb, hunplaced, (Except.error.inj ho).symm⟩, hwalk.keeps_of_unplaced⟩
  · intro hint e r' records h
    rcases addType_run_cases w r hint with ⟨hcause, reason, hrun⟩ |
      ⟨m, os, o, hm, hlocal, hwalk, records', hrun⟩
    · have hr : (Except.error (unresolved w hint reason), r, []) = (.error e, r', records) :=
        (hrun []).symm.trans h
      simp only [Prod.mk.injEq] at hr
      obtain ⟨he, rfl, -⟩ := hr
      exact .inl ⟨hcause, ⟨reason, (Except.error.inj he).symm⟩, rfl, h⟩
    · have hended : (endedFor w hint o, os.foldl (enter w) r, [] ++ records') =
          (.error e, r', records) := (hrun []).symm.trans h
      simp only [Prod.mk.injEq] at hended
      obtain ⟨ho, rfl, -⟩ := hended
      cases o with
      | none => cases ho
      | some b =>
        exact .inr ⟨m, hm, hlocal, extends_foldl os r, hwalk.addsReached,
          (Except.error.inj ho).symm, hwalk.keeps_of_unplaced⟩

/-! ## A module that refers to one without a place -/

/-- A module with a file that refers to one that has none. -/
def brokenWorld : World where
  objects := #[
    .module { name := "a", globals := ⟨[("__file__", .str "/a.py"),
      (referencesAttribute, .tuple [.module 1])]⟩ },
    .module { name := "b" }]

theorem addModule_broken : (addModule brokenWorld 0).outcome {} =
    (.error (unresolved brokenWorld (.module 1) noOrigin),
      { seen := [1, 0], modules := ⟨[("a", 0)]⟩, references := ⟨⟨[("/a.py", ⟨"a", "/a.py"⟩)]⟩⟩ },
      ((addModule brokenWorld 0).outcome {}).2.2) := rfl

theorem extends_of_refusal_broken :
    let r' := ((addModule brokenWorld 0).outcome {}).2.1
    (addModule brokenWorld 0).outcome {} =
      (.error (unresolved brokenWorld (.module 1) noOrigin), r',
        ((addModule brokenWorld 0).outcome {}).2.2) ∧
    Extends {} r' ∧ AddsReached brokenWorld [0] {} r' := by
  intro r'
  have h := (extends_of_refusal brokenWorld {}).1 0 _ r' _ addModule_broken
  exact ⟨addModule_broken, h.1, h.2.1⟩

/-- **What was recorded before a refusal stays:** the module is referenced although what it refers to
could not be. -/
theorem refusal_leaves_entered :
    ∃ e r' records, (addModule brokenWorld 0).outcome {} = (.error e, r', records) ∧
      r'.modules.keys = ["a"] ∧ r'.references.locations = ["/a.py"] :=
  ⟨_, _, _, addModule_broken, rfl, rfl⟩

end Facade.Resolver
